import Mathlib.Data.Set.Card

/-!
# Texts in memory

A string of C is what stands in memory before the first null byte. A block of memory is the list of
its characters, and a function that needs a character behind its end faults. The functions on
numbers are those of the library of C, with its limits.
-/

namespace CString

open List

/-- Undefined accesses to memory -/
inductive MemFault where
  | outOfBounds
  | nullPointer
  deriving DecidableEq

/-- A number that is kept in an `int` -/
def int32 (n : Int) : Int := Int.bmod n (2 ^ 32)

theorem int32_of_range {n : Int} (low : -2 ^ 31 ≤ n) (high : n < 2 ^ 31) : int32 n = n :=
  Int.bmod_eq_of_le (by omega) (by omega)

/-! ### Strings -/

def cString (mem : List Char) : Except MemFault (List Char) :=
  if '\x00' ∈ mem then .ok (mem.takeWhile (· ≠ '\x00')) else .error .outOfBounds

/-- `strchr`: how far away a character is, if it is found before the end of the string -/
def strchr (mem : List Char) (c : Char) : Except MemFault (Option Nat) :=
  let other : Char → Bool := fun x => x ≠ c ∧ x ≠ '\x00'
  match mem.dropWhile other with
  | [] => .error .outOfBounds
  | x :: _ => .ok (if x = c then some (mem.takeWhile other).length else none)

/-- `strncpy(dst, src, n)` for a text `src` of `n` characters: the rest is filled behind a null
byte. -/
def strncpyText (src : List Char) : List Char :=
  let text := src.takeWhile (· ≠ '\x00')
  text ++ replicate (src.length - text.length) '\x00'

/-- `strcasecmp(s, t) == 0` -/
def sameFolded (s t : List Char) : Bool := s.map Char.toLower = t.map Char.toLower

/-- `strncasecmp(s, word, strlen(word)) == 0` -/
def startsFolded (s word : List Char) : Bool := sameFolded (s.take word.length) word

/-- The parts of a text between delimiters that are not empty, as `strtok_r` finds them. -/
def tokens (delimiter : Char) (s : List Char) : List (List Char) :=
  (s.splitOn delimiter).filter fun token => token ≠ []

theorem sameFolded_iff {s t : List Char} :
    sameFolded s t ↔ s.map Char.toLower = t.map Char.toLower :=
  decide_eq_true_iff

theorem startsFolded_left {s word first : List Char} (isPrefix : first <+: word)
    (starts : startsFolded s word) : startsFolded s first := by
  rw [startsFolded, sameFolded_iff] at starts ⊢
  have cut := congrArg (take first.length) starts
  rw [← map_take, ← map_take, take_take, min_eq_left isPrefix.length_le] at cut
  rw [cut, ← prefix_iff_eq_take.mp isPrefix]

def NulTerminated (mem text : List Char) : Prop := text ++ ['\x00'] <+: mem

theorem cString_of_nulTerminated {mem text : List Char} (terminated : NulTerminated mem text)
    (clean : '\x00' ∉ text) : cString mem = .ok text := by
  obtain ⟨behind, rfl⟩ := terminated
  unfold cString
  rw [append_assoc, takeWhile_append_of_pos]
  · simp
  · intro c inside
    exact decide_eq_true fun nul => clean (nul ▸ inside)

variable {delimiter c : Char} {src : List Char} {parts : List (List Char)}

theorem mem_of_mem_splitOn {s part : List Char} (member : part ∈ s.splitOn delimiter)
    (inside : c ∈ part) : c ∈ s := by
  unfold splitOn at member
  induction s generalizing part with
  | nil =>
    rw [splitOnP_nil, mem_singleton] at member
    rwa [member] at inside
  | cons first rest ih =>
    rw [splitOnP_cons_eq_if_modifyHead] at member
    split at member
    · rcases mem_cons.mp member with rfl | later
      · cases inside
      · exact mem_cons_of_mem _ (ih later inside)
    · -- the first part of the rest is longer by one character
      cases parts : splitOnP (· == delimiter) rest with
      | nil => exact absurd parts (splitOnP_ne_nil _ _)
      | cons head tail =>
        rw [parts] at member
        rw [parts] at ih
        rcases mem_cons.mp member with rfl | later
        · rcases mem_cons.mp inside with rfl | behind
          · exact mem_cons_self
          · exact mem_cons_of_mem _ (ih mem_cons_self behind)
        · exact mem_cons_of_mem _ (ih (mem_cons_of_mem _ later) inside)

theorem mem_of_mem_tokens {s token : List Char} (member : token ∈ tokens delimiter s)
    (inside : c ∈ token) : c ∈ s :=
  mem_of_mem_splitOn (mem_of_mem_filter member) inside

theorem takeWhile_clean (clean : '\x00' ∉ src) : src.takeWhile (· ≠ '\x00') = src := by
  have inside : ∀ c ∈ src, decide (c ≠ '\x00') := by
    intro c member
    exact decide_eq_true fun nul => clean (nul ▸ member)
  have joined : (src ++ []).takeWhile (· ≠ '\x00') = src ++ [].takeWhile (· ≠ '\x00') :=
    takeWhile_append_of_pos inside
  simpa using joined

theorem strncpyText_eq (clean : '\x00' ∉ src) : strncpyText src = src := by
  unfold strncpyText
  dsimp only
  rw [takeWhile_clean clean, Nat.sub_self, replicate_zero, append_nil]

theorem strncpyText_of_clean (clean : '\x00' ∉ strncpyText src) : strncpyText src = src := by
  have shorter := takeWhile_prefix (l := src) (· ≠ '\x00')
  unfold strncpyText at clean ⊢
  dsimp only at clean ⊢
  have filled : src.length - (src.takeWhile (· ≠ '\x00')).length = 0 := by
    by_contra more
    exact clean (mem_append_right _ (mem_replicate.mpr ⟨more, rfl⟩))
  have whole := shorter.eq_of_length_le (by omega)
  rw [filled, replicate_zero, append_nil, whole]

theorem mem_of_mem_intercalate (inside : c ∈ [delimiter].intercalate parts) :
    c = delimiter ∨ ∃ part ∈ parts, c ∈ part := by
  induction parts with
  | nil => cases inside
  | cons part rest ih =>
    cases rest with
    | nil =>
      right
      simpa [intercalate] using inside
    | cons next rest =>
      have split : [delimiter].intercalate (part :: next :: rest) =
          part ++ delimiter :: [delimiter].intercalate (next :: rest) := by
        simp [intercalate]
      rw [split, mem_append, mem_cons] at inside
      rcases inside with here | same | later
      · exact .inr ⟨part, mem_cons_self, here⟩
      · exact .inl same
      · rcases ih later with same | ⟨other, member, found⟩
        · exact .inl same
        · exact .inr ⟨other, mem_cons_of_mem _ member, found⟩

theorem tokens_intercalate (absent : ∀ part ∈ parts, delimiter ∉ part)
    (nonempty : ∀ part ∈ parts, part ≠ []) :
    tokens delimiter ([delimiter].intercalate parts) = parts := by
  unfold tokens
  cases parts with
  | nil => rfl
  | cons part rest =>
    rw [splitOn_intercalate delimiter absent (cons_ne_nil _ _), filter_eq_self]
    intro other member
    exact decide_eq_true (nonempty other member)

/-! ### Numbers -/

def isSpace (c : Char) : Bool := c ∈ [' ', '\t', '\n', '\x0b', '\x0c', '\r']

def isDigit (c : Char) : Bool := '0' ≤ c && c ≤ '9'

def digits : (n : Nat) → List Char → Nat
  | n, [] => n
  | n, c :: rest => if isDigit c then digits (10 * n + (c.toNat - '0'.toNat)) rest else n

def sign : List Char → Bool × List Char
  | '-' :: rest => (true, rest)
  | '+' :: rest => (false, rest)
  | rest => (false, rest)

variable (s : List Char)

/-- `strtol` with base 10, which stops at the limits of `long` -/
def strtol : Int :=
  let (negative, rest) := sign (s.dropWhile isSpace)
  if negative then max (-(digits 0 rest : Int)) (-2 ^ 63)
    else min (digits 0 rest : Int) (2 ^ 63 - 1)

/-- `atoi`, which cuts the result of `strtol` down to an `int` -/
def atoi : Int := int32 (strtol s)

def atoll : Int := strtol s

/-- `atoll` at a place in memory: it reads up to the first character behind the number. -/
def atollAt (mem : List Char) : Except MemFault Int :=
  if (sign (mem.dropWhile isSpace)).2.dropWhile isDigit = [] then .error .outOfBounds
  else .ok (atoll mem)

/-- The value of a number of type `unsigned long`; a minus sign is allowed. -/
def ulong (negative : Bool) (n : Nat) : Nat :=
  if n < 2 ^ 64 then if negative then (2 ^ 64 - n) % 2 ^ 64 else n else 2 ^ 64 - 1

/-- `strtoull` with base 10 -/
def strtoull : Nat :=
  let (negative, rest) := sign (s.dropWhile isSpace)
  ulong negative (digits 0 rest)

/-- `%lu` of `sscanf`: the number and what follows it, if there is one -/
def scanUlong : Option (Nat × List Char) :=
  let (negative, rest) := sign (s.dropWhile isSpace)
  if rest.head?.any isDigit then some (ulong negative (digits 0 rest), rest.dropWhile isDigit)
    else none

/-! ### What is behind a null byte -/

section Behind

variable (text behind : List Char)

theorem takeWhile_nul {p : Char → Bool} (stops : p '\x00' = false) :
    (text ++ '\x00' :: behind).takeWhile p = text.takeWhile p := by
  induction text with
  | nil => rw [nil_append, takeWhile_cons_of_neg (by rw [stops]; decide), takeWhile_nil]
  | cons c text ih =>
    rw [cons_append, takeWhile_cons, takeWhile_cons, ih]

theorem dropWhile_nul {p : Char → Bool} (stops : p '\x00' = false) :
    (text ++ '\x00' :: behind).dropWhile p = text.dropWhile p ++ '\x00' :: behind := by
  induction text with
  | nil => rw [nil_append, dropWhile_cons_of_neg (by rw [stops]; decide), dropWhile_nil,
      nil_append]
  | cons c text ih =>
    rw [cons_append, dropWhile_cons, dropWhile_cons, ih]
    split <;> rfl

theorem digits_nul (n : Nat) : digits n (text ++ '\x00' :: behind) = digits n text := by
  induction text generalizing n with
  | nil => rfl
  | cons c text ih =>
    rw [cons_append, digits, digits]
    split
    · exact ih _
    · rfl

theorem sign_nul :
    sign (text ++ '\x00' :: behind) = ((sign text).1, (sign text).2 ++ '\x00' :: behind) := by
  cases text with
  | nil => rfl
  | cons c text =>
    by_cases minus : c = '-'
    · subst minus
      rfl
    · by_cases plus : c = '+'
      · subst plus
        rfl
      · simp [sign, minus, plus]

theorem atollAt_nul : atollAt (text ++ '\x00' :: behind) = .ok (atoll text) := by
  have spaces := dropWhile_nul text behind (show isSpace '\x00' = false by decide)
  have number := dropWhile_nul (sign (text.dropWhile isSpace)).2 behind
    (show isDigit '\x00' = false by decide)
  unfold atollAt atoll strtol
  rw [spaces, sign_nul]
  dsimp only
  rw [number, if_neg (by simp), digits_nul]

theorem strchr_nul (c : Char) (behind' : List Char) :
    strchr (text ++ '\x00' :: behind) c = strchr (text ++ '\x00' :: behind') c := by
  have stops : (decide ('\x00' ≠ c ∧ '\x00' ≠ '\x00')) = false := by simp
  unfold strchr
  dsimp only
  rw [dropWhile_nul text behind stops, dropWhile_nul text behind' stops,
    takeWhile_nul text behind stops, takeWhile_nul text behind' stops]
  cases text.dropWhile fun x => decide (x ≠ c ∧ x ≠ '\x00') with
  | nil => rfl
  | cons x rest => rfl

theorem lt_of_strchr_nul {c : Char} (nonzero : c ≠ '\x00') {k : Nat}
    (found : strchr (text ++ '\x00' :: behind) c = .ok (some k)) : k < text.length := by
  have stops : (decide ('\x00' ≠ c ∧ '\x00' ≠ '\x00')) = false := by simp
  have parts := takeWhile_append_dropWhile (p := fun x => decide (x ≠ c ∧ x ≠ '\x00')) (l := text)
  unfold strchr at found
  dsimp only at found
  rw [dropWhile_nul text behind stops, takeWhile_nul text behind stops] at found
  cases rest : text.dropWhile fun x => decide (x ≠ c ∧ x ≠ '\x00') with
  | nil =>
    -- only the null byte is left
    rw [rest, nil_append] at found
    dsimp only at found
    rw [if_neg nonzero.symm] at found
    cases found
  | cons x later =>
    rw [rest, cons_append] at found
    dsimp only at found
    split at found
    · cases found
      have total := congrArg length parts
      rw [rest, length_append, length_cons] at total
      omega
    · cases found

end Behind

theorem strchr_found {before rest : List Char} (absent : c ∉ before) (clean : '\x00' ∉ before) :
    strchr (before ++ c :: rest) c = .ok (some before.length) := by
  have skipped : ∀ x ∈ before, decide (x ≠ c ∧ x ≠ '\x00') := by
    intro x member
    rw [decide_eq_true_eq]
    exact ⟨fun same => absent (same ▸ member), fun nul => clean (nul ▸ member)⟩
  unfold strchr
  dsimp only
  rw [dropWhile_append_of_pos skipped, takeWhile_append_of_pos skipped]
  simp

/-! ### Written numbers -/

section Written

variable {text rest : List Char} {p : Char → Bool}

theorem dropWhile_stops (stops : rest.head?.any p = false) : rest.dropWhile p = rest := by
  cases rest with
  | nil => rfl
  | cons c rest =>
    have other : p c = false := stops
    exact dropWhile_cons_of_neg (by rw [other]; decide)

theorem takeWhile_stops (stops : rest.head?.any p = false) : rest.takeWhile p = [] := by
  cases rest with
  | nil => rfl
  | cons c rest =>
    have other : p c = false := stops
    exact takeWhile_cons_of_neg (by rw [other]; decide)

theorem not_isSpace_of_isDigit {c : Char} (digit : isDigit c) : isSpace c = false := by
  unfold isSpace
  rw [decide_eq_false_iff_not]
  intro member
  simp only [mem_cons, not_mem_nil, or_false] at member
  rcases member with rfl | rfl | rfl | rfl | rfl | rfl <;> exact absurd digit (by decide)

theorem sign_of_isDigit {c : Char} (digit : isDigit c) :
    sign (c :: rest) = (false, c :: rest) := by
  unfold sign
  split
  next same =>
    cases same
    exact absurd digit (by decide)
  next same =>
    cases same
    exact absurd digit (by decide)
  · rfl

theorem sign_number (nonempty : text ≠ []) (all : ∀ c ∈ text, isDigit c) :
    sign ((text ++ rest).dropWhile isSpace) = (false, text ++ rest) := by
  cases text with
  | nil => exact absurd rfl nonempty
  | cons c text =>
    have digit := all c mem_cons_self
    rw [cons_append, dropWhile_cons_of_neg (by rw [not_isSpace_of_isDigit digit]; decide),
      sign_of_isDigit digit]

theorem digits_append (all : ∀ c ∈ text, isDigit c) (ends : rest.head?.any isDigit = false)
    (n : Nat) : digits n (text ++ rest) = digits n text := by
  induction text generalizing n with
  | nil =>
    cases rest with
    | nil => rfl
    | cons c rest =>
      have other : isDigit c = false := ends
      simp [digits, other]
  | cons c text ih =>
    have digit := all c mem_cons_self
    rw [cons_append, digits, digits, if_pos digit, if_pos digit]
    exact ih (fun x member => all x (mem_cons_of_mem _ member)) _

variable (nonempty : text ≠ []) (all : ∀ c ∈ text, isDigit c = true)

include nonempty all

theorem atoll_number (small : digits 0 text < 2 ^ 63) : atoll text = digits 0 text := by
  have sign : sign ((text ++ []).dropWhile isSpace) = (false, text ++ []) :=
    sign_number nonempty all
  rw [append_nil] at sign
  unfold atoll strtol
  rw [sign]
  dsimp only
  rw [if_neg (by decide)]
  omega

theorem scanUlong_number (small : digits 0 text < 2 ^ 64) (ends : rest.head?.any isDigit = false) :
    scanUlong (text ++ rest) = some (digits 0 text, rest) := by
  have begins : (text ++ rest).head?.any isDigit := by
    cases text with
    | nil => exact absurd rfl nonempty
    | cons c text => exact all c mem_cons_self
  unfold scanUlong
  rw [sign_number nonempty all]
  dsimp only
  rw [if_pos begins, digits_append all ends, dropWhile_append_of_pos all,
    dropWhile_stops ends, ulong, if_pos small]
  rfl

end Written

/-! ### Printed numbers -/

theorem digits_of_isDigit {text : List Char} (all : ∀ c ∈ text, isDigit c) (n : Nat) :
    digits n text = Nat.ofDigitChars 10 text n := by
  induction text generalizing n with
  | nil => rfl
  | cons c text ih =>
    rw [digits, if_pos (all c mem_cons_self)]
    exact ih (fun x member => all x (mem_cons_of_mem _ member)) _

theorem isDigit_of_mem_toDigits {n : Nat} (member : c ∈ Nat.toDigits 10 n) : isDigit c := by
  exact Nat.isDigit_of_mem_toDigits (by decide) (by decide) member

theorem digits_toDigits (n : Nat) : digits 0 (Nat.toDigits 10 n) = n := by
  rw [digits_of_isDigit (fun c member => isDigit_of_mem_toDigits member)]
  exact Nat.ofDigitChars_toDigits (by decide) (by decide)

theorem intercalate_eq_dropLast (delimiter : Char) (parts : List (List Char)) :
    [delimiter].intercalate parts = (parts.flatMap (· ++ [delimiter])).dropLast := by
  induction parts with
  | nil => rfl
  | cons part rest ih =>
    cases rest with
    | nil => simp [intercalate]
    | cons next rest =>
      have more : (next :: rest).flatMap (· ++ [delimiter]) ≠ [] := by simp
      have split : [delimiter].intercalate (part :: next :: rest) =
          part ++ [delimiter] ++ [delimiter].intercalate (next :: rest) := by
        simp [intercalate]
      rw [split, ih, flatMap_cons (x := part), dropLast_append_of_ne_nil more]

/-! ### Numbers in another base -/

def digitValue (c : Char) : Nat :=
  if isDigit c then c.toNat - '0'.toNat
  else if 'a' ≤ c ∧ c ≤ 'z' then c.toNat - 'a'.toNat + 10
  else if 'A' ≤ c ∧ c ≤ 'Z' then c.toNat - 'A'.toNat + 10
  else 36

def digitsIn (base : Nat) : (n : Nat) → List Char → Nat
  | n, [] => n
  | n, c :: rest =>
    if digitValue c < base then digitsIn base (base * n + digitValue c) rest else n

/-- `strtoull` with base 0: the text says which base it is in. -/
def strtoullAny : Nat :=
  let (negative, rest) := sign (s.dropWhile isSpace)
  match rest with
  | '0' :: x :: rest =>
    if (x = 'x' ∨ x = 'X') ∧ rest.head?.any (digitValue · < 16) then
      ulong negative (digitsIn 16 0 rest)
    else ulong negative (digitsIn 8 0 (x :: rest))
  | rest => ulong negative (digits 0 rest)

def hexDigit (n : Nat) : Char := "0123456789ABCDEF".toList.getD n '0'

/-- The last `width` digits of a number, as `%X` prints them. -/
def hexDigits : (width n : Nat) → List Char
  | 0, _ => []
  | width + 1, n => hexDigits width (n / 16) ++ [hexDigit (n % 16)]

theorem digitValue_hexDigit : ∀ n < 16, digitValue (hexDigit n) = n := by
  decide

theorem ulong_lt (negative : Bool) (n : Nat) : ulong negative n < 2 ^ 64 := by
  unfold ulong
  split
  · split
    · exact Nat.mod_lt _ (by decide)
    · assumption
  · decide

theorem strtoullAny_lt : strtoullAny s < 2 ^ 64 := by
  unfold strtoullAny
  dsimp only
  split
  · split <;> exact ulong_lt _ _
  · exact ulong_lt _ _

theorem digitsIn_hexDigits (width n m : Nat) (behind : List Char) :
    digitsIn 16 m (hexDigits width n ++ behind) =
      digitsIn 16 (m * 16 ^ width + n % 16 ^ width) behind := by
  induction width generalizing n behind with
  | zero => simp [hexDigits, Nat.mod_one]
  | succ width ih =>
    -- the last digit is read after the others
    have digit := digitValue_hexDigit (n % 16) (Nat.mod_lt n (by decide))
    have value : 16 * (m * 16 ^ width + n / 16 % 16 ^ width) + n % 16 =
        m * 16 ^ (width + 1) + n % 16 ^ (width + 1) := by
      rw [Nat.pow_succ', Nat.mod_mul, Nat.mul_left_comm]
      omega
    rw [hexDigits, append_assoc, ih, singleton_append, digitsIn, digit,
      if_pos (Nat.mod_lt n (by decide)), value]

theorem digitValue_of_mem_hexDigits {width n : Nat} (member : c ∈ hexDigits width n) :
    digitValue c < 16 := by
  induction width generalizing n with
  | zero => cases member
  | succ width ih =>
    rcases mem_append.mp member with before | last
    · exact ih before
    · rw [mem_singleton.mp last, digitValue_hexDigit _ (Nat.mod_lt n (by decide))]
      exact Nat.mod_lt n (by decide)

theorem strtoullAny_hex {width n : Nat} (fits : n < 16 ^ (width + 1)) (small : n < 2 ^ 64) :
    strtoullAny ('0' :: 'x' :: hexDigits (width + 1) n) = n := by
  have read := digitsIn_hexDigits (width + 1) n 0 []
  rw [append_nil, Nat.mod_eq_of_lt fits, Nat.zero_mul, Nat.zero_add] at read
  have hex : (hexDigits (width + 1) n).head?.any (digitValue · < 16) := by
    cases printed : hexDigits (width + 1) n with
    | nil => simp [hexDigits] at printed
    | cons c rest =>
      have member : c ∈ hexDigits (width + 1) n := printed ▸ mem_cons_self
      exact decide_eq_true (digitValue_of_mem_hexDigits member)
  change (if _ then ulong false (digitsIn 16 0 (hexDigits (width + 1) n)) else _) = n
  rw [if_pos ⟨.inl rfl, hex⟩, read]
  exact if_pos small

end CString
