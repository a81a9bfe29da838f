import MockProxy.Lib.Machine
import MockProxy.Tokenizer.Basic

/-!
# `mysql_query_strip_comments`

A `KILL` is looked for in the query without its comments. One loop copies the query, remembers where
it was when a comment started, and goes back there when the comment ends. It does not know of
quotes, and it goes back one character too far for a comment of type 2 that ends with the query, and
one too few for a comment of type 3 that ends with its line. `Commented` describes the queries for
which this does no harm.
-/

namespace MockProxy.Tokenizer

open Scratch Machine

/-- The kind of a comment, in the source's numbers. -/
inductive CmntKind where
  | type1 | type2 | type3
  deriving DecidableEq

/-- `out` is what stands before `p_r` and `mark` what stands before `p_r_t`, last character
first. -/
structure StripSt where
  out : List Byte := []
  mark : List Byte := []
  prevChar : Byte := nul
  flag : Option CmntKind := none
  fns : Bool := false

namespace StripSt

variable (lowercase : Bool)

def copyChar (c : Byte) (s : StripSt) : StripSt :=
  { s with out := copied lowercase c :: s.out, prevChar := c }

/-- Outside of comments; `rest` is what follows the character. -/
def outside (c : Byte) (rest : List Byte) (s : StripSt) : Except Fault StripSt := do
  let s := { s with mark := s.out }
  let dashes ←
    if s.prevChar = '-' ∧ c = '-' then rest.head?.elim (.error .outOfInput) (.ok ∘ isSpaceChar)
    else .ok false
  if s.prevChar = '/' ∧ c = '*' then return { s with flag := some .type1 }.copyChar lowercase c
  else if c = '#' then return { s with flag := some .type2 }.copyChar lowercase c
  else if dashes then return { s with flag := some .type3 }.copyChar lowercase c
  else if s.fns = false ∧ isSpaceChar c then return s
  else
    let s := { s with fns := true }
    -- the space that is written here is overwritten
    if isSpaceChar s.prevChar ∧ isSpaceChar c then return { s with prevChar := ' ' }
    else return s.copyChar lowercase c

def ends (kind : CmntKind) (prev c : Byte) (last : Bool) : Bool :=
  if kind = .type1 then prev = '*' ∧ c = '/' else c = '\n' ∨ c = '\r' ∨ last

def close (kind : CmntKind) (last : Bool) (s : StripSt) : Except Fault StripSt :=
  let s := { s with out := s.mark, prevChar := ' ', flag := none }
  if kind = .type1 ∨ last then
    match s.mark with
    | [] => .error .outOfBuffer
    | _ :: before => .ok { s with out := before }
  else .ok s

def round (c : Byte) (rest : List Byte) (s : StripSt) : Except Fault StripSt :=
  match s.flag with
  | none => s.outside lowercase c rest
  | some kind =>
    if ends kind s.prevChar c rest.isEmpty then s.close kind rest.isEmpty
    else .ok (s.copyChar lowercase c)

def loop (lowercase : Bool) : List Byte → StripSt → Except Fault StripSt
  | [], s => .ok s
  | c :: rest, s => do loop lowercase rest (← s.round lowercase c rest)

end StripSt

/-- The text before the terminator. -/
def stripComments (lowercase : Bool) (query : List Byte) : Except Fault (List Byte) := do
  let s ← StripSt.loop lowercase query {}
  return (if s.out.head? = some ' ' then s.out.tail else s.out).reverse

/-! ### What is wanted -/

/-- A text with its repeated spaces removed; `blank` says that a space stands before it. -/
def tidy (lowercase : Bool) : (blank : Bool) → List Byte → List Byte
  | _, [] => []
  | blank, c :: rest =>
    if isSpaceChar c ∧ blank then tidy lowercase true rest
    else copied lowercase c :: tidy lowercase (isSpaceChar c) rest

def trimmed (text : List Byte) : List Byte :=
  if text.getLast? = some ' ' then text.dropLast else text

/-- Where the query is with its quotes -/
inductive Quote where
  | outside
  | inside (mark : Byte)
  -- behind a backslash
  | escaped (mark : Byte)

def Quote.next : Quote → Byte → Quote
  | .outside, c => if c ∈ ['\x27', '\x22', '\x60'] then .inside c else .outside
  | .inside mark, c =>
    if c = mark then .outside else if c = '\\' ∧ mark ≠ '\x60' then .escaped mark else .inside mark
  | .escaped mark, _ => .inside mark

/-- A comment of the kind, in which `prev` was read last, ends where `rest` begins. -/
inductive Closes (kind : CmntKind) (rest : List Byte) : Byte → List Byte → Prop where
  | last {prev c : Byte} (ended : StripSt.ends kind prev c rest.isEmpty = true) :
    Closes kind rest prev (c :: rest)
  | more {prev c : Byte} {text : List Byte} (goes : StripSt.ends kind prev c text.isEmpty = false)
    (later : Closes kind rest c text) : Closes kind rest prev (c :: text)

/-- A comment of type 1 that does not end, without repeated spaces -/
def runsOn : (prev : Byte) → List Byte → Bool
  | _, [] => true
  | prev, c :: rest =>
    !StripSt.ends .type1 prev c rest.isEmpty && !(isSpaceChar prev && isSpaceChar c) &&
      runsOn c rest

/-- The query `text` is `chars` with comments outside of its quotes.

`blank` says that a space or a comment stands before it, or nothing, and `spaced` that a space was
written last. A comment is followed by a space only if it follows one, or if there are only spaces
behind it. A comment of type 2 may end the query if a space stands before it, and one of type 3 has
to. A comment of type 1 that does not end is part of the text. -/
inductive Commented : Quote → (blank spaced : Bool) → (text chars : List Byte) → Prop where
  | done {q : Quote} {blank spaced : Bool} : Commented q blank spaced [] []
  | char {q : Quote} {blank spaced : Bool} {c : Byte} {text chars : List Byte} (noHash : c ≠ '#')
    (noMark : c = '/' → text.head? ≠ some '*')
    (noDashes : c = '-' → text.head? = some '-' → text.tail.head?.any (! isSpaceChar ·))
    (later : Commented (q.next c) (isSpaceChar c)
      (isSpaceChar c && (spaced || !blank)) text chars) :
    Commented q blank spaced (c :: text) (c :: chars)
  | type1 {blank spaced : Bool} {text rest chars : List Byte} (body : text.head? ≠ some '/')
    (closes : Closes .type1 rest '*' text)
    (apart : blank = true ∨ chars.head?.all (! isSpaceChar ·) ∨ chars.all isSpaceChar)
    (later : Commented .outside true spaced rest chars) :
    Commented .outside blank spaced ('/' :: '*' :: text) chars
  | type2 {blank spaced : Bool} {text rest chars : List Byte} (closes : Closes .type2 rest '#' text)
    (inner : rest ≠ [])
    (apart : blank = true ∨ chars.head?.all (! isSpaceChar ·) ∨ chars.all isSpaceChar)
    (later : Commented .outside true spaced rest chars) :
    Commented .outside blank spaced ('#' :: text) chars
  | type2End {blank : Bool} {text : List Byte} (closes : Closes .type2 [] '#' text) :
    Commented .outside blank true ('#' :: text) []
  | type3End {blank spaced : Bool} {text : List Byte} (space : text.head?.any isSpaceChar)
    (closes : Closes .type3 [] '-' text) : Commented .outside blank spaced ('-' :: '-' :: text) []
  | unclosed {q : Quote} {blank spaced : Bool} {text : List Byte} (never : runsOn '*' text) :
    Commented q blank spaced ('/' :: '*' :: text) ('/' :: '*' :: text)

theorem tidy_apart {lowercase blank : Bool} {chars : List Byte}
    (apart : blank ∨ chars.head?.all (! isSpaceChar ·)) :
    tidy lowercase blank chars = tidy lowercase true chars := by
  rcases apart with rfl | visible
  · rfl
  · cases chars with
    | nil => rfl
    | cons c chars => simp_all [tidy]

theorem tidy_spaces (lowercase : Bool) {chars : List Byte} (spaces : chars.all isSpaceChar) :
    tidy lowercase true chars = [] := by
  induction chars with
  | nil => rfl
  | cons c chars ih =>
    rw [List.all_cons, Bool.and_eq_true] at spaces
    rw [tidy, if_pos ⟨spaces.1, rfl⟩, ih spaces.2]

/-- The text in memory, last character first, without a last space -/
def trimTop (out : List Byte) : List Byte := if out.head? = some ' ' then out.tail else out

/-- Spaces that were not written at the end of the query make no difference. -/
theorem trimTop_apart {lowercase blank : Bool} {chars out : List Byte}
    (apart : blank = true ∨ chars.head?.all (! isSpaceChar ·) ∨ chars.all isSpaceChar)
    (visible : blank = false → out.head? ≠ some ' ') :
    trimTop ((tidy lowercase true chars).reverse ++ out) =
      trimTop ((tidy lowercase blank chars).reverse ++ out) := by
  rcases apart with before | behind | spaces
  · rw [tidy_apart (.inl before)]
  · rw [@tidy_apart lowercase blank chars (.inr behind)]
  · cases blank with
    | true => rfl
    | false =>
      cases chars with
      | nil => rfl
      | cons c chars =>
        rw [tidy_spaces lowercase spaces]
        rw [List.all_cons, Bool.and_eq_true] at spaces
        rw [tidy, if_neg (by simp), spaces.1, tidy_spaces lowercase spaces.2]
        simp [trimTop, copied, spaces.1, visible]

/-! ### The loop -/

namespace StripSt

variable {lowercase blank spaced : Bool} {s : StripSt} {text rest chars : List Byte}
    {kind : CmntKind} {c : Byte}

theorem round_inside (inside : s.flag = some kind) (c : Byte) (rest : List Byte) :
    s.round lowercase c rest = if ends kind s.prevChar c rest.isEmpty then s.close kind rest.isEmpty
      else .ok (s.copyChar lowercase c) := by
  rw [round, inside]

/-- In a comment characters are copied, and forgotten at its end. -/
theorem loop_closes (closes : Closes kind rest s.prevChar text) (inside : s.flag = some kind) :
    loop lowercase text s = s.close kind rest.isEmpty >>= loop lowercase rest := by
  generalize isPrev : s.prevChar = prev at closes
  induction closes generalizing s with
  | last ended => rw [loop, round_inside inside, isPrev, if_pos ended]
  | @more _ c _ goes _ ih =>
    rw [loop, round_inside inside, isPrev, if_neg (by simp [goes]), ok_bind,
      ih (s := s.copyChar lowercase c) inside rfl]
    rfl

/-- Outside of comments; after `/` or `-` no comment starts. No two spaces are written in a row. -/
structure Between (s : StripSt) (blank spaced : Bool) (text : List Byte) : Prop where
  flag : s.flag = none
  leads : blank = true ↔ s.fns = false ∨ isSpaceChar s.prevChar
  slash : s.prevChar = '/' → blank = false ∧ text.head? ≠ some '*'
  dash : s.prevChar = '-' → blank = false ∧
    (text.head? = some '-' → text.tail.head?.any (! isSpaceChar ·))
  visible : blank = false → s.out.head? ≠ some ' '
  single : spaced = true → ∃ out, s.out = ' ' :: out ∧ out.head? ≠ some ' '

theorem Between.behind (between : s.Between blank spaced text) (mark : List Byte)
    {flag : Option CmntKind} (none : flag = none) (fns : Bool) (rest : List Byte) :
    (⟨s.out, mark, ' ', flag, fns⟩ : StripSt).Between true spaced rest :=
  ⟨none, by simp, by simp, by simp, by simp, between.single⟩

theorem copied_ne_blank (lowercase : Bool) (visible : isSpaceChar c = false) :
    copied lowercase c ≠ ' ' := by
  have other : c ≠ ' ' := by
    rintro rfl
    cases visible
  rw [copied, visible]
  cases lowercase with
  | false => exact other
  | true =>
    intro same
    rcases tolower_cases c with eq | ⟨letter, -⟩
    · exact other (eq.symm.trans same)
    · rw [show tolower c = ' ' from same] at letter
      exact absurd letter (by decide)

/-- What is left of `outside` where no comment starts -/
theorem outside_eq (noHash : c ≠ '#') (noStar : ¬ (s.prevChar = '/' ∧ c = '*'))
    (noDashes : s.prevChar = '-' ∧ c = '-' → text.head?.any (! isSpaceChar ·)) :
    s.outside lowercase c text = .ok (
      if s.fns = false ∧ isSpaceChar c then { s with mark := s.out }
      else if isSpaceChar s.prevChar ∧ isSpaceChar c then
        { s with mark := s.out, fns := true, prevChar := ' ' }
      else { s with mark := s.out, fns := true }.copyChar lowercase c) := by
  unfold outside
  dsimp only
  by_cases both : s.prevChar = '-' ∧ c = '-'
  · have next := noDashes both
    cases first : text.head? with
    | none => simp [first] at next
    | some d =>
      have visible : isSpaceChar d = false := by simpa [first] using next
      rw [if_pos both, Option.elim_some, Function.comp_apply, visible, ok_bind, if_neg noStar,
        if_neg noHash, if_neg Bool.false_ne_true]
      split_ifs <;> rfl
  · rw [if_neg both, ok_bind, if_neg noStar, if_neg noHash, if_neg Bool.false_ne_true]
    split_ifs <;> rfl

/-- A character that starts no comment is copied, or left out if it is a space too many. -/
theorem round_char (lowercase : Bool) (between : s.Between blank spaced (c :: text))
    (noHash : c ≠ '#') (noMark : c = '/' → text.head? ≠ some '*')
    (noDashes : c = '-' → text.head? = some '-' → text.tail.head?.any (! isSpaceChar ·)) :
    ∃ s', s.round lowercase c text = .ok s' ∧
      s'.Between (isSpaceChar c) (isSpaceChar c && (spaced || !blank)) text ∧
      s'.out = (tidy lowercase blank [c]).reverse ++ s.out := by
  have noStar : ¬ (s.prevChar = '/' ∧ c = '*') := fun both =>
    (between.slash both.1).2 (congrArg some both.2)
  have leads := between.leads
  rw [round, between.flag]
  refine ⟨_, outside_eq noHash noStar fun both =>
    (between.dash both.1).2 (congrArg some both.2), ?_⟩
  split_ifs with leading double
  · -- a space before the first character
    have isBlank : blank = true := leads.mpr (.inl leading.1)
    refine ⟨⟨between.flag, by simp [leading], fun slash => ?_, fun dash => ?_, ?_, ?_⟩, ?_⟩
    · exact absurd (between.slash slash).1 (by simp [isBlank])
    · exact absurd (between.dash dash).1 (by simp [isBlank])
    · simp [leading.2]
    · simpa [leading.2, isBlank] using between.single
    · simp [tidy, leading.2, isBlank]
  · have isBlank : blank = true := leads.mpr (.inr double.1)
    refine ⟨?_, by simp [tidy, double.2, isBlank]⟩
    rw [double.2, isBlank]
    simpa using between.behind s.out between.flag true text
  · have shown : isSpaceChar c = true → blank = false := by
      intro space
      by_contra isBlank
      rcases leads.mp (by simpa using isBlank) with first | before
      · exact leading ⟨first, space⟩
      · exact double ⟨before, space⟩
    refine ⟨⟨between.flag, by simp [copyChar], ?_, ?_, ?_, ?_⟩, ?_⟩
    · rintro rfl
      exact ⟨rfl, noMark rfl⟩
    · rintro rfl
      exact ⟨rfl, noDashes rfl⟩
    · intro visible top
      exact copied_ne_blank lowercase visible (Option.some.inj top)
    · intro spaces
      have space : isSpaceChar c = true := (Bool.and_eq_true_iff.mp spaces).1
      exact ⟨s.out, by simp [copyChar, copied, space], between.visible (shown space)⟩
    · by_cases space : isSpaceChar c
      · simp [tidy, copyChar, copied, space, shown space]
      · simp [tidy, copyChar, copied, space]

theorem tidy_cons (lowercase blank : Bool) (c : Byte) (chars : List Byte) :
    tidy lowercase blank (c :: chars) =
      tidy lowercase blank [c] ++ tidy lowercase (isSpaceChar c) chars := by
  by_cases space : isSpaceChar c <;> cases blank <;> simp [tidy, space]

section

variable (flag : s.flag = none)

include flag

theorem round_dash : s.round lowercase '-' ('-' :: text) =
    .ok ({ s with mark := s.out, fns := true }.copyChar lowercase '-') := by
  rw [round, flag]
  refine (outside_eq (by decide) (by simp) fun _ => by rfl).trans ?_
  simp [isSpaceChar, flag]

theorem round_hash : s.round lowercase '#' text =
    .ok ({ s with mark := s.out, flag := some .type2 }.copyChar lowercase '#') := by
  simp [round, flag, outside]

theorem round_slash : s.round lowercase '/' text =
    .ok ({ s with mark := s.out, fns := true }.copyChar lowercase '/') := by
  rw [round, flag]
  refine (outside_eq (by decide) (by simp) fun both => absurd both.2 (by decide)).trans ?_
  simp [isSpaceChar, flag]

/-- The mark of a comment of type 1 is read as two characters. -/
theorem loop_mark : loop lowercase ('/' :: '*' :: text) s =
    loop lowercase text
      ⟨'*' :: '/' :: s.out, '/' :: s.out, '*', some .type1, true⟩ := by
  have star {s : StripSt} (flag : s.flag = none) (prev : s.prevChar = '/') :
      s.round lowercase '*' text =
        .ok ({ s with mark := s.out, flag := some .type1 }.copyChar lowercase '*') := by
    simp [round, flag, outside, prev]
  rw [loop, round_slash flag, ok_bind, loop, star (by exact flag) rfl, ok_bind]
  cases lowercase <;> rfl

end

theorem loop_runsOn (never : runsOn s.prevChar text) (inside : s.flag = some .type1) :
    ∃ s', loop lowercase text s = .ok s' ∧
      s'.out = (tidy lowercase (isSpaceChar s.prevChar) text).reverse ++ s.out := by
  induction text generalizing s with
  | nil => exact ⟨s, rfl, rfl⟩
  | cons c text ih =>
    simp only [runsOn, Bool.and_eq_true, Bool.not_eq_true', Bool.and_eq_false_iff] at never
    obtain ⟨⟨goes, apart⟩, later⟩ := never
    obtain ⟨s', ran, out⟩ := ih (s := s.copyChar lowercase c) later inside
    refine ⟨s', ?_, ?_⟩
    · rw [loop, round_inside inside, if_neg (by simp [goes]), ok_bind, ran]
    · have kept : ¬ (isSpaceChar c = true ∧ isSpaceChar s.prevChar = true) := by
        rcases apart with before | here
        · simp [before]
        · simp [here]
      rw [out, tidy, if_neg kept]
      simp [copyChar, copied]

theorem loop_commented (lowercase : Bool) {q : Quote}
    (commented : Commented q blank spaced text chars)
    (between : s.Between blank spaced text) :
    ∃ s', loop lowercase text s = .ok s' ∧
      trimTop s'.out = trimTop ((tidy lowercase blank chars).reverse ++ s.out) := by
  induction commented generalizing s with
  | done => exact ⟨s, rfl, by simp [tidy]⟩
  | @char q blank spaced c text chars noHash noMark noDashes later ih =>
    obtain ⟨next, stepped, between', out⟩ := round_char lowercase between noHash noMark noDashes
    obtain ⟨s', ran, out'⟩ := ih between'
    refine ⟨s', ?_, ?_⟩
    · rw [loop, stepped, ok_bind, ran]
    · rw [out', out, tidy_cons lowercase blank c chars, List.reverse_append, List.append_assoc]
  | @type1 blank spaced text rest chars body closes apart later ih =>
    rw [loop_mark between.flag, loop_closes closes rfl, ← trimTop_apart apart between.visible]
    exact ih (between.behind _ rfl _ rest)
  | @type2 blank spaced text rest chars closes inner apart later ih =>
    rw [loop, round_hash between.flag, ok_bind, loop_closes closes rfl, close,
      if_neg (by simpa using inner), ← trimTop_apart apart between.visible]
    exact ih (between.behind _ rfl _ rest)
  | @type2End blank text closes =>
    obtain ⟨out, top, single⟩ := between.single rfl
    rw [loop, round_hash between.flag, ok_bind, loop_closes closes rfl]
    refine ⟨⟨out, s.out, ' ', none, s.fns⟩, ?_, ?_⟩
    · simp [close, copyChar, top, loop]
    · simp [trimTop, top, single, tidy]
  | @type3End blank spaced text space closes =>
    have second {s : StripSt} (flag : s.flag = none) (prev : s.prevChar = '-') :
        s.round lowercase '-' text =
          .ok ({ s with mark := s.out, flag := some .type3 }.copyChar lowercase '-') := by
      cases first : text.head? with
      | none => simp [first] at space
      | some d =>
        have isSpace : isSpaceChar d = true := by simpa [first] using space
        simp [round, flag, outside, prev, first, isSpace, ok_bind]
    rw [loop, round_dash between.flag, ok_bind, loop, second (by exact between.flag) rfl, ok_bind,
      loop_closes closes rfl]
    refine ⟨⟨s.out, copied lowercase '-' :: s.out, ' ', none, true⟩, ?_, rfl⟩
    simp [close, copyChar, copied, loop]
  | @unclosed q blank spaced text never =>
    rw [loop_mark between.flag]
    obtain ⟨s', ran, out⟩ := @loop_runsOn lowercase
      ⟨'*' :: '/' :: s.out, '/' :: s.out, '*', some .type1, true⟩ text never rfl
    refine ⟨s', ran, ?_⟩
    rw [out, tidy, if_neg (by simp [isSpaceChar]), tidy, if_neg (by simp [isSpaceChar])]
    have plain : copied lowercase '/' = '/' ∧ copied lowercase '*' = '*' := by
      cases lowercase <;> decide
    simp [plain, isSpaceChar]

end StripSt

theorem commented_plain {text : List Byte} (plain : ∀ c ∈ text, c ∉ ['#', '/', '-']) (q : Quote)
    (blank spaced : Bool) : Commented q blank spaced text text := by
  induction text generalizing q blank spaced with
  | nil => exact .done
  | cons c text ih =>
    rw [List.forall_mem_cons] at plain
    simp only [List.mem_cons, List.not_mem_nil, or_false, not_or] at plain
    exact .char plain.1.1 (fun slash => absurd slash plain.1.2.1)
      (fun dash => absurd dash plain.1.2.2)
      (ih (by simpa using plain.2) _ _ _)

end MockProxy.Tokenizer
