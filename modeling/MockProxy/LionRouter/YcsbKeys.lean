import Mathlib.Data.List.TakeWhile
import MockProxy.Lib.CString
import MockProxy.Lib.TextSearch

/-!
# The keys of a statement

`ParseYcsbKey` looks for `WHERE YCSB_KEY IN (`, takes the text up to the closing parenthesis and
goes through it: each round skips spaces, reads digits, and goes on behind the next comma. The keys
are collected in a set.

On a list of numbers with any spaces around them the set is that of the numbers, and the loop ends
on any text (`parseYcsbKey_exact`).
-/

namespace MockProxy.LionRouter

open CString TextSearch List

/-! ### `ParseYcsbKey` -/

/-- `WHERE YCSB_KEY IN (` -/
def marker : List Char :=
  ['W', 'H', 'E', 'R', 'E', ' ', 'Y', 'C', 'S', 'B', '_', 'K', 'E', 'Y', ' ', 'I', 'N', ' ', '(']

inductive ParseFault
  -- `std::out_of_range` of `std::stoi`
  | outOfRange
  -- the bound on the number of rounds is reached
  | unfinished
  deriving DecidableEq

/-- `std::stoi` on digits -/
def stoi (number : List Char) : Except ParseFault Int :=
  if digits 0 number < 2 ^ 31 then .ok (digits 0 number) else .error .outOfRange

def numberAt (rest : List Char) : List Char := (rest.dropWhile isSpace).takeWhile isDigit

def behindComma (rest : List Char) : List Char :=
  (((rest.dropWhile isSpace).dropWhile isDigit).dropWhile (· ≠ ',')).drop 1

/-- What a round adds to `keys_set` -/
def addKey (keysSet : List Int) (number : List Char) : Except ParseFault (List Int) :=
  if number = [] then .ok keysSet
  else do
    let key ← stoi number
    return keysSet.insert key

/-- The loop over `key_list`, with a bound on the number of rounds. The set is a list without
repetitions, in one of the orders in which it can be iterated. -/
def parseKeys : (fuel : Nat) → (keyList : List Char) → (keysSet : List Int) →
    Except ParseFault (List Int)
  | _, [], keysSet => .ok keysSet
  | 0, _ :: _, _ => .error .unfinished
  | fuel + 1, c :: rest, keysSet => do
    let keysSet ← addKey keysSet (numberAt (c :: rest))
    parseKeys fuel (behindComma (c :: rest)) keysSet

def parseYcsbKey (sql : List Char) : Except ParseFault (List Int) :=
  match find marker sql with
  | none => .ok []
  | some fromWhere =>
    match fromWhere.dropWhile (· ≠ '(') with
    | [] => .ok []
    | _ :: inner =>
      if ')' ∈ inner then
        let keyList := inner.takeWhile (· ≠ ')')
        parseKeys keyList.length keyList []
      else .ok []

theorem parseKeys_nil (fuel : Nat) (keysSet : List Int) :
    parseKeys fuel [] keysSet = .ok keysSet := by
  cases fuel <;> rfl

/-! ### The loop ends -/

theorem length_behindComma_lt (c : Char) (rest : List Char) :
    (behindComma (c :: rest)).length < (c :: rest).length := by
  have spaces := (dropWhile_suffix (l := c :: rest) isSpace).length_le
  have number := (dropWhile_suffix (l := (c :: rest).dropWhile isSpace) isDigit).length_le
  have other := (dropWhile_suffix (l := ((c :: rest).dropWhile isSpace).dropWhile isDigit)
    (· ≠ ',')).length_le
  unfold behindComma
  rw [length_drop, length_cons]
  rw [length_cons] at spaces
  omega

theorem addKey_ne_unfinished (keysSet : List Int) (number : List Char) :
    addKey keysSet number ≠ .error .unfinished := by
  unfold addKey stoi
  split
  · simp
  · split
    · simp [bind, Except.bind, pure, Except.pure]
    · simp [bind, Except.bind]

variable {fuel : Nat} {keyList : List Char}

theorem parseKeys_ne_unfinished (enough : keyList.length ≤ fuel) (keysSet : List Int) :
    parseKeys fuel keyList keysSet ≠ .error .unfinished := by
  induction fuel generalizing keyList keysSet with
  | zero =>
    obtain rfl := length_eq_zero_iff.mp (Nat.le_zero.mp enough)
    simp [parseKeys]
  | succ fuel ih =>
    cases keyList with
    | nil => simp [parseKeys]
    | cons c rest =>
      have shorter := length_behindComma_lt c rest
      rw [parseKeys]
      cases added : addKey keysSet (numberAt (c :: rest)) with
      | error fault =>
        intro same
        cases same
        exact addKey_ne_unfinished _ _ added
      | ok keysSet' => exact ih (by omega) keysSet'

theorem parseYcsbKey_ne_unfinished (sql : List Char) : parseYcsbKey sql ≠ .error .unfinished := by
  unfold parseYcsbKey
  split
  · simp
  · split
    · simp
    · split
      · exact parseKeys_ne_unfinished le_rfl []
      · simp

/-! ### A list of keys -/

/-- A key, as it is written -/
structure KeyItem where
  before : List Char
  number : List Char
  after : List Char
  spaces : ∀ c ∈ before ++ after, isSpace c = true
  nonempty : number ≠ []
  isDigits : ∀ c ∈ number, isDigit c = true
  inRange : digits 0 number < 2 ^ 31

namespace KeyItem

def text (item : KeyItem) : List Char := item.before ++ item.number ++ item.after

def value (item : KeyItem) : Int := digits 0 item.number

end KeyItem

def keyListText (items : List KeyItem) (blank : List Char) : List Char :=
  [','].intercalate (items.map KeyItem.text) ++ blank

theorem keyListText_cons_cons (item next : KeyItem) (items : List KeyItem) (blank : List Char) :
    keyListText (item :: next :: items) blank = item.text ++ ',' ::
      keyListText (next :: items) blank := by
  simp [keyListText, intercalate]

theorem keyListText_singleton (item : KeyItem) (blank : List Char) :
    keyListText [item] blank = item.text ++ blank := by
  simp [keyListText, intercalate]

/-! ### A round -/

theorem not_isDigit_of_isSpace {c : Char} (space : isSpace c) : isDigit c = false := by
  cases digit : isDigit c with
  | false => rfl
  | true =>
    rw [not_isSpace_of_isDigit digit] at space
    cases space

theorem ne_comma_of_isSpace {c : Char} (space : isSpace c) : c ≠ ',' := by
  rintro rfl
  exact absurd space (by decide)

theorem head?_any_append {p : Char → Bool} {front rest : List Char}
    (none : ∀ c ∈ front, p c = false) (stops : rest.head?.any p = false) :
    (front ++ rest).head?.any p = false := by
  cases front with
  | nil => exact stops
  | cons c front => exact none c mem_cons_self

namespace KeyItem

variable (item : KeyItem) {rest : List Char}

theorem text_append : item.text ++ rest = item.before ++ (item.number ++ (item.after ++ rest)) := by
  unfold text
  simp

theorem text_ne_nil : item.text ++ rest ≠ [] := by
  have number := item.nonempty
  simp [text, number]

theorem dropWhile_text :
    (item.text ++ rest).dropWhile isSpace = item.number ++ (item.after ++ rest) := by
  have first : (item.number ++ (item.after ++ rest)).head?.any isSpace = false := by
    obtain ⟨c, number, list⟩ := exists_cons_of_ne_nil item.nonempty
    rw [list]
    exact not_isSpace_of_isDigit (item.isDigits c (by rw [list]; exact mem_cons_self))
  rw [text_append, dropWhile_append_of_pos fun c member => item.spaces c (mem_append_left _ member),
    dropWhile_stops first]

section

variable (stops : rest.head?.any isDigit = false)

include stops

theorem after_stops : (item.after ++ rest).head?.any isDigit = false :=
  head?_any_append (fun c member => not_isDigit_of_isSpace
    (item.spaces c (mem_append_right _ member)))
    stops

theorem numberAt_text : numberAt (item.text ++ rest) = item.number := by
  unfold numberAt
  rw [dropWhile_text, takeWhile_append_of_pos item.isDigits,
    takeWhile_stops (item.after_stops stops), append_nil]

theorem behindComma_text : behindComma (item.text ++ rest) = (rest.dropWhile (· ≠ ',')).drop 1 := by
  have skipped : ∀ c ∈ item.after, decide (c ≠ ',') := fun c member =>
    decide_eq_true (ne_comma_of_isSpace (item.spaces c (mem_append_right _ member)))
  unfold behindComma
  rw [dropWhile_text, dropWhile_append_of_pos item.isDigits,
    dropWhile_stops (item.after_stops stops), dropWhile_append_of_pos skipped]

end

theorem addKey_number (keysSet : List Int) :
    addKey keysSet item.number = .ok (keysSet.insert item.value) := by
  unfold addKey stoi
  rw [if_neg item.nonempty, if_pos item.inRange]
  rfl

end KeyItem

theorem parseKeys_of_ne_nil (nonempty : keyList ≠ []) (enough : keyList.length ≤ fuel)
    (keysSet : List Int) :
    ∃ fuel', (behindComma keyList).length ≤ fuel' ∧ parseKeys fuel keyList keysSet =
      addKey keysSet (numberAt keyList) >>= fun keysSet =>
        parseKeys fuel' (behindComma keyList) keysSet := by
  obtain ⟨c, rest, rfl⟩ := exists_cons_of_ne_nil nonempty
  have shorter := length_behindComma_lt c rest
  cases fuel with
  | zero => cases enough
  | succ fuel => exact ⟨fuel, by omega, rfl⟩

/-! ### All rounds -/

variable {blank : List Char}

theorem parseKeys_blank (spaces : ∀ c ∈ blank, isSpace c) (enough : blank.length ≤ fuel)
    (keysSet : List Int) : parseKeys fuel blank keysSet = .ok keysSet := by
  by_cases nonempty : blank = []
  · rw [nonempty, parseKeys_nil]
  · have skipped : blank.dropWhile isSpace = [] := dropWhile_eq_nil_iff.mpr spaces
    obtain ⟨fuel', -, round⟩ := parseKeys_of_ne_nil nonempty enough keysSet
    rw [round, numberAt, behindComma, skipped]
    exact parseKeys_nil fuel' keysSet

theorem parseKeys_item (item : KeyItem) {rest : List Char} (stops : rest.head?.any isDigit = false)
    (enough : (item.text ++ rest).length ≤ fuel) (keysSet : List Int) :
    ∃ fuel', ((rest.dropWhile (· ≠ ',')).drop 1).length ≤ fuel' ∧
      parseKeys fuel (item.text ++ rest) keysSet =
        parseKeys fuel' ((rest.dropWhile (· ≠ ',')).drop 1) (keysSet.insert item.value) := by
  obtain ⟨fuel', less, round⟩ := parseKeys_of_ne_nil item.text_ne_nil enough keysSet
  rw [item.numberAt_text stops, item.behindComma_text stops, item.addKey_number] at round
  rw [item.behindComma_text stops] at less
  exact ⟨fuel', less, round⟩

theorem parseKeys_items (items : List KeyItem) (spaces : ∀ c ∈ blank, isSpace c)
    (enough : (keyListText items blank).length ≤ fuel) (keysSet : List Int) :
    parseKeys fuel (keyListText items blank) keysSet =
      .ok (items.foldl (fun keysSet item => keysSet.insert item.value) keysSet) := by
  -- one item a round; the last one ends with the text
  induction items generalizing fuel keysSet with
  | nil => exact parseKeys_blank spaces enough keysSet
  | cons item items ih =>
    cases items with
    | nil =>
      rw [keyListText_singleton] at enough ⊢
      have stops : blank.head?.any isDigit = false := by
        rw [← append_nil blank]
        exact head?_any_append (fun c member => not_isDigit_of_isSpace (spaces c member)) rfl
      have nothing : blank.dropWhile (· ≠ ',') = [] :=
        dropWhile_eq_nil_iff.mpr fun c member =>
          decide_eq_true (ne_comma_of_isSpace (spaces c member))
      obtain ⟨fuel', -, round⟩ := parseKeys_item item stops enough keysSet
      rw [round, nothing, drop_nil, parseKeys_nil]
      rfl
    | cons next items =>
      rw [keyListText_cons_cons] at enough ⊢
      obtain ⟨fuel', less, round⟩ := parseKeys_item item rfl enough keysSet
      have behind : ((',' :: keyListText (next :: items) blank).dropWhile (· ≠ ',')).drop 1 =
          keyListText (next :: items) blank := by
        rfl
      rw [behind] at less round
      rw [round, ih less]
      rfl

theorem foldl_insert (values : List Int) :
    values.foldl (fun keysSet key => keysSet.insert key) [] = values.reverse ∪ [] :=
  foldl_eq_foldr_reverse ..

/-! ### Statements -/

theorem parseYcsbKey_marker {before : List Char} (absent : ¬ marker <:+: before)
    (inner : List Char) : parseYcsbKey (before ++ (marker ++ inner)) = if ')' ∈ inner then
        parseKeys (inner.takeWhile (· ≠ ')')).length (inner.takeWhile (· ≠ ')')) []
      else .ok [] := by
  have found : find marker (before ++ (marker ++ inner)) = some (marker ++ inner) :=
    find_first (by decide) absent inner
  have opened : (marker ++ inner).dropWhile (· ≠ '(') = '(' :: inner := rfl
  unfold parseYcsbKey
  rw [found]
  dsimp only
  rw [opened]

theorem parenthesis_notMem {items : List KeyItem} (spaces : ∀ c ∈ blank, isSpace c) :
    ')' ∉ keyListText items blank := by
  have space : isSpace ')' ≠ true := by decide
  unfold keyListText
  rw [mem_append]
  rintro (inside | inside)
  · rcases mem_of_mem_intercalate inside with same | ⟨part, member, found⟩
    · exact absurd same (by decide)
    · obtain ⟨item, -, rfl⟩ := mem_map.mp member
      rw [KeyItem.text, mem_append, mem_append] at found
      rcases found with (before | number) | after
      · exact space (item.spaces _ (mem_append_left _ before))
      · exact absurd (item.isDigits _ number) (by decide)
      · exact space (item.spaces _ (mem_append_right _ after))
  · exact space (spaces _ inside)

theorem parseYcsbKey_items {before : List Char} (absent : ¬ marker <:+: before)
    (items : List KeyItem) (spaces : ∀ c ∈ blank, isSpace c) (after : List Char) :
    parseYcsbKey (before ++ (marker ++ (keyListText items blank ++ ')' :: after))) =
      .ok ((items.map KeyItem.value).foldl (fun keysSet key => keysSet.insert key) []) := by
  have inside : ∀ c ∈ keyListText items blank, decide (c ≠ ')') := by
    intro c member
    exact decide_eq_true fun same => parenthesis_notMem spaces (same ▸ member)
  have list : (keyListText items blank ++ ')' :: after).takeWhile (· ≠ ')') =
      keyListText items blank := by
    rw [takeWhile_append_of_pos inside, takeWhile_cons_of_neg (by decide), append_nil]
  rw [parseYcsbKey_marker absent, if_pos (by simp), list, parseKeys_items items spaces le_rfl,
    foldl_map]

/-- On a list of keys with any spaces, behind the first marker and before a closing parenthesis,
each key is returned once and nothing else. Without a marker, or without a closing parenthesis
behind it, nothing is returned. The loop ends on any text. -/
theorem parseYcsbKey_exact : (∀ sql, parseYcsbKey sql ≠ .error .unfinished) ∧
    (∀ (before blank after : List Char) (items : List KeyItem), ¬ marker <:+: before →
      (∀ c ∈ blank, isSpace c = true) → ∃ keys,
        parseYcsbKey (before ++ (marker ++ (keyListText items blank ++ ')' :: after))) = .ok keys ∧
        keys.Nodup ∧ ∀ key, key ∈ keys ↔ key ∈ items.map KeyItem.value) ∧
    (∀ sql, ¬ marker <:+: sql → parseYcsbKey sql = .ok []) ∧
    ∀ before after, ¬ marker <:+: before → ')' ∉ after →
      parseYcsbKey (before ++ (marker ++ after)) = .ok [] := by
  refine ⟨parseYcsbKey_ne_unfinished, ?_, ?_, ?_⟩
  · intro before blank after items absent spaces
    refine ⟨_, parseYcsbKey_items absent items spaces after, ?_, fun key => ?_⟩
    · rw [foldl_insert]
      exact nodup_nil.union _
    · simp [foldl_insert]
  · intro sql absent
    unfold parseYcsbKey
    rw [find_of_absent absent]
  · intro before after absent unclosed
    rw [parseYcsbKey_marker absent, if_neg unclosed]

def tenKey : KeyItem where
  before := [' ']
  number := ['1', '0']
  after := [' ', '\n']
  spaces := all_eq_true.mp (by decide)
  nonempty := by decide
  isDigits := all_eq_true.mp (by decide)
  inRange := by decide

def largestKey : KeyItem where
  before := []
  number := "2147483647".toList
  after := []
  spaces := by simp
  nonempty := by decide
  isDigits := all_eq_true.mp (by decide)
  inRange := by decide

/-- Three keys, one of them twice -/
theorem parseYcsbKey_exact_three : ∃ keys, parseYcsbKey ("W WHERE ".toList ++ (marker ++
      (keyListText [tenKey, largestKey, tenKey] [] ++ ')' :: ";".toList))) = .ok keys ∧
    keys.Nodup ∧ ∀ key, key ∈ keys ↔ key ∈ [10, 2147483647, 10] :=
  parseYcsbKey_exact.2.1 "W WHERE ".toList [] ";".toList [tenKey, largestKey, tenKey]
    (by decide +kernel)
    (by simp)

end MockProxy.LionRouter
