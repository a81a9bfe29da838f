import Mathlib.Tactic.IntervalCases
import MockProxy.Lib.CString
import MockProxy.Lib.Delimited
import MockProxy.Lib.LastWrite
import MockProxy.QueryProcessor.Rules

/-!
# The fast routing table

`create_fast_routing_hashmap` makes a map of the rows of `mysql_query_rules_fast_routing`, from keys
that are concatenated of the user, a random delimiter, the schema, `---` and `flagIN`, and writes
the rows into a blob of which every thread may make a map of its own. The three agree for all rows
(`threadFastRouting_eq`, `rulesFastRouting_eq`).

What a lookup finds is the last row with the key it looks for. That is the row that was asked for
unless two different rows have one key (`fast_routing_right_iff`).
-/

namespace MockProxy.QueryProcessor

open List

def nul : Char := '\x00'

def CString : Type := { s : String // nul ∉ s.toList }

namespace CString

def text (s : CString) : String := s.val

instance : DecidableEq CString := inferInstanceAs (DecidableEq { s : String // nul ∉ s.toList })

theorem nul_notMem (s : CString) : nul ∉ s.text.toList := s.property

end CString

/-- `rand_del`: three dashes, eight letters or digits that were drawn at start-up, three dashes. -/
structure RandDel where
  core : List Char
  length_core : core.length = 8
  alphanum : ∀ c ∈ core, c.isAlphanum

variable (del : RandDel)

namespace RandDel

def chars : List Char := ['-', '-', '-'] ++ del.core ++ ['-', '-', '-']

def text : String := String.ofList del.chars

theorem toList_text : del.text.toList = del.chars := String.toList_ofList

theorem length_chars : del.chars.length = 14 := by
  simp [chars, del.length_core]

theorem core_ne {c : Char} (other : c.isAlphanum = false) : c ∉ del.core :=
  fun mem => by simpa [other] using del.alphanum c mem

theorem nul_notMem : nul ∉ del.chars := by
  have core : nul ∉ del.core := del.core_ne rfl
  have dashes : nul ∉ ['-', '-', '-'] := by decide
  simp only [chars, mem_append, not_or]
  exact ⟨⟨dashes, core⟩, dashes⟩

theorem spaced : Delimited.Spaced 11 del.chars := by
  obtain ⟨core, length, alphanum⟩ := del
  refine ⟨by simp [chars, length], fun k low high overlap => ?_⟩
  obtain ⟨c₀, c₁, c₂, c₃, c₄, c₅, c₆, c₇, rfl⟩ :
      ∃ c₀ c₁ c₂ c₃ c₄ c₅ c₆ c₇, core = [c₀, c₁, c₂, c₃, c₄, c₅, c₆, c₇] := by
    match core, length with
    | [c₀, c₁, c₂, c₃, c₄, c₅, c₆, c₇], _ => exact ⟨c₀, c₁, c₂, c₃, c₄, c₅, c₆, c₇, rfl⟩
  interval_cases k <;> simp [chars, cons_prefix_cons] at overlap <;> simp_all

def FreeFrom (del : RandDel) (name : String) : Prop := ¬ del.chars.take 11 <:+: name.toList

instance (name : String) : Decidable (del.FreeFrom name) := inferInstanceAs (Decidable (¬ _))

end RandDel

/-- What identifies a row of `mysql_query_rules_fast_routing`. -/
structure RowIdent where
  username : CString
  schemaname : CString
  flagIN : CString
  deriving DecidableEq

/-- A row of `mysql_query_rules_fast_routing`, as the text that the query for it gives. -/
structure FastRoutingRow extends RowIdent where
  destinationHostgroup : CString
  deriving DecidableEq

open FastRoutingRow

def RowIdent.key (row : RowIdent) : String :=
  row.username.text ++ del.text ++ row.schemaname.text ++ "---" ++ row.flagIN.text

def FastRoutingRow.hostgroup (row : FastRoutingRow) : Int :=
  CString.atoi row.destinationHostgroup.text.toList

/-- `fast_routing_hashmap_t` -/
structure FastRoutingHashmap where
  rulesFastRouting : Option FastRouting
  keysValues : List Char
  keysValuesSize : Nat

/-- `kh_put` with the value that is set for the key. -/
def FastRouting.put (table : FastRouting) (key : String) (hg : Int) : FastRouting :=
  fun k => if k = key then some hg else table k

/-- The length of a row, as the first pass adds it up. -/
def FastRoutingRow.rowLength (row : FastRoutingRow) : Nat :=
  row.username.text.length + row.schemaname.text.length + row.flagIN.text.length +
    row.destinationHostgroup.text.length + 2 + 3 + del.text.length

/-- The key of a row and the text of its hostgroup, as they stand in the blob. -/
def FastRoutingRow.bytes (row : FastRoutingRow) : List Char :=
  (row.key del).toList ++ [nul] ++ row.destinationHostgroup.text.toList ++ [nul]

/-- What the second pass does with a row: the key is written and put into the map, and the text of
the hostgroup is copied behind it. -/
def writeRow (st : FastRouting × List Char) (row : FastRoutingRow) : FastRouting × List Char :=
  (st.1.put (row.key del) row.hostgroup, st.2 ++ row.bytes del)

def createFastRoutingHashmap (rows : List FastRoutingRow) : FastRoutingHashmap :=
  if rows.length = 0 then { rulesFastRouting := none, keysValues := [], keysValuesSize := 0 }
  else
    let totSize := rows.foldl (fun size row => size + row.rowLength del) 0
    let (table, blob) := rows.foldl (writeRow del) (fun _ => none, [])
    { rulesFastRouting := some table, keysValues := blob, keysValuesSize := totSize }

/-- The string at a place of the blob and what is behind it; `none` if it does not end in it. -/
def readCString : List Char → Option (List Char × List Char)
  | [] => none
  | c :: cs =>
    if c = nul then some ([], cs)
    else (readCString cs).map fun r => (c :: r.1, r.2)

/-- The loop of a thread over its copy of the blob; `none` if it leaves the blob. -/
def rebuild : Nat → List Char → FastRouting → Option FastRouting
  | _, [], table => some table
  | 0, _ :: _, _ => none
  | fuel + 1, cs, table =>
    match readCString cs with
    | none => none
    | some (key, cs) =>
      match readCString cs with
      | none => none
      | some (value, cs) =>
        rebuild fuel cs (table.put (String.ofList key) (CString.atoi value))

/-- `_thr_SQP_rules_fast_routing`, with `query_rules_fast_routing_algorithm` 1; the outer `none`
stands for a thread that reads outside of the blob. -/
def threadFastRouting (map : FastRoutingHashmap) : Option (Option FastRouting) :=
  if map.keysValuesSize = 0 then some none
  else (rebuild map.keysValuesSize (map.keysValues.take map.keysValuesSize) fun _ => none).map some

/-- `search_rules_fast_routing_dest_hg` behind the check that there is a map. -/
def findDestHg (map : Option FastRouting) (del : RandDel) (u s : String) (flagIN : Int) : Int :=
  match map with
  | some table => searchRulesFastRoutingDestHg table del.text u s flagIN
  | none => -1

section Blob

theorem nul_notMem_key (row : RowIdent) : nul ∉ (row.key del).toList := by
  have dashes : nul ∉ "---".toList := by decide
  simp only [RowIdent.key, String.toList_append, mem_append, not_or, del.toList_text]
  exact ⟨⟨⟨⟨row.username.nul_notMem, del.nul_notMem⟩, row.schemaname.nul_notMem⟩, dashes⟩,
    row.flagIN.nul_notMem⟩

theorem length_bytes (row : FastRoutingRow) : (row.bytes del).length = row.rowLength del := by
  have dashes : "---".length = 3 := by decide
  simp only [bytes, rowLength, RowIdent.key, length_append, length_singleton, String.length_toList,
    String.length_append]
  omega

theorem readCString_append {text : List Char} (plain : nul ∉ text) (rest : List Char) :
    readCString (text ++ nul :: rest) = some (text, rest) := by
  induction text with
  | nil => simp [readCString]
  | cons c text ih =>
    simp only [mem_cons, not_or] at plain
    rw [cons_append, readCString, if_neg (Ne.symm plain.1), ih plain.2]
    rfl

section

variable (rows : List FastRoutingRow)

include rows

theorem foldl_writeRow (table : FastRouting) (blob : List Char) :
    rows.foldl (writeRow del) (table, blob) =
      (rows.foldl (fun table row => table.put (row.key del) row.hostgroup) table,
        blob ++ rows.flatMap (bytes del)) := by
  induction rows generalizing table blob with
  | nil => simp
  | cons row rows ih =>
    rw [foldl_cons, writeRow, ih]
    simp

theorem foldl_rowLength (size : Nat) : rows.foldl (fun size row => size + row.rowLength del) size =
      size + (rows.flatMap (bytes del)).length := by
  induction rows generalizing size with
  | nil => simp
  | cons row rows ih =>
    rw [foldl_cons, ih, flatMap_cons, length_append, length_bytes]
    omega

def mapOf (del : RandDel) (rows : List FastRoutingRow) : FastRouting :=
  rows.foldl (fun table row => table.put (row.key del) row.hostgroup) fun _ => none

attribute [local simp] createFastRoutingHashmap

theorem rulesFastRouting_eq (some_ : rows ≠ []) :
    (createFastRoutingHashmap del rows).rulesFastRouting = some (mapOf del rows) := by
  simp [some_, foldl_writeRow, mapOf]

theorem keysValuesSize_eq : (createFastRoutingHashmap del rows).keysValuesSize =
      (createFastRoutingHashmap del rows).keysValues.length := by
  by_cases none : rows = []
  · simp [none]
  · simp [none, foldl_writeRow, foldl_rowLength]

theorem rebuild_rows (table : FastRouting) {fuel : Nat}
    (enough : (rows.flatMap (bytes del)).length ≤ fuel) :
    rebuild fuel (rows.flatMap (bytes del)) table =
      some (rows.foldl (fun table row => table.put (row.key del) row.hostgroup) table) := by
  induction rows generalizing table fuel with
  | nil => simp [rebuild]
  | cons row rows ih =>
    have front : (row :: rows).flatMap (bytes del) = (row.key del).toList ++ nul ::
        (row.destinationHostgroup.text.toList ++ nul ::
          rows.flatMap (bytes del)) := by
      simp [bytes]
    rw [front] at enough ⊢
    simp only [length_append, length_cons] at enough
    obtain ⟨fuel, rfl⟩ : ∃ n, fuel = n + 1 := ⟨fuel - 1, by omega⟩
    rw [rebuild, readCString_append (nul_notMem_key del row.toRowIdent)]
    · dsimp only
      rw [readCString_append row.destinationHostgroup.nul_notMem]
      simp only [String.ofList_toList]
      exact ih _ (by omega)
    · simp

theorem threadFastRouting_eq : threadFastRouting (createFastRoutingHashmap del rows) =
      some (createFastRoutingHashmap del rows).rulesFastRouting := by
  by_cases none : rows = []
  · simp [threadFastRouting, none]
  · have blob : (createFastRoutingHashmap del rows).keysValues =
        rows.flatMap (bytes del) := by
      simp [none, foldl_writeRow]
    have size : (createFastRoutingHashmap del rows).keysValuesSize ≠ 0 := by
      rw [keysValuesSize_eq, blob]
      obtain ⟨row, more, rfl⟩ := exists_cons_of_ne_nil none
      simp [bytes]
    rw [threadFastRouting, if_neg size, rulesFastRouting_eq del rows none, keysValuesSize_eq,
      take_length, blob, rebuild_rows del rows _ le_rfl]
    rfl

end

end Blob

section Lookup

def lookupKey (u s : String) (flagIN : Int) : String :=
  u ++ (del.text ++ s ++ "---" ++ toString flagIN)

/-- A row for a user, schema and `flagIN`. -/
def RowIdent.isFor (row : RowIdent) (u s : String) (flagIN : Int) : Bool :=
  row.username.text = u && row.schemaname.text = s && row.flagIN.text = toString flagIN

def RowIdent.hasKey (row : RowIdent) (u s : String) (flagIN : Int) : Bool :=
  row.key del = lookupKey del u s flagIN

/-- What the search should answer: the hostgroup of the row for the user or else of the row for any
user, the last one if there are several, or else -1. -/
def specifiedHg (rows : List FastRoutingRow) (u s : String) (flagIN : Int) : Int :=
  ((rows.reverse.find? (·.isFor u s flagIN)).or (rows.reverse.find? (·.isFor "" s flagIN))).elim
    (-1) hostgroup

variable {u s : String} {flagIN : Int} {ids : List RowIdent} {id : RowIdent}

theorem hasKey_of_isFor {row : RowIdent} (isFor : row.isFor u s flagIN) :
    row.hasKey del u s flagIN := by
  simp only [RowIdent.isFor, Bool.and_eq_true, decide_eq_true_eq] at isFor
  obtain ⟨⟨user, schema⟩, flag⟩ := isFor
  simp [RowIdent.hasKey, RowIdent.key, lookupKey, user, schema, flag, String.append_assoc]

variable (rows : List FastRoutingRow)

theorem mapOf_eq (k : String) : mapOf del rows k =
      (rows.reverse.find? fun row => row.key del = k).map hostgroup := by
  have put : ∀ (table : FastRouting) (row : FastRoutingRow),
      table.put (row.key del) row.hostgroup k =
        if decide (row.key del = k) then some row.hostgroup else table k := by
    simp [FastRouting.put, eq_comm]
  exact (LastWrite.lookup_foldl (fun table : FastRouting => table k) put rows _).trans
    (Option.or_none ..)

/-- The search finds the last row with the key of the user, or else with the key of any user. -/
theorem findDestHg_eq (u s : String) (flagIN : Int) :
    findDestHg (createFastRoutingHashmap del rows).rulesFastRouting del u s flagIN =
      ((rows.reverse.find? (·.hasKey del u s flagIN)).or
        (rows.reverse.find? (·.hasKey del "" s flagIN))).elim (-1) hostgroup := by
  by_cases none : rows = []
  · simp [findDestHg, createFastRoutingHashmap, none]
  · have anyUser : lookupKey del "" s flagIN = del.text ++ s ++ "---" ++ toString flagIN :=
      String.empty_append
    simp only [rulesFastRouting_eq del rows none, findDestHg,
      searchRulesFastRoutingDestHg, mapOf_eq, RowIdent.hasKey, anyUser]
    unfold lookupKey
    cases rows.reverse.find? fun row => row.key del = u ++
      (del.text ++ s ++ "---" ++ toString flagIN)
      with
    | some row => simp
    | none =>
      cases rows.reverse.find? fun row => row.key del = del.text ++ s ++ "---" ++
        toString flagIN with
      | some row => simp
      | none => simp

/-- The rows that a lookup comes to are the ones it was made for: the last row with the key of the
user and, where there is none, the last row with the key of any user. -/
structure Unconfused (ids : List RowIdent) (u s : String) (flagIN : Int) : Prop where
  own : ∀ id ∈ ids.reverse.find? (·.hasKey del u s flagIN), id.isFor u s flagIN = true
  any : ids.reverse.find? (·.hasKey del u s flagIN) = none →
    ∀ id ∈ ids.reverse.find? (·.hasKey del "" s flagIN), id.isFor "" s flagIN = true

/-- If the first element with a property also has a stronger one, it is the first with that. -/
theorem find?_eq_of_first {α : Type} {p q : α → Bool} {xs : List α}
    (stronger : ∀ a, p a → q a) (first : ∀ a ∈ xs.find? q, p a) :
    xs.find? p = xs.find? q := by
  induction xs with
  | nil => rfl
  | cons x xs ih =>
    by_cases here : q x
    · have strong := first x (by simp [here])
      simp [here, strong]
    · have weak : ¬ p x := fun strong => here (stronger x strong)
      simp only [find?_cons_of_neg here, find?_cons_of_neg weak] at first ⊢
      exact ih first

theorem find?_toRowIdent (p : RowIdent → Bool) :
    (rows.map toRowIdent).reverse.find? p =
      (rows.reverse.find? fun row => p row.toRowIdent).map toRowIdent := by
  rw [← map_reverse, find?_map]
  rfl

theorem findDestHg_right {rows : List FastRoutingRow}
    (right : Unconfused del (rows.map toRowIdent) u s flagIN) :
    findDestHg (createFastRoutingHashmap del rows).rulesFastRouting del u s flagIN =
      specifiedHg rows u s flagIN := by
  obtain ⟨own, any⟩ := right
  simp only [find?_toRowIdent, Option.mem_map, forall_exists_index, and_imp,
    forall_apply_eq_imp_iff₂, Option.map_eq_none_iff] at own any
  have ownRow : rows.reverse.find? (·.isFor u s flagIN) =
      rows.reverse.find? (·.hasKey del u s flagIN) :=
    find?_eq_of_first (fun _ => hasKey_of_isFor del) own
  rw [findDestHg_eq, specifiedHg, ownRow]
  cases found : rows.reverse.find? (·.hasKey del u s flagIN) with
  | some row => rfl
  | none =>
    have anyRow : rows.reverse.find? (·.isFor "" s flagIN) =
        rows.reverse.find? (·.hasKey del "" s flagIN) :=
      find?_eq_of_first (fun _ => hasKey_of_isFor del) (any found)
    rw [anyRow]

/-- The row with the hostgroup 1 if it is `id` and with 0 otherwise. -/
def RowIdent.marked (id row : RowIdent) : FastRoutingRow where
  toRowIdent := row
  destinationHostgroup := ⟨if row = id then "1" else "0", by split_ifs <;> decide⟩

theorem hostgroup_marked (id row : RowIdent) :
    (id.marked row).hostgroup = if row = id then 1 else 0 := by
  show CString.atoi (if row = id then "1" else "0").toList = _
  split_ifs <;> decide

theorem find?_marked (p : RowIdent → Bool) :
    (ids.map id.marked).reverse.find? (fun row => p row.toRowIdent) =
      (ids.reverse.find? p).map id.marked := by
  rw [← map_reverse, find?_map]
  rfl

/-- Which row answers is seen if it is the only one with its hostgroup. -/
theorem isFor_of_right
    (right : findDestHg (createFastRoutingHashmap del (ids.map id.marked)).rulesFastRouting del u s
      flagIN = specifiedHg (ids.map id.marked) u s flagIN)
    (answers : (ids.reverse.find? (·.hasKey del u s flagIN)).or
      (ids.reverse.find? (·.hasKey del "" s flagIN)) = some id) :
    id.isFor u s flagIN ∨ id.isFor "" s flagIN := by
  rw [findDestHg_eq, specifiedHg] at right
  rw [find?_marked (·.hasKey del u s flagIN), find?_marked (·.hasKey del "" s flagIN),
    find?_marked (·.isFor u s flagIN), find?_marked (·.isFor "" s flagIN), ← Option.map_or,
    ← Option.map_or, answers] at right
  cases found : (ids.reverse.find? (·.isFor u s flagIN)).or
      (ids.reverse.find? (·.isFor "" s flagIN)) with
  | none => simp [found, hostgroup_marked] at right
  | some row =>
    obtain rfl : row = id := by simpa [found, hostgroup_marked] using right
    rcases Option.or_eq_some_iff.mp found with own | ⟨-, any⟩
    · exact .inl (by simpa using find?_some own)
    · exact .inr (by simpa using find?_some any)

theorem lookupKey_user {v : String} (same : lookupKey del u s flagIN = lookupKey del v s flagIN) :
    u = v := by
  have chars := congrArg String.toList same
  simp only [lookupKey, String.toList_append] at chars
  exact String.toList_inj.mp (append_cancel_right chars)

theorem unconfused_of_right
    (right : ∀ rows : List FastRoutingRow, rows.map toRowIdent = ids →
      findDestHg (createFastRoutingHashmap del rows).rulesFastRouting del u s flagIN =
        specifiedHg rows u s flagIN) : Unconfused del ids u s flagIN := by
  have marked : ∀ id : RowIdent, (ids.map id.marked).map toRowIdent = ids := by
    intro id
    rw [map_map]
    exact map_id' ids
  refine ⟨fun id found => ?_, fun none id found => ?_⟩
  · rcases isFor_of_right del (right _ (marked id)) (Option.or_eq_some_iff.mpr (.inl found))
      with own | any
    · exact own
    · have key := hasKey_of_isFor del any
      have key' := find?_some found
      simp only [RowIdent.hasKey, decide_eq_true_eq] at key key'
      obtain rfl := lookupKey_user del (key'.symm.trans key)
      exact any
  · rcases isFor_of_right del (right _ (marked id))
      (Option.or_eq_some_iff.mpr (.inr ⟨none, found⟩)) with own | any
    · have fails := find?_eq_none.mp none id (mem_of_find?_eq_some found)
      exact absurd (hasKey_of_isFor del own) fails
    · exact any

theorem not_free_nil : del.FreeFrom "" := by
  intro found
  have short := found.length_le
  simp [del.length_chars] at short

/-- No two rows have one key if the names do not hold the random part of the delimiter and no
`flagIN` is negative. -/
theorem isFor_of_hasKey (row : del.FreeFrom id.username.text) (digits : '-' ∉ id.flagIN.text.toList)
    (user : del.FreeFrom u) (nonneg : 0 ≤ flagIN) (key : id.hasKey del u s flagIN) :
    id.isFor u s flagIN := by
  have plain : '-' ∉ (toString flagIN).toList := by
    obtain ⟨n, rfl⟩ := Int.eq_ofNat_of_zero_le nonneg
    show '-' ∉ (toString n).toList
    intro mem
    rw [Nat.toString_eq_repr, Nat.repr, String.toList_ofList] at mem
    exact absurd (Nat.isDigit_of_mem_toDigits (by decide) (by decide) mem) (by decide)
  have dashes : "---".toList = ['-', '-', '-'] := by decide
  have chars := congrArg String.toList (of_decide_eq_true key)
  simp only [RowIdent.key, lookupKey, String.toList_append, del.toList_text, dashes,
    append_assoc] at chars
  obtain ⟨sameUser, rest⟩ := Delimited.join_inj del.spaced row user chars
  have dashed : ∀ t f : List Char, t ++ (['-', '-', '-'] ++ f) = (t ++ ['-', '-']) ++ '-' :: f := by
    simp
  rw [dashed, dashed] at rest
  obtain ⟨sameSchema, sameFlag⟩ := Delimited.behind_inj digits plain rest
  simp only [RowIdent.isFor, Bool.and_eq_true, decide_eq_true_eq]
  exact ⟨⟨String.toList_inj.mp sameUser, String.toList_inj.mp (append_cancel_right sameSchema)⟩,
    String.toList_inj.mp sameFlag⟩

theorem unconfused_of_free
    (rows : ∀ id ∈ ids, del.FreeFrom id.username.text ∧ '-' ∉ id.flagIN.text.toList)
    (user : del.FreeFrom u) (nonneg : 0 ≤ flagIN) : Unconfused del ids u s flagIN := by
  have right : ∀ v, del.FreeFrom v → ∀ id ∈ ids.reverse.find? (·.hasKey del v s flagIN),
      id.isFor v s flagIN := by
    intro v free id found
    have key : id.hasKey del v s flagIN := by simpa using find?_some found
    obtain ⟨row, digits⟩ := rows id (mem_reverse.mp (mem_of_find?_eq_some found))
    exact isFor_of_hasKey del row digits free nonneg key
  exact ⟨right u user, fun _ => right "" (not_free_nil del)⟩

end Lookup

/-- A lookup is answered as the rows say, whatever hostgroups they have, by the global map and by
the map of a thread, exactly if the rows it comes to are the ones it was made for; and the blob is
written to its end. -/
theorem fast_routing_right_iff (del : RandDel) (ids : List RowIdent) (u s : String) (flagIN : Int) :
    (∀ rows : List FastRoutingRow, rows.map toRowIdent = ids →
      findDestHg (createFastRoutingHashmap del rows).rulesFastRouting del u s flagIN =
          specifiedHg rows u s flagIN ∧
        (∃ table, threadFastRouting (createFastRoutingHashmap del rows) = some table ∧
          findDestHg table del u s flagIN = specifiedHg rows u s flagIN) ∧
        (createFastRoutingHashmap del rows).keysValuesSize =
          (createFastRoutingHashmap del rows).keysValues.length) ↔
      Unconfused del ids u s flagIN := by
  constructor
  · intro right
    exact unconfused_of_right del fun rows same => (right rows same).1
  · rintro unconfused rows rfl
    have right := findDestHg_right del unconfused
    exact ⟨right, ⟨_, threadFastRouting_eq del rows, right⟩, keysValuesSize_eq del rows⟩

def sampleDel : RandDel where
  core := ['k', '3', 'X', 'p', 'Q', '9', 'a', 'Z']
  length_core := rfl
  alphanum := by simp

/-- A row with a negative `flagIN`. -/
def negativeRow : FastRoutingRow where
  username := ⟨"app", by decide⟩
  schemaname := ⟨"shop", by decide⟩
  flagIN := ⟨"-1", by decide⟩
  destinationHostgroup := ⟨"5", by decide⟩

/-- The row of another schema and `flagIN` answers a lookup for which there is no row. -/
theorem negative_flag_found :
    findDestHg (createFastRoutingHashmap sampleDel [negativeRow]).rulesFastRouting sampleDel
        "app" "shop-" 1 = 5 ∧ specifiedHg [negativeRow] "app" "shop-" 1 = -1 := by
  decide +kernel

/-- Every thread finds the hostgroup of the row a lookup is made for, if no user name holds the
dashes and the random part with which the delimiter starts and no `flagIN` is negative. -/
theorem thread_lookup_right {del : RandDel} {rows : List FastRoutingRow} {u s : String}
    {flagIN : Int}
    (plain : ∀ row ∈ rows, del.FreeFrom row.username.text ∧ '-' ∉ row.flagIN.text.toList)
    (user : del.FreeFrom u) (nonneg : 0 ≤ flagIN) :
    (threadFastRouting (createFastRoutingHashmap del rows)).map (findDestHg · del u s flagIN) =
      some (specifiedHg rows u s flagIN) := by
  rw [threadFastRouting_eq, Option.map_some, findDestHg_right]
  apply unconfused_of_free del _ user nonneg
  intro id listed
  obtain ⟨row, member, rfl⟩ := mem_map.mp listed
  exact plain row member

/-- A row for any user. -/
theorem thread_lookup_right_any :
    (threadFastRouting (createFastRoutingHashmap sampleDel
      [{ negativeRow with username := ⟨"", by decide⟩, flagIN := ⟨"1", by decide⟩ }])).map
        (findDestHg · sampleDel "app" "shop" 1) = some 5 := by
  rw [thread_lookup_right (by decide) (by decide) (by decide)]
  decide

end MockProxy.QueryProcessor
