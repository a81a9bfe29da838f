import Mathlib.Data.List.DropRight
import MockProxy.DataStream.Basic
import MockProxy.Lib.PtrScans

/-!
# Long data of prepared statements

`StmtLongDataHandler` keeps what `COM_STMT_SEND_LONG_DATA` sent for the parameters of the session's
statements, one entry for each parameter. `reset` deletes the entries of a statement with
`remove_index_fast`, which moves the last entry to the place of the deleted one; as no two entries
are for the same parameter, the order does not matter to `get`.

A later chunk is appended with `realloc`. If the data is still empty then, `realloc` frees it and
gives `NULL`, which `get` cannot tell from a parameter without data. `get_calls` says when that
happens.
-/

namespace MockProxy.Session

open DataStream

/-- `stmt_long_data_t` -/
structure LongData where
  stmtId : Nat
  paramId : Nat
  -- `none` is `NULL`.
  data : Option (List Byte)
  deriving DecidableEq

def LongData.key (d : LongData) : Nat × Nat := (d.stmtId, d.paramId)

/-- `StmtLongDataHandler` -/
structure LongDataHandler where
  entries : List LongData
  distinct : (entries.map LongData.key).Nodup

namespace LongDataHandler

def empty : LongDataHandler := ⟨[], List.nodup_nil⟩

def find (key : Nat × Nat) (entries : List LongData) : Option (List Byte) :=
  (entries.find? fun d => d.key = key).bind LongData.data

variable (h : LongDataHandler) (stmtId paramId : Nat)

def get : Option (List Byte) :=
  find (stmtId, paramId) h.entries

/-! ### Adding -/

/-- `realloc` to the size with the chunk, and `memcpy` of the chunk behind what was there. -/
def appended : Option (List Byte) → List Byte → Option (List Byte)
  -- `realloc(NULL, size)` is `malloc(size)`, which also for 0 bytes is not `NULL`
  | none, chunk => some chunk
  -- `realloc(data, 0)` is `free(data)`
  | some [], [] => none
  | some data, chunk => some (data ++ chunk)

theorem getD_appended (data : Option (List Byte)) (chunk : List Byte) :
    (appended data chunk).getD [] = data.getD [] ++ chunk := by
  rcases data with _ | _ | ⟨first, rest⟩
  · rfl
  · cases chunk <;> rfl
  · rfl

def addTo (stmtId paramId : Nat) (chunk : List Byte) : List LongData → List LongData
  | [] => [⟨stmtId, paramId, some chunk⟩]
  | d :: rest =>
    if d.key = (stmtId, paramId) then ⟨d.stmtId, d.paramId, appended d.data chunk⟩ :: rest
    else d :: addTo stmtId paramId chunk rest

variable {entries : List LongData} {key : Nat × Nat}

theorem mem_keys_addTo {stmtId paramId : Nat} {chunk : List Byte}
    (member : key ∈ (addTo stmtId paramId chunk entries).map LongData.key) :
    key = (stmtId, paramId) ∨ key ∈ entries.map LongData.key := by
  induction entries with
  | nil => exact .inl (by simpa [addTo, LongData.key] using member)
  | cons d rest ih =>
    unfold addTo at member
    split at member
    · exact .inr (by simpa [LongData.key] using member)
    · rw [List.map_cons, List.mem_cons] at member
      rcases member with here | later
      · exact .inr (here ▸ List.mem_cons_self)
      · exact (ih later).imp_right (List.mem_cons_of_mem _)

variable (more : List Byte)

theorem distinct_addTo (distinct : (entries.map LongData.key).Nodup) :
    ((addTo stmtId paramId more entries).map LongData.key).Nodup := by
  induction entries with
  | nil => simp [addTo]
  | cons d rest ih =>
    rw [List.map_cons, List.nodup_cons] at distinct
    unfold addTo
    split
    · simpa [LongData.key] using distinct
    next other =>
      rw [List.map_cons, List.nodup_cons]
      refine ⟨fun member => ?_, ih distinct.2⟩
      rcases mem_keys_addTo member with same | old
      · exact other same
      · exact distinct.1 old

def add : LongDataHandler :=
  ⟨addTo stmtId paramId more h.entries, distinct_addTo stmtId paramId more h.distinct⟩

theorem find_addTo (key : Nat × Nat) (entries : List LongData) :
    find key (addTo stmtId paramId more entries) =
      if key = (stmtId, paramId) then appended (find key entries) more else find key entries := by
  induction entries with
  | nil =>
    by_cases same : key = (stmtId, paramId)
    · simp [addTo, find, LongData.key, same, appended]
    · simp [addTo, find, LongData.key, same, Ne.symm same]
  | cons d rest ih =>
    unfold addTo
    by_cases here : d.key = (stmtId, paramId)
    · have keeps : (⟨d.stmtId, d.paramId, appended d.data more⟩ : LongData).key = d.key := rfl
      rw [if_pos here]
      by_cases same : key = (stmtId, paramId)
      · simp [find, keeps, same, here]
      · have other : d.key ≠ key := fun eq => same (eq.symm.trans here)
        simp [find, keeps, other, same]
    · rw [if_neg here]
      by_cases first : d.key = key
      · have other : ¬ key = (stmtId, paramId) := fun eq => here (first.trans eq)
        simp [find, first, other]
      · simpa [find, first] using ih

/-- Adding appends to the parameter's data and leaves every other parameter alone. -/
theorem get_add (i p : Nat) : (h.add stmtId paramId more).get i p =
      if (i, p) = (stmtId, paramId) then appended (h.get i p) more else h.get i p :=
  find_addTo stmtId paramId more (i, p) h.entries

/-! ### Deleting -/

/-- The loop of `reset` keeps the entries of the other statements, in some order. -/
theorem removeWhere_stmtId (stmtId : Nat) :
    (PtrArray.removeWhere (fun d : LongData => d.stmtId = stmtId) h.entries.length 0 h.entries).Perm
      (h.entries.filter fun d => d.stmtId ≠ stmtId) := by
  have perm := PtrArray.removeWhere_perm_filter
    (fun d : LongData => d.stmtId = stmtId) [] h.entries _
    le_rfl
  simpa using perm

def reset (stmtId : Nat) : LongDataHandler where
  entries := PtrArray.removeWhere (fun d => d.stmtId = stmtId) h.entries.length 0 h.entries
  distinct := by
    have perm := (h.removeWhere_stmtId stmtId).map LongData.key
    exact perm.nodup_iff.mpr (h.distinct.sublist (List.filter_sublist.map _))

theorem find_eq_some {entries : List LongData} (distinct : (entries.map LongData.key).Nodup)
    {data : List Byte} :
    find key entries = some data ↔ ∃ d ∈ entries, d.key = key ∧ d.data = some data := by
  unfold find
  constructor
  · intro found
    obtain ⟨d, first, there⟩ := Option.bind_eq_some_iff.mp found
    exact ⟨d, List.mem_of_find?_eq_some first, by simpa using List.find?_some first, there⟩
  · rintro ⟨d, member, rfl, there⟩
    have some : (entries.find? fun d' => d'.key = d.key).isSome :=
      List.find?_isSome.mpr ⟨d, member, decide_eq_true rfl⟩
    obtain ⟨d', first⟩ := Option.isSome_iff_exists.mp some
    have same : d'.key = d.key := by simpa using List.find?_some first
    rw [first, List.inj_on_of_nodup_map distinct (List.mem_of_find?_eq_some first) member same]
    exact there

theorem get_reset (i p : Nat) :
    (h.reset stmtId).get i p = if i = stmtId then none else h.get i p := by
  have kept : ∀ d, d ∈ (h.reset stmtId).entries ↔ d ∈ h.entries ∧ d.stmtId ≠ stmtId := by
    intro d
    rw [reset, (h.removeWhere_stmtId stmtId).mem_iff]
    simp
  have isKey (d : LongData) : d.key = (i, p) → d.stmtId = i := congrArg Prod.fst
  apply Option.ext
  intro data
  rw [get, find_eq_some (h.reset stmtId).distinct]
  split_ifs with same
  · simp only [kept]
    grind
  · rw [get, find_eq_some h.distinct]
    simp only [kept]
    grind

/-! ### Calls -/

inductive Call where
  | add (stmtId paramId : Nat) (chunk : List Byte)
  | reset (stmtId : Nat)
  | get (stmtId paramId : Nat)
  deriving DecidableEq

def call (h : LongDataHandler) : Call → LongDataHandler
  | .add stmtId paramId chunk => h.add stmtId paramId chunk
  | .reset stmtId => h.reset stmtId
  | .get _ _ => h

/-- What a call adds to a parameter. -/
def chunk (i p : Nat) : Call → Option (List Byte)
  | .add stmtId paramId chunk => if (i, p) = (stmtId, paramId) then some chunk else none
  | _ => none

/-- The chunks of a parameter since the last reset of its statement. -/
def chunks (i p : Nat) (calls : List Call) : List (List Byte) :=
  (calls.rtakeWhile (· ≠ .reset i)).filterMap (chunk i p)

theorem chunks_append (i p : Nat) (calls : List Call) (c : Call) : chunks i p (calls ++ [c]) =
    if c = .reset i then [] else chunks i p calls ++ (chunk i p c).toList := by
  rw [chunks, List.rtakeWhile_concat]
  by_cases reset : c = .reset i
  · simp [reset]
  · simp only [reset, ne_eq, not_false_eq_true, decide_true, if_true, if_false,
      List.filterMap_append, ← chunks.eq_def]
    cases added : chunk i p c <;> simp [added]

/-- After any calls `get` has the chunks of the parameter, as `realloc` puts them together. -/
theorem get_foldl (calls : List Call) (i p : Nat) :
    (calls.foldl call empty).get i p = (chunks i p calls).foldl appended none := by
  induction calls using List.reverseRecOn with
  | nil => rfl
  | append_singleton calls c ih =>
    rw [List.foldl_append, List.foldl_cons, List.foldl_nil, chunks_append]
    cases c with
    | add stmtId paramId more =>
      rw [call, get_add, ih, chunk]
      by_cases same : (i, p) = (stmtId, paramId) <;> simp [same]
    | reset stmtId =>
      rw [call, get_reset, ih]
      by_cases same : i = stmtId
      · simp [same]
      · simp [same, Ne.symm same, chunk]
    | get stmtId paramId => simpa [call, chunk] using ih

/-- Of empty chunks every second one frees the data. -/
theorem foldl_appended (cs : List (List Byte)) : cs.foldl appended none =
      if cs.flatten = [] ∧ cs.length % 2 = 0 then none else some cs.flatten := by
  induction cs using List.reverseRecOn with
  | nil => rfl
  | append_singleton cs c ih =>
    rw [List.foldl_append, List.foldl_cons, List.foldl_nil, ih, List.flatten_append,
      List.length_append]
    rcases flat : cs.flatten with _ | ⟨first, rest⟩
    · rcases Nat.mod_two_eq_zero_or_one cs.length with even | odd
      · have odd : (cs.length + 1) % 2 = 1 := by omega
        simp [even, odd, appended]
      · have even : (cs.length + 1) % 2 = 0 := by omega
        cases c <;> simp [even, odd, appended]
    · simp [appended]

/-- Whatever was called, `get` has the chunks of the parameter one after the other exactly if there
are none, one of them has a byte or their number is odd, and the reset of another statement does not
change what it has. -/
theorem get_calls (calls : List Call) (i p : Nat) :
    let h := calls.foldl call empty
    let cs := chunks i p calls
    (h.get i p = (if cs = [] then none else some cs.flatten) ↔
        cs = [] ∨ (∃ c ∈ cs, c ≠ []) ∨ cs.length % 2 = 1) ∧
      ∀ stmtId ≠ i, (h.reset stmtId).get i p = h.get i p := by
  refine ⟨?_, fun stmtId other => by rw [get_reset, if_neg other.symm]⟩
  rw [get_foldl, foldl_appended]
  by_cases none : chunks i p calls = []
  · simp [none]
  · have flat : (chunks i p calls).flatten = [] ↔ ¬ ∃ c ∈ chunks i p calls, c ≠ [] := by simp
    simp only [none, if_false, flat, false_or]
    by_cases filled : ∃ c ∈ chunks i p calls, c ≠ []
    · simp [filled]
    · simp only [filled, not_false_eq_true, true_and, false_or]
      split_ifs with even
      · simp [even]
      · simp [Nat.mod_two_not_eq_zero.mp even]

/-- Two chunks without a byte leave nothing, where the empty text is expected. -/
theorem empty_chunks_lost :
    ([.add 1 0 [], .add 1 0 []].foldl call empty).get 1 0 = none ∧
      chunks 1 0 [.add 1 0 [], .add 1 0 []] = [[], []] :=
  ⟨rfl, rfl⟩

end LongDataHandler

end MockProxy.Session
