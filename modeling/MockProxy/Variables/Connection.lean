import MockProxy.Lib.SortedWalk
import MockProxy.Variables.Tracked

/-!
# What a connection records of the session variables

`MySQL_Connection` keeps, for a client's session as for a connection to a server, a hash and a value
for each tracked variable; hash 0 means that the variable is not set. `dynamic_variables_idx` lists
the set variables that are not of the character set, in ascending order. The setters that leave the
list alone are only called for the character set, which is why the list is always right: it is a
field of the structure, `indexed`, and the setters below have to prove it. `requires_CHANGE_USER`
relies on it.
-/

namespace MockProxy.Variables

open Function Var

/-- `MySQL_Connection_userinfo`; the hash is over the username, the password and the schema. -/
structure Userinfo where
  username : String
  schemaname : String
  hash : Nat
  deriving DecidableEq

def reorderDynamicVariablesIdx (varHash : Var → Nat) : List Var :=
  (List.finRange 59).filter fun i => lowWm < i ∧ varHash i ≠ 0

theorem reorderDynamicVariablesIdx_update_low (varHash : Var → Nat) {i : Var} (low : i < lowWm)
    (h : Nat) :
    reorderDynamicVariablesIdx (update varHash i h) = reorderDynamicVariablesIdx varHash := by
  refine List.filter_congr fun j _ => ?_
  by_cases same : j = i
  · have notDynamic : ¬ lowWm < j := by
      rw [same]
      exact not_lt.mpr low.le
    simp [notDynamic]
  · rw [update_of_ne same]

/-- `MySQL_Connection`, as far as the session variables go. `hash` is `SpookyHash::Hash32`. -/
structure MysqlConnection (hash : String → Nat) where
  userinfo : Userinfo
  varHash : Var → Nat
  value : Var → Option String
  varAbsent : Var → Bool
  dynamicVariablesIdx : List Var
  indexed : dynamicVariablesIdx = reorderDynamicVariablesIdx varHash
  hashed : ∀ i, lowWm < i → varHash i = (value i).elim 0 hash

namespace MysqlConnection

variable {hash : String → Nat}

/-- A new connection has no variable set. -/
def create (userinfo : Userinfo) : MysqlConnection hash where
  userinfo := userinfo
  varHash := fun _ => 0
  value := fun _ => none
  varAbsent := fun _ => false
  dynamicVariablesIdx := []
  indexed := by simp [reorderDynamicVariablesIdx]
  hashed := fun _ _ => rfl

/-! ### Setters and resetters -/

/-- The common end of `client_set_value` and `server_set_value`. -/
def setValue (c : MysqlConnection hash) (i : Var) (v : String) : MysqlConnection hash :=
  { c with
    varHash := update c.varHash i (hash v)
    value := update c.value i (some v)
    dynamicVariablesIdx := reorderDynamicVariablesIdx (update c.varHash i (hash v))
    indexed := rfl
    hashed := by
      intro j dynamic
      by_cases same : j = i
      · rw [same, update_self, update_self, Option.elim_some]
      · rw [update_of_ne same, update_of_ne same]
        exact c.hashed j dynamic }

/-- `client_set_hash_and_value` and `server_set_hash_and_value`; their callers pass variables of the
character set only, and the list of indexes is not rebuilt. -/
def setHashAndValue (c : MysqlConnection hash) (i : Var) (low : i < lowWm) (v : String) (h : Nat) :
    MysqlConnection hash :=
  { c with
    varHash := update c.varHash i h
    value := update c.value i (some v)
    indexed := c.indexed.trans (reorderDynamicVariablesIdx_update_low c.varHash low h).symm
    hashed := by
      intro j dynamic
      have differ : j ≠ i := (low.trans dynamic).ne'
      rw [update_of_ne differ, update_of_ne differ]
      exact c.hashed j dynamic }

/-- `SET NAMES` ("1") and `SET CHARACTER SET` ("2") before `CHARACTER_ACTION` itself is set. -/
def characterActions (c : MysqlConnection hash) (action : String) : MysqlConnection hash :=
  match c.value characterSet with
  | none => c
  | some v =>
    let h := c.varHash characterSet
    if action = "1" then
      let c := c.setHashAndValue characterSetResults characterSetResults_low v h
      let c := c.setHashAndValue characterSetClient characterSetClient_low v h
      let c := c.setHashAndValue characterSetConnection characterSetConnection_low v h
      c.setHashAndValue collationConnection collationConnection_low v h
    else if action = "2" then
      let c := c.setHashAndValue characterSetResults characterSetResults_low v h
      let c := c.setHashAndValue characterSetClient characterSetClient_low v h
      -- the character set of the database is not known here
      let c := c.setHashAndValue characterSetConnection characterSetConnection_low "" 0
      c.setHashAndValue collationConnection collationConnection_low "" 0
    else c

def clientSetValue (c : MysqlConnection hash) (i : Var) (v : String) : MysqlConnection hash :=
  if i = characterAction then (c.characterActions v).setValue i v else c.setValue i v

def serverSetValue (c : MysqlConnection hash) (i : Var) (v : Option String) :
    MysqlConnection hash :=
  match v with
  | none => c
  | some v => c.setValue i v

/-- `client_reset_value` and `server_reset_value` -/
def resetValue (c : MysqlConnection hash) (i : Var) : MysqlConnection hash :=
  if c.varHash i ≠ 0 then
    { c with
      varHash := update c.varHash i 0
      value := update c.value i none
      dynamicVariablesIdx := reorderDynamicVariablesIdx (update c.varHash i 0)
      indexed := rfl
      hashed := by
        intro j dynamic
        by_cases same : j = i
        · rw [same, update_self, update_self, Option.elim_none]
        · rw [update_of_ne same, update_of_ne same]
          exact c.hashed j dynamic }
  else c

/-- `MySQL_Connection::reset`; `var_absent` is not part of it. -/
def reset (c : MysqlConnection hash) : MysqlConnection hash :=
  { (create c.userinfo : MysqlConnection hash) with varAbsent := c.varAbsent }

/-- `var_absent[i] = true` -/
def markAbsent (c : MysqlConnection hash) (i : Var) : MysqlConnection hash :=
  { c with varAbsent := update c.varAbsent i true }

/-! ### What the setters change -/

/-- The two connections record the same about variable `j`. -/
def Same (c d : MysqlConnection hash) (j : Var) : Prop :=
  d.varHash j = c.varHash j ∧ d.value j = c.value j

theorem Same.trans {c d e : MysqlConnection hash} {j : Var} (first : Same c d j)
    (second : Same d e j) : Same c e j :=
  ⟨second.1.trans first.1, second.2.trans first.2⟩

section

variable (c : MysqlConnection hash)

include c

theorem same_setValue {i j : Var} (differ : j ≠ i) (v : String) : Same c (c.setValue i v) j :=
  ⟨update_of_ne differ .., update_of_ne differ ..⟩

theorem same_setHashAndValue {i j : Var} (low : i < lowWm)
    (dynamic : lowWm < j) (v : String) (h : Nat) : Same c (c.setHashAndValue i low v h) j :=
  ⟨update_of_ne (low.trans dynamic).ne' .., update_of_ne (low.trans dynamic).ne' ..⟩

theorem same_characterActions {j : Var} (dynamic : lowWm < j)
    (action : String) : Same c (c.characterActions action) j := by
  have step := fun (d : MysqlConnection hash) i (low : i < lowWm) v h =>
    d.same_setHashAndValue low dynamic v h
  unfold characterActions
  split
  · exact ⟨rfl, rfl⟩
  · split_ifs
    on_goal 3 => exact ⟨rfl, rfl⟩
    all_goals
      exact (((step _ _ _ _ _).trans (step _ _ _ _ _)).trans (step _ _ _ _ _)).trans
        (step _ _ _ _ _)

theorem same_clientSetValue {i j : Var} (dynamic : lowWm < j)
    (differ : j ≠ i) (v : String) : Same c (c.clientSetValue i v) j := by
  unfold clientSetValue
  split
  · exact (c.same_characterActions dynamic v).trans (same_setValue _ differ v)
  · exact c.same_setValue differ v

theorem same_serverSetValue {i j : Var} (differ : j ≠ i)
    (v : Option String) : Same c (c.serverSetValue i v) j := by
  cases v with
  | none => exact ⟨rfl, rfl⟩
  | some v => exact c.same_setValue differ v

theorem serverSetValue_value (i : Var) (v : String) :
    (c.serverSetValue i (some v)).value i = some v :=
  update_self ..

/-- What is still set after `i` was reset is another variable, and as it was. -/
theorem same_of_resetValue {i j : Var}
    (isSet : (c.resetValue i).varHash j ≠ 0) : j ≠ i ∧ Same c (c.resetValue i) j := by
  unfold resetValue at isSet ⊢
  split at isSet
  next wasSet =>
    have differ : j ≠ i := by
      rintro rfl
      exact isSet (update_self ..)
    rw [if_pos wasSet]
    exact ⟨differ, update_of_ne differ .., update_of_ne differ ..⟩
  next wasUnset =>
    have differ : j ≠ i := by
      rintro rfl
      exact wasUnset isSet
    rw [if_neg wasUnset]
    exact ⟨differ, rfl, rfl⟩

end

variable (c : MysqlConnection hash)

@[simp] theorem resetValue_varAbsent (i : Var) : (c.resetValue i).varAbsent = c.varAbsent := by
  unfold resetValue
  split <;> rfl

@[simp] theorem serverSetValue_varAbsent (i : Var) (v : Option String) :
    (c.serverSetValue i v).varAbsent = c.varAbsent := by
  cases v <;> rfl

/-! ### `requires_CHANGE_USER` -/

variable (server client : MysqlConnection hash)

/-- `server.requires_CHANGE_USER(client)` -/
def requiresChangeUser : Bool :=
  if server.userinfo.username ≠ client.userinfo.username then true
  else if (List.finRange 59).any fun i =>
      i < lowWm ∧ client.varHash i = 0 ∧ server.varHash i ≠ 0 then true
  else if client.dynamicVariablesIdx.length < server.dynamicVariablesIdx.length then true
  else SortedWalk.missing server.dynamicVariablesIdx client.dynamicVariablesIdx

def Leaks (i : Var) : Prop :=
  server.varHash i ≠ 0 ∧ client.varHash i = 0

theorem pairwise_dynamicVariablesIdx : c.dynamicVariablesIdx.Pairwise (· < ·) := by
  rw [c.indexed]
  exact (List.pairwise_lt_finRange 59).sublist List.filter_sublist

theorem mem_dynamicVariablesIdx {i : Var} :
    i ∈ c.dynamicVariablesIdx ↔ lowWm < i ∧ c.varHash i ≠ 0 := by
  simp [c.indexed, reorderDynamicVariablesIdx]

variable (server client : MysqlConnection hash)

theorem exists_notMem_iff_leaks :
    (∃ i ∈ server.dynamicVariablesIdx, i ∉ client.dynamicVariablesIdx) ↔
      ∃ i, lowWm < i ∧ Leaks server client i := by
  simp only [mem_dynamicVariablesIdx]
  constructor
  · rintro ⟨i, ⟨dynamic, isSet⟩, absent⟩
    exact ⟨i, dynamic, isSet, by simpa [dynamic] using absent⟩
  · rintro ⟨i, dynamic, isSet, unset⟩
    exact ⟨i, ⟨dynamic, isSet⟩, by simp [unset]⟩

theorem compares_iff :
    (client.dynamicVariablesIdx.length < server.dynamicVariablesIdx.length ∨
      SortedWalk.missing server.dynamicVariablesIdx client.dynamicVariablesIdx) ↔
    ∃ i, lowWm < i ∧ Leaks server client i := by
  rw [SortedWalk.missing_iff server.pairwise_dynamicVariablesIdx
    client.pairwise_dynamicVariablesIdx, ← exists_notMem_iff_leaks]
  constructor
  · rintro (shorter | absent)
    · have distinct := server.pairwise_dynamicVariablesIdx.imp ne_of_lt
      exact SortedWalk.exists_notMem_of_length_lt distinct shorter
    · exact absent
  · exact .inr

theorem requiresChangeUser_iff :
    server.requiresChangeUser client ↔ server.userinfo.username ≠ client.userinfo.username ∨
        ∃ i, i ≠ lowWm ∧ Leaks server client i := by
  have characterSet : ((List.finRange 59).any fun i =>
      i < lowWm ∧ client.varHash i = 0 ∧ server.varHash i ≠ 0) ↔
      ∃ i, i < lowWm ∧ Leaks server client i := by
    simp [Leaks, and_comm]
  have split : (∃ i, i ≠ lowWm ∧ Leaks server client i) ↔
      (∃ i, i < lowWm ∧ Leaks server client i) ∨ ∃ i, lowWm < i ∧ Leaks server client i := by
    simp only [ne_iff_lt_or_gt, or_and_right, exists_or]
  rw [split, ← characterSet, ← compares_iff]
  unfold requiresChangeUser
  split
  next differ =>
    exact iff_of_true rfl (.inl differ)
  rename_i sameName
  split
  next found =>
    exact iff_of_true rfl (.inr (.inl found))
  rename_i noneFound
  split
  next shorter =>
    exact iff_of_true rfl (.inr (.inr (.inl shorter)))
  next notShorter =>
    rw [or_iff_right sameName, or_iff_right noneFound, or_iff_right notShorter]

end MysqlConnection

end MockProxy.Variables
