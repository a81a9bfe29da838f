import MockProxy.PreparedStatement.References

/-!
# The statements of one connection

Each connection has a table of its statements. The table of a client leads from the ids the client
knows to the ids of the manager and takes a reference for each of its entries; the table of a
backend connection knows which statements are prepared there. The destructor of a table gives the
references back, those of the clients or those of the backends by a mark in the table.
-/

namespace MockProxy.PreparedStatement

open SortedMap

/-- `MySQL_STMTs_local_v14` -/
structure LocalStmts where
  isClient : Bool
  -- the top of the stack comes first
  freeClientIds : List Nat
  localMaxStmtId : Nat
  clientStmtToGlobalIds : SortedMap Nat Nat
  globalStmtToClientIds : List (Nat × Nat)
  globalStmtToBackendStmt : SortedMap Nat Nat

/-- What decides on a purge: `max_stmts_cache`, and the time when the references of an entry with a
given client id change. -/
structure Clock where
  maxStmtsCache : Nat
  time : Nat → Int

namespace LocalStmts

def new (isClient : Bool) : LocalStmts where
  isClient
  freeClientIds := []
  localMaxStmtId := 0
  clientStmtToGlobalIds := .empty
  globalStmtToClientIds := []
  globalStmtToBackendStmt := .empty

variable (t : LocalStmts)

def setIsClient : LocalStmts := { t with isClient := true }

/-- `~MySQL_STMTs_local_v14` -/
def destroy (clock : Clock) (m : Manager) : Except Fault Manager :=
  if t.isClient then
    t.clientStmtToGlobalIds.entries.foldlM
      (fun m entry => m.refCountClient clock.maxStmtsCache (clock.time entry.1) entry.2 (-1)) m
  else
    t.globalStmtToBackendStmt.entries.foldlM (fun m entry => m.refCountServer entry.1 (-1)) m

def takeClientId : Nat × LocalStmts :=
  match t.freeClientIds with
  | id :: rest => (id, { t with freeClientIds := rest })
  | [] => (t.localMaxStmtId + 1, { t with localMaxStmtId := t.localMaxStmtId + 1 })

def link (id globalId : Nat) : LocalStmts :=
  { t with
    clientStmtToGlobalIds := t.clientStmtToGlobalIds.insert id globalId
    globalStmtToClientIds := (globalId, id) :: t.globalStmtToClientIds }

def generateNewClientStmtId (clock : Clock) (globalId : Nat) (m : Manager) :
    Except Fault (Nat × LocalStmts × Manager) := do
  let (id, t) := t.takeClientId
  if id = 0 then .error .assertion
  else
    let m ← m.refCountClient clock.maxStmtsCache (clock.time id) globalId 1
    .ok (id, t.link id globalId, m)

def findGlobalStmtIdFromClient (clientId : Nat) : Nat :=
  (t.clientStmtToGlobalIds.find? clientId).getD 0

def clientClose (clock : Clock) (clientId : Nat) (m : Manager) :
    Except Fault (LocalStmts × Manager) :=
  match t.clientStmtToGlobalIds.find? clientId with
  | none => .ok (t, m)
  | some globalId => do
    let m ← m.refCountClient clock.maxStmtsCache (clock.time clientId) globalId (-1)
    let t := { t with clientStmtToGlobalIds := t.clientStmtToGlobalIds.erase clientId }
    if (globalId, clientId) ∈ t.globalStmtToClientIds then
      .ok ({ t with
        freeClientIds := clientId :: t.freeClientIds
        globalStmtToClientIds := t.globalStmtToClientIds.erase (globalId, clientId) }, m)
    else .ok (t, m)

def backendInsert (globalId stmt : Nat) : LocalStmts :=
  { t with globalStmtToBackendStmt := t.globalStmtToBackendStmt.insert globalId stmt }

def findBackendStmtByGlobalId (globalId : Nat) : Option Nat :=
  t.globalStmtToBackendStmt.find? (globalId % 2 ^ 32)

/-! ### References of a table -/

def refs (t : LocalStmts) (id : Nat) : Int :=
  t.clientStmtToGlobalIds.total fun globalId => if globalId = id then 1 else 0

def backendRefs (t : LocalStmts) (id : Nat) : Int :=
  if (t.globalStmtToBackendStmt.find? id).isSome then 1 else 0

variable (t : LocalStmts) (id : Nat)

theorem refs_nonneg : 0 ≤ t.refs id :=
  total_nonneg fun _ _ _ => by split_ifs <;> omega

theorem one_le_refs {t : LocalStmts} {clientId globalId : Nat}
    (found : t.clientStmtToGlobalIds.find? clientId = some globalId) : 1 ≤ t.refs globalId := by
  have own : (if globalId = globalId then (1 : Int) else 0) ≤ t.refs globalId :=
    le_total found fun g => by split_ifs <;> omega
  rwa [if_pos rfl] at own

theorem backendRefs_nonneg : 0 ≤ t.backendRefs id := by
  unfold backendRefs
  split_ifs <;> omega

variable (isClient : Bool)

@[simp] theorem refs_new (id : Nat) : (new isClient).refs id = 0 := rfl

@[simp] theorem backendRefs_new (id : Nat) : (new isClient).backendRefs id = 0 :=
  rfl

/-- The table of a client: the ids that can be given out are not in use. -/
structure Fresh (t : LocalStmts) : Prop where
  pool : IdPool t.clientStmtToGlobalIds t.freeClientIds (t.localMaxStmtId + 1)
  noBackend : t.globalStmtToBackendStmt = .empty

theorem fresh_new : (new isClient).Fresh where
  pool := .empty Nat.one_pos
  noBackend := rfl

variable {hash : String → String → String → UInt64} {t : LocalStmts} {m : Manager}

theorem fresh_setIsClient (fresh : t.Fresh) : t.setIsClient.Fresh :=
  { __ := fresh }

/-- The references in the manager follow those in the table, but for those that are `left`
behind. -/
structure Moves (hash : String → String → String → UInt64) (left : Nat → Int) (m : Manager)
    (t : LocalStmts) (m' : Manager) (t' : LocalStmts) : Prop where
  kept : m'.Kept hash
  fresh : t'.Fresh
  counts : ∀ id, m'.clientCount id = m.clientCount id - t.refs id + t'.refs id + left id
  servers : ∀ id, m'.serverCount id = m.serverCount id

theorem Moves.all {m' : Manager} {t' : LocalStmts} (kept : m'.Kept hash) (fresh : t'.Fresh)
    (counts : ∀ id, m'.clientCount id = m.clientCount id - t.refs id + t'.refs id)
    (servers : ∀ id, m'.serverCount id = m.serverCount id) : Moves hash 0 m t m' t' where
  kept := kept
  fresh := fresh
  counts id := by
    rw [counts]
    exact (add_zero _).symm
  servers := servers

theorem takeClientId_spec (fresh : t.Fresh) : ∃ id free max,
    t.takeClientId = (id, { t with freeClientIds := free, localMaxStmtId := max }) ∧
      t.clientStmtToGlobalIds.find? id = none ∧ 0 < id ∧
      ∀ globalId, IdPool (t.clientStmtToGlobalIds.insert id globalId) free (max + 1) := by
  unfold takeClientId
  split
  next id rest free =>
    obtain ⟨unused, positive, pool⟩ := (free ▸ fresh.pool).pop
    exact ⟨id, rest, t.localMaxStmtId, rfl, unused, positive, pool⟩
  next free =>
    obtain ⟨unused, pool⟩ := fresh.pool.grow
    exact ⟨_, t.freeClientIds, _, rfl, unused, Nat.succ_pos _, pool⟩

theorem generateNewClientStmtId_moves (kept : m.Kept hash) (fresh : t.Fresh) {globalId : Nat}
    {info : GlobalInfo} (there : m.statement globalId = some info) (clock : Clock) :
    ∃ id t' m', t.generateNewClientStmtId clock globalId m = .ok (id, t', m') ∧
      Moves hash 0 m t m' t' := by
  obtain ⟨id, free, max, take, unused, positive, pool⟩ := takeClientId_spec fresh
  obtain ⟨a, object, -⟩ := kept.statement_iff.mp there
  have nonneg := (kept.counts a info object).1
  rw [← Manager.clientCount_of there] at nonneg
  obtain ⟨m', counted, kept', clients, servers⟩ := kept.refCountClient_counts there (.inl rfl)
    (by omega) clock.maxStmtsCache (clock.time id)
  refine ⟨id, link { t with freeClientIds := free, localMaxStmtId := max } id globalId, m', ?_, ?_⟩
  · rw [generateNewClientStmtId, take]
    dsimp only
    rw [if_neg (Nat.ne_of_gt positive), counted]
    rfl
  · refine .all kept' ⟨pool globalId, fresh.noBackend⟩ (fun id => ?_) servers
    rw [clients, refs, refs, link, total_insert _ unused]
    omega

theorem clientClose_moves (kept : m.Kept hash) (fresh : t.Fresh)
    (counted : ∀ id, t.refs id ≤ m.clientCount id) (clock : Clock) (clientId : Nat) :
    ∃ t' m', t.clientClose clock clientId m = .ok (t', m') ∧ Moves hash 0 m t m' t' := by
  unfold clientClose
  cases found : t.clientStmtToGlobalIds.find? clientId with
  | none => exact ⟨t, m, rfl, .all kept fresh (fun id => by omega) fun _ => rfl⟩
  | some globalId =>
    have referred : 0 < m.clientCount globalId :=
      lt_of_lt_of_le one_pos ((one_le_refs found).trans (counted _))
    obtain ⟨info, there, -⟩ := Manager.statement_of_countOf referred
    obtain ⟨m', lowered, kept', clients, servers⟩ := kept.refCountClient_counts there (.inr rfl)
      (by omega) clock.maxStmtsCache (clock.time clientId)
    have counts : ∀ id, m'.clientCount id = m.clientCount id - t.refs id +
        (t.clientStmtToGlobalIds.erase clientId).total fun g => if g = id then 1 else 0 := by
      intro id
      rw [clients, total_erase found, refs]
      omega
    dsimp only
    rw [lowered]
    split_ifs
    · exact ⟨_, m', rfl, .all kept' ⟨fresh.pool.release found, fresh.noBackend⟩ counts servers⟩
    · exact ⟨_, m', rfl, .all kept' ⟨fresh.pool.erase _, fresh.noBackend⟩ counts servers⟩

/-- The destructor lowers one of the counts for each of its entries. -/
theorem foldlM_lowered {lower : Manager → Nat × Nat → Except Fault Manager}
    {count other : GlobalInfo → Int} (key : Nat × Nat → Nat)
    (lowers : ∀ m entry, m.Kept hash → 0 < m.countOf count (key entry) →
      ∃ m', lower m entry = .ok m' ∧ m'.Kept hash ∧
        (∀ id, m'.countOf count id = m.countOf count id + if id = key entry then -1 else 0) ∧
        ∀ id, m'.countOf other id = m.countOf other id)
    (kept : m.Kept hash) (entries : List (Nat × Nat))
    (counted : ∀ id, (entries.countP (key · = id) : Int) ≤ m.countOf count id) :
    ∃ m', entries.foldlM lower m = .ok m' ∧ m'.Kept hash ∧
      (∀ id, m'.countOf count id = m.countOf count id - entries.countP (key · = id)) ∧
      ∀ id, m'.countOf other id = m.countOf other id := by
  induction entries generalizing m with
  | nil => exact ⟨m, rfl, kept, fun id => by simp, fun _ => rfl⟩
  | cons entry entries ih =>
    simp only [List.countP_cons, decide_eq_true_eq] at counted ⊢
    have own := counted (key entry)
    rw [if_pos rfl] at own
    obtain ⟨m₁, lowered, kept₁, counts, others⟩ := lowers m entry kept (by omega)
    have follow : ∀ id, m₁.countOf count id =
        m.countOf count id - if key entry = id then (1 : Int) else 0 := by
      intro id
      rw [counts]
      by_cases same : id = key entry
      · rw [if_pos same, if_pos same.symm]
        rfl
      · omega
    obtain ⟨m₂, ran, kept₂, counts₂, others₂⟩ := ih kept₁ fun id => by
      have bound := counted id
      push_cast at bound
      rw [follow id]
      omega
    refine ⟨m₂, ?_, kept₂, fun id => ?_, fun id => ?_⟩
    · rw [List.foldlM_cons, lowered]
      exact ran
    · rw [counts₂, follow]
      push_cast
      omega
    · rw [others₂, others]

theorem refs_eq_countP : t.refs id = t.clientStmtToGlobalIds.entries.countP (·.2 = id) := by
  unfold refs total
  induction t.clientStmtToGlobalIds.entries with
  | nil => rfl
  | cons entry entries ih => simp [List.countP_cons, ih, add_comm]

theorem backendRefs_eq_countP :
    t.backendRefs id = t.globalStmtToBackendStmt.entries.countP (·.1 = id) := by
  have keys : (t.globalStmtToBackendStmt.entries.map Prod.fst).Nodup :=
    List.pairwise_map.mpr (t.globalStmtToBackendStmt.sorted.imp ne_of_lt)
  have counts : t.globalStmtToBackendStmt.entries.countP (·.1 = id) =
      (t.globalStmtToBackendStmt.entries.map Prod.fst).count id := by
    rw [List.count, List.countP_map]
    rfl
  rw [counts, backendRefs]
  cases found : t.globalStmtToBackendStmt.find? id with
  | some stmt =>
    have mem := List.mem_map_of_mem (f := Prod.fst) (find?_eq_some.mp found)
    rw [List.count_eq_one_of_mem keys mem]
    rfl
  | none =>
    rw [List.count_eq_zero_of_not_mem]
    · rfl
    · intro mem
      obtain ⟨⟨_, stmt⟩, entry, rfl⟩ := List.mem_map.mp mem
      rw [find?_eq_some.mpr entry] at found
      cases found

def unreturned (t : LocalStmts) (id : Nat) : Int := if t.isClient then 0 else t.refs id

def GivesBack (t : LocalStmts) : Prop := t.isClient = true ∨ t.clientStmtToGlobalIds.entries = []

theorem unreturned_nonneg : 0 ≤ t.unreturned id := by
  have nonneg := t.refs_nonneg id
  unfold unreturned
  split_ifs <;> omega

theorem unreturned_eq_zero_iff : (∀ id, t.unreturned id = 0) ↔ t.GivesBack := by
  unfold unreturned GivesBack
  by_cases marked : t.isClient
  · simp [marked]
  · simp only [marked, Bool.false_eq_true, if_false, false_or]
    constructor
    · intro none
      by_contra statements
      obtain ⟨⟨clientId, globalId⟩, rest, entries⟩ := List.exists_cons_of_ne_nil statements
      have own := one_le_refs (find?_eq_some.mpr (entries ▸ List.mem_cons_self))
      have lost := none globalId
      omega
    · intro empty id
      rw [refs, total, empty]
      rfl

theorem destroy_moves (kept : m.Kept hash) (fresh : t.Fresh)
    (counted : ∀ id, t.refs id ≤ m.clientCount id) (clock : Clock) :
    ∃ m', t.destroy clock m = .ok m' ∧ Moves hash t.unreturned m t m' (new false) := by
  unfold destroy
  by_cases marked : t.isClient
  · rw [if_pos marked]
    obtain ⟨m', ran, kept', clients, servers⟩ := foldlM_lowered Prod.snd
      (fun m entry kept (referred : 0 < m.clientCount entry.2) => by
        obtain ⟨info, there, -⟩ := Manager.statement_of_countOf referred
        exact kept.refCountClient_counts there (.inr rfl) (by omega) clock.maxStmtsCache
          (clock.time entry.1))
      kept t.clientStmtToGlobalIds.entries fun id => by
        rw [← refs_eq_countP]
        exact counted id
    refine ⟨m', ran, kept', fresh_new false, fun id => ?_, servers⟩
    rw [refs_new, add_zero, unreturned, if_pos marked, add_zero, refs_eq_countP]
    exact clients id
  · -- nothing is prepared on the connection of a client
    rw [if_neg marked, fresh.noBackend]
    refine ⟨m, rfl, kept, fresh_new false, fun id => ?_, fun _ => rfl⟩
    rw [refs_new, add_zero, unreturned, if_neg marked, sub_add_cancel]

theorem destroy_backend (kept : m.Kept hash) (backend : t.isClient = false)
    (counted : ∀ id, t.backendRefs id ≤ m.serverCount id) (clock : Clock) :
    ∃ m', t.destroy clock m = .ok m' ∧ m'.Kept hash ∧ (∀ id, m'.clientCount id = m.clientCount id) ∧
      ∀ id, m'.serverCount id = m.serverCount id - t.backendRefs id := by
  simp only [destroy, backend, backendRefs_eq_countP] at counted ⊢
  obtain ⟨m', ran, kept', servers, clients⟩ := foldlM_lowered Prod.fst
    (fun m entry kept referred => by
      obtain ⟨info, there, -⟩ := Manager.statement_of_countOf referred
      exact kept.refCountServer_counts there referred)
    kept t.globalStmtToBackendStmt.entries counted
  exact ⟨m', ran, kept', clients, servers⟩

end LocalStmts

end MockProxy.PreparedStatement
