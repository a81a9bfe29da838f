import MockProxy.PreparedStatement.Manager

/-!
# The references to a statement

What each operation of the manager does to the references of every id. A purge takes only statements
away that nobody refers to, so that it changes no count; `clientCount` and `serverCount` are zero
for an id without a statement, and the sessions and connections that use the manager reason about
these counts only.
-/

namespace MockProxy.PreparedStatement

open Machine

namespace Manager

def clientCount (m : Manager) (id : Nat) : Int :=
  ((m.statement id).map GlobalInfo.refCountClient).getD 0

def serverCount (m : Manager) (id : Nat) : Int :=
  ((m.statement id).map GlobalInfo.refCountServer).getD 0

/-- `clientCount` and `serverCount` are this, for the one and the other count of a statement. -/
def countOf (count : GlobalInfo → Int) (m : Manager) (id : Nat) : Int :=
  ((m.statement id).map count).getD 0

section

variable {hash : String → String → String → UInt64} {m m' : Manager} {id : Nat} {info : GlobalInfo}

section

variable {count : GlobalInfo → Int}

theorem countOf_of (there : m.statement id = some info) : m.countOf count id = count info := by
  rw [countOf, there]
  rfl

theorem Sheds.countOf
    (unused : ∀ info, info.refCountClient = 0 ∧ info.refCountServer = 0 → count info = 0)
    (sheds : m.Sheds m') (id : Nat) : m'.countOf count id = m.countOf count id := by
  rcases sheds id with same | ⟨gone, zero⟩
  · rw [Manager.countOf, same, Manager.countOf]
  · rw [Manager.countOf, gone]
    cases there : m.statement id with
    | none => rw [Manager.countOf, there]
    | some info =>
      rw [countOf_of there, unused info (zero info there)]
      rfl

theorem statement_of_countOf (referred : 0 < m.countOf count id) :
    ∃ info, m.statement id = some info ∧ count info = m.countOf count id := by
  cases there : m.statement id with
  | none =>
    rw [countOf, there] at referred
    exact absurd referred (lt_irrefl _)
  | some info => exact ⟨info, rfl, (countOf_of there).symm⟩

end

theorem clientCount_of (there : m.statement id = some info) :
    m.clientCount id = info.refCountClient := countOf_of there

theorem serverCount_of (there : m.statement id = some info) :
    m.serverCount id = info.refCountServer := countOf_of there

variable (inv : m.Kept hash)

include inv

theorem Pending.statement_iff : m.statement id = some info ↔
      ∃ a, m.infos.find? a = some info ∧ info.statementId = id := by
  constructor
  · intro there
    obtain ⟨a, found, object⟩ := Option.bind_eq_some_iff.mp there
    obtain ⟨info', object', own⟩ := inv.find_addr found
    rw [object] at object'
    cases object'
    exact ⟨a, object, own⟩
  · rintro ⟨a, object, own⟩
    exact statement_of_find ((inv.byId id a).mpr ⟨info, object, own⟩) object

theorem Pending.countOf_modify {a : Addr} (object : m.infos.find? a = some info)
    {f : GlobalInfo → GlobalInfo} (maps : m'.mapStmtIdToInfo = m.mapStmtIdToInfo)
    (objects : m'.infos = m.infos.modify a f) (count : GlobalInfo → Int) (id : Nat) :
    m'.countOf count id =
      m.countOf count id + if id = info.statementId then count (f info) - count info else 0 := by
  have found := (inv.byId _ a).mpr ⟨info, object, rfl⟩
  split_ifs with own
  · have changed : m'.statement id = some (f info) := by
      rw [statement, maps, objects, own, found, Option.bind_some,
        SortedMap.find?_modify, if_pos rfl, object]
      rfl
    rw [countOf_of changed, own, countOf_of (statement_of_find found object)]
    omega
  · have same : m'.statement id = m.statement id := by
      rw [statement, maps, objects, statement]
      cases other : m.mapStmtIdToInfo.find? id with
      | none => rfl
      | some b =>
        rw [Option.bind_some, Option.bind_some, SortedMap.find?_modify, if_neg]
        rintro rfl
        obtain ⟨info', object', own'⟩ := inv.find_addr other
        rw [object] at object'
        cases object'
        exact own own'.symm
    rw [add_zero, countOf, same, countOf]

theorem Pending.refCountClient_counts (there : m.statement id = some info) {v : Int}
    (unit : v = 1 ∨ v = -1) (nonneg : 0 ≤ m.clientCount id + v) (maxStmtsCache : Nat) (ct : Int) :
    ∃ m', m.refCountClient maxStmtsCache ct id v = .ok m' ∧ m'.Kept hash ∧
      (∀ id', m'.clientCount id' = m.clientCount id' + if id' = id then v else 0) ∧
      ∀ id', m'.serverCount id' = m.serverCount id' := by
  obtain ⟨a, object, rfl⟩ := inv.statement_iff.mp there
  rw [clientCount_of there] at nonneg
  have found := (inv.byId _ a).mpr ⟨info, object, rfl⟩
  have counted := inv.countClient object unit nonneg
  have changed : ∀ count id', (m.countClient a info v).countOf count id' = _ :=
    inv.countOf_modify object (f := fun i => { i with refCountClient := i.refCountClient + v })
      rfl rfl
  have clients : ∀ id', (m.countClient a info v).clientCount id' =
      m.clientCount id' + if id' = info.statementId then v else 0 := by
    intro id'
    exact (changed GlobalInfo.refCountClient id').trans (by rw [add_sub_cancel_left]; rfl)
  have servers : ∀ id', (m.countClient a info v).serverCount id' = m.serverCount id' := by
    intro id'
    exact (changed GlobalInfo.refCountServer id').trans (by rw [sub_self, ite_self, add_zero]; rfl)
  unfold Manager.refCountClient
  rw [found]
  dsimp only
  rw [deref_of_find object]
  dsimp only [ok_bind]
  split_ifs
  · obtain ⟨m', purged, kept, sheds⟩ := counted.purge ct
    refine ⟨m', purged, kept, fun id' => ?_, fun id' => ?_⟩
    · exact (sheds.countOf (fun _ zero => zero.1) id').trans (clients id')
    · exact (sheds.countOf (fun _ zero => zero.2) id').trans (servers id')
  · exact ⟨_, rfl, counted, clients, servers⟩

theorem Pending.countServer_counts {a : Addr} (object : m.infos.find? a = some info) (v : Int) :
    (∀ id', (m.countServer a info v).clientCount id' = m.clientCount id') ∧
      (∀ id', (m.countServer a info v).serverCount id' =
        m.serverCount id' + if id' = info.statementId then v else 0) ∧
      (m.countServer a info v).infos.find? a =
        some { info with refCountServer := info.refCountServer + v } := by
  have changed : ∀ count id', (m.countServer a info v).countOf count id' = _ :=
    inv.countOf_modify object (f := fun i => { i with refCountServer := i.refCountServer + v })
      rfl rfl
  refine ⟨fun id' => ?_, fun id' => ?_, ?_⟩
  · exact (changed GlobalInfo.refCountClient id').trans (by rw [sub_self, ite_self, add_zero]; rfl)
  · exact (changed GlobalInfo.refCountServer id').trans (by rw [add_sub_cancel_left]; rfl)
  · show (m.infos.modify a _).find? a = _
    rw [SortedMap.find?_modify, if_pos rfl, object]
    rfl

theorem Pending.refCountServer_counts (there : m.statement id = some info)
    (referred : 0 < m.serverCount id) : ∃ m', m.refCountServer id (-1) = .ok m' ∧ m'.Kept hash ∧
      (∀ id', m'.serverCount id' = m.serverCount id' + if id' = id then -1 else 0) ∧
      ∀ id', m'.clientCount id' = m.clientCount id' := by
  obtain ⟨a, object, rfl⟩ := inv.statement_iff.mp there
  have found := (inv.byId _ a).mpr ⟨info, object, rfl⟩
  rw [serverCount_of there] at referred
  have kept := inv.countServer object (.inr rfl) (by omega)
  obtain ⟨clients, servers, -⟩ := inv.countServer_counts object (-1)
  refine ⟨_, ?_, kept, servers, clients⟩
  rw [Manager.refCountServer, found]
  dsimp only
  rw [deref_of_find object]
  rfl

theorem Pending.newStatement_statement {u s q : String} {h : UInt64}
    (object : (m.newStatement u s q h).2.infos.find? (m.newStatement u s q h).1 = some info) :
    m.statement info.statementId = none ∧
      ∀ id, id ≠ info.statementId → (m.newStatement u s q h).2.statement id = m.statement id := by
  obtain ⟨id, free, next, take, unused, -⟩ := inv.takeId
  have unallocated := inv.unallocated
  simp only [Manager.newStatement, take] at object ⊢
  rw [SortedMap.find?_insert _ unallocated, if_pos rfl] at object
  cases object
  refine ⟨by rw [statement, unused]; rfl, fun id other => ?_⟩
  simp only [statement, SortedMap.find?_insert _ unused, if_neg other]
  cases found : m.mapStmtIdToInfo.find? id with
  | none => rfl
  | some a =>
    obtain ⟨info, object, -⟩ := inv.find_addr found
    rw [Option.bind_some, Option.bind_some, SortedMap.find?_insert _ unallocated,
      if_neg (ne_of_lt (inv.allocated a info object))]

/-- The statement that `add_prepared_statement` gives back: it is the one with the hash of the
texts, and a backend connection refers to it. -/
theorem Pending.addPreparedStatement_counts (u s q : String) :
    ∃ a m' info, m.addPreparedStatement hash u s q = .ok (a, m') ∧ m'.Kept hash ∧
      m'.infos.find? a = some info ∧ (∀ id old, m.statement id = some old →
        (info.statementId = id ↔ old.hash = hash u s q)) ∧
      (∀ id, m'.clientCount id = m.clientCount id) ∧
      ∀ id, m'.serverCount id = m.serverCount id + if id = info.statementId then 1 else 0 := by
  unfold Manager.addPreparedStatement
  dsimp only
  cases found : m.mapStmtHashToInfo (hash u s q) with
  | some a =>
    obtain ⟨info, object, own, -⟩ := (inv.byHash _ a).mp found
    obtain ⟨refer, kept⟩ := inv.referServer object
    obtain ⟨clients, servers, after⟩ := inv.countServer_counts object 1
    refine ⟨a, _, _, refer, kept, after, ?_, clients, servers⟩
    intro id old there
    obtain ⟨b, object', rfl⟩ := inv.statement_iff.mp there
    constructor
    · intro same
      obtain rfl := inv.addr_unique object object' same
      rw [object] at object'
      cases object'
      exact own
    · intro same
      have found' := (inv.byHash _ b).mpr ⟨old, object', same, List.not_mem_nil⟩
      obtain rfl : a = b := Option.some.inj (found.symm.trans found')
      rw [object] at object'
      cases object'
      rfl
  | none =>
    obtain ⟨kept, info, object, noClient, noServer⟩ := inv.newStatement rfl found
    obtain ⟨gone, others⟩ := inv.newStatement_statement object
    generalize m.newStatement u s q (hash u s q) = new at *
    obtain ⟨a, m₁⟩ := new
    obtain ⟨refer, kept'⟩ := kept.referServer object
    obtain ⟨clients, servers, after⟩ := kept.countServer_counts object 1
    have there := kept.statement_iff.mpr ⟨a, object, rfl⟩
    have new : ∀ count : GlobalInfo → Int, count info = 0 →
        ∀ id, m₁.countOf count id = m.countOf count id := by
      intro count zero id
      by_cases same : id = info.statementId
      · rw [same, countOf_of there, zero, countOf, gone]
        rfl
      · rw [countOf, others id same, countOf]
    refine ⟨a, _, _, refer, kept', after, ?_, fun id => ?_, fun id => ?_⟩
    · intro id old there'
      constructor
      · rintro rfl
        rw [gone] at there'
        cases there'
      · intro same
        obtain ⟨b, object', -⟩ := inv.statement_iff.mp there'
        have found' := (inv.byHash _ b).mpr ⟨old, object', same, List.not_mem_nil⟩
        rw [found] at found'
        cases found'
    · exact (clients id).trans (new _ noClient id)
    · rw [servers]
      exact congrArg (· + _) (new _ noServer id)

end

end Manager

end MockProxy.PreparedStatement
