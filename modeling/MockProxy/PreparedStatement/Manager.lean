import MockProxy.Lib.IdPool
import MockProxy.Lib.Machine

/-!
# The manager of the prepared statements

All sessions share the statements of one manager. Two maps lead to a statement, one from its id and
one from the hash of its user, schema and text; two counters say how many statements no client and
how many no backend connection refers to, and two totals add up the references. A change of the
references of the clients may start a purge, which removes unused statements from both maps and
keeps their ids for the next statements.

`Pending hash m pending` is the invariant, also between the two loops of the purge, where the
statements in `pending` have left the map of the hashes and wait to leave the map of the ids.
`manager_run_consistent` reads the bookkeeping off it for every run.
-/

namespace MockProxy.PreparedStatement

open Machine SortedMap List

abbrev Addr := Nat

/-- `MySQL_STMT_Global_info` -/
structure GlobalInfo where
  statementId : Nat
  username : String
  schemaname : String
  query : String
  hash : UInt64
  refCountClient : Int
  refCountServer : Int
  deriving DecidableEq, Repr

/-- `MySQL_STMT_Manager_v14`, with the objects its maps point to. -/
structure Manager where
  nextStatementId : Nat
  numStmtWithRefClientCountZero : Int
  numStmtWithRefServerCountZero : Int
  mapStmtIdToInfo : SortedMap Nat Addr
  mapStmtHashToInfo : UInt64 → Option Addr
  -- the top of the stack comes first
  freeStmtIds : List Nat
  cTotal : Int
  sTotal : Int
  lastPurgeTime : Int
  infos : SortedMap Addr GlobalInfo
  -- no object was allocated here or above
  brk : Addr

inductive Fault where
  -- a pointer to no object was followed
  | dangling
  -- the end of a map was used as an entry
  | pastEnd
  | assertion
  deriving DecidableEq, Repr

namespace Manager

def init (time : Int) : Manager where
  nextStatementId := 1
  numStmtWithRefClientCountZero := 0
  numStmtWithRefServerCountZero := 0
  mapStmtIdToInfo := .empty
  mapStmtHashToInfo _ := none
  freeStmtIds := []
  cTotal := 0
  sTotal := 0
  lastPurgeTime := time
  infos := .empty
  brk := 0

variable (m : Manager)

def deref (a : Addr) : Except Fault GlobalInfo :=
  match m.infos.find? a with
  | some info => .ok info
  | none => .error .dangling

/-! ### The purge -/

/-- The first loop. The array `torem` is a stack; the loop ends early if it is full or has as many
entries as there were statements without a client. -/
def purgeScan (maxPurge : Nat) (numClientCountZero : Int) :
    List (Nat × Addr) → List Nat → Manager → Except Fault (Manager × List Nat)
  | [], torem, m => .ok (m, torem)
  | (id, a) :: rest, torem, m =>
    if torem.length = maxPurge ∨ (torem.length : Int) = numClientCountZero then .ok (m, torem)
    else do
      let info ← m.deref a
      if info.refCountClient = 0 ∧ info.refCountServer = 0 then
        purgeScan maxPurge numClientCountZero rest (id :: torem)
          { m with
            mapStmtHashToInfo := Function.update m.mapStmtHashToInfo info.hash none
            numStmtWithRefClientCountZero := m.numStmtWithRefClientCountZero - 1 }
      else purgeScan maxPurge numClientCountZero rest torem m

/-- One round of the second loop. -/
def purgeRemove (id : Nat) : Except Fault Manager :=
  match m.mapStmtIdToInfo.find? id with
  | none => .error .pastEnd
  | some a => do
    let info ← m.deref a
    let freed : Manager :=
      if info.refCountServer = 0 then
        { m with
          numStmtWithRefServerCountZero := m.numStmtWithRefServerCountZero - 1
          freeStmtIds := id :: m.freeStmtIds }
      else m
    .ok { freed with
      mapStmtIdToInfo := m.mapStmtIdToInfo.erase id
      sTotal := m.sTotal - info.refCountServer
      infos := m.infos.erase a }

/-- A purge needs a second since the last one, more statements than `max_stmts_cache`, and a gain of
at least a tenth of them. -/
def purgeDue (maxStmtsCache : Nat) (ct : Int) : Bool :=
  let mapSize := m.mapStmtIdToInfo.size
  ct > m.lastPurgeTime + 1 && mapSize > maxStmtsCache &&
    m.numStmtWithRefClientCountZero > (mapSize / 10 : Nat) &&
    m.numStmtWithRefServerCountZero > (mapSize / 10 : Nat)

def purge (ct : Int) : Except Fault Manager := do
  let (m', torem) ← purgeScan m.mapStmtIdToInfo.size m.numStmtWithRefClientCountZero
    m.mapStmtIdToInfo.entries [] { m with lastPurgeTime := ct }
  torem.foldlM purgeRemove m'

/-! ### The operations -/

/-- The change of a counter of statements without references, when the references `count` of one
change by `v`. -/
def zeroChange (count v : Int) : Int :=
  if count = 0 ∧ v = 1 then -1 else if count = 1 ∧ v = -1 then 1 else 0

def countClient (a : Addr) (info : GlobalInfo) (v : Int) : Manager :=
  { m with
    cTotal := m.cTotal + v
    numStmtWithRefClientCountZero :=
      m.numStmtWithRefClientCountZero + zeroChange info.refCountClient v
    infos := m.infos.modify a fun info =>
      { info with refCountClient := info.refCountClient + v } }

def refCountClient (maxStmtsCache : Nat) (ct : Int) (stmtId : Nat) (v : Int) :
    Except Fault Manager :=
  match m.mapStmtIdToInfo.find? stmtId with
  | none => .ok m
  | some a => do
    let info ← m.deref a
    let counted := m.countClient a info v
    if counted.purgeDue maxStmtsCache ct then counted.purge ct else .ok counted

def countServer (a : Addr) (info : GlobalInfo) (v : Int) : Manager :=
  { m with
    sTotal := m.sTotal + v
    numStmtWithRefServerCountZero :=
      m.numStmtWithRefServerCountZero + zeroChange info.refCountServer v
    infos := m.infos.modify a fun info =>
      { info with refCountServer := info.refCountServer + v } }

def refCountServer (stmtId : Nat) (v : Int) : Except Fault Manager :=
  match m.mapStmtIdToInfo.find? stmtId with
  | none => .ok m
  | some a => do
    let info ← m.deref a
    .ok (m.countServer a info v)

def takeId : Nat × Manager :=
  match m.freeStmtIds with
  | id :: rest => (id, { m with freeStmtIds := rest })
  | [] => (m.nextStatementId, { m with nextStatementId := m.nextStatementId + 1 })

/-- A new statement in both maps. -/
def newStatement (u s q : String) (hash : UInt64) : Addr × Manager :=
  let (nextId, m) := m.takeId
  let info : GlobalInfo :=
    { statementId := nextId, username := u, schemaname := s, query := q, hash,
      refCountClient := 0, refCountServer := 0 }
  (m.brk,
    { m with
      mapStmtIdToInfo := m.mapStmtIdToInfo.insert nextId m.brk
      mapStmtHashToInfo := Function.update m.mapStmtHashToInfo hash (some m.brk)
      numStmtWithRefClientCountZero := m.numStmtWithRefClientCountZero + 1
      numStmtWithRefServerCountZero := m.numStmtWithRefServerCountZero + 1
      infos := m.infos.insert m.brk info
      brk := m.brk + 1 })

def referServer (a : Addr) : Except Fault (Addr × Manager) := do
  let info ← m.deref a
  .ok (a, m.countServer a info 1)

variable (computeHash : String → String → String → UInt64)

/-- The statement with the hash of the three texts, a new one if there is none; `computeHash` is
`stmt_compute_hash`. -/
def addPreparedStatement (m : Manager) (u s q : String) : Except Fault (Addr × Manager) :=
  let hash := computeHash u s q
  match m.mapStmtHashToInfo hash with
  | some a => m.referServer a
  | none => (m.newStatement u s q hash).2.referServer (m.newStatement u s q hash).1

def findPreparedStatementByHash (hash : UInt64) : Option Addr :=
  m.mapStmtHashToInfo hash

def findPreparedStatementByStmtId (id : Nat) : Option Addr :=
  m.mapStmtIdToInfo.find? id

def statement (id : Nat) : Option GlobalInfo :=
  (m.mapStmtIdToInfo.find? id).bind m.infos.find?

def Sheds (m m' : Manager) : Prop :=
  ∀ id, m'.statement id = m.statement id ∨ m'.statement id = none ∧
    ∀ info ∈ m.statement id, info.refCountClient = 0 ∧ info.refCountServer = 0

theorem Sheds.trans {m₁ m₂ m₃ : Manager} (first : m₁.Sheds m₂) (second : m₂.Sheds m₃) :
    m₁.Sheds m₃ := by
  intro id
  rcases second id with same | ⟨gone, unused⟩
  · rw [same]
    exact first id
  · refine .inr ⟨gone, ?_⟩
    rcases first id with same | ⟨-, unused'⟩
    · rwa [same] at unused
    · exact unused'

/-! ### The invariant -/

/-- The bookkeeping, with the statements `pending` about to be removed. -/
structure Pending (hash : String → String → String → UInt64) (m : Manager) (pending : List Nat) :
    Prop where
  byId : ∀ id a, m.mapStmtIdToInfo.find? id = some a ↔
    ∃ info, m.infos.find? a = some info ∧ info.statementId = id
  byHash : ∀ h a, m.mapStmtHashToInfo h = some a ↔
    ∃ info, m.infos.find? a = some info ∧ info.hash = h ∧ info.statementId ∉ pending
  clientZero : m.numStmtWithRefClientCountZero + pending.length =
    m.infos.total fun info => if info.refCountClient = 0 then 1 else 0
  serverZero : m.numStmtWithRefServerCountZero =
    m.infos.total fun info => if info.refCountServer = 0 then 1 else 0
  cTotal : m.cTotal = m.infos.total GlobalInfo.refCountClient
  sTotal : m.sTotal = m.infos.total GlobalInfo.refCountServer
  counts : ∀ a info, m.infos.find? a = some info →
    0 ≤ info.refCountClient ∧ 0 ≤ info.refCountServer
  pool : IdPool m.mapStmtIdToInfo m.freeStmtIds m.nextStatementId
  allocated : ∀ a info, m.infos.find? a = some info → a < m.brk
  pendingNodup : pending.Nodup
  pendingUnused : ∀ id ∈ pending, ∃ a info, m.infos.find? a = some info ∧
    info.statementId = id ∧ info.refCountClient = 0 ∧ info.refCountServer = 0
  hashed : ∀ a info, m.infos.find? a = some info →
    info.hash = hash info.username info.schemaname info.query

variable (hash : String → String → String → UInt64)

abbrev Kept (m : Manager) : Prop := m.Pending hash []

theorem kept_init (time : Int) : (init time).Kept hash where
  byId id a := by simp [init]
  byHash h a := by simp [init]
  clientZero := by simp [init]
  serverZero := by simp [init]
  cTotal := by simp [init]
  sTotal := by simp [init]
  counts a info found := by simp [init] at found
  pool := .empty Nat.one_pos
  allocated a info found := by simp [init] at found
  pendingNodup := nodup_nil
  pendingUnused id mem := by simp at mem
  hashed a info found := by simp [init] at found

variable {hash : String → String → String → UInt64} {m : Manager}

section

variable {pending : List Nat} {a b : Addr} {info info' : GlobalInfo} {id : Nat} {v : Int}

theorem deref_of_find (found : m.infos.find? a = some info) : m.deref a = .ok info := by
  rw [deref, found]

section

variable (inv : m.Pending hash pending)

include inv

theorem Pending.unallocated : m.infos.find? m.brk = none := by
  cases found : m.infos.find? m.brk with
  | none => rfl
  | some info => exact absurd (inv.allocated _ info found) (lt_irrefl _)

theorem Pending.addr_unique (first : m.infos.find? a = some info)
    (second : m.infos.find? b = some info') (same : info.statementId = info'.statementId) :
    a = b := by
  have byFirst := (inv.byId _ a).mpr ⟨info, first, rfl⟩
  have bySecond := (inv.byId _ b).mpr ⟨info', second, same.symm⟩
  exact Option.some.inj (byFirst.symm.trans bySecond)

theorem Pending.find_addr (found : m.mapStmtIdToInfo.find? id = some a) :
    ∃ info, m.infos.find? a = some info ∧ info.statementId = id :=
  (inv.byId id a).mp found

theorem Pending.scanned (object : m.infos.find? a = some info) (own : info.statementId = id)
    (fresh : id ∉ pending) (unused : info.refCountClient = 0 ∧ info.refCountServer = 0) :
    Pending hash { m with
        mapStmtHashToInfo := Function.update m.mapStmtHashToInfo info.hash none
        numStmtWithRefClientCountZero := m.numStmtWithRefClientCountZero - 1 } (id :: pending) where
  __ := inv
  byHash h b := by
    show Function.update m.mapStmtHashToInfo info.hash none h = some b ↔
      ∃ info', m.infos.find? b = some info' ∧ info'.hash = h ∧ info'.statementId ∉ id :: pending
    have own' := (inv.byHash info.hash a).mpr ⟨info, object, rfl, own ▸ fresh⟩
    by_cases same : h = info.hash
    · subst same
      rw [Function.update_self]
      constructor
      · intro none
        cases none
      · -- the hash leads to the statement that leaves
        rintro ⟨info', object', hash, others⟩
        rw [mem_cons, not_or] at others
        have there := (inv.byHash _ b).mpr ⟨info', object', hash, others.2⟩
        obtain rfl : a = b := Option.some.inj (own'.symm.trans there)
        obtain rfl : info = info' := Option.some.inj (object.symm.trans object')
        exact absurd own others.1
    · rw [Function.update_of_ne same, inv.byHash]
      constructor
      · rintro ⟨info', object', rfl, others⟩
        refine ⟨info', object', rfl, ?_⟩
        rw [mem_cons, not_or]
        refine ⟨fun eq => same ?_, others⟩
        obtain rfl := inv.addr_unique object object' (own.trans eq.symm)
        rw [object] at object'
        rw [Option.some.inj object']
      · rintro ⟨info', object', hash, others⟩
        exact ⟨info', object', hash, fun mem => others (mem_cons_of_mem _ mem)⟩
  clientZero := by
    have before := inv.clientZero
    rw [length_cons]
    push_cast
    omega
  pendingNodup := nodup_cons.mpr ⟨fresh, inv.pendingNodup⟩
  pendingUnused := forall_mem_cons.mpr ⟨⟨a, info, object, own, unused⟩, inv.pendingUnused⟩

end

theorem Pending.purgeScan (maxPurge : Nat) (numClientCountZero : Int)
    {entries : List (Nat × Addr)} (sorted : entries.Pairwise fun x y => x.1 < y.1)
    (inv : m.Pending hash pending)
    (inMap : ∀ entry ∈ entries, m.mapStmtIdToInfo.find? entry.1 = some entry.2)
    (fresh : ∀ entry ∈ entries, entry.1 ∉ pending) :
    ∃ m' torem, Manager.purgeScan maxPurge numClientCountZero entries pending m = .ok (m', torem) ∧
      m'.Pending hash torem ∧ ∀ id, m'.statement id = m.statement id := by
  induction entries generalizing m pending with
  | nil => exact ⟨m, pending, rfl, inv, fun _ => rfl⟩
  | cons entry rest ih =>
    obtain ⟨id, a⟩ := entry
    obtain ⟨above, sorted⟩ := pairwise_cons.mp sorted
    rw [Manager.purgeScan]
    split_ifs with full
    · exact ⟨m, pending, rfl, inv, fun _ => rfl⟩
    · have here := mem_cons_self (a := (id, a)) (l := rest)
      obtain ⟨info, object, own⟩ := inv.find_addr (inMap _ here)
      rw [deref_of_find object]
      dsimp only [ok_bind]
      have inMapRest := fun entry mem => inMap entry (mem_cons_of_mem _ mem)
      have freshRest := fun entry mem => fresh entry (mem_cons_of_mem _ mem)
      split_ifs with unused
      · refine ih sorted (inv.scanned object own (fresh _ here) unused) inMapRest ?_
        intro entry mem collected
        rcases mem_cons.mp collected with same | collected
        · exact absurd (above entry mem) (by rw [same]; exact lt_irrefl _)
        · exact freshRest entry mem collected
      · exact ih sorted inv inMapRest freshRest

/-- Where a statement has left both maps, the objects and the ids that are left belong together as
before. -/
theorem Pending.statementId_ne_iff (inv : m.Pending hash pending)
    (object : m.infos.find? a = some info) (object' : m.infos.find? b = some info') :
    info'.statementId ≠ info.statementId ↔ b ≠ a := by
  constructor
  · rintro other rfl
    exact other (by rw [Option.some.inj (object'.symm.trans object)])
  · intro other same
    exact other (inv.addr_unique object' object same)

theorem Pending.purgeRemove (inv : m.Pending hash (id :: pending)) :
    ∃ m', m.purgeRemove id = .ok m' ∧ m'.Pending hash pending ∧ m.Sheds m' := by
  obtain ⟨a, info, object, rfl, noClient, noServer⟩ := inv.pendingUnused id mem_cons_self
  obtain ⟨notPending, nodup⟩ := nodup_cons.mp inv.pendingNodup
  have inMap := (inv.byId _ a).mpr ⟨info, object, rfl⟩
  have apart {b info'} (object' : m.infos.find? b = some info') :=
    inv.statementId_ne_iff object object'
  refine ⟨_, by rw [Manager.purgeRemove, inMap]; simp only [deref_of_find object]; rfl, ?_, ?_⟩
  all_goals simp only [noServer, if_true]
  · exact {
      byId := by
        intro id' b
        simp only [find?_erase_eq_some, inv.byId]
        constructor
        · rintro ⟨other, info', object', rfl⟩
          exact ⟨info', ⟨(apart object').mp other, object'⟩, rfl⟩
        · rintro ⟨info', ⟨other, object'⟩, rfl⟩
          exact ⟨(apart object').mpr other, info', object', rfl⟩
      byHash := by
        intro h b
        simp only [find?_erase_eq_some, inv.byHash, mem_cons, not_or]
        constructor
        · rintro ⟨info', object', hash, other, away⟩
          exact ⟨info', ⟨(apart object').mp other, object'⟩, hash, away⟩
        · rintro ⟨info', ⟨other, object'⟩, hash, away⟩
          exact ⟨info', object', hash, (apart object').mpr other, away⟩
      clientZero := by
        have before := inv.clientZero
        rw [total_erase object, ← before, length_cons]
        push_cast
        omega
      serverZero := by
        rw [total_erase object, if_pos noServer, ← inv.serverZero]
      cTotal := by
        rw [total_erase object, noClient, ← inv.cTotal]
        exact (sub_zero _).symm
      sTotal := by
        rw [total_erase object, noServer, ← inv.sTotal]
      counts := forall_erase inv.counts a
      pool := inv.pool.release inMap
      allocated := forall_erase inv.allocated a
      hashed := forall_erase inv.hashed a
      pendingNodup := nodup
      pendingUnused := by
        intro id' mem
        obtain ⟨b, info', object', rfl, unused⟩ := inv.pendingUnused id' (mem_cons_of_mem _ mem)
        have other : b ≠ a := (apart object').mp fun same => notPending (same ▸ mem)
        exact ⟨b, info', find?_erase_eq_some.mpr ⟨other, object'⟩, rfl, unused⟩ }
  · intro id'
    by_cases same : id' = info.statementId
    · subst same
      refine .inr ⟨by simp [statement, find?_erase], ?_⟩
      intro info' found
      rw [statement, inMap, Option.bind_some, object] at found
      cases found
      exact ⟨noClient, noServer⟩
    · refine .inl ?_
      simp only [statement, find?_erase, if_neg same]
      cases found : m.mapStmtIdToInfo.find? id' with
      | none => rfl
      | some b =>
        obtain ⟨info', object', rfl⟩ := inv.find_addr found
        rw [Option.bind_some, Option.bind_some, if_neg ((apart object').mp same)]

theorem Pending.foldlM_purgeRemove (inv : m.Pending hash pending) :
    ∃ m', pending.foldlM Manager.purgeRemove m = .ok m' ∧ m'.Kept hash ∧ m.Sheds m' := by
  induction pending generalizing m with
  | nil => exact ⟨m, rfl, inv, fun _ => .inl rfl⟩
  | cons id pending ih =>
    obtain ⟨m₁, removed, inv₁, sheds₁⟩ := inv.purgeRemove
    obtain ⟨m₂, rest, inv₂, sheds₂⟩ := ih inv₁
    refine ⟨m₂, ?_, inv₂, sheds₁.trans sheds₂⟩
    rw [foldlM_cons, removed]
    exact rest

theorem Pending.purge (inv : m.Kept hash) (ct : Int) :
    ∃ m', m.purge ct = .ok m' ∧ m'.Kept hash ∧ m.Sheds m' := by
  have timed : Kept hash { m with lastPurgeTime := ct } := { __ := inv }
  obtain ⟨m₁, torem, scan, inv₁, same⟩ := timed.purgeScan m.mapStmtIdToInfo.size
    m.numStmtWithRefClientCountZero m.mapStmtIdToInfo.sorted
    (fun entry mem => find?_eq_some.mpr mem) (by simp)
  obtain ⟨m₂, removed, inv₂, sheds⟩ := inv₁.foldlM_purgeRemove
  have first : m.Sheds m₁ := fun id => .inl (same id)
  refine ⟨m₂, ?_, inv₂, first.trans sheds⟩
  rw [Manager.purge, scan]
  exact removed

/-! ### The other operations -/

theorem zeroChange_eq {count : Int} (unit : v = 1 ∨ v = -1) (before : 0 ≤ count)
    (after : 0 ≤ count + v) :
    zeroChange count v = (if count + v = 0 then 1 else 0) - (if count = 0 then 1 else 0) := by
  unfold zeroChange
  grind

theorem Pending.takeId (inv : m.Kept hash) : ∃ id free next,
    m.takeId = (id, { m with freeStmtIds := free, nextStatementId := next }) ∧
      m.mapStmtIdToInfo.find? id = none ∧ ∀ a,
        IdPool (m.mapStmtIdToInfo.insert id a) free next := by
  unfold Manager.takeId
  split
  next id rest free =>
    obtain ⟨unused, -, pool⟩ := (free ▸ inv.pool).pop
    exact ⟨id, rest, m.nextStatementId, rfl, unused, pool⟩
  next free =>
    obtain ⟨unused, pool⟩ := inv.pool.grow
    exact ⟨m.nextStatementId, m.freeStmtIds, m.nextStatementId + 1, rfl, unused, pool⟩

theorem Pending.newStatement (inv : m.Kept hash) {u s q : String} {h : UInt64}
    (own : h = hash u s q)
    (fresh : m.mapStmtHashToInfo h = none) : (m.newStatement u s q h).2.Kept hash ∧
      ∃ info, (m.newStatement u s q h).2.infos.find? (m.newStatement u s q h).1 = some info ∧
        info.refCountClient = 0 ∧ info.refCountServer = 0 := by
  obtain ⟨id, free, next, take, unused, pool⟩ := inv.takeId
  unfold Manager.newStatement
  rw [take]
  have unallocated := inv.unallocated
  have objects {a : Addr} {info new : GlobalInfo} :
      (m.infos.insert m.brk new).find? a = some info ↔
        a = m.brk ∧ info = new ∨ m.infos.find? a = some info :=
    find?_insert_eq_some unallocated
  refine ⟨?_, _, objects.mpr (.inl ⟨rfl, rfl⟩), rfl, rfl⟩
  exact
    { byId := by
        simp only [find?_insert_eq_some unused, objects, or_and_right, exists_or, ← inv.byId]
        simp [eq_comm, and_comm]
      byHash := by
        intro h' a
        simp only [objects, or_and_right, exists_or, ← inv.byHash]
        by_cases same : h' = h
        · subst same
          simp [fresh, eq_comm]
        · simp [same, Ne.symm same]
      clientZero := by
        rw [total_insert _ unallocated, ← inv.clientZero]
        simp
      serverZero := by
        rw [total_insert _ unallocated, ← inv.serverZero]
        simp
      cTotal := by
        rw [total_insert _ unallocated, ← inv.cTotal]
        simp
      sTotal := by
        rw [total_insert _ unallocated, ← inv.sTotal]
        simp
      counts := forall_insert inv.counts unallocated ⟨le_rfl, le_rfl⟩
      pool := pool m.brk
      allocated := forall_insert (fun a info object =>
        Nat.lt_succ_of_lt (inv.allocated a info object)) unallocated (lt_add_one _)
      hashed := forall_insert inv.hashed unallocated own
      pendingNodup := nodup_nil
      pendingUnused := by simp }

section

variable (inv : m.Kept hash) (object : m.infos.find? a = some info)

include inv object

theorem Pending.recount {f : GlobalInfo → GlobalInfo} (keeps : ∀ i, f i =
      { i with refCountClient := (f i).refCountClient, refCountServer := (f i).refCountServer })
    (nonneg : 0 ≤ (f info).refCountClient ∧ 0 ≤ (f info).refCountServer) :
    Kept hash
      { m with
        numStmtWithRefClientCountZero := m.numStmtWithRefClientCountZero -
          (if info.refCountClient = 0 then 1 else 0) +
          (if (f info).refCountClient = 0 then 1 else 0)
        numStmtWithRefServerCountZero := m.numStmtWithRefServerCountZero -
          (if info.refCountServer = 0 then 1 else 0) +
          (if (f info).refCountServer = 0 then 1 else 0)
        cTotal := m.cTotal - info.refCountClient + (f info).refCountClient
        sTotal := m.sTotal - info.refCountServer + (f info).refCountServer
        infos := m.infos.modify a f } where
  byId id b := by
    rw [inv.byId]
    exact (exists_find?_modify fun i => by rw [keeps]).symm
  byHash h b := by
    rw [inv.byHash]
    exact (exists_find?_modify fun i => by rw [keeps]).symm
  clientZero := by
    rw [total_modify object, ← inv.clientZero]
    simp
  serverZero := by rw [total_modify object, ← inv.serverZero]
  cTotal := by rw [total_modify object, ← inv.cTotal]
  sTotal := by rw [total_modify object, ← inv.sTotal]
  counts := by
    refine forall_modify inv.counts fun info' object' => ?_
    rw [object] at object'
    cases object'
    exact nonneg
  pool := inv.pool
  allocated := forall_modify inv.allocated (inv.allocated a)
  hashed := by
    refine forall_modify inv.hashed fun info' object' => ?_
    rw [keeps]
    exact inv.hashed a info' object'
  pendingNodup := nodup_nil
  pendingUnused id mem := by simp at mem

theorem Pending.countClient (unit : v = 1 ∨ v = -1) (allowed : 0 ≤ info.refCountClient + v) :
    (m.countClient a info v).Kept hash := by
  obtain ⟨client, server⟩ := inv.counts a info object
  have counted := inv.recount object
    (f := fun i => { i with refCountClient := i.refCountClient + v })
    (fun _ => rfl) ⟨allowed, server⟩
  convert counted using 1
  simp only [Manager.countClient, zeroChange_eq unit client allowed, Manager.mk.injEq,
    and_true, true_and]
  omega

theorem Pending.countServer (unit : v = 1 ∨ v = -1) (allowed : 0 ≤ info.refCountServer + v) :
    (m.countServer a info v).Kept hash := by
  obtain ⟨client, server⟩ := inv.counts a info object
  have counted := inv.recount object
    (f := fun i => { i with refCountServer := i.refCountServer + v })
    (fun _ => rfl) ⟨client, allowed⟩
  convert counted using 1
  simp only [Manager.countServer, zeroChange_eq unit server allowed, Manager.mk.injEq,
    and_true, true_and]
  omega

theorem Pending.referServer :
    m.referServer a = .ok (a, m.countServer a info 1) ∧ (m.countServer a info 1).Kept hash := by
  constructor
  · rw [Manager.referServer, deref_of_find object]
    rfl
  · have server := (inv.counts a info object).2
    exact inv.countServer object (.inl rfl) (by omega)

end

theorem Pending.addPreparedStatement (inv : m.Kept hash) (u s q : String) :
    ∃ a m', m.addPreparedStatement hash u s q = .ok (a, m') ∧ m'.Kept hash := by
  unfold Manager.addPreparedStatement
  dsimp only
  cases found : m.mapStmtHashToInfo (hash u s q) with
  | some a =>
    obtain ⟨info, object, -⟩ := (inv.byHash _ a).mp found
    obtain ⟨refer, kept⟩ := inv.referServer object
    exact ⟨a, _, refer, kept⟩
  | none =>
    obtain ⟨kept, info, object, -⟩ := inv.newStatement rfl found
    obtain ⟨refer, kept⟩ := kept.referServer object
    exact ⟨_, _, refer, kept⟩

end

/-! ### Runs -/

inductive Op where
  | addPreparedStatement (u s q : String)
  | refCountClient (stmtId : Nat) (v : Int) (maxStmtsCache : Nat) (ct : Int)
  | refCountServer (stmtId : Nat) (v : Int)

def step (m : Manager) : Op → Except Fault Manager
  | .addPreparedStatement u s q => (m.addPreparedStatement computeHash u s q).map Prod.snd
  | .refCountClient stmtId v maxStmtsCache ct => m.refCountClient maxStmtsCache ct stmtId v
  | .refCountServer stmtId v => m.refCountServer stmtId v

/-- References change by one, and no count is lowered below zero. -/
def Allowed (m : Manager) : Op → Prop
  | .addPreparedStatement .. => True
  | .refCountClient stmtId v _ _ => (v = 1 ∨ v = -1) ∧
      ∀ info ∈ m.statement stmtId, 0 ≤ info.refCountClient + v
  | .refCountServer stmtId v => (v = 1 ∨ v = -1) ∧
      ∀ info ∈ m.statement stmtId, 0 ≤ info.refCountServer + v

theorem statement_of_find {id : Nat} {a : Addr} {info : GlobalInfo}
    (found : m.mapStmtIdToInfo.find? id = some a) (object : m.infos.find? a = some info) :
    m.statement id = some info := by
  rw [statement, found, Option.bind_some, object]

theorem Pending.refCountClient (inv : m.Kept hash) {stmtId : Nat} {v : Int} (maxStmtsCache : Nat)
    (ct : Int) (allowed : m.Allowed (.refCountClient stmtId v maxStmtsCache ct)) :
    ∃ m', m.refCountClient maxStmtsCache ct stmtId v = .ok m' ∧ m'.Kept hash := by
  obtain ⟨unit, nonneg⟩ := allowed
  unfold Manager.refCountClient
  cases found : m.mapStmtIdToInfo.find? stmtId with
  | none => exact ⟨m, rfl, inv⟩
  | some a =>
    obtain ⟨info, object, -⟩ := inv.find_addr found
    have counted := inv.countClient object unit (nonneg info (statement_of_find found object))
    dsimp only
    rw [deref_of_find object]
    dsimp only [ok_bind]
    split_ifs
    · obtain ⟨m', purged, kept, -⟩ := counted.purge ct
      exact ⟨m', purged, kept⟩
    · exact ⟨_, rfl, counted⟩

theorem Pending.refCountServer (inv : m.Kept hash) {stmtId : Nat} {v : Int}
    (allowed : m.Allowed (.refCountServer stmtId v)) :
    ∃ m', m.refCountServer stmtId v = .ok m' ∧ m'.Kept hash := by
  obtain ⟨unit, nonneg⟩ := allowed
  unfold Manager.refCountServer
  cases found : m.mapStmtIdToInfo.find? stmtId with
  | none => exact ⟨m, rfl, inv⟩
  | some a =>
    obtain ⟨info, object, -⟩ := inv.find_addr found
    dsimp only
    rw [deref_of_find object]
    exact ⟨_, rfl, inv.countServer object unit (nonneg info (statement_of_find found object))⟩

theorem Pending.step (inv : m.Kept hash) {op : Op} (allowed : m.Allowed op) :
    ∃ m', m.step hash op = .ok m' ∧ m'.Kept hash := by
  cases op with
  | addPreparedStatement u s q =>
    obtain ⟨a, m', added, kept⟩ := inv.addPreparedStatement u s q
    exact ⟨m', by rw [Manager.step, added]; rfl, kept⟩
  | refCountClient stmtId v maxStmtsCache ct => exact inv.refCountClient maxStmtsCache ct allowed
  | refCountServer stmtId v => exact inv.refCountServer allowed

/-! ### What the bookkeeping stands for -/

def statements (m : Manager) : List GlobalInfo :=
  m.mapStmtIdToInfo.entries.filterMap fun entry => m.infos.find? entry.2

theorem Pending.perm_statements (inv : m.Kept hash) :
    (m.infos.entries.map Prod.snd).Perm m.statements := by
  have objects : (m.infos.entries.map Prod.snd).Nodup := by
    rw [List.Nodup, pairwise_map]
    refine m.infos.sorted.imp_of_mem ?_
    rintro ⟨a, info⟩ ⟨b, info'⟩ first second below rfl
    have same := inv.addr_unique (find?_eq_some.mpr first)
      (find?_eq_some.mpr second) rfl
    exact absurd below (by rw [same]; exact lt_irrefl _)
  have named : ∀ entry ∈ m.mapStmtIdToInfo.entries, ∀ info,
      m.infos.find? entry.2 = some info → info.statementId = entry.1 := by
    rintro ⟨id, a⟩ mem info object
    obtain ⟨info', object', own⟩ := inv.find_addr (find?_eq_some.mpr mem)
    rw [object] at object'
    cases object'
    exact own
  have distinct : m.statements.Nodup := by
    rw [List.Nodup, statements, pairwise_filterMap]
    refine m.mapStmtIdToInfo.sorted.imp_of_mem ?_
    rintro entry entry' first second below info object info' object' rfl
    rw [← named entry first info object, ← named entry' second info object'] at below
    exact lt_irrefl _ below
  refine (perm_ext_iff_of_nodup objects distinct).mpr fun info => ?_
  rw [mem_map, statements, mem_filterMap]
  constructor
  · rintro ⟨⟨a, info'⟩, mem, rfl⟩
    have object := find?_eq_some.mpr mem
    have found := (inv.byId _ a).mpr ⟨_, object, rfl⟩
    exact ⟨_, find?_eq_some.mp found, object⟩
  · rintro ⟨⟨id, a⟩, mem, object⟩
    exact ⟨⟨a, info⟩, find?_eq_some.mp object, rfl⟩

theorem Pending.total_eq (inv : m.Kept hash) (weight : GlobalInfo → Int) :
    m.infos.total weight = (m.statements.map weight).sum := by
  have perm := inv.perm_statements.map weight
  rw [map_map] at perm
  exact perm.sum_eq

theorem sum_indicator {α : Type} (l : List α) (p : α → Prop) [DecidablePred p] :
    (l.map fun a => if p a then (1 : Int) else 0).sum = l.countP (p ·) := by
  induction l with
  | nil => rfl
  | cons a l ih =>
    rw [map_cons, sum_cons, ih]
    by_cases holds : p a
    · simp [holds, add_comm]
    · simp [holds]

/-- The bookkeeping agrees with the statements. -/
structure Consistent (m : Manager) : Prop where
  clientZero : m.numStmtWithRefClientCountZero = m.statements.countP (·.refCountClient = 0)
  serverZero : m.numStmtWithRefServerCountZero = m.statements.countP (·.refCountServer = 0)
  cTotal : m.cTotal = (m.statements.map GlobalInfo.refCountClient).sum
  sTotal : m.sTotal = (m.statements.map GlobalInfo.refCountServer).sum
  -- every entry of a map leads to an object with the key of the entry
  ids : ∀ id a, m.mapStmtIdToInfo.find? id = some a →
    ∃ info, m.infos.find? a = some info ∧ info.statementId = id
  hashes : ∀ h a, m.mapStmtHashToInfo h = some a →
    ∃ info, m.infos.find? a = some info ∧ info.hash = h
  sameStatements : ∀ a, (∃ id, m.mapStmtIdToInfo.find? id = some a) ↔
    ∃ h, m.mapStmtHashToInfo h = some a
  freeNodup : m.freeStmtIds.Nodup
  freeUnused : ∀ id ∈ m.freeStmtIds, m.mapStmtIdToInfo.find? id = none
  freeBelow : ∀ id ∈ m.freeStmtIds, id < m.nextStatementId

theorem Pending.consistent (inv : m.Kept hash) : m.Consistent where
  clientZero := by
    have counted := inv.clientZero
    rw [inv.total_eq, sum_indicator] at counted
    simpa using counted
  serverZero := by rw [inv.serverZero, inv.total_eq, sum_indicator]
  cTotal := by rw [inv.cTotal, inv.total_eq]
  sTotal := by rw [inv.sTotal, inv.total_eq]
  ids id a := inv.find_addr
  hashes h a found := by
    obtain ⟨info, object, own, -⟩ := (inv.byHash h a).mp found
    exact ⟨info, object, own⟩
  sameStatements a := by
    constructor
    · rintro ⟨id, found⟩
      obtain ⟨info, object, -⟩ := inv.find_addr found
      exact ⟨info.hash, (inv.byHash _ a).mpr ⟨info, object, rfl, not_mem_nil⟩⟩
    · rintro ⟨h, found⟩
      obtain ⟨info, object, -⟩ := (inv.byHash h a).mp found
      exact ⟨info.statementId, (inv.byId _ a).mpr ⟨info, object, rfl⟩⟩
  freeNodup := inv.pool.nodup
  freeUnused := inv.pool.unused
  freeBelow id mem := (inv.pool.freeBounds id mem).2

/-- In every run the counters, totals and free ids agree with the statements, both maps hold the
same statements, and the next operation returns. -/
theorem manager_run_consistent {computeHash : String → String → String → UInt64} {time : Int}
    {m : Manager} (run : Run (step computeHash) Allowed (init time) m) :
    m.Consistent ∧ ∀ op, m.Allowed op → ∃ m', m.step computeHash op = .ok m' := by
  obtain ⟨kept, goesOn⟩ :=
    run.goes_on _ (kept_init computeHash time) fun inv allowed => inv.step allowed
  exact ⟨kept.consistent, goesOn⟩

/-- A statement is prepared, referred to by a client and left by all; its purge frees the id 1. -/
theorem manager_run_purged :
    ∃ m, Run (step fun _ _ _ => 5) Allowed (init 0) m ∧ m.freeStmtIds = [1] ∧ m.Consistent := by
  have added : Run (step fun _ _ _ => 5) Allowed (init 0) _ :=
    .step (i := .addPreparedStatement "app" "shop" "SELECT 1") .start trivial rfl
  have referred := added.step (i := .refCountClient 1 1 0 0) (by exact ⟨.inl rfl, by decide⟩) rfl
  have closed := referred.step (i := .refCountServer 1 (-1)) (by exact ⟨.inr rfl, by decide⟩) rfl
  have left := closed.step (i := .refCountClient 1 (-1) 0 2) (by exact ⟨.inr rfl, by decide⟩) rfl
  exact ⟨_, left, rfl, (manager_run_consistent left).1⟩

end Manager

end MockProxy.PreparedStatement
