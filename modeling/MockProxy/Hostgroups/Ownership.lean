import MockProxy.Hostgroups.Limit

/-!
# Every connection is in one place

A connection that has not been deleted is in one of the two arrays of its server, once, and a
deleted one is in none. Within an operation one connection at a time is loose: it was taken out of
an array or has just been created.

The pool loses a connection only if `push_MyConn_to_pool` is called without a threads handler.
-/

namespace MockProxy.Hostgroups.Manager

open Function Machine

variable {hash : String → Nat} {m m' : Manager hash}

def parentOf (m : Manager hash) (c : ConnId) : Option SrvId := (m.conns c).map Conn.parent

def times (m : Manager hash) (id : SrvId) (c : ConnId) : Nat :=
  (m.srv id).connectionsUsed.count c + (m.srv id).connectionsFree.count c

/-- All connections are in their places, except for the loose one. -/
structure Owned (m : Manager hash) (loose : Option ConnId) : Prop where
  unused : ∀ c, m.fresh ≤ c → m.conns c = none
  placed : ∀ id c, m.times id c = if m.parentOf c = some id ∧ loose ≠ some c then 1 else 0

namespace Owned

variable {loose : Option ConnId}

theorem congr (owned : Owned m loose) (fresh : m'.fresh = m.fresh)
    (parents : ∀ c, m'.parentOf c = m.parentOf c)
    (used : ∀ id, (m'.srv id).connectionsUsed = (m.srv id).connectionsUsed)
    (free : ∀ id, (m'.srv id).connectionsFree = (m.srv id).connectionsFree) : Owned m' loose := by
  constructor
  · intro c unused
    have none : m'.parentOf c = none := by
      rw [parents, parentOf, owned.unused c (fresh ▸ unused), Option.map_none]
    exact Option.map_eq_none_iff.mp none
  · intro id c
    rw [parents, times, used, free]
    exact owned.placed id c

variable {id : SrvId} {c : ConnId} {pool : PoolEnv}

theorem parentOf_eq (owned : Owned m loose) (there : 0 < m.times id c) :
    m.parentOf c = some id ∧ loose ≠ some c := by
  by_contra elsewhere
  rw [owned.placed, if_neg elsewhere] at there
  exact there.false

/-- A connection is taken out of an array of a server. -/
structure Takes (m m' : Manager hash) (id : SrvId) (c : ConnId) : Prop where
  fresh : m'.fresh = m.fresh
  conns : m'.conns = m.conns
  others : ∀ id', id' ≠ id → m'.srv id' = m.srv id'
  taken : ∀ d, m.times id d = m'.times id d + if d = c then 1 else 0

theorem loose_iff (takes : Takes m m' id c) (here : m.parentOf c = some id) :
    Owned m' (some c) ↔ Owned m none := by
  obtain ⟨fresh, conns, others, taken⟩ := takes
  have parents (d : ConnId) : m'.parentOf d = m.parentOf d := by
    rw [parentOf, conns, parentOf]
  have places (id' : SrvId) (d : ConnId) :
      (m'.times id' d = if m'.parentOf d = some id' ∧ some c ≠ some d then 1 else 0) ↔
        m.times id' d = if m.parentOf d = some id' ∧ none ≠ some d then 1 else 0 := by
    rw [parents]
    by_cases same : id' = id
    · subst same
      rw [taken]
      by_cases isC : d = c
      · subst isC
        simp [here]
      · simp [isC, Ne.symm isC]
    · have elsewhere : m'.times id' d = m.times id' d := by
        rw [times, others id' same, times]
      rw [elsewhere]
      by_cases isC : d = c
      · subst isC
        simp [here, Ne.symm same]
      · simp [Ne.symm isC]
  constructor
  · rintro ⟨unused, placed⟩
    rw [fresh, conns] at unused
    exact ⟨unused, fun id' d => (places id' d).mp (placed id' d)⟩
  · rintro ⟨unused, placed⟩
    rw [← fresh, ← conns] at unused
    exact ⟨unused, fun id' d => (places id' d).mpr (placed id' d)⟩

theorem loosen (owned : Owned m none) (takes : Takes m m' id c) :
    Owned m' (some c) ∧ m'.parentOf c = some id := by
  have there : 0 < m.times id c := by
    rw [takes.taken, if_pos rfl]
    omega
  have here := (owned.parentOf_eq there).1
  refine ⟨(loose_iff takes here).mpr owned, ?_⟩
  rw [parentOf, takes.conns]
  exact here

theorem count_removeIndexFast {xs : List ConnId} {k : Nat} (there : xs[k]? = some c) (d : ConnId) :
    xs.count d = (PtrArray.removeIndexFast k xs).count d + if d = c then 1 else 0 := by
  rw [← (PtrArray.removeIndexFast_perm there).count_eq d, List.count_cons]
  simp [eq_comm (a := c)]

theorem takeFree (owned : Owned m none) {k : Nat} (done : m.takeFree id k = .ok (c, m')) :
    Owned m' (some c) ∧ m'.parentOf c = some id := by
  obtain ⟨there, rfl⟩ := takeFree_eq_ok.mp done
  refine owned.loosen ⟨rfl, rfl, fun id' other => m.srv_setFree_of_ne other _, ?_⟩
  intro d
  unfold times
  rw [srv_setFree_self, count_removeIndexFast there d]
  dsimp only
  omega

theorem removeUsed (owned : Owned m none) (done : m.removeUsed id c = .ok m') :
    Owned m' (some c) ∧ m'.parentOf c = some id := by
  obtain ⟨k, there, rfl⟩ := removeUsed_eq_ok done
  refine owned.loosen ⟨rfl, rfl, fun id' other => m.srv_setUsed_of_ne other _, ?_⟩
  intro d
  unfold times
  rw [srv_setUsed_self, count_removeIndexFast there d]
  dsimp only
  omega

theorem count_append_single (xs : List ConnId) (c d : ConnId) :
    (xs ++ [c]).count d = xs.count d + if d = c then 1 else 0 := by
  rw [List.count_append, List.count_singleton]
  simp [eq_comm (a := c)]

section

variable (owned : Owned m (some c)) (here : m.parentOf c = some id)

include owned here

theorem settle (takes : Takes m' m id c) : Owned m' none := by
  rw [parentOf, takes.conns] at here
  exact (loose_iff takes here).mp owned

theorem addUsed : Owned (m.addUsed id c) none := by
  refine owned.settle here ⟨rfl, rfl, fun id' other => (m.srv_setUsed_of_ne other _).symm, ?_⟩
  intro d
  unfold times Manager.addUsed
  rw [srv_setUsed_self]
  dsimp only
  rw [count_append_single]
  omega

theorem addFree : Owned (m.addFree id c) none := by
  refine owned.settle here ⟨rfl, rfl, fun id' other => (m.srv_setFree_of_ne other _).symm, ?_⟩
  intro d
  unfold times Manager.addFree
  rw [srv_setFree_self]
  dsimp only
  rw [count_append_single]
  omega

theorem hand : Owned (m.hand id c) none := by
  have self : (m.hand id c).srv id = { m.srv id with
      connectionsUsed := (m.srv id).connectionsUsed ++ [c]
      maxConnectionsUsed := max (m.srv id).maxConnectionsUsed
        ((m.srv id).connectionsUsed ++ [c]).length } := update_self ..
  refine owned.settle here ⟨rfl, rfl, fun id' other => (update_of_ne other ..).symm, ?_⟩
  intro d
  unfold times
  rw [self]
  dsimp only
  rw [count_append_single]
  omega

end

/-- The heap changes for a connection that is in no array: it is deleted, or created and loose. -/
theorem reheap {loose' : Option ConnId} (owned : Owned m loose) {x : Option (Conn hash)}
    (nowhere : ∀ id, m.times id c = 0) (servers : m'.servers = m.servers)
    (conns : m'.conns = update m.conns c x) (unused : ∀ d, m'.fresh ≤ d → m'.conns d = none)
    (fate : x = none ∨ loose' = some c) (others : ∀ d, d ≠ c → (loose' = some d ↔ loose = some d)) :
    Owned m' loose' := by
  refine ⟨unused, ?_⟩
  intro id d
  have times : m'.times id d = m.times id d := by
    unfold Manager.times srv
    rw [servers]
  rw [times]
  by_cases same : d = c
  · subst same
    have gone : ¬ (m'.parentOf d = some id ∧ loose' ≠ some d) := by
      rintro ⟨parent, settled⟩
      rcases fate with rfl | isLoose
      · rw [parentOf, conns, update_self] at parent
        cases parent
      · exact settled isLoose
    rw [nowhere, if_neg gone]
  · have parent : m'.parentOf d = m.parentOf d := by
      rw [parentOf, conns, update_of_ne same]
      rfl
    simp [parent, owned.placed, others d same]

theorem delete (owned : Owned m (some c)) (done : m.delete c = .ok m') : Owned m' none := by
  obtain ⟨conn, found, rfl⟩ := return_eq_ok.mp done
  have nowhere (id : SrvId) : m.times id c = 0 := by
    rw [owned.placed, if_neg fun both => both.2 rfl]
  refine owned.reheap nowhere rfl rfl ?_ (.inl rfl) ?_
  · intro d unused
    by_cases same : d = c
    · subst same
      exact update_self ..
    · exact (update_of_ne same ..).trans (owned.unused d unused)
  · intro d other
    simp [other.symm]

theorem dropFree (owned : Owned m none) (done : m.dropFree id = .ok m') : Owned m' none := by
  obtain ⟨⟨c, next⟩, taken, deleted⟩ := bind_eq_ok.mp done
  exact (owned.takeFree taken).1.delete deleted

theorem dropClosed : DropClosed fun m : Manager hash => Owned m none := by
  intro m m' id owned done
  exact owned.dropFree done

theorem groupClosed : GroupClosed fun m : Manager hash => Owned m none := by
  intro m servers owned same
  refine owned.congr ?_ (fun _ => ?_) ?_ ?_
  · rfl
  · rfl
  · intro id
    exact congrArg MySrvC.connectionsUsed (congrFun same id)
  · intro id
    exact congrArg MySrvC.connectionsFree (congrFun same id)

theorem putConn (owned : Owned m loose) {old conn : Conn hash} (found : m.conns c = some old)
    (parent : conn.parent = old.parent) : Owned (m.putConn c conn) loose := by
  have same (d : ConnId) : (m.putConn c conn).parentOf d = m.parentOf d := by
    unfold parentOf Manager.putConn
    by_cases here : d = c
    · subst here
      simp [found, parent]
    · simp [here]
  constructor
  · intro d unused
    have none : m.parentOf d = none := by
      rw [parentOf, owned.unused d unused, Option.map_none]
    exact Option.map_eq_none_iff.mp ((same d).trans none)
  · intro id d
    rw [same]
    exact owned.placed id d

section

variable (owned : Owned m none)

include owned

variable {found : Option ConnId}

theorem create (id : SrvId) (made : m.create id = (found, m')) :
    ∃ c, found = some c ∧ Owned m' (some c) ∧ m'.parentOf c = some id := by
  cases made
  have nowhere : m.conns m.fresh = none := owned.unused m.fresh le_rfl
  refine ⟨m.fresh, rfl, owned.reheap ?_ rfl rfl ?_ (.inr rfl) ?_, ?_⟩
  · intro id'
    rw [owned.placed, parentOf, nowhere, if_neg fun both => by cases both.1]
  · intro d unused
    have beyond : m.fresh < d := unused
    exact (update_of_ne beyond.ne' ..).trans (owned.unused d beyond.le)
  · intro d other
    simp [other.symm]
  · rw [parentOf]
    dsimp only
    rw [update_self]
    rfl

variable {client : Option (Tracked hash)} {ff : Bool}

theorem getRandomMyConn {random : Nat}
    (done : m.getRandomMyConn pool id client ff random = .ok (found, m')) :
    Owned m' found ∧ ∀ c ∈ found, m'.parentOf c = some id := by
  obtain ⟨before, owned, ⟨rfl, rfl⟩ | created | ⟨c, k, rfl, taken⟩⟩ :=
    getRandomMyConn_cases dropClosed groupClosed owned done
  · exact ⟨owned, fun c never => by cases never⟩
  · obtain ⟨c, rfl, loose, parent⟩ := owned.create id created
    exact ⟨loose, by simpa using parent⟩
  · obtain ⟨loose, parent⟩ := owned.takeFree taken
    exact ⟨loose, by simpa using parent⟩

theorem select {servers : Servers} (evolves : Servers.Evolves m.servers servers) :
    Owned { m with servers := servers } none := by
  refine owned.congr ?_ (fun _ => ?_) ?_ ?_
  · rfl
  · rfl
  · intro id
    exact MySrvC.of_core MySrvC.connectionsUsed (evolves id).core
  · intro id
    exact MySrvC.of_core MySrvC.connectionsFree (evolves id).core

theorem getMyConnFromPool {env : Env} {hid : Nat} {r : Request} {random : Nat × Nat}
    {result : Option ConnId}
    (done : m.getMyConnFromPool env pool hid r client ff random = .ok (result, m')) :
    Owned m' none := by
  obtain ⟨chosen, servers, selected, fate⟩ := getMyConnFromPool_cases done
  have after := owned.select (Servers.getRandomMySrvC_evolves selected).of_lookup
  rcases fate with rfl | ⟨id, found, next, -, got, handed⟩
  · exact after
  · obtain ⟨loose, parent⟩ := after.getRandomMyConn got
    rcases handed with ⟨rfl, rfl⟩ | ⟨c, rfl, rfl⟩
    · exact loose
    · exact loose.hand (parent c rfl)

theorem destroyMyConnFromPool (done : m.destroyMyConnFromPool pool c = .ok m') : Owned m' none := by
  rcases destroyMyConnFromPool_cases done with rfl | ⟨id, next, removed, deleted⟩
  · exact owned.congr rfl (fun _ => rfl) (fun _ => rfl) (fun _ => rfl)
  · exact (owned.removeUsed removed).1.delete deleted

theorem pushMyConnToPool (handler : pool.gloMTH ≠ none)
    (done : m.pushMyConnToPool pool c = .ok m') : Owned m' none := by
  obtain ⟨conn, next, found, removed, fate⟩ := pushMyConnToPool_cases done
  have reset : Owned (m.putConn c { conn with autoIncrementDelayToken := 0 }) none :=
    owned.putConn found rfl
  obtain ⟨loose, parent⟩ := reset.removeUsed removed
  rcases fate with ⟨absent, -⟩ | deleted | destroyed | rfl
  · exact absurd absent handler
  · exact loose.delete deleted
  · exact (loose.addUsed parent).destroyMyConnFromPool destroyed
  · exact loose.addFree parent

theorem moveIdle {numConn : Nat} {moves : List (SrvId × Nat)}
    {moved result : List ConnId} (done : moveIdle numConn moves moved m = .ok (result, m')) :
    Owned m' none := by
  induction moves generalizing m moved with
  | nil =>
    cases done
    exact owned
  | cons move moves ih =>
    obtain ⟨⟨c, next⟩, taken, rest⟩ := bind_eq_ok.mp done
    obtain ⟨loose, parent⟩ := owned.takeFree taken
    have settled := loose.addUsed parent
    split at rest
    · cases rest
      exact settled
    · exact ih settled rest

theorem getMultipleIdleConnections {hid : Option Nat}
    {maxLastTimeUsed numConn : Nat} {order : List SrvId → List SrvId} {result : List ConnId}
    (done : m.getMultipleIdleConnections pool hid maxLastTimeUsed numConn order =
      .ok (result, m')) :
    Owned m' none := by
  obtain ⟨trimmed, dropped, done⟩ := bind_eq_ok.mp done
  obtain ⟨oldest, -, moved⟩ := bind_eq_ok.mp done
  exact (dropEach_keeps dropClosed owned dropped).moveIdle moved

theorem putSrv {v : MySrvC} (used : v.connectionsUsed = (m.srv id).connectionsUsed)
    (free : v.connectionsFree = (m.srv id).connectionsFree) : Owned (m.putSrv id v) none := by
  refine owned.congr rfl (fun _ => rfl) ?_ ?_
  · exact forall_srv_putSrv
      (P := fun id' v' => v'.connectionsUsed = (m.srv id').connectionsUsed) used fun _ _ => rfl
  · exact forall_srv_putSrv
      (P := fun id' v' => v'.connectionsFree = (m.srv id').connectionsFree) free fun _ _ => rfl

end

end Owned

/-! ### Runs -/

/-- Connections are pushed while there is a threads handler, as `push_MyConn_to_pool` assumes. -/
def HasHandler (_ : Manager hash) : PoolEvent hash → Prop
  | .push pool _ => pool.gloMTH ≠ none
  | _ => True

theorem owned_step {event : PoolEvent hash} (owned : Owned m none) (meets : HasHandler m event)
    (stepped : m.step event = .ok m') : Owned m' none := by
  cases event with
  | get env pool hid r client ff random =>
    obtain ⟨⟨result, next⟩, got, rfl⟩ := map_eq_ok.mp stepped
    exact owned.getMyConnFromPool got
  | push pool c => exact owned.pushMyConnToPool meets stepped
  | destroy pool c => exact owned.destroyMyConnFromPool stepped
  | idle pool hid maxLastTimeUsed numConn order =>
    obtain ⟨⟨result, next⟩, got, rfl⟩ := map_eq_ok.mp stepped
    exact owned.getMultipleIdleConnections got
  | use c conn =>
    obtain ⟨old, found, rfl⟩ := return_eq_ok.mp stepped
    exact owned.putConn (conn_eq_ok.mp found) rfl
  | server id v =>
    cases stepped
    exact owned.putSrv rfl rfl
  | hostgroups hids hostgroup =>
    cases stepped
    exact Owned.groupClosed m _ owned rfl
  | dequeue =>
    cases stepped
    exact owned.congr rfl (fun _ => rfl) (fun _ => rfl) (fun _ => rfl)

theorem owned_empty (empty : m.Empty) : Owned m none := by
  constructor
  · intro c _
    exact empty.conns c
  · intro id c
    rw [times, empty.used, empty.free, parentOf, empty.conns]
    rfl

theorem run_owned {start : Manager hash} (empty : start.Empty) (run : Run step HasHandler start m) :
    Owned m none := by
  apply run.invariant fun m => Owned m none
  · exact owned_empty empty
  · intro m event m' owned meets stepped
    exact owned_step owned meets stepped

/-- A connection that has not been deleted is in exactly one of the two arrays of its server,
once, and a deleted one is in no array, if there is a threads handler whenever a connection is
pushed. -/
theorem connections_placed {start : Manager hash} (empty : start.Empty)
    (run : Run step HasHandler start m) (c : ConnId) : (∀ conn, m.conns c = some conn →
      ((m.srv conn.parent).connectionsUsed.count c = 1 ∧ c ∉ (m.srv conn.parent).connectionsFree ∨
        c ∉ (m.srv conn.parent).connectionsUsed ∧ (m.srv conn.parent).connectionsFree.count c = 1) ∧
      ∀ id, id ≠ conn.parent → c ∉ (m.srv id).connectionsUsed ∧ c ∉ (m.srv id).connectionsFree) ∧
    (m.conns c = none → ∀ id, c ∉ (m.srv id).connectionsUsed ∧ c ∉ (m.srv id).connectionsFree) := by
  have placed := (run_owned empty run).placed
  have nowhere (id : SrvId) (zero : m.times id c = 0) :
      c ∉ (m.srv id).connectionsUsed ∧ c ∉ (m.srv id).connectionsFree := by
    simpa [times, List.count_eq_zero] using zero
  constructor
  · intro conn found
    have parent : m.parentOf c = some conn.parent := by
      rw [parentOf, found, Option.map_some]
    constructor
    · have once := placed conn.parent c
      rw [if_pos ⟨parent, (Option.some_ne_none c).symm⟩, times] at once
      rw [← List.count_eq_zero, ← List.count_eq_zero]
      omega
    · intro id other
      apply nowhere
      rw [placed, parent, if_neg fun both => other (Option.some.inj both.1).symm]
  · intro deleted id
    apply nowhere
    rw [placed, parentOf, deleted, if_neg fun both => by cases both.1]

/-- A connection is created, used and pushed back: it is free. -/
theorem connections_placed_pushed :
    ∃ (m : Manager fun _ => 0) (conn : Conn fun _ => 0), Run step HasHandler single m ∧
      m.conns 0 = some conn ∧ 0 ∉ (m.srv conn.parent).connectionsUsed ∧
      (m.srv conn.parent).connectionsFree.count 0 = 1 := by
  have got : Run step HasHandler (single : Manager fun _ => 0) _ :=
    .step .start (i := .getAny) trivial rfl
  have used := got.step (i := .use 0 { Conn.create 0 true with asyncIdle := true })
    (by exact trivial) rfl
  have pushed := used.step (i := .push .default 0) (by exact Option.some_ne_none _) rfl
  refine ⟨_, _, pushed, rfl, ?_⟩
  have placed := (connections_placed empty_single pushed 0).1 _ rfl
  rcases placed.1 with inUse | free
  · cases inUse.1
  · exact free

/-- A connection that is pushed without a threads handler is in no array, and it is not deleted. -/
theorem pushed_connection_lost :
    ∃ (m : Manager fun _ => 0) (conn : Conn fun _ => 0), Run step (fun _ _ => True) single m ∧
      m.conns 0 = some conn ∧ 0 ∉ (m.srv conn.parent).connectionsUsed ∧
      0 ∉ (m.srv conn.parent).connectionsFree := by
  have ran : [PoolEvent.getAny, .push { PoolEnv.default with gloMTH := none } 0].foldlM step
      (single : Manager fun _ => 0) = .ok _ := rfl
  exact ⟨_, _, run_of_foldlM ran, rfl, List.not_mem_nil, List.not_mem_nil⟩

/-- A connection is never handed out twice. In every run the connection that
`get_MyConn_from_pool` returns was in use on no server. -/
theorem returned_unused {start : Manager hash} (empty : start.Empty)
    (run : Run step HasHandler start m) {env : Env} {pool : PoolEnv} {hid : Nat} {r : Request}
    {client : Option (Tracked hash)} {ff : Bool} {random : Nat × Nat} {c : ConnId}
    (done : m.getMyConnFromPool env pool hid r client ff random = .ok (some c, m')) (id : SrvId) :
    c ∉ (m.srv id).connectionsUsed := by
  intro held
  obtain ⟨⟨_ | parent, servers⟩, selected, done⟩ := bind_eq_ok.mp done
  · cases done
  obtain ⟨⟨_ | _, next⟩, got, ⟨⟩⟩ := bind_eq_ok.mp done
  have evolves := (Servers.getRandomMySrvC_evolves selected).of_lookup
  have loose := (((run_owned empty run).select evolves).getRandomMyConn got).1
  -- what was in use still is, and the connection that was found is in no array
  rw [← (((Trimmed.select evolves).trans (Trimmed.getRandomMyConn got)) id).used] at held
  have there : 0 < next.times id c := Nat.add_pos_left (List.count_pos_iff.mpr held) _
  exact (loose.parentOf_eq there).2 rfl

/-- A pool whose server may have two connections. -/
def pair : Manager hash where
  servers := .alone
    { Servers.shunnedFull with status := .online, connectionsUsed := [], maxConnections := 2 }
  conns := fun _ => none
  fresh := 0
  queue := []

theorem empty_pair : (pair : Manager hash).Empty where
  conns := fun _ => rfl
  used := fun _ => rfl
  free := fun _ => rfl

/-- Two connections are handed out and the first is pushed back: it is handed out again, and the
second, which is still in use, is not. -/
theorem returned_unused_again : ∃ m m' : Manager fun _ => 0, Run step HasHandler pair m ∧
    (m.srv 0).connectionsUsed = [1] ∧
    m.getMyConnFromPool Servers.defaultEnv .default 1 ⟨none, 0, -1⟩ none false (0, 0) =
      .ok (some 0, m') ∧ 0 ∉ (m.srv 0).connectionsUsed := by
  have first : Run step HasHandler (pair : Manager fun _ => 0) _ :=
    .step .start (i := .getAny) trivial rfl
  have second := first.step (i := .getAny) (by exact trivial) rfl
  have used := second.step (i := .use 0 { Conn.create 0 true with asyncIdle := true })
    (by exact trivial) rfl
  have pushed := used.step (i := .push .default 0) (by exact Option.some_ne_none _) rfl
  obtain ⟨m, run, inUse, got⟩ : ∃ m : Manager fun _ => 0, Run step HasHandler pair m ∧
      (m.srv 0).connectionsUsed = [1] ∧ (m.getMyConnFromPool Servers.defaultEnv .default 1
        ⟨none, 0, -1⟩ none false (0, 0)).map Prod.fst = .ok (some 0) :=
    ⟨_, pushed, rfl, by decide +kernel⟩
  obtain ⟨⟨_, m'⟩, got, rfl⟩ := map_eq_ok.mp got
  exact ⟨m, m', run, inUse, got, returned_unused empty_pair run got 0⟩

end MockProxy.Hostgroups.Manager
