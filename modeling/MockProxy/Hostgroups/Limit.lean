import MockProxy.Hostgroups.Manager

/-!
# The limit on the connections of a server

A server has at most `max_connections` connections in use. `get_random_MySrvC` looks at the limit,
and `get_multiple_idle_connections` takes free connections into use only after those beyond the
limit are dropped.

A server that is brought back is returned without a look at the limit, so the result is about runs
in which no connection is asked for at such a moment.
-/

namespace MockProxy.Hostgroups

open Machine List

/-- The same connections are in use, under the same limit, and there are not more free ones. -/
structure MySrvC.Trims (v v' : MySrvC) : Prop where
  used : v'.connectionsUsed = v.connectionsUsed
  limit : v'.maxConnections = v.maxConnections
  free : v'.connectionsFree.length ≤ v.connectionsFree.length

theorem MySrvC.Trims.refl (v : MySrvC) : v.Trims v := ⟨rfl, rfl, le_rfl⟩

theorem MySrvC.Trims.trans {v v' v'' : MySrvC} (first : v.Trims v') (second : v'.Trims v'') :
    v.Trims v'' where
  used := second.used.trans first.used
  limit := second.limit.trans first.limit
  free := second.free.trans first.free

namespace Manager

variable {hash : String → Nat} {m m' : Manager hash}

def Within (m : Manager hash) : Prop :=
  ∀ id, ((m.srv id).connectionsUsed.length : Int) ≤ (m.srv id).maxConnections

def Room (m : Manager hash) (id : SrvId) : Prop :=
  ((m.srv id).connectionsUsed.length : Int) < (m.srv id).maxConnections

def Fits (m : Manager hash) (id : SrvId) : Prop :=
  (((m.srv id).connectionsUsed.length + (m.srv id).connectionsFree.length : Nat) : Int) ≤
    (m.srv id).maxConnections

def Trimmed (m m' : Manager hash) : Prop := ∀ id, (m.srv id).Trims (m'.srv id)

namespace Trimmed

theorem refl (m : Manager hash) : Trimmed m m := fun id => .refl (m.srv id)

theorem trans {m'' : Manager hash} (first : Trimmed m m') (second : Trimmed m' m'') :
    Trimmed m m'' := fun id => (first id).trans (second id)

theorem of_srv (same : m'.servers.srv = m.servers.srv) : Trimmed m m' := by
  intro id
  have srv : m'.srv id = m.srv id := congrFun same id
  rw [srv]
  exact .refl (m.srv id)

variable {id : SrvId} {c : ConnId}

theorem putSrv {v : MySrvC} (one : (m.srv id).Trims v) : Trimmed m (m.putSrv id v) :=
  forall_srv_putSrv one fun id' _ => .refl (m.srv id')

theorem within (trimmed : Trimmed m m') (within : Within m) : Within m' := by
  intro id
  rw [(trimmed id).used, (trimmed id).limit]
  exact within id

theorem room (trimmed : Trimmed m m') (room : Room m id) : Room m' id := by
  unfold Room
  rw [(trimmed id).used, (trimmed id).limit]
  exact room

theorem fits (trimmed : Trimmed m m') (fits : Fits m id) : Fits m' id := by
  unfold Fits at fits ⊢
  rw [(trimmed id).used, (trimmed id).limit]
  have fewer := (trimmed id).free
  omega

theorem takeFree {k : Nat} (taken : m.takeFree id k = .ok (c, m')) : Trimmed m m' := by
  obtain ⟨there, rfl⟩ := takeFree_eq_ok.mp taken
  have shorter := PtrArray.length_removeIndexFast there
  apply putSrv
  constructor
  · rfl
  · rfl
  · dsimp only
    omega

theorem delete (deleted : m.delete c = .ok m') : Trimmed m m' := by
  obtain ⟨conn, -, rfl⟩ := return_eq_ok.mp deleted
  exact of_srv rfl

theorem dropClosed (m : Manager hash) : DropClosed (Trimmed m) := by
  intro before after id trimmed dropped
  obtain ⟨⟨c, next⟩, taken, deleted⟩ := bind_eq_ok.mp dropped
  exact trimmed.trans ((takeFree taken).trans (delete deleted))

theorem groupClosed (m : Manager hash) : GroupClosed (Trimmed m) := by
  intro before servers trimmed same
  exact trimmed.trans (of_srv same)

theorem getRandomMyConn {pool : PoolEnv} {client : Option (Tracked hash)} {ff : Bool} {random : Nat}
    {found : Option ConnId} (done : m.getRandomMyConn pool id client ff random = .ok (found, m')) :
    Trimmed m m' := by
  obtain ⟨before, trimmed, ⟨-, rfl⟩ | created | ⟨c, k, -, taken⟩⟩ :=
    getRandomMyConn_cases (dropClosed m) (groupClosed m) (refl m) done
  · exact trimmed
  · cases created
    exact trimmed.trans (of_srv rfl)
  · exact trimmed.trans (takeFree taken)

theorem select {servers : Servers} (evolves : Servers.Evolves m.servers servers) :
    Trimmed m { m with servers := servers } := by
  intro id
  have core := (evolves id).core
  constructor
  · exact MySrvC.of_core MySrvC.connectionsUsed core
  · exact MySrvC.of_core MySrvC.maxConnections core
  · exact (MySrvC.of_core (·.connectionsFree.length) core).le

end Trimmed

/-! ### Connections in use -/

namespace Within

variable {id : SrvId} {c : ConnId} {pool : PoolEnv} (within : Within m)

include within

theorem putSrv {v : MySrvC} (limited : (v.connectionsUsed.length : Int) ≤ v.maxConnections) :
    Within (m.putSrv id v) :=
  forall_srv_putSrv (P := fun _ v' => (v'.connectionsUsed.length : Int) ≤ v'.maxConnections) limited
    fun id' _ => within id'

theorem addUsed (room : Room m id) (c : ConnId) : Within (m.addUsed id c) := by
  apply within.putSrv
  rw [length_append]
  exact room

theorem hand (room : Room m id) (c : ConnId) : Within (m.hand id c) := by
  apply within.putSrv
  rw [length_append]
  exact room

theorem removeUsed (removed : m.removeUsed id c = .ok m') : Within m' ∧ Room m' id := by
  obtain ⟨k, there, rfl⟩ := removeUsed_eq_ok removed
  have shorter := PtrArray.length_removeIndexFast there
  have limited := within id
  constructor
  · apply within.putSrv
    dsimp only
    omega
  · unfold Room
    rw [srv_setUsed_self]
    dsimp only
    omega

theorem getMyConnFromPool {env : Env} {hid : Nat} {r : Request} {client : Option (Tracked hash)}
    {ff : Bool} {random : Nat × Nat} {result : Option ConnId}
    (sound : ∀ id ∈ ((m.servers.lookup hid).hostgroup hid).mysrvs, ¬ (m.srv id).ReturnsFull env r)
    (done : m.getMyConnFromPool env pool hid r client ff random = .ok (result, m')) :
    Within m' := by
  obtain ⟨chosen, servers, selected, fate⟩ := getMyConnFromPool_cases done
  have trimmed := Trimmed.select (Servers.getRandomMySrvC_evolves selected).of_lookup
  rcases fate with rfl | ⟨id, found, next, rfl, got, handed⟩
  · exact trimmed.within within
  · have notFull := sound id (Servers.mem_of_returned selected)
    unfold Manager.srv at notFull
    rw [← Servers.srv_lookup m.servers hid] at notFull
    have room : Room { m with servers := servers } id :=
      (Servers.eligible_of_returned selected notFull).room
    have after := Trimmed.getRandomMyConn got
    rcases handed with ⟨rfl, rfl⟩ | ⟨c, rfl, rfl⟩
    · exact (trimmed.trans after).within within
    · exact hand ((trimmed.trans after).within within) (after.room room) c

theorem destroyMyConnFromPool (done : m.destroyMyConnFromPool pool c = .ok m') : Within m' := by
  rcases destroyMyConnFromPool_cases done with rfl | ⟨id, next, removed, deleted⟩
  · exact within
  · exact (Trimmed.delete deleted).within (within.removeUsed removed).1

theorem pushMyConnToPool (done : m.pushMyConnToPool pool c = .ok m') : Within m' := by
  obtain ⟨conn, next, -, removed, fate⟩ := pushMyConnToPool_cases done
  have reset : Within (m.putConn c { conn with autoIncrementDelayToken := 0 }) := within
  obtain ⟨after, room⟩ := reset.removeUsed removed
  rcases fate with ⟨-, rfl⟩ | deleted | destroyed | rfl
  · exact after
  · exact (Trimmed.delete deleted).within after
  · -- back among the used ones, where there is room again
    exact (after.addUsed room c).destroyMyConnFromPool destroyed
  · exact after.putSrv (after conn.parent)

end Within

/-! ### Idle connections -/

variable {id : SrvId} {e : Idle} {oldest result : List Idle} {maxLastTimeUsed numConn : Nat}
  {ids : List SrvId} {pool : PoolEnv}

theorem dropFreeWhile_ends {reason : MySrvC → Bool} {fuel : Nat}
    (enough : (m.srv id).connectionsFree.length < fuel)
    (done : dropFreeWhile reason id fuel m = .ok m') : reason (m'.srv id) = false := by
  induction fuel generalizing m with
  | zero => exact absurd enough (Nat.not_lt_zero _)
  | succ fuel ih =>
    unfold dropFreeWhile at done
    split at done
    · obtain ⟨next, dropped, rest⟩ := bind_eq_ok.mp done
      obtain ⟨⟨c, taken⟩, took, deleted⟩ := bind_eq_ok.mp dropped
      obtain ⟨there, rfl⟩ := takeFree_eq_ok.mp took
      have shorter := PtrArray.length_removeIndexFast there
      have same := (Trimmed.delete deleted id).free
      rw [srv_setFree_self] at same
      dsimp only at same
      apply ih _ rest
      omega
    next none =>
      cases done
      exact Bool.eq_false_iff.mpr none

theorem fits_dropIdleConnections (within : Within m)
    (done : m.dropIdleConnections pool id = .ok m') : Fits m' id := by
  obtain ⟨first, offline, done⟩ := bind_eq_ok.mp done
  obtain ⟨second, trimmed, rest⟩ := bind_eq_ok.mp done
  have afterFirst : Trimmed m first := by
    unfold dropOffline at offline
    split at offline
    · exact dropFreeWhile_keeps (Trimmed.dropClosed m) (.refl m) offline
    · cases offline
      exact .refl m
  have afterSecond := dropFreeWhile_keeps (Trimmed.dropClosed m) afterFirst trimmed
  have fits : Fits second id := by
    have ended := dropFreeWhile_ends (lt_add_one _) trimmed
    have limited := afterSecond.within within id
    unfold Fits
    by_cases none : (second.srv id).connectionsFree = []
    · rw [none]
      exact limited
    · exact not_lt.mp fun more => of_decide_eq_false ended ⟨none, more⟩
  exact (dropIdle_tail_keeps (Trimmed.dropClosed second) (.refl second) rest).fits fits

theorem fits_dropEach (within : Within m)
    (done : ids.foldlM (fun m id => m.dropIdleConnections pool id) m = .ok m') :
    ∀ id ∈ ids, Fits m' id := by
  induction ids generalizing m with
  | nil => exact fun id never => absurd never not_mem_nil
  | cons first ids ih =>
    obtain ⟨next, dropped, rest⟩ := bind_eq_ok.mp done
    have trimmed := dropIdleConnections_keeps (Trimmed.dropClosed m) (.refl m) dropped
    have later := dropEach_keeps (Trimmed.dropClosed next) (.refl next) rest
    intro id member
    rcases mem_cons.mp member with rfl | member
    · exact later.fits (fits_dropIdleConnections within dropped)
    · exact ih (trimmed.within within) rest id member

theorem sameGroups_dropClosed (m : Manager hash) : DropClosed fun m' : Manager hash =>
    m'.servers.hids = m.servers.hids ∧ m'.servers.hostgroup = m.servers.hostgroup := by
  intro before after id same dropped
  obtain ⟨⟨c, next⟩, taken, deleted⟩ := bind_eq_ok.mp dropped
  obtain ⟨-, rfl⟩ := takeFree_eq_ok.mp taken
  obtain ⟨conn, -, rfl⟩ := return_eq_ok.mp deleted
  exact same

theorem examined_subset {hid : Option Nat} : m.examined hid ⊆ m.servers.hids := by
  cases hid with
  | none => exact List.Subset.refl m.servers.hids
  | some hid =>
    intro x member
    rw [examined] at member
    split at member
    next known =>
      rw [mem_singleton.mp member]
      exact known
    · exact absurd member not_mem_nil

theorem mem_offerIdle {x : Idle} (member : x ∈ offerIdle maxLastTimeUsed numConn oldest e) :
    x ∈ oldest ∨ x = e := by
  unfold offerIdle at member
  split at member
  · split at member
    · exact (mem_cons.mp ((insertIdle_perm e oldest).subset member)).symm
    · split at member
      · exact .inl member
      · split at member
        · rcases mem_cons.mp ((insertIdle_perm e _).subset member) with new | kept
          · exact .inr new
          · exact .inl (mem_of_mem_dropLast kept)
        · exact .inl member
  · exact .inl member

theorem mem_offerServer (done : m.offerServer maxLastTimeUsed numConn oldest id = .ok result)
    (member : e ∈ result) : e ∈ oldest ∨ e.mysrvc = id := by
  refine foldlM_invariant done (fun result => e ∈ result → e ∈ oldest ∨ e.mysrvc = id)
    .inl ?_ member
  intro c _ before after holds offered member
  obtain ⟨conn, -, rfl⟩ := return_eq_ok.mp offered
  rcases mem_offerIdle member with old | rfl
  · exact holds old
  · exact .inr rfl

theorem mem_offered (done : ids.foldlM (m.offerServer maxLastTimeUsed numConn) oldest = .ok result)
    (member : e ∈ result) : e ∈ oldest ∨ e.mysrvc ∈ ids := by
  refine foldlM_invariant done (fun result => e ∈ result → e ∈ oldest ∨ e.mysrvc ∈ ids)
    .inl ?_ member
  intro id listed before after holds offered member
  rcases mem_offerServer offered member with old | rfl
  · exact holds old
  · exact .inr listed

theorem mem_movesOf {order : List SrvId} {move : SrvId × Nat}
    (member : move ∈ movesOf oldest order) : ∃ e ∈ oldest, e.mysrvc = move.1 := by
  obtain ⟨id, -, inServer⟩ := mem_flatMap.mp member
  obtain ⟨k, sorted, rfl⟩ := mem_map.mp inServer
  obtain ⟨e, chosen, -⟩ := mem_map.mp (mem_mergeSort.mp sorted)
  obtain ⟨offered, here⟩ := mem_filter.mp chosen
  exact ⟨e, offered, of_decide_eq_true here⟩

theorem fits_move {k : Nat} {c : ConnId} (taken : m.takeFree id k = .ok (c, m')) {id' : SrvId}
    (fits : Fits m id') : Fits (m'.addUsed id c) id' := by
  obtain ⟨there, rfl⟩ := takeFree_eq_ok.mp taken
  have shorter := PtrArray.length_removeIndexFast there
  by_cases same : id' = id
  · subst same
    unfold Fits at fits ⊢
    unfold Manager.addUsed
    rw [srv_setUsed_self, srv_setFree_self]
    dsimp only
    rw [length_append, length_singleton]
    omega
  · unfold Fits Manager.addUsed
    rw [srv_setUsed_of_ne _ same, srv_setFree_of_ne _ same]
    exact fits

namespace Within

theorem moveIdle (within : Within m) {numConn : Nat} {moves : List (SrvId × Nat)}
    (fits : ∀ move ∈ moves, Fits m move.1) {moved result : List ConnId}
    (done : moveIdle numConn moves moved m = .ok (result, m')) : Within m' := by
  induction moves generalizing m moved with
  | nil =>
    cases done
    exact within
  | cons move moves ih =>
    obtain ⟨⟨c, next⟩, taken, rest⟩ := bind_eq_ok.mp done
    have room : Room next move.1 := by
      obtain ⟨there, rfl⟩ := takeFree_eq_ok.mp taken
      have shorter := PtrArray.length_removeIndexFast there
      have all := fits move mem_cons_self
      unfold Fits at all
      unfold Room
      rw [srv_setFree_self]
      dsimp only
      omega
    have after := ((Trimmed.takeFree taken).within within).addUsed room c
    split at rest
    · cases rest
      exact after
    · apply ih after _ rest
      intro other member
      exact fits_move taken (fits other (mem_cons_of_mem move member))

theorem getMultipleIdleConnections (within : Within m) {pool : PoolEnv} {hid : Option Nat}
    {maxLastTimeUsed numConn : Nat} {order : List SrvId → List SrvId} {result : List ConnId}
    (done : m.getMultipleIdleConnections pool hid maxLastTimeUsed numConn order =
      .ok (result, m')) :
    Within m' := by
  obtain ⟨next, dropped, done⟩ := bind_eq_ok.mp done
  obtain ⟨oldest, offered, moved⟩ := bind_eq_ok.mp done
  have trimmed := dropEach_keeps (Trimmed.dropClosed m) (.refl m) dropped
  obtain ⟨hids, groups⟩ := dropEach_keeps (sameGroups_dropClosed m) ⟨rfl, rfl⟩ dropped
  apply moveIdle (trimmed.within within) _ moved
  intro move member
  obtain ⟨e, there, here⟩ := mem_movesOf member
  apply fits_dropEach within dropped
  rcases mem_offered offered there with never | examined
  · exact absurd never not_mem_nil
  · rw [← here]
    obtain ⟨hid, among, server⟩ := mem_flatMap.mp examined
    rw [groups] at server
    exact mem_flatMap.mpr ⟨hid, hids ▸ examined_subset among, server⟩

end Within

/-! ### Runs -/

/-- `max_connections` stays as it is. -/
def FixedMax (m : Manager hash) : PoolEvent hash → Prop
  | .server id v => v.maxConnections = (m.srv id).maxConnections
  | _ => True

/-- No connection is asked for while a server of the hostgroup may be brought back although all its
connections are in use. -/
def NoneFull (m : Manager hash) : PoolEvent hash → Prop
  | .get env _ hid r _ _ _ =>
    ∀ id ∈ ((m.servers.lookup hid).hostgroup hid).mysrvs, ¬ (m.srv id).ReturnsFull env r
  | _ => True

theorem within_step {event : PoolEvent hash} (within : Within m) (fixed : FixedMax m event)
    (sound : NoneFull m event) (stepped : m.step event = .ok m') : Within m' := by
  cases event with
  | get env pool hid r client ff random =>
    obtain ⟨⟨result, next⟩, got, rfl⟩ := map_eq_ok.mp stepped
    exact within.getMyConnFromPool sound got
  | push pool c => exact within.pushMyConnToPool stepped
  | destroy pool c => exact within.destroyMyConnFromPool stepped
  | idle pool hid maxLastTimeUsed numConn order =>
    obtain ⟨⟨result, next⟩, got, rfl⟩ := map_eq_ok.mp stepped
    exact within.getMultipleIdleConnections got
  | use c conn =>
    obtain ⟨old, -, rfl⟩ := return_eq_ok.mp stepped
    exact within
  | server id v =>
    cases stepped
    apply within.putSrv
    exact (within id).trans_eq fixed.symm
  | hostgroups hids hostgroup | dequeue =>
    cases stepped
    exact within

/-- No server ever has more connections in use than `max_connections`, if `max_connections` stays
as it is and no connection is asked for while a server of the hostgroup may be brought back with all
its connections in use. -/
theorem used_within_max {start : Manager hash} (empty : start.Empty)
    (natural : ∀ id, 0 ≤ (start.srv id).maxConnections)
    (run : Run step (fun m event => FixedMax m event ∧ NoneFull m event) start m) (id : SrvId) :
    ((m.srv id).connectionsUsed.length : Int) ≤ (m.srv id).maxConnections := by
  have within : Within m := by
    apply run.invariant
    · intro id
      rw [empty.used]
      exact natural id
    · intro m event m' within meets stepped
      exact within_step within meets.1 meets.2 stepped
  exact within id

/-- The only connection a server admits is handed out. -/
theorem used_within_max_single : ∃ m : Manager fun _ => 0,
      Run step (fun m event => FixedMax m event ∧ NoneFull m event) single m ∧
      (m.srv 0).connectionsUsed = [0] ∧
      ((m.srv 0).connectionsUsed.length : Int) ≤ (m.srv 0).maxConnections := by
  have online (id : SrvId) : ¬ ((single : Manager fun _ => 0).srv id).ReturnsFull
      Servers.defaultEnv ⟨none, 0, -1⟩ := by
    intro full
    cases full.recoverable.1
  have got : Run step (fun m event => FixedMax m event ∧ NoneFull m event)
      (single : Manager fun _ => 0) _ :=
    .step .start (i := .getAny) ⟨trivial, fun id _ => online id⟩ rfl
  exact ⟨_, got, rfl, used_within_max empty_single (fun _ => Int.zero_le_ofNat 1) got 0⟩

/-- The connection of a server is in use, the server is shunned and brought back, and a second
connection is handed out. -/
theorem max_exceeded : ∃ m : Manager fun _ => 0, Run step FixedMax single m ∧
      (m.srv 0).maxConnections = 1 ∧ (m.srv 0).connectionsUsed = [0, 1] := by
  have got : Run step FixedMax (single : Manager fun _ => 0) _ :=
    .step .start (i := .getAny) trivial rfl
  have shunned := got.step (i := .server 0 Servers.shunnedFull) (by exact Eq.refl (1 : Int)) rfl
  have exceeded := shunned.step (i := .getAny) (by exact trivial) rfl
  exact ⟨_, exceeded, rfl, rfl⟩

end Manager

end MockProxy.Hostgroups
