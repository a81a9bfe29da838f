import MockProxy.Hostgroups.Status

/-!
# The number of servers online

A hostgroup caches the number of its servers that are online. `set_status` and the changes of the
list of servers count them again, so after any sequence of such operations the cache is exact. Two
writers of the status do not: `connect_error` and the method `shun_and_killall` of a server. The
cache is wrong after an operation exactly if one of them has shunned a server that was online
(`onlineCount_exact_iff`).
-/

namespace MockProxy.Hostgroups

open Function Machine List

namespace Servers

variable {s t : Servers} {brk : SrvId}

def countOnline (s : Servers) (hid : Nat) : Nat :=
  (s.hostgroup hid).mysrvs.countP fun id => (s.srv id).status = .online

def Counted (s : Servers) : Prop :=
  ∀ hid ∈ s.hids, (s.hostgroup hid).numOnlineServers = s.countOnline hid

/-- A server is in the list of its own hostgroup only, and no list holds an address from `brk`
on. -/
def Housed (s : Servers) (brk : SrvId) : Prop :=
  ∀ hid ∈ s.hids, ∀ id ∈ (s.hostgroup hid).mysrvs, id < brk ∧ (s.srv id).hid = hid

/-- The state between two operations while no write has gone past the cache. -/
structure Level (s : Servers) (brk : SrvId) : Prop where
  running : s.shutdown = false
  housed : s.Housed brk
  counted : s.Counted

/-! ### Counting again -/

theorem refreshOnlineServerCount_of_running (running : s.shutdown = false) (hid : Nat) :
    s.refreshOnlineServerCount hid = { s with
        hostgroup := update s.hostgroup hid
          { s.hostgroup hid with numOnlineServers := s.countOnline hid } } := by
  unfold refreshOnlineServerCount
  rw [running]
  rfl

theorem mysrvs_refresh (running : s.shutdown = false) (hid hid' : Nat) :
    ((s.refreshOnlineServerCount hid).hostgroup hid').mysrvs = (s.hostgroup hid').mysrvs := by
  rw [refreshOnlineServerCount_of_running running]
  by_cases same : hid' = hid
  · subst same
    simp
  · simp [update_of_ne same]

theorem countOnline_refresh (running : s.shutdown = false) (hid hid' : Nat) :
    (s.refreshOnlineServerCount hid).countOnline hid' = s.countOnline hid' := by
  unfold countOnline
  rw [mysrvs_refresh running, srv_refresh]

variable {hid : Nat} {id : SrvId} {v : MySrvC}

theorem level_refresh (running : s.shutdown = false) (housed : s.Housed brk)
    (others : ∀ hid' ∈ s.hids, hid' ≠ hid → (s.hostgroup hid').numOnlineServers =
      s.countOnline hid') :
    (s.refreshOnlineServerCount hid).Level brk := by
  have known_of : ∀ hid' ∈ (s.refreshOnlineServerCount hid).hids, hid' ∈ s.hids := by
    rw [refreshOnlineServerCount_of_running running]
    exact fun hid' known => known
  constructor
  · rw [refreshOnlineServerCount_of_running running]
    exact running
  · intro hid' known id member
    rw [mysrvs_refresh running] at member
    rw [srv_refresh]
    exact housed hid' (known_of hid' known) id member
  · intro hid' known
    rw [countOnline_refresh running]
    by_cases same : hid' = hid
    · subst same
      simp [refreshOnlineServerCount_of_running running]
    · simp only [refreshOnlineServerCount_of_running running, update_of_ne same]
      exact others hid' (known_of hid' known) same

theorem countOnline_put_of_unlisted (unlisted : id ∉ (s.hostgroup hid).mysrvs) :
    (s.put id v).countOnline hid = s.countOnline hid := by
  apply countP_congr
  intro id' member
  have other : id' ≠ id := fun same => unlisted (same ▸ member)
  simp [put, update_of_ne other]

theorem countOnline_put_of_status (same : v.status = .online ↔ (s.srv id).status = .online)
    (hid : Nat) : (s.put id v).countOnline hid = s.countOnline hid := by
  apply countP_congr
  intro id' member
  by_cases here : id' = id
  · subst here
    simp [put, same]
  · simp [put, update_of_ne here]

theorem Housed.put (housed : s.Housed brk) (home : v.hid = (s.srv id).hid) :
    (s.put id v).Housed brk := by
  intro hid known id' member
  by_cases here : id' = id
  · subst here
    simp only [Servers.put, update_self, home]
    exact housed hid known id' member
  · simp only [Servers.put, update_of_ne here]
    exact housed hid known id' member

theorem Level.put (level : s.Level brk) (home : v.hid = (s.srv id).hid)
    (same : v.status = .online ↔ (s.srv id).status = .online) : (s.put id v).Level brk := by
  refine ⟨level.running, level.housed.put home, ?_⟩
  intro hid known
  rw [countOnline_put_of_status same]
  exact level.counted hid known

theorem Level.setStatus (level : s.Level brk) (id : SrvId) (status : Status) :
    (s.setStatus id status).Level brk := by
  apply level_refresh
  · exact level.running
  · exact level.housed.put rfl
  · intro hid known other
    rw [countOnline_put_of_unlisted]
    · exact level.counted hid known
    · intro member
      exact other (level.housed hid known id member).2.symm

theorem Level.lookup (level : s.Level brk) (hid : Nat) : (s.lookup hid).Level brk := by
  unfold Servers.lookup
  split
  · exact level
  · -- a new hostgroup is empty
    rename_i unknown
    have apart : ∀ hid' ∈ s.hids, hid' ≠ hid := fun hid' known same => unknown (same ▸ known)
    constructor
    · exact level.running
    · intro hid' known id member
      rcases mem_append.mp known with old | new
      · simp only [update_of_ne (apart hid' old)] at member
        exact level.housed hid' old id member
      · rw [mem_singleton.mp new] at member
        simp [MyHGC.create] at member
    · intro hid' known
      rcases mem_append.mp known with old | new
      · simp only [countOnline, update_of_ne (apart hid' old)]
        exact level.counted hid' old
      · simp [countOnline, mem_singleton.mp new, MyHGC.create]

theorem mem_hids_lookup (s : Servers) (hid : Nat) : hid ∈ (s.lookup hid).hids := by
  unfold Servers.lookup
  split
  · assumption
  · exact mem_append_right _ (mem_singleton_self hid)

/-! ### What a selection does -/

theorem Level.unshun (level : s.Level brk) (id : SrvId) : (s.unshun id).Level brk :=
  (level.setStatus id .online).put rfl .rfl

theorem Level.unshunDesperate (level : s.Level brk) (id : SrvId) :
    (s.unshunDesperate id).Level brk :=
  (level.setStatus id .online).put rfl .rfl

theorem Level.visitDesperate {sc : Servers × Candidates} (level : sc.1.Level brk) (env : Env)
    (r : Request) (id : SrvId) : (Servers.visitDesperate env r sc id).1.Level brk := by
  unfold Servers.visitDesperate
  dsimp only
  split
  · exact level.unshunDesperate id
  · exact level

theorem Level.collect (level : s.Level brk) (env : Env) (r : Request) (hid : Nat) :
    (s.collect env r hid).1.Level brk := by
  have first : ((s.hostgroup hid).mysrvs.foldl (Servers.visit env r) (s, ⟨[], 0⟩)).1.Level brk := by
    apply firstScan_keeps (P := fun s => s.Level brk) level
    intro s' id still _
    exact still.unshun id
  unfold Servers.collect
  dsimp only
  split
  · apply foldlRecOn (motive := fun sc : Servers × Candidates => sc.1.Level brk)
    · exact first
    · intro sc level id _
      exact level.visitDesperate env r id
  · exact first

/-! ### The other operations -/

theorem Level.killConnections (level : s.Level brk) (id : SrvId) :
    (s.killConnections id).Level brk :=
  level.put rfl .rfl

theorem Level.shunByStatus (level : s.Level brk) (id : SrvId) : (s.shunByStatus id).Level brk := by
  unfold Servers.shunByStatus
  split
  · split
    · exact (level.setStatus id .shunned).killConnections id
    · exact level
  · exact (level.setStatus id .shunned).killConnections id
  · exact level.killConnections id
  · exact level
  · exact level

theorem Level.shunServer {st : Servers × Int × Bool} (level : st.1.Level brk) (vars : MonitorVars)
    (hostname : String) (port : Nat) (id : SrvId) :
    (Servers.shunServer vars hostname port st id).1.Level brk := by
  unfold Servers.shunServer
  dsimp only
  split
  · exact (level.shunByStatus id).put rfl .rfl
  · exact level

section

variable (level : s.Level brk)

include level

variable (vars : MonitorVars)

theorem Level.shunAndKillall (now : Int) (hostname : String)
    (port : Nat) : (s.shunAndKillall vars now hostname port).1.Level brk := by
  apply foldlRecOn (motive := fun st : Servers × Int × Bool => st.1.Level brk)
  · exact level
  · intro st level hid _
    apply foldlRecOn (motive := fun st : Servers × Int × Bool => st.1.Level brk)
    · exact level
    · intro st level id _
      exact level.shunServer vars hostname port id

theorem Level.groupReplicationServer (address : String)
    (port : Nat) (lagCount : Int) (enable : Bool) (id : SrvId) :
    (Servers.groupReplicationServer vars address port lagCount enable s id).Level brk := by
  unfold Servers.groupReplicationServer
  dsimp only
  split_ifs
  · exact level.setStatus id _
  · exact level
  · exact level.setStatus id _
  · exact level.setStatus id _
  · exact level
  · exact level

/-- A list is replaced and its servers are counted: the servers are in their hostgroups. -/
theorem Level.relist {mysrvs : List SrvId}
    (homes : ∀ id ∈ mysrvs, id < brk ∧ (s.srv id).hid = hid) :
    (Servers.refreshOnlineServerCount { s with
      hostgroup := update s.hostgroup hid { s.hostgroup hid with mysrvs := mysrvs } } hid).Level
      brk := by
  apply level_refresh (s := { s with
    hostgroup := update s.hostgroup hid { s.hostgroup hid with mysrvs := mysrvs } }) level.running
  · intro hid' known id member
    by_cases same : hid' = hid
    · subst same
      simp only [update_self] at member
      exact homes id member
    · simp only [update_of_ne same] at member
      exact level.housed hid' known id member
  · intro hid' known other
    simp only [countOnline, update_of_ne other]
    exact level.counted hid' known

theorem Level.removeFromList (known : hid ∈ s.hids)
    (removed : s.removeFromList hid id = .ok t) : t.Level brk := by
  unfold Servers.removeFromList at removed
  dsimp only at removed
  split at removed
  next listed =>
    cases removed
    apply level.relist
    intro id' member
    have stays := (PtrArray.removeFast_perm listed).subset (mem_cons_of_mem id member)
    exact level.housed hid known id' stays
  · cases removed

theorem Level.purgeHostgroup (hid : Nat) : (s.purgeHostgroup hid).Level brk := by
  have apart : ∀ id, s.purgeable id → decide ((s.srv id).status = .online) = false := by
    intro id gone
    have offline : (s.srv id).status = .offlineHard := (of_decide_eq_true gone).1
    simp [offline]
  constructor
  · exact level.running
  · intro hid' known id member
    by_cases same : hid' = hid
    · subst same
      simp only [Servers.purgeHostgroup, update_self] at member
      exact level.housed hid' known id (PtrArray.mem_of_mem_removeWhere member)
    · simp only [Servers.purgeHostgroup, update_of_ne same] at member
      exact level.housed hid' known id member
  · intro hid' known
    have before := level.counted hid' known
    by_cases same : hid' = hid
    · subst same
      simp only [Servers.purgeHostgroup, countOnline, update_self]
      exact before.trans (PtrArray.countP_removeWhere apart _ _ _).symm
    · simp only [Servers.purgeHostgroup, countOnline, update_of_ne same]
      exact before

theorem Level.purgeMysqlServersTable : s.purgeMysqlServersTable.Level brk := by
  apply foldlRecOn (motive := fun s : Servers => s.Level brk)
  · exact level
  · intro s level hid _
    exact level.purgeHostgroup hid

theorem Level.groupReplicationLagActionSetServerStatus
    (hid : Nat) (address : String) (port : Nat) (lagCount : Int) (enable : Bool) :
    (s.groupReplicationLagActionSetServerStatus vars hid address port lagCount enable).Level
      brk := by
  apply foldlRecOn (motive := fun s : Servers => s.Level brk)
  · exact level
  · intro s level id _
    exact level.groupReplicationServer vars address port lagCount enable id

theorem Level.setOfflineHard (id : SrvId) : (s.setOfflineHard id).Level brk :=
  (level.setStatus id .offlineHard).put rfl .rfl

theorem Level.byAdmin (id : SrvId) :
    (if (s.srv id).status = .shunned then s.put id { s.srv id with shunnedAutomatic := false }
      else s).Level brk := by
  split
  · exact level.put rfl .rfl
  · exact level

theorem Level.add (known : hid ∈ s.hids) (home : v.hid = hid) :
    ((s.put brk v).addToList hid brk).Level (brk + 1) := by
  have fresh : ∀ hid' ∈ s.hids, brk ∉ (s.hostgroup hid').mysrvs := by
    intro hid' known' member
    exact Nat.lt_irrefl brk (level.housed hid' known' brk member).1
  have put : (s.put brk v).Level (brk + 1) := by
    refine ⟨level.running, ?_, ?_⟩
    · intro hid' known' id member
      obtain ⟨old, home'⟩ := level.housed hid' known' id member
      simp only [Servers.put, update_of_ne (Nat.ne_of_lt old)]
      exact ⟨Nat.lt_succ_of_lt old, home'⟩
    · intro hid' known'
      rw [countOnline_put_of_unlisted (fresh hid' known')]
      exact level.counted hid' known'
  apply put.relist
  refine forall_mem_append.mpr ⟨put.housed hid known, forall_mem_singleton.mpr ?_⟩
  simp only [Servers.put, update_self]
  exact ⟨Nat.lt_succ_self brk, home⟩

end

/-! ### A write that is not counted -/

theorem countOnline_put_lt (member : id ∈ (s.hostgroup hid).mysrvs)
    (was : (s.srv id).status = .online) (now : v.status ≠ .online) :
    (s.put id v).countOnline hid < s.countOnline hid := by
  have fewer : ∀ id', decide (((s.put id v).srv id').status = .online) →
      decide ((s.srv id').status = .online) := by
    intro id' online
    by_cases here : id' = id
    · rw [here]
      exact decide_eq_true was
    · simpa only [put, update_of_ne here] using online
  have gone : ((s.put id v).srv id).status ≠ .online := by
    simpa only [put, update_self] using now
  obtain ⟨before, after, split⟩ := append_of_mem member
  have left := countP_mono_left (l := before) fun id' _ => fewer id'
  have right := countP_mono_left (l := after) fun id' _ => fewer id'
  change countP (fun id' => decide (((s.put id v).srv id').status = .online))
    (s.hostgroup hid).mysrvs < countP _ (s.hostgroup hid).mysrvs
  simp only [split, countP_append, countP_cons, was, gone, decide_true, decide_false]
  simp only [if_true, Bool.false_eq_true, if_false]
  omega

theorem not_counted_put (counted : s.Counted) (live : s.Live id) (was : (s.srv id).status = .online)
    (now : v.status ≠ .online) : ¬ (s.put id v).Counted := by
  intro exact'
  have before := counted _ live.1
  have after := exact' _ live.1
  have fewer := countOnline_put_lt live.2 was now
  simp only [put] at after before fewer
  omega

end Servers

/-! ### The status of one server -/

theorem MySrvC.connectError_hid (v : MySrvC) (now : Int) (vars : MonitorVars) (errNum : Int) :
    (v.connectError now vars errNum).hid = v.hid := by
  unfold MySrvC.connectError
  split_ifs <;> rfl

theorem MySrvC.connectError_status (v : MySrvC) (now : Int) (vars : MonitorVars) (errNum : Int) :
    (v.connectError now vars errNum).status =
      if v.status = .online ∧ v.tooManyErrors now vars errNum then .shunned else v.status := by
  by_cases shuns : v.status = .online ∧ v.tooManyErrors now vars errNum
  · obtain ⟨counts, same_second, -⟩ := of_decide_eq_true shuns.2
    have not_later : ¬ now > v.timeLastDetectedError := by omega
    have not_earlier : ¬ now < v.timeLastDetectedError := by omega
    unfold MySrvC.connectError
    rw [if_neg counts, if_neg not_later, if_neg not_earlier, if_pos ⟨shuns.2, shuns.1⟩,
      if_pos shuns]
  · unfold MySrvC.connectError
    split_ifs with _ _ _ both
    · rfl
    · rfl
    · rfl
    · exact absurd both.symm shuns
    · rfl

namespace Monitored

open Servers

variable {w w' : Monitored} {op : StatusOp}

/-- The operation shuns a server that is online without counting the servers again. -/
def ShunsDirectly (w : Monitored) : StatusOp → Prop
  | .connectError now vars id errNum =>
    (w.srv id).status = .online ∧ (w.srv id).tooManyErrors now vars errNum = true
  | .shun id => (w.srv id).status = .online
  | _ => False

def Level (w : Monitored) : Prop := w.toServers.Level w.brk

section

variable (level : w.Level)

include level

theorem Level.add (hid : Nat) (address : String) (port : Nat) (row : ServerRow) :
    (w.add hid address port row).Level := by
  apply Servers.Level.add
  · exact level.lookup hid
  · exact mem_hids_lookup w.toServers hid
  · rfl

variable (vars : MonitorVars) (id : SrvId)

theorem Level.commitStatus (row : ServerRow) : (w.commitStatus vars id row).Level := by
  have changed : (if w.keepsShunned vars id row then w.toServers
      else w.toServers.setStatus id row.status).Level w.brk := by
    split
    · exact level
    · exact Servers.Level.setStatus level id row.status
  exact changed.byAdmin id

theorem Level.commitMaxReplicationLag (row : ServerRow) :
    (w.commitMaxReplicationLag id row).Level := by
  unfold Monitored.commitMaxReplicationLag
  dsimp only
  split
  · exact Servers.Level.setStatus level id .online
  · exact level

theorem Level.commitServer (was row : ServerRow) : (w.commitServer vars id was row).Level := by
  apply commitServer_keeps
  · intro w v level home same
    exact Servers.Level.put level home (by rw [same])
  · intro w level
    exact level.commitStatus vars id row
  · intro w level
    exact level.commitMaxReplicationLag id row
  · exact level

theorem Level.lagWhileOnline (lag : Int) : (w.lagWhileOnline vars id lag).Level := by
  unfold Monitored.lagWhileOnline
  dsimp only
  split
  · split
    · exact Servers.Level.setStatus level id .shunnedReplicationLag
    · exact level
  · exact level

theorem Level.lagWhileShunned (r : LagReport) : (w.lagWhileShunned id r).Level := by
  unfold Monitored.lagWhileShunned
  split
  · exact Servers.Level.setStatus level id .online
  · exact level

theorem Level.replicationLagActionInner (hid : Nat)
    (r : LagReport) : (w.replicationLagActionInner vars hid r).Level := by
  unfold Monitored.replicationLagActionInner
  dsimp only
  split
  · exact level
  next id _ =>
    have noted : (w.putLag id { w.lag id with
      curReplicationLag := (w.resolveNull vars hid r).currentReplicationLag }).Level := level
    split
    · exact noted.lagWhileOnline vars id _
    · split
      · exact noted.lagWhileShunned id _
      · exact noted

theorem Level.step (running : op ≠ .shutdown) (counts : ¬ w.ShunsDirectly op)
    (stepped : w.step op = .ok w') : w'.Level := by
  cases op with
  | add hid address port row =>
    cases stepped
    exact level.add hid address port row
  | remove id =>
    obtain ⟨s, removed, done⟩ := bind_eq_ok.mp stepped
    obtain ⟨live, rfl⟩ := of_onLive done
    exact Servers.Level.removeFromList level live.1 removed
  | commit vars id was row =>
    obtain ⟨-, rfl⟩ := of_onLive stepped
    exact level.commitServer vars id was row
  | offline id =>
    obtain ⟨-, rfl⟩ := of_onLive stepped
    exact Servers.Level.setOfflineHard level id
  | purge =>
    cases stepped
    exact Servers.Level.purgeMysqlServersTable level
  | setStatus id status =>
    obtain ⟨-, rfl⟩ := of_onLive stepped
    exact Servers.Level.setStatus level id status
  | connectError now vars id errNum =>
    obtain ⟨-, rfl⟩ := of_onLive stepped
    apply Servers.Level.put level
    · exact MySrvC.connectError_hid _ now vars errNum
    · simp only [ShunsDirectly] at counts
      rw [MySrvC.connectError_status, if_neg counts]
  | shun id =>
    obtain ⟨-, rfl⟩ := of_onLive stepped
    -- the server was not online, and it is not online now
    apply Servers.Level.put level
    · rfl
    · exact ⟨nofun, fun online => absurd online counts⟩
  | shunAndKillall now vars hostname port =>
    cases stepped
    exact Servers.Level.shunAndKillall level vars now hostname port
  | groupReplicationLag vars hid address port lagCount enable =>
    simp only [Monitored.step] at stepped
    split at stepped
    · cases stepped
      exact Servers.Level.groupReplicationLagActionSetServerStatus level vars hid address
        port lagCount
        enable
    · cases stepped
      exact level
  | replicationLag vars hid r =>
    simp only [Monitored.step] at stepped
    split at stepped
    · cases stepped
      exact level.replicationLagActionInner vars hid r
    · cases stepped
  | select env r hid random =>
    obtain ⟨selected, chosen, done⟩ := bind_eq_ok.mp stepped
    obtain ⟨id, drawn, returned⟩ := bind_eq_ok.mp chosen
    cases done
    cases returned
    exact (Servers.Level.lookup level hid).collect env r hid
  | connections id used free =>
    obtain ⟨-, rfl⟩ := of_onLive stepped
    exact Servers.Level.put level rfl .rfl
  | shutdown => exact absurd rfl running

theorem not_counted_of_shunsDirectly (shuns : w.ShunsDirectly op)
    (stepped : w.step op = .ok w') : ¬ w'.Counted := by
  cases op with
  | connectError now vars id errNum =>
    obtain ⟨live, rfl⟩ := of_onLive stepped
    apply not_counted_put level.counted live shuns.1
    simp only [ShunsDirectly] at shuns
    rw [MySrvC.connectError_status, if_pos shuns]
    decide
  | shun id =>
    obtain ⟨live, rfl⟩ := of_onLive stepped
    apply not_counted_put level.counted live shuns
    intro online
    cases online
  | _ => exact absurd shuns id

end

theorem level_start : start.Level where
  running := rfl
  housed := fun _ known => absurd known not_mem_nil
  counted := fun _ known => absurd known not_mem_nil

/-- The operations before a state counted what they changed, while the process did not shut down. -/
def Counting (w : Monitored) (op : StatusOp) : Prop := w.shutdown = false ∧ ¬ w.ShunsDirectly op

/-- The caches of all hostgroups are exact after an operation if and only if it did not shun a
server past them. -/
theorem onlineCount_exact_iff (reached : Run step Counting start w) (running : w.shutdown = false)
    (stepped : w.step op = .ok w') : w'.Counted ↔ ¬ w.ShunsDirectly op := by
  have level : w.Level := by
    refine reached.invariant (fun w => w.shutdown = false → w.Level)
      (fun _ => level_start) ?_ running
    rintro w op w' level ⟨running, counts⟩ stepped running'
    by_cases shutdown : op = .shutdown
    · subst shutdown
      cases stepped
      cases running'
    · exact (level running).step shutdown counts stepped
  constructor
  · intro counted shuns
    exact not_counted_of_shunsDirectly level shuns stepped counted
  · intro counts
    by_cases shutdown : op = .shutdown
    · subst shutdown
      cases stepped
      exact level.counted
    · exact (level.step shutdown counts stepped).counted

def oneServer : Monitored := start.add 0 "db" 3306 ⟨1, .online, 1000, 0, 0⟩

theorem reached_oneServer : Run step Counting start oneServer :=
  .step (i := .add 0 "db" 3306 ⟨1, .online, 1000, 0, 0⟩) .start ⟨rfl, id⟩ rfl

/-- A single error does not shun the server, and it stays counted. -/
theorem onlineCount_exact_iff_error :
    ∃ w', oneServer.step (.connectError 100 .defaults 0 2003) = .ok w' ∧
      (w'.Counted ↔ ¬ oneServer.ShunsDirectly (.connectError 100 .defaults 0 2003)) ∧
        w'.Counted := by
  have exact_iff := onlineCount_exact_iff reached_oneServer rfl
    (show step oneServer (.connectError 100 .defaults 0 2003) = .ok _ from rfl)
  refine ⟨_, rfl, exact_iff, exact_iff.mpr ?_⟩
  rintro ⟨-, many⟩
  cases many

/-- Five connect errors in one second shun the server, which is still counted. -/
theorem connectErrors_leave_onlineCount :
    ∃ w, (replicate 5 (.connectError 100 .defaults 0 2003)).foldlM step oneServer = .ok w ∧
      (w.srv 0).status = .shunned ∧ (w.hostgroup 0).numOnlineServers = 1 ∧ w.countOnline 0 = 0 :=
  ⟨_, rfl, rfl, rfl, rfl⟩

end Monitored

end MockProxy.Hostgroups
