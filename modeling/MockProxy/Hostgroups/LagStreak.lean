import MockProxy.Hostgroups.Status

/-!
# Shunning for replication lag

The monitor reports the replication lag of a server again and again. A server that is online is
shunned when its lag was over its limit often enough in a row; the number is
`cur_replication_lag_count`.

The number is looked at and reset only by a report about a server that is online (or that comes back
from being shunned for its lag). A report while the server is shunned or offline leaves it, so it
goes on counting after the server has come back by another way. In the runs in which this does not
happen, the last `monitor_replication_lag_count` reports were all over the limit of a server that
was online (`lag_shunned_after_streak`).
-/

namespace MockProxy.Hostgroups

open Function Machine

/-- What a report found: the lag was over the limit, and the server was online. -/
structure LagEntry where
  exceeded : Bool
  online : Bool
  deriving DecidableEq

/-- The machine together with the reports about each server, the last one first. -/
structure Logged extends Monitored where
  reports : SrvId → List LagEntry

/-- The last `n` reports were about a lag over the limit of a server that was online. -/
def Streak (n : Nat) (reports : List LagEntry) : Prop :=
  ∃ earlier, reports = List.replicate n ⟨true, true⟩ ++ earlier

theorem streak_zero (reports : List LagEntry) : Streak 0 reports := ⟨reports, rfl⟩

variable {reports : List LagEntry}

theorem Streak.succ {n : Nat} (streak : Streak n reports) :
    Streak (n + 1) (⟨true, true⟩ :: reports) := by
  obtain ⟨earlier, rfl⟩ := streak
  exact ⟨earlier, rfl⟩

theorem Streak.mono {m n : Nat} (streak : Streak n reports) (le : m ≤ n) : Streak m reports := by
  obtain ⟨earlier, rfl⟩ := streak
  refine ⟨List.replicate (n - m) ⟨true, true⟩ ++ earlier, ?_⟩
  rw [← List.append_assoc, List.replicate_append_replicate, Nat.add_sub_cancel' le]

namespace Logged

open Monitored

variable {l l' : Logged} {op : StatusOp} {id : SrvId}

def entry (w : Monitored) (id : SrvId) (r : LagReport) : LagEntry where
  exceeded := (w.lag id).exceeded r.currentReplicationLag
  online := (w.srv id).status = .online

def record (l : Logged) : StatusOp → SrvId → List LagEntry
  | .add _ _ _ _ => update l.reports l.brk []
  | .replicationLag vars hid r =>
    let r := l.resolveNull vars hid r
    match l.reported hid r with
    | none => l.reports
    | some id => update l.reports id (entry l.toMonitored id r :: l.reports id)
  | _ => l.reports

def step (l : Logged) (op : StatusOp) : Except Fault Logged := do
  let w ← l.toMonitored.step op
  return { w with reports := l.record op }

def start : Logged := { Monitored.start with reports := fun _ => [] }

/-! ### The number and the reports -/

def Unseen (l : Logged) (id : SrvId) : Prop :=
  ∃ entry earlier, l.reports id = entry :: earlier ∧ entry.online = false

/-- The number does not exceed the reports in a row, unless the server has been reported about while
it was not online, and is not online. -/
def Tracks (l : Logged) (id : SrvId) : Prop :=
  Streak (l.lag id).curReplicationLagCount (l.reports id) ∨
    (l.srv id).status ≠ .online ∧ l.Unseen id

/-- Neither a report nor the addition of a server, and the server is online afterwards only. -/
def Revives (l : Logged) (op : StatusOp) (id : SrvId) : Prop :=
  (∀ hid address port row, op ≠ .add hid address port row) ∧
    (∀ vars hid r, op ≠ .replicationLag vars hid r) ∧
    (l.srv id).status ≠ .online ∧ ∃ w, l.toMonitored.step op = .ok w ∧ (w.srv id).status = .online

/-- A server that comes back by another way than a report has its number at 0, or has not been
reported about since it was online. -/
def Fresh (l : Logged) (op : StatusOp) : Prop :=
  ∀ id, l.Revives op id → (l.lag id).curReplicationLagCount = 0 ∨ ¬ l.Unseen id

/-! ### Operations other than reports -/

theorem count_commitMaxReplicationLag (w : Monitored) (id id' : SrvId) (row : ServerRow) :
    ((w.commitMaxReplicationLag id row).lag id').curReplicationLagCount =
      (w.lag id').curReplicationLagCount := by
  have limit : ((w.putLag id { w.lag id with maxReplicationLag := row.maxReplicationLag }).lag
      id').curReplicationLagCount = (w.lag id').curReplicationLagCount := by
    by_cases same : id' = id
    · subst same
      simp
    · simp [update_of_ne same]
  unfold commitMaxReplicationLag
  dsimp only
  split
  · exact limit
  · exact limit

theorem count_step {w w' : Monitored}
    (not_add : ∀ hid address port row, op ≠ .add hid address port row)
    (not_report : ∀ vars hid r, op ≠ .replicationLag vars hid r) (stepped : w.step op = .ok w')
    (id : SrvId) : (w'.lag id).curReplicationLagCount = (w.lag id).curReplicationLagCount := by
  cases op with
  | add hid address port row => exact absurd rfl (not_add hid address port row)
  | replicationLag vars hid r => exact absurd rfl (not_report vars hid r)
  | commit vars id' was row =>
    obtain ⟨-, rfl⟩ := of_onLive stepped
    apply commitServer_keeps
      (P := fun w' => (w'.lag id).curReplicationLagCount = (w.lag id).curReplicationLagCount)
    · intro w' v same _ _
      exact same
    · intro w' same
      exact same
    · intro w' same
      rw [count_commitMaxReplicationLag]
      exact same
    · rfl
  | remove id' =>
    obtain ⟨s, -, done⟩ := bind_eq_ok.mp stepped
    obtain ⟨-, rfl⟩ := of_onLive done
    rfl
  | select env r hid random =>
    obtain ⟨selected, -, rfl⟩ := return_eq_ok.mp stepped
    rfl
  | groupReplicationLag vars hid address port lagCount enable =>
    simp only [Monitored.step] at stepped
    split at stepped
    · cases stepped
      rfl
    · cases stepped
      rfl
  | purge | shunAndKillall | shutdown =>
    cases stepped
    rfl
  | offline | setStatus | connectError | shun | connections =>
    obtain ⟨-, rfl⟩ := of_onLive stepped
    rfl

theorem srv_add_of_ne (w : Monitored) (hid : Nat) (address : String) (port : Nat) (row : ServerRow)
    (other : id ≠ w.brk) : (w.add hid address port row).srv id = w.srv id := by
  simp [add, Servers.addToList, Servers.srv_refresh, Servers.put, Servers.srv_lookup,
    update_of_ne other]

/-! ### Reports -/

section Report

variable {w : Monitored} {vars : MonitorVars} {hid : Nat} {r : LagReport} {lag : Int}

theorem report_other {id' : SrvId} (other : id' ≠ id)
    (found : w.reported hid (w.resolveNull vars hid r) = some id) :
    (w.replicationLagActionInner vars hid r).srv id' = w.srv id' ∧
      ((w.replicationLagActionInner vars hid r).lag id') = w.lag id' := by
  unfold replicationLagActionInner lagWhileOnline lagWhileShunned
  simp only [found]
  split_ifs <;>
    simp [Servers.srv_setStatus, update_of_ne other]

theorem count_lagWhileOnline : ((w.lagWhileOnline vars id lag).lag id).curReplicationLagCount =
      if (w.lag id).exceeded lag then ((w.lag id).curReplicationLagCount + 1) % 2 ^ 32 else 0 := by
  unfold lagWhileOnline
  by_cases exceeded : (w.lag id).exceeded lag
  · simp only [if_pos exceeded]
    split
    · simp
    · simp
  · simp only [if_neg exceeded]
    simp

theorem lagWhileOnline_shuns
    (shunned : ((w.lagWhileOnline vars id lag).srv id).status ≠ (w.srv id).status) :
    (w.lag id).exceeded lag ∧
      vars.monitorReplicationLagCount ≤ ((w.lag id).curReplicationLagCount + 1) % 2 ^ 32 := by
  unfold lagWhileOnline at shunned
  dsimp only at shunned
  split at shunned
  next exceeded =>
    split at shunned
    next reached =>
      exact ⟨exceeded, reached⟩
    · exact absurd rfl shunned
  · exact absurd rfl shunned

def noted (w : Monitored) (id : SrvId) (r : LagReport) : Monitored :=
  w.putLag id { w.lag id with curReplicationLag := r.currentReplicationLag }

theorem exceeded_noted : ((noted w id r).lag id).exceeded lag = (w.lag id).exceeded lag := by
  simp only [noted, lag_putLag, update_self]
  rfl

theorem count_noted :
    ((noted w id r).lag id).curReplicationLagCount = (w.lag id).curReplicationLagCount := by
  simp [noted]

variable (found : w.reported hid (w.resolveNull vars hid r) = some id)

include found

theorem report_eq : w.replicationLagActionInner vars hid r =
      let r := w.resolveNull vars hid r
      if (w.srv id).status = .online then
        (noted w id r).lagWhileOnline vars id r.currentReplicationLag
      else if (w.srv id).status = .shunnedReplicationLag then (noted w id r).lagWhileShunned id r
      else noted w id r := by
  unfold replicationLagActionInner
  simp only [found]
  rfl

/-- A report about a server that is not online: the number is 0 if the server comes back. -/
theorem report_away (away : (w.srv id).status ≠ .online) :
    ((w.replicationLagActionInner vars hid r).lag id).curReplicationLagCount = 0 ∨
      ((w.replicationLagActionInner vars hid r).srv id).status ≠ .online := by
  rw [report_eq found]
  simp only [if_neg away]
  split
  · unfold lagWhileShunned
    split
    · left
      simp
    · right
      exact away
  · right
    exact away

end Report

/-! ### Runs -/

theorem of_step (stepped : l.step op = .ok l') :
    l.toMonitored.step op = .ok l'.toMonitored ∧ l'.reports = l.record op := by
  obtain ⟨w, ran, rfl⟩ := return_eq_ok.mp stepped
  exact ⟨ran, rfl⟩

variable {vars : MonitorVars} {hid : Nat} {r : LagReport}

theorem report_cases (stepped : l.step (.replicationLag vars hid r) = .ok l') :
    l'.toMonitored = l.toMonitored ∧ l'.reports = l.reports ∨
      ∃ id, l.reported hid (l.resolveNull vars hid r) = some id ∧
        l'.toMonitored = l.replicationLagActionInner vars hid r ∧ l'.reports =
          update l.reports id (entry l.toMonitored id (l.resolveNull vars hid r) ::
            l.reports id) := by
  obtain ⟨ran, logged⟩ := of_step stepped
  simp only [Monitored.step] at ran
  split at ran
  · have same := (Except.ok.inj ran).symm
    simp only [record] at logged
    split at logged
    next nobody =>
      left
      refine ⟨?_, logged⟩
      rw [same]
      unfold replicationLagActionInner
      simp [nobody]
    next id found =>
      exact .inr ⟨id, found, same, logged⟩
  · cases ran

theorem Tracks.streak_succ (tracks : l.Tracks id) (online : (l.srv id).status = .online)
    (exceeded : (l.lag id).exceeded r.currentReplicationLag) :
    Streak ((l.lag id).curReplicationLagCount + 1) (entry l.toMonitored id r :: l.reports id) := by
  have this_one : entry l.toMonitored id r = ⟨true, true⟩ := by
    simp [entry, exceeded, online]
  rw [this_one]
  rcases tracks with streak | ⟨away, -⟩
  · exact streak.succ
  · exact absurd online away

theorem tracks_reported (tracks : l.Tracks id)
    (found : l.reported hid (l.resolveNull vars hid r) = some id)
    (same : l'.toMonitored = l.replicationLagActionInner vars hid r)
    (logged : l'.reports id = entry l.toMonitored id (l.resolveNull vars hid r) :: l.reports id) :
    l'.Tracks id := by
  by_cases online : (l.srv id).status = .online
  · left
    rw [logged, same, report_eq found]
    simp only [if_pos online, count_lagWhileOnline, exceeded_noted, count_noted]
    split
    next exceeded =>
      exact (tracks.streak_succ online exceeded).mono (Nat.mod_le _ _)
    · exact streak_zero _
  · -- the number is left alone, and the report is one that was not counted
    have unseen : l'.Unseen id := ⟨_, _, logged, decide_eq_false online⟩
    rcases report_away found online with zero | away
    · left
      rw [same, zero]
      exact streak_zero _
    · right
      rw [same]
      exact ⟨away, unseen⟩

theorem tracks_report (tracks : ∀ id, l.Tracks id)
    (stepped : l.step (.replicationLag vars hid r) = .ok l') (id : SrvId) : l'.Tracks id := by
  rcases report_cases stepped with ⟨same, logged⟩ | ⟨id', found, same, logged⟩
  · unfold Tracks Unseen
    rw [same, logged]
    exact tracks id
  · by_cases here : id = id'
    · subst here
      apply tracks_reported (tracks id) found same
      rw [logged, update_self]
    · obtain ⟨server, number⟩ := report_other here found
      unfold Tracks Unseen
      rw [same, logged, update_of_ne here, server, number]
      exact tracks id

theorem tracks_step (tracks : ∀ id, l.Tracks id) (fresh : l.Fresh op)
    (stepped : l.step op = .ok l') (id : SrvId) : l'.Tracks id := by
  by_cases report : ∃ vars hid r, op = .replicationLag vars hid r
  · obtain ⟨vars, hid, r, rfl⟩ := report
    exact tracks_report tracks stepped id
  have not_report : ∀ vars hid r, op ≠ .replicationLag vars hid r :=
    fun vars hid r same => report ⟨vars, hid, r, same⟩
  obtain ⟨stepped, logged⟩ := of_step stepped
  by_cases add : ∃ hid address port row, op = .add hid address port row
  · obtain ⟨hid, address, port, row, rfl⟩ := add
    have same := (Except.ok.inj stepped).symm
    by_cases here : id = l.brk
    · subst here
      left
      rw [same]
      simp only [Monitored.add, update_self]
      exact streak_zero _
    · unfold Tracks Unseen
      rw [logged, same, srv_add_of_ne _ _ _ _ _ here]
      simp only [record, Monitored.add, update_of_ne here]
      exact tracks id
  have not_add : ∀ hid address port row, op ≠ .add hid address port row :=
    fun hid address port row same => add ⟨hid, address, port, row, same⟩
  have kept : l'.reports = l.reports := by
    rw [logged]
    cases op with
    | add hid address port row => exact absurd rfl (not_add hid address port row)
    | replicationLag vars hid r => exact absurd rfl (not_report vars hid r)
    | _ => rfl
  unfold Tracks Unseen
  rw [count_step not_add not_report stepped id, kept]
  rcases tracks id with streak | ⟨away, unseen⟩
  · exact .inl streak
  · by_cases online : (l'.srv id).status = .online
    · rcases fresh id ⟨not_add, not_report, away, _, stepped, online⟩ with zero | seen
      · left
        rw [zero]
        exact streak_zero _
      · exact absurd unseen seen
    · exact .inr ⟨online, unseen⟩

/-- A report shuns a server for its lag only if the last `monitor_replication_lag_count` reports,
this one included, were about a lag over its limit while it was online. -/
theorem lag_shunned_after_streak {vars : MonitorVars} {hid : Nat} {r : LagReport}
    (reached : Run step Fresh start l) (stepped : l.step (.replicationLag vars hid r) = .ok l')
    (was : (l.srv id).status = .online) (now : (l'.srv id).status = .shunnedReplicationLag) :
    Streak vars.monitorReplicationLagCount (l'.reports id) := by
  have tracks : ∀ id, l.Tracks id := by
    apply reached.invariant (fun l => ∀ id, l.Tracks id)
    · exact fun _ => .inl (streak_zero _)
    · intro l op l' tracks fresh stepped
      exact tracks_step tracks fresh stepped
  rcases report_cases stepped with ⟨same, -⟩ | ⟨id', found, same, logged⟩
  · rw [same, was] at now
    cases now
  · by_cases here : id = id'
    · subst here
      have changed := now
      rw [same, report_eq found, if_pos was] at changed
      have differs : ((noted l.toMonitored id (l.resolveNull vars hid r)).srv id).status ≠
          .shunnedReplicationLag := by
        intro shunned
        cases was.symm.trans shunned
      obtain ⟨exceeded, enough⟩ := lagWhileOnline_shuns (changed ▸ differs.symm)
      rw [exceeded_noted] at exceeded
      rw [count_noted] at enough
      rw [logged, update_self]
      exact ((tracks id).streak_succ was exceeded).mono (enough.trans (Nat.mod_le _ _))
    · rw [same, (report_other here found).1, was] at now
      cases now

/-! ### Reports during maintenance -/

def twoReports : MonitorVars := { MonitorVars.defaults with monitorReplicationLagCount := 2 }

def row (status : Status) : ServerRow := ⟨1, status, 1000, 10, 0⟩

def reportLag (seconds : Int) : StatusOp :=
    .replicationLag twoReports 0 ⟨"db", 3306, seconds, false⟩

/-- Two reports over the limit shun the server. -/
theorem lag_shunned_after_streak_two :
    ∃ l l', [.add 0 "db" 3306 (row .online), reportLag 20].foldlM step start = .ok l ∧
      l.step (reportLag 20) = .ok l' ∧ (l'.srv 0).status = .shunnedReplicationLag ∧
      Streak 2 (l'.reports 0) := by
  have fresh : ∀ op ∈ [.add 0 "db" 3306 (row .online), reportLag 20], ∀ l : Logged, l.Fresh op := by
    intro op member l id revives
    rcases List.mem_pair.mp member with rfl | rfl
    · exact absurd rfl (revives.1 0 "db" 3306 (row .online))
    · exact absurd rfl (revives.2.1 twoReports 0 ⟨"db", 3306, 20, false⟩)
  refine ⟨_, _, rfl, rfl, rfl, ?_⟩
  exact lag_shunned_after_streak (run_of_foldlM_of fresh rfl)
    (show step _ (.replicationLag twoReports 0 ⟨"db", 3306, 20, false⟩) = .ok _ from rfl) rfl rfl

/-- A server with one report over its limit is taken offline for a while, in which its lag is small.
It is shunned by the first report over the limit after it has come back. -/
theorem lag_shunned_without_streak : ∃ l l', [.add 0 "db" 3306 (row .online), reportLag 20,
        .commit twoReports 0 (row .online) (row .offlineSoft), reportLag 5,
        .commit twoReports 0 (row .offlineSoft) (row .online)].foldlM step start = .ok l ∧
      l.step (reportLag 20) = .ok l' ∧ (l.srv 0).status = .online ∧
      (l'.srv 0).status = .shunnedReplicationLag ∧
      l'.reports 0 = [⟨true, true⟩, ⟨false, false⟩, ⟨true, true⟩] ∧ ¬ Streak 2 (l'.reports 0) := by
  refine ⟨_, _, rfl, rfl, rfl, rfl, rfl, ?_⟩
  rintro ⟨earlier, same⟩
  cases same

end Logged

end MockProxy.Hostgroups
