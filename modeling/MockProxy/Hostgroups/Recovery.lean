import MockProxy.Hostgroups.Status

/-!
# Bringing back a server that does not answer

The monitor shuns a server that does not answer pings and asks for all its connections to be killed
(`shun_and_killall`). Three places bring back a server that is shunned: the first scan of a
selection, `unshun_server_all_hostgroups`, and the second scan, which is made when there is no
candidate. The first two wait until the connections are gone and clear the flag. The second scan
does neither, so a selection treats all servers as it should exactly if its second scan brings back
none of them (`recovery_drained_iff`).
-/

namespace MockProxy.Hostgroups

open Machine

namespace MySrvC

def Condemned (v : MySrvC) : Prop := v.status = .shunned ∧ v.shunnedAndKillAllConnections = true

instance (v : MySrvC) : Decidable v.Condemned := inferInstanceAs (Decidable (_ ∧ _))

def Drained (v : MySrvC) : Prop := v.connectionsUsed = [] ∧ v.connectionsFree = []

def Desperate (v : MySrvC) (env : Env) : Prop :=
  v.status = .shunned ∧ v.shunnedAutomatic = true ∧
    env.now - v.timeLastDetectedError > env.vars.desperateWaitSec

instance (v : MySrvC) (env : Env) : Decidable (v.Desperate env) :=
  inferInstanceAs (Decidable (_ ∧ _ ∧ _))

def forcedOnline (v : MySrvC) : MySrvC := { v.cleared with status := .online }

/-- What the first scan may do to a server: nothing, or bring it back when it has waited. -/
def Returns (v v' : MySrvC) : Prop :=
  v' = v ∨ v' = v.core ∧ (v.shunnedAndKillAllConnections = true → v.Drained)

variable {v v' : MySrvC}

theorem core_core (v : MySrvC) : v.core.core = v.core := rfl

theorem Returns.refl (v : MySrvC) : Returns v v := .inl rfl

theorem Returns.trans {v'' : MySrvC} (first : Returns v v') (second : Returns v' v'') :
    Returns v v'' := by
  rcases first with rfl | ⟨rfl, drained⟩
  · exact second
  · rcases second with rfl | ⟨rfl, -⟩
    · exact .inr ⟨rfl, drained⟩
    · exact .inr ⟨core_core v, drained⟩

theorem Returns.of_waited {now maxWaitSec : Int} (waited : v.waited now maxWaitSec) :
    Returns v v.core := by
  refine .inr ⟨rfl, ?_⟩
  intro flagged
  rcases (of_decide_eq_true waited).2.2 with clear | drained
  · rw [flagged] at clear
    cases clear
  · exact drained

theorem Returns.eq_of_shunned (returns : Returns v v') (shunned : v'.status = .shunned) :
    v' = v := by
  rcases returns with same | ⟨rfl, -⟩
  · exact same
  · cases shunned

end MySrvC

namespace Servers

variable {s s' : Servers} {env : Env} {r : Request}

def Returns (s s' : Servers) : Prop := ∀ id, MySrvC.Returns (s.srv id) (s'.srv id)

theorem Returns.refl (s : Servers) : Returns s s := fun id => MySrvC.Returns.refl (s.srv id)

theorem Returns.trans {s'' : Servers} (first : Returns s s') (second : Returns s' s'') :
    Returns s s'' :=
  fun id => (first id).trans (second id)

/-! ### The paths that wait -/

variable {id : SrvId}

theorem returns_unshun {now maxWaitSec : Int} (waited : (s.srv id).waited now maxWaitSec) :
    Returns s (s.unshun id) := by
  intro id'
  by_cases same : id' = id
  · subst same
    rw [srv_unshun_self]
    exact .of_waited waited
  · rw [s.srv_unshun_of_ne same]
    exact .refl _

def firstScan (env : Env) (r : Request) (s : Servers) (hid : Nat) : Servers × Candidates :=
  (s.hostgroup hid).mysrvs.foldl (visit env r) (s, ⟨[], 0⟩)

theorem returns_firstScan (s : Servers) (hid : Nat) : Returns s (s.firstScan env r hid).1 := by
  apply firstScan_keeps (Returns.refl s)
  intro s' id returned waited
  exact returned.trans (returns_unshun waited)

/-! ### The path that does not -/

theorem srv_visitDesperate (sc : Servers × Candidates) (id id' : SrvId) :
    (visitDesperate env r sc id).1.srv id' =
      if id' = id ∧ (sc.1.srv id').Desperate env then (sc.1.srv id').forcedOnline
      else sc.1.srv id' := by
  unfold visitDesperate
  dsimp only
  by_cases same : id' = id
  · subst same
    split
    next desperate =>
      rw [if_pos ⟨rfl, desperate⟩]
      simp [unshunDesperate, put, srv_setStatus, MySrvC.cleared, MySrvC.forcedOnline]
    next fine =>
      rw [if_neg (fun both => fine both.2)]
  · have other : ¬ (id' = id ∧ (sc.1.srv id').Desperate env) := fun both => same both.1
    split
    · simp [unshunDesperate, put, srv_setStatus, same]
    · rfl

/-- The second scan brings back every server that meets its condition, and only those. -/
theorem srv_secondScan (ids : List SrvId) (sc : Servers × Candidates) (id : SrvId) :
    (ids.foldl (visitDesperate env r) sc).1.srv id =
      if id ∈ ids ∧ (sc.1.srv id).Desperate env then (sc.1.srv id).forcedOnline
      else sc.1.srv id := by
  induction ids generalizing sc with
  | nil => rw [List.foldl_nil, if_neg (fun both => List.not_mem_nil both.1)]
  | cons first ids ih =>
    rw [List.foldl_cons, ih, srv_visitDesperate]
    by_cases here : id = first ∧ (sc.1.srv id).Desperate env
    · -- it is online now, so the rest of the scan passes it
      have passed : ¬ (sc.1.srv id).forcedOnline.Desperate env := by
        rintro ⟨shunned, -⟩
        cases shunned
      rw [if_pos here, if_neg (fun both => passed both.2),
        if_pos ⟨here.1 ▸ List.mem_cons_self, here.2⟩]
    · rw [if_neg here]
      by_cases later : id ∈ ids ∧ (sc.1.srv id).Desperate env
      · rw [if_pos later, if_pos ⟨List.mem_cons_of_mem first later.1, later.2⟩]
      · rw [if_neg later, if_neg]
        rintro ⟨member, desperate⟩
        rcases List.mem_cons.mp member with same | old
        · exact here ⟨same, desperate⟩
        · exact later ⟨old, desperate⟩

def NoCandidates (env : Env) (r : Request) (s : Servers) (hid : Nat) : Prop :=
  let first := s.firstScan env r hid
  (first.1.onlyReplicas env r first.2).sum = 0

instance (env : Env) (r : Request) (s : Servers) (hid : Nat) :
    Decidable (NoCandidates env r s hid) :=
  inferInstanceAs (Decidable ((_ : Nat) = 0))

/-- The second scan is made and brings back a server that was to be shunned until its connections
are gone. -/
def ForcedBack (env : Env) (r : Request) (s : Servers) (hid : Nat) (id : SrvId) : Prop :=
  NoCandidates env r s hid ∧ id ∈ (s.hostgroup hid).mysrvs ∧
    ((s.firstScan env r hid).1.srv id).Condemned ∧ ((s.firstScan env r hid).1.srv id).Desperate env

theorem collect_eq (s : Servers) (hid : Nat) :
    s.collect env r hid =
      let first := s.firstScan env r hid
      let candidates := first.1.onlyReplicas env r first.2
      if NoCandidates env r s hid then
        (s.hostgroup hid).mysrvs.foldl (visitDesperate env r) (first.1, candidates)
      else (first.1, candidates) := rfl

theorem srv_collect_of_forcedBack {hid : Nat} (forced : ForcedBack env r s hid id) :
    (s.collect env r hid).1.srv id = (s.srv id).forcedOnline := by
  obtain ⟨none_left, member, condemned, desperate⟩ := forced
  have untouched := (returns_firstScan s hid id).eq_of_shunned condemned.1
  rw [collect_eq]
  rw [if_pos none_left, srv_secondScan, if_pos ⟨member, desperate⟩]
  rw [untouched]

/-- Without the second scan, a selection brings back a server after its connections are gone. -/
theorem returns_collect {hid : Nat} (condemned : (s.srv id).Condemned)
    (spared : ¬ ForcedBack env r s hid id) :
    MySrvC.Returns (s.srv id) ((s.collect env r hid).1.srv id) := by
  have first : MySrvC.Returns (s.srv id) ((s.firstScan env r hid).1.srv id) :=
    returns_firstScan s hid id
  rw [collect_eq]
  split
  next none_left =>
    rw [srv_secondScan, if_neg]
    · exact first
    · rintro ⟨member, desperate⟩
      have untouched := first.eq_of_shunned desperate.1
      apply spared
      refine ⟨none_left, member, ?_, desperate⟩
      rw [untouched]
      exact condemned
  · exact first

end Servers

namespace Monitored

open Servers

variable {w w' : Monitored} {env : Env} {r : Request} {hid random : Nat}

/-- A server that was shunned until its connections are gone is online: they are gone, and it is not
to be killed any more. -/
def Recovered (v v' : MySrvC) : Prop :=
  v.Condemned → v'.status = .online → v.Drained ∧ v'.shunnedAndKillAllConnections = false

theorem srv_select (selected : w.step (.select env r hid random) = .ok w') (id : SrvId) :
    w'.srv id = ((w.lookup hid).collect env r hid).1.srv id := by
  obtain ⟨chosen, drawn, done⟩ := bind_eq_ok.mp selected
  obtain ⟨candidate, -, returned⟩ := bind_eq_ok.mp drawn
  cases done
  cases returned
  rfl

/-- A selection, in any state, brings back only servers whose connections are gone, and clears their
flag, if and only if its second scan does not bring back a server that is to be shunned until
then. -/
theorem recovery_drained_iff (selected : w.step (.select env r hid random) = .ok w') :
    (∀ id, Recovered (w.srv id) (w'.srv id)) ↔ ∀ id, ¬ ForcedBack env r (w.lookup hid) hid id := by
  have before : ∀ id, w.srv id = (w.lookup hid).srv id := fun id => by rw [srv_lookup]
  constructor
  · intro recovered id forced
    have after := srv_collect_of_forcedBack forced
    have condemned : (w.srv id).Condemned := by
      have untouched := (returns_firstScan _ hid id).eq_of_shunned forced.2.2.1.1
      rw [before, ← untouched]
      exact forced.2.2.1
    rw [← srv_select selected, ← before] at after
    have cleared := (recovered id condemned (by rw [after]; rfl)).2
    rw [after] at cleared
    -- the second scan leaves the flag as it was
    exact Bool.false_ne_true (cleared.symm.trans condemned.2)
  · intro spared id condemned online
    rw [before] at condemned ⊢
    rw [srv_select selected] at online ⊢
    rcases returns_collect condemned (spared id) with same | ⟨core, drained⟩
    · rw [same, condemned.1] at online
      cases online
    · rw [core]
      exact ⟨drained condemned.2, rfl⟩

/-! ### A server with a connection in use -/

/-- Recovery takes ten seconds; a client may wait as long for a connection. -/
def recoveryVars : ThreadVars where
  defaultMaxLatencyMs := 1000
  shunRecoveryTimeSec := 10
  connectTimeoutServerMax := 10000
  unshunAlgorithm := 0
  auroraMaxLagMsOnlyReadFromReplicas := 0
  minNumServersLatencyAwareness := 0

/-- The server has not answered pings in second 100, while a client used a connection of it. -/
def unanswered : List StatusOp :=
  [.add 0 "db" 3306 ⟨1, .online, 1000, 0, 0⟩, .connections 0 [7] [],
    .shunAndKillall 100 .defaults "db" 3306]

/-- A selection in second `now`, without conditions on the server -/
def selectAt (now : Int) : StatusOp := .select ⟨now, recoveryVars, fun _ => none⟩ ⟨none, 0, -1⟩ 0 0

/-- The connection is closed, and ten seconds later the server is back. -/
theorem recovery_drained_iff_closed :
    ∃ w w', (unanswered ++ [StatusOp.connections 0 [] []]).foldlM step start = .ok w ∧
      w.step (selectAt 110) = .ok w' ∧ (w.srv 0).Condemned ∧ (w'.srv 0).status = .online ∧
      ((∀ id, Recovered (w.srv id) (w'.srv id)) ↔
        ∀ id, ¬ ForcedBack ⟨110, recoveryVars, fun _ => none⟩ ⟨none, 0, -1⟩ (w.lookup 0) 0 id) :=
  ⟨_, _, rfl, rfl, ⟨rfl, rfl⟩, rfl,
    recovery_drained_iff (show step _ (.select _ _ _ 0) = .ok _ from rfl)⟩

/-- Two seconds later there is no candidate, and the server is back with its connection and its
flag. -/
theorem forcedBack_with_connection :
    ∃ w w', unanswered.foldlM step start = .ok w ∧ w.step (selectAt 102) = .ok w' ∧
      (w.srv 0).Condemned ∧ (w'.srv 0).status = .online ∧ (w'.srv 0).connectionsUsed = [7] ∧
      (w'.srv 0).shunnedAndKillAllConnections = true :=
  ⟨_, _, rfl, rfl, ⟨rfl, rfl⟩, rfl, rfl, rfl⟩

end Monitored

end MockProxy.Hostgroups
