import MockProxy.Variables.Pool

/-!
# The values a query runs with

When a query is sent, every variable that its client has set should have the client's value on the
server. The session compares records, so this rests on the record being right: `Live` says that it
is, except for the variable whose `SET` is under way, and that only variables the server does not
know count as absent.

Three things break it. An error that marks a variable as absent may be due to the value and not to
the variable; then neither this client's value nor any later one is set. A `SET` may change a second
variable on the server, whose record stays. And a session that is locked on a hostgroup, with all
its variables set once, is not compared again.
-/

namespace MockProxy.Variables

open Function Session Var MysqlConnection

namespace World

variable {hash : String → Nat}

/-- Every variable that the client has set and the server knows has the client's value. -/
def Sees (sv : Server) (w : World hash) : Prop :=
  ∀ i v, lowWm < i → w.client.value i = some v → sv.knows i = true → w.actual i = v

/-- A connection as it enters the pool; its clients may have set anything. -/
structure Fresh (w : World hash) : Prop where
  pooled : w.phase = .pooled
  unset : w.server.dynamicVariablesIdx = []
  present : ∀ i, w.server.varAbsent i = false

/-- The steps after which the record is still right. -/
def Meets (sv : Server) (w : World hash) : Event → Prop
  | .verify =>
    ¬ ((w.clients w.current).lockedOnHostgroup = true ∧
      (w.clients w.current).allVariablesSet = true)
  | .reply (.err errno) =>
    ∀ i, w.setting = some i → sv.knows i = true → marksAbsent i.setVariableName errno = false
  | .reply (.ok _) =>
    ∀ i j, w.setting = some i → sv.coupled i j = true → j ≠ i →
      w.server.varHash j = 0 ∨ (i = auroraReadReplicaReadCommitted ∧ j = isolationLevel)
  | _ => True

/-- The record is right, but for the variable that is being set. -/
structure Right (sv : Server) (server : MysqlConnection hash) (actual : Var → String)
    (setting : Option Var) : Prop where
  recorded : ∀ i, lowWm < i → server.varHash i ≠ 0 → server.varAbsent i = false →
    setting ≠ some i → server.value i = some (actual i)
  absent : ∀ i, server.varAbsent i = true → sv.knows i = false

structure Live (sv : Server) (w : World hash) : Prop where
  right : Right sv w.server w.actual w.setting
  pending : ∀ i, w.setting = some i → lowWm < i →
    ∃ v, w.client.value i = some v ∧ w.server.value i = some v
  sent : w.phase = .querySent → w.Sees sv

/-! ### The variable that is being set -/

variable {w w' : World hash} {i : Var} {sv : Server} {client server server' : MysqlConnection hash}
  {r : Reply}

theorem setting_eq_none (idle : ∀ status, w.phase ≠ .waiting status) : w.setting = none := by
  unfold setting
  split <;> first | rfl | exact absurd ‹_› (idle _)

theorem setting_eq_some (verified : i.verified) (phase : w.phase = .waiting i.status)
    (changing : w.changingVariableIdx = i) : w.setting = some i := by
  have statuses : ∀ i : Var, i.verified → i.status = .settingVariable ∨
      i.status = .settingIsolationLevel ∨ i.status = .settingTransactionRead ∨
      i.status = .settingNextIsolationLevel ∨ i.status = .settingNextTransactionRead := by
    decide +kernel
  have found := ofStatus_status verified
  rcases statuses i verified with status | status | status | status | status <;>
    rw [status] at phase found <;> simp only [setting, phase, changing] <;> exact found

theorem setting_of_phase (phase : w'.phase = w.phase)
    (changing : w'.changingVariableIdx = w.changingVariableIdx) : w'.setting = w.setting := by
  simp [setting, phase, changing]

/-! ### Steps of the clients -/

theorem client_setClient (w : World hash) (id : Nat) (c : Client hash) :
    (w.setClient id c).client = if w.current = id then c.conn else w.client := by
  unfold client setClient
  by_cases same : w.current = id
  · simp [same]
  · simp [same]

/-- A client may change whatever it likes while it does not use the connection, and the variables of
the character set at any time. -/
theorem Live.setClient (live : w.Live sv) {id : Nat} {c : Client hash}
    (free : id = w.current → w.phase = .pooled ∨ ∀ i, lowWm < i → w.client.Same c.conn i) :
    (w.setClient id c).Live sv := by
  have sameClient : w.phase ≠ .pooled → ∀ i, lowWm < i →
      (w.setClient id c).client.value i = w.client.value i := by
    intro used i dynamic
    rw [client_setClient]
    split
    next current =>
      exact ((free current.symm).resolve_left used i dynamic).2
    · rfl
  have settingSame : (w.setClient id c).setting = w.setting := setting_of_phase rfl rfl
  refine ⟨settingSame ▸ live.right, ?_, ?_⟩
  · intro i isSetting dynamic
    rw [settingSame] at isSetting
    have used : w.phase ≠ .pooled := by
      intro pooled
      rw [setting_eq_none (by simp [pooled])] at isSetting
      cases isSetting
    rw [sameClient used i dynamic]
    exact live.pending i isSetting dynamic
  · intro sent i v dynamic isSet
    have sent : w.phase = .querySent := sent
    rw [sameClient (by simp [sent]) i dynamic] at isSet
    exact live.sent sent i v dynamic isSet

/-! ### A pass through the checks -/

theorem same_of_verifySetNames {client' : MysqlConnection hash}
    (asked : verifySetNames client server = some (client', server')) :
    (∀ i, lowWm < i → client.Same client' i ∧ server.Same server' i) ∧
      server'.varAbsent = server.varAbsent := by
  simp only [verifySetNames] at asked
  split at asked
  · cases asked
  split at asked
  · cases asked
  rw [Option.map_eq_some_iff] at asked
  obtain ⟨v, -, same⟩ := asked
  cases same
  refine ⟨fun i dynamic => ?_, rfl⟩
  have set := fun (c : MysqlConnection hash) j (low : j < lowWm) v h =>
    c.same_setHashAndValue low dynamic v h
  exact ⟨set _ _ _ _ _, ((((set _ _ _ _ _).trans (set _ _ _ _ _)).trans
    (set _ _ _ _ _)).trans (set _ _ _ _ _)).trans (set _ _ _ _ _)⟩

theorem verifyMultipleVariables_eq_some
    (asked : verifyMultipleVariables client server = some (i, server')) :
    i.verified ∧ client.varHash i ≠ 0 ∧
      server' = server.serverSetValue i (client.value i) := by
  obtain ⟨j, -, chosen⟩ := List.exists_of_findSome?_eq_some asked
  unfold verifyOne at chosen
  split at chosen
  · rw [Option.map_eq_some_iff] at chosen
    obtain ⟨server'', verified, same⟩ := chosen
    cases same
    unfold verifyVariable at verified
    split at verified
    next differs =>
      cases verified
      exact ⟨differs.1, differs.2.1, rfl⟩
    · cases verified
  · cases chosen

theorem verified_of_dynamic (dynamic : lowWm < i) : i.verified := by
  revert i
  decide

theorem verifyMultipleVariables_eq_none (done : verifyMultipleVariables client server = none)
    (dynamic : lowWm < i) (isSet : client.varHash i ≠ 0) (present : server.varAbsent i = false) :
    client.varHash i = server.varHash i := by
  have listed := client.mem_dynamicVariablesIdx.mpr ⟨dynamic, isSet⟩
  have passed := List.findSome?_eq_none_iff.mp done i (List.mem_append_right _ listed)
  by_contra differ
  simp [verifyOne, verifyVariable, differ, present, isSet, verified_of_dynamic dynamic] at passed

/-- While nothing is set and no query is out, only the record counts. -/
theorem live_of_idle (idle : w.setting = none) (unsent : w.phase ≠ .querySent)
    (right : Right sv w.server w.actual none) : w.Live sv where
  right := idle ▸ right
  pending i isSetting := by
    rw [idle] at isSetting
    cases isSetting
  sent sent := absurd sent unsent

theorem live_verifying (phase : w.phase = .verifying) (right : Right sv w.server w.actual none) :
    w.Live sv :=
  live_of_idle (setting_eq_none (by simp [phase])) (by simp [phase]) right

/-- A step that records nothing new. -/
theorem Right.same {actual : Var → String} (right : Right sv server actual none)
    (absent : server'.varAbsent = server.varAbsent)
    (same : ∀ i, lowWm < i → server'.varHash i ≠ 0 → server.Same server' i) :
    Right sv server' actual none := by
  constructor
  · intro i dynamic isSet present idle
    have unchanged := same i dynamic isSet
    rw [unchanged.1] at isSet
    rw [absent] at present
    rw [unchanged.2]
    exact right.recorded i dynamic isSet present idle
  · rw [absent]
    exact right.absent

section

variable (right : Right sv w.server w.actual none)

include right

theorem Right.sees_of_done (injective : Injective hash) (nonzero : ∀ v, hash v ≠ 0)
    (done : verifyMultipleVariables w.client w.server = none) : w.Sees sv := by
  intro i v dynamic isSet known
  have clientHash : w.client.varHash i = hash v := by
    rw [w.client.hashed i dynamic, isSet, Option.elim_some]
  have present : w.server.varAbsent i = false := by
    by_contra absent
    rw [right.absent i (by simpa using absent)] at known
    cases known
  have agree := verifyMultipleVariables_eq_none done dynamic (by simp [clientHash, nonzero]) present
  have serverHash : w.server.varHash i = hash v := agree.symm.trans clientHash
  have recorded := right.recorded i dynamic (by simp [serverHash, nonzero]) present nofun
  rw [w.server.hashed i dynamic, recorded] at serverHash
  exact injective serverHash

theorem Right.asks {status : Status}
    (asked : verifyBackendUserSchema w.client w.server = some status) :
    ({ w with phase := .waiting status } : World hash).Live sv := by
  refine live_of_idle ?_ (by simp) right
  unfold verifyBackendUserSchema at asked
  split_ifs at asked <;> cases asked <;> rfl

theorem Right.setsNames {client' : MysqlConnection hash}
    (asked : verifySetNames w.client w.server = some (client', server')) :
    ({ w.setConn w.current client' with
        server := server', phase := .waiting .settingSetNames } : World hash).Live sv := by
  obtain ⟨same, sameAbsent⟩ := same_of_verifySetNames asked
  exact live_of_idle rfl (by simp) (right.same sameAbsent fun i dynamic _ => (same i dynamic).2)

/-- The record of the variable is the client's value before the `SET` is sent. -/
theorem Right.sets (verified : i.verified) (isSetClient : w.client.varHash i ≠ 0) : ({ w with
        server := w.server.serverSetValue i (w.client.value i),
        changingVariableIdx := i, phase := .waiting i.status } : World hash).Live sv := by
  have settingIs : { w with
      server := w.server.serverSetValue i (w.client.value i),
      changingVariableIdx := i, phase := .waiting i.status }.setting = some i :=
    setting_eq_some verified rfl rfl
  refine ⟨⟨?_, ?_⟩, ?_, nofun⟩
  · intro j dynamic isSet present other
    have differ : j ≠ i := by
      rintro rfl
      exact other settingIs
    have same := w.server.same_serverSetValue differ (w.client.value i)
    rw [same.1] at isSet
    rw [serverSetValue_varAbsent] at present
    exact same.2.trans (right.recorded j dynamic isSet present nofun)
  · intro j absent
    exact right.absent j (by simpa using absent)
  · intro j isSetting dynamic
    obtain rfl : i = j := Option.some.inj (settingIs.symm.trans isSetting)
    -- a variable with a hash has a value
    cases value : w.client.value i with
    | none =>
      rw [w.client.hashed i dynamic, value] at isSetClient
      exact absurd rfl isSetClient
    | some v => exact ⟨v, value, w.server.serverSetValue_value i v⟩

theorem Right.sends (sees : w.Sees sv) {c : Client hash} (sameConn : c.conn = w.client) :
    ({ w.setClient w.current c with phase := .querySent } : World hash).Live sv := by
  refine ⟨right, nofun, fun _ i v dynamic isSet => ?_⟩
  have unchanged : (w.setClient w.current c).client = w.client := by
    rw [client_setClient, if_pos rfl, sameConn]
  have isSet : (w.setClient w.current c).client.value i = some v := isSet
  rw [unchanged] at isSet
  exact sees i v dynamic isSet

end

theorem Live.idle (live : w.Live sv) (idle : w.setting = none) : Right sv w.server w.actual none :=
  idle ▸ live.right

theorem Live.verify (live : w.Live sv) (injective : Injective hash) (nonzero : ∀ v, hash v ≠ 0)
    (phase : w.phase = .verifying) (meets : w.Meets sv .verify) : w.verify.Live sv := by
  have right := live.idle (setting_eq_none (by simp [phase]))
  simp only [World.verify]
  split
  next status asked =>
    exact right.asks asked
  rw [if_neg meets]
  split
  next client' server' asked =>
    exact right.setsNames asked
  split
  next i server' asked =>
    obtain ⟨verified, isSet, rfl⟩ := verifyMultipleVariables_eq_some asked
    exact right.sets verified isSet
  next done =>
    exact right.sends (right.sees_of_done injective nonzero done) rfl

/-! ### The answers of the server -/

/-- The record `server'` from which a `SET` of `i` is sent: the client's value for `i`, and no
variable that the proxy expects the `SET` to change. -/
structure SendsFrom (w : World hash) (i : Var) (server' : MysqlConnection hash) : Prop where
  value : ∀ v, w.client.value i = some v → server'.varHash i ≠ 0 → server'.value i = some v
  others : ∀ j, j ≠ i → server'.varHash j ≠ 0 → w.server.Same server' j ∧
    ¬ (i = auroraReadReplicaReadCommitted ∧ j = isolationLevel)
  varAbsent : server'.varAbsent = w.server.varAbsent

theorem sameText_aurora (i : Var) :
    sameText "aurora_read_replica_read_committed" i.setVariableName ↔
      i = auroraReadReplicaReadCommitted := by
  have named : "aurora_read_replica_read_committed" =
    auroraReadReplicaReadCommitted.setVariableName := rfl
  rw [named, sameText_setVariableName, eq_comm]

theorem sendsFrom_aboutToSet (w : World hash) (i : Var) :
    w.SendsFrom i (aboutToSet w.client w.server i) := by
  have plain : ∀ v, w.client.value i = some v →
      (w.server.serverSetValue i (w.client.value i)).value i = some v := by
    intro v isSet
    rw [isSet, serverSetValue_value]
  by_cases aurora : i = auroraReadReplicaReadCommitted
  · have resets : aboutToSet w.client w.server i =
        (w.server.serverSetValue i (w.client.value i)).resetValue isolationLevel := by
      simp [aboutToSet, (sameText_aurora i).mpr aurora]
    rw [resets]
    constructor
    · intro v isSet kept
      obtain ⟨-, same⟩ := same_of_resetValue _ kept
      exact same.2.trans (plain v isSet)
    · intro j differ kept
      obtain ⟨notIsolation, same⟩ := same_of_resetValue _ kept
      exact ⟨(w.server.same_serverSetValue differ _).trans same, fun both => notIsolation both.2⟩
    · rw [resetValue_varAbsent, serverSetValue_varAbsent]
  · have keeps : aboutToSet w.client w.server i =
        w.server.serverSetValue i (w.client.value i) := by
      simp only [aboutToSet, mt (sameText_aurora i).mp aurora]
      rfl
    rw [keeps]
    constructor
    · intro v isSet _
      exact plain v isSet
    · intro j differ _
      exact ⟨w.server.same_serverSetValue differ _, fun both => aurora both.1⟩
    · rw [serverSetValue_varAbsent]

theorem Live.landed (live : w.Live sv) (isSetting : w.setting = some i) {side : Var → String}
    (meets : w.Meets sv (.reply (.ok side))) (sends : w.SendsFrom i server') :
    ({ w with server := server', actual := landed sv w i side, phase := .verifying } :
      World hash).Live sv := by
  refine live_verifying rfl ⟨fun j dynamic isSet present _ => ?_, fun j absent => ?_⟩
  · have isSet : server'.varHash j ≠ 0 := isSet
    by_cases same : j = i
    · subst same
      obtain ⟨v, clientValue, -⟩ := live.pending j isSetting dynamic
      show server'.value j = some (World.landed sv w j side j)
      rw [sends.value v clientValue isSet, World.landed, if_pos rfl, clientValue, Option.getD_some]
    · obtain ⟨sameServer, notReset⟩ := sends.others j same isSet
      rw [sameServer.1] at isSet
      -- a coupled variable is not recorded, so what has happened to it does not matter
      have uncoupled : sv.coupled i j = false := by
        by_contra coupled
        rcases meets i j isSetting (by simpa using coupled) same with unset | reset
        · exact isSet unset
        · exact notReset reset
      have unchanged : World.landed sv w i side j = w.actual j := by
        simp [World.landed, same, uncoupled]
      have present : server'.varAbsent j = false := present
      rw [sends.varAbsent] at present
      show server'.value j = some (World.landed sv w i side j)
      rw [unchanged, sameServer.2]
      refine live.right.recorded j dynamic isSet present fun settingJ => same ?_
      exact Option.some.inj (settingJ.symm.trans isSetting)
  · exact live.right.absent j (by rwa [← sends.varAbsent])

theorem Live.resetBoth (live : w.Live sv) (phase : w.phase = .verifying) (i : Var) :
    (w.resetBoth i).Live sv := by
  have right := live.idle (setting_eq_none (by simp [phase]))
  refine live_verifying phase (right.same (resetValue_varAbsent _ _) fun j _ isSet => ?_)
  exact (w.server.same_of_resetValue isSet).2

theorem Live.marked (live : w.Live sv) (isSetting : w.setting = some i)
    (unknown : sv.knows i = false) (sends : w.SendsFrom i server') :
    ({ w with server := server'.markAbsent i, phase := .verifying } : World hash).Live sv := by
  refine live_verifying rfl ⟨fun j dynamic isSet present _ => ?_, fun j absent => ?_⟩
  · have present : update server'.varAbsent i true j = false := present
    have differ : j ≠ i := by
      rintro rfl
      rw [update_self] at present
      cases present
    rw [update_of_ne differ, sends.varAbsent] at present
    obtain ⟨same, -⟩ := sends.others j differ isSet
    have isSet : server'.varHash j ≠ 0 := isSet
    rw [same.1] at isSet
    refine same.2.trans (live.right.recorded j dynamic isSet present fun settingJ => differ ?_)
    exact Option.some.inj (settingJ.symm.trans isSetting)
  · have absent : update server'.varAbsent i true j := absent
    by_cases same : j = i
    · rw [same, unknown]
    · rw [update_of_ne same, sends.varAbsent] at absent
      exact live.right.absent j absent

def Keeps (sv : Server) (w : World hash) : Prop := w.phase ≠ .destroyed → w.Live sv

theorem keeps_destroyed (gone : w.phase = .destroyed) : w.Keeps sv :=
  fun alive => absurd gone alive

section

variable (live : w.Live sv)

include live

theorem Live.settingGenericVariable (isSetting : w.setting = some i)
    (meets : w.Meets sv (.reply r)) (stepped : w.settingGenericVariable sv i r = .ok w') :
    w'.Keeps sv := by
  have sends := w.sendsFrom_aboutToSet i
  cases r with
  | ok side =>
    have set := live.landed isSetting meets sends
    intro _
    simp only [World.settingGenericVariable] at stepped
    split_ifs at stepped <;> cases stepped
    · exact set.resetBoth rfl _
    · exact set.resetBoth rfl _
    · exact set
  | err errno =>
    simp only [World.settingGenericVariable, refused, ofName_setVariableName] at stepped
    split_ifs at stepped with serious marks placeholder <;> cases stepped
    · exact keeps_destroyed rfl
    · intro _
      have unknown : sv.knows i = false := by
        by_contra known
        rw [meets i isSetting (by simpa using known)] at marks
        cases marks
      exact live.marked isSetting unknown sends
    · exact keeps_destroyed rfl
    · exact keeps_destroyed rfl

/-- The name is in no entry, so that nothing is marked. -/
theorem Live.settingSessionTrackGtids (idle : w.setting = none)
    (stepped : w.settingSessionTrackGtids r = .ok w') : w'.Keeps sv := by
  cases r with
  | ok side =>
    cases stepped
    exact fun _ => live_verifying rfl (live.idle idle)
  | err errno =>
    have unknown : ofName "SESSION_TRACK_GTIDS" = none := by decide +kernel
    simp only [World.settingSessionTrackGtids, refused, unknown] at stepped
    split_ifs at stepped <;> cases stepped
    · exact keeps_destroyed rfl
    · exact keeps_destroyed rfl

theorem Live.settingSqlLogBin (isSetting : w.setting = some sqlLogBin)
    (meets : w.Meets sv (.reply r)) : (w.settingSqlLogBin sv r).Keeps sv := by
  cases r with
  | ok side =>
    intro _
    -- this updater leaves the record as the checks have set it
    have sends : w.SendsFrom sqlLogBin w.server := by
      obtain ⟨v, clientValue, serverValue⟩ := live.pending sqlLogBin isSetting (by decide)
      constructor
      · intro v' isSet _
        rw [serverValue, ← clientValue, isSet]
      · intro j _ _
        exact ⟨⟨rfl, rfl⟩, fun both => absurd both.1 (by decide)⟩
      · rfl
    exact live.landed isSetting meets sends
  | err errno => exact keeps_destroyed rfl

theorem Live.changingUserServer (r : Reply) : (w.changingUserServer sv r).Keeps sv := by
  cases r with
  | ok side =>
    intro _
    exact live_verifying rfl ⟨fun _ _ isSet _ _ => absurd rfl isSet, live.right.absent⟩
  | err errno => exact keeps_destroyed rfl

theorem Live.changingSchema (idle : w.setting = none) (r : Reply) :
    (w.changingSchema r).Keeps sv := by
  cases r with
  | ok side => exact fun _ => live_verifying rfl ((live.idle idle).same rfl fun _ _ _ => ⟨rfl, rfl⟩)
  | err errno => exact keeps_destroyed rfl

theorem Live.changingCharset (idle : w.setting = none) (r : Reply) :
    (w.changingCharset r).Keeps sv := by
  cases r with
  | ok side =>
    intro _
    simp only [World.changingCharset]
    split <;> exact live_verifying rfl (live.idle idle)
  | err errno => exact keeps_destroyed rfl

theorem Live.reply (meets : w.Meets sv (.reply r)) (stepped : w.reply sv r = .ok w') :
    w'.Keeps sv := by
  unfold World.reply at stepped
  split_ifs at stepped with user schema names gtids
  · cases stepped
    exact live.changingUserServer r
  · cases stepped
    exact live.changingSchema (by simp [setting, schema]) r
  · cases stepped
    exact live.changingCharset (by simp [setting, names]) r
  · exact live.settingSessionTrackGtids (by simp [setting, gtids]) stepped
  · split at stepped
    next i isSetting =>
      unfold updateVariable at stepped
      split_ifs at stepped with logBin
      · cases stepped
        exact live.settingSqlLogBin (logBin ▸ isSetting) meets
      · exact live.settingGenericVariable isSetting meets stepped
    · cases stepped

end

/-! ### Runs -/

theorem varHash_eq_zero {c : MysqlConnection hash} (unset : c.dynamicVariablesIdx = [])
    (dynamic : lowWm < i) : c.varHash i = 0 := by
  by_contra isSet
  have listed := c.mem_dynamicVariablesIdx.mpr ⟨dynamic, isSet⟩
  rw [unset] at listed
  cases listed

theorem Fresh.live (fresh : w.Fresh) (sv : Server) : w.Live sv := by
  have idle : w.setting = none := setting_eq_none (by simp [fresh.pooled])
  refine live_of_idle idle (by simp [fresh.pooled]) ⟨fun i dynamic isSet => ?_, fun i absent => ?_⟩
  · exact absurd (varHash_eq_zero fresh.unset dynamic) isSet
  · rw [fresh.present i] at absent
    cases absent

theorem Live.moves (live : w.Live sv) (idle : w.setting = none) (id : Nat) {phase : Phase}
    (moved : phase = .pooled ∨ phase = .verifying) :
    ({ w with current := id, phase := phase } : World hash).Live sv := by
  rcases moved with rfl | rfl <;> exact live_of_idle rfl (by simp) (live.idle idle)

theorem phase_of_not_busy (free : ¬ w.Busy w.current) (alive : w.phase ≠ .destroyed) :
    w.phase = .pooled := by
  by_contra used
  exact free ⟨rfl, used, alive⟩

/-- The client sets a variable while it does not wait for the connection, or a character set. -/
theorem Live.clientSet (live : w.Live sv) (alive : w.phase ≠ .destroyed) {id : Nat} {v : String}
    (allowed : ¬ (w.Busy id ∧ lowWm < i)) :
    (w.setConn id ((w.clients id).conn.clientSetValue i v)).Live sv := by
  refine live.setClient fun current => ?_
  subst current
  rw [not_and_or] at allowed
  rcases allowed with free | characterSets
  · exact .inl (phase_of_not_busy free alive)
  · refine .inr fun j dynamic => ?_
    have differ : j ≠ i := by
      rintro rfl
      exact characterSets dynamic
    exact w.client.same_clientSetValue dynamic differ v

theorem Live.resetConnection (live : w.Live sv) (pooled : w.phase = .pooled) :
    ({ w with server := w.server.reset, actual := sv.defaults } : World hash).Live sv := by
  have idle : ({ w with server := w.server.reset, actual := sv.defaults } :
      World hash).setting = none := setting_eq_none (by simp [pooled])
  exact live_of_idle idle (by simp [pooled]) ⟨fun _ _ isSet => absurd rfl isSet, live.right.absent⟩

theorem keeps_step (injective : Injective hash) (nonzero : ∀ v, hash v ≠ 0) {e : Event}
    (keeps : w.Keeps sv) (meets : w.Meets sv e) (stepped : w.step sv e = .ok w') : w'.Keeps sv := by
  intro alive'
  cases e with
  | attach id =>
    obtain ⟨pooled, ⟨⟩⟩ := Machine.ite_eq_ok.mp stepped
    have live := keeps (by simp [pooled])
    exact live.moves (setting_eq_none (by simp [pooled])) id (.inr rfl)
  | clientSet id i v =>
    simp only [step] at stepped
    split at stepped
    · cases stepped
    next allowed =>
      cases stepped
      exact (keeps alive').clientSet alive' allowed
  | clientReset id =>
    simp only [step] at stepped
    split at stepped
    · cases stepped
    next free =>
      cases stepped
      have alive : w.phase ≠ .destroyed := alive'
      refine (keeps alive).setClient fun current => ?_
      subst current
      exact .inl (phase_of_not_busy free alive)
  | lock id =>
    cases stepped
    have alive : w.phase ≠ .destroyed := alive'
    refine (keeps alive).setClient fun current => .inr fun i _ => ?_
    subst current
    exact ⟨rfl, rfl⟩
  | initConnect after =>
    obtain ⟨first, ⟨⟩⟩ := Machine.ite_eq_ok.mp stepped
    have live := keeps (by simp [first.1])
    refine live_verifying first.1 ⟨fun i dynamic isSet => ?_, live.right.absent⟩
    exact absurd (varHash_eq_zero first.2 dynamic) isSet
  | verify =>
    obtain ⟨phase, ⟨⟩⟩ := Machine.ite_eq_ok.mp stepped
    exact (keeps (by simp [phase])).verify injective nonzero phase meets
  | trackGtids =>
    obtain ⟨phase, ⟨⟩⟩ := Machine.ite_eq_ok.mp stepped
    have live := keeps (by simp [phase])
    exact live_of_idle rfl (by simp) (live.idle (setting_eq_none (by simp [phase])))
  | reply r =>
    have alive : w.phase ≠ .destroyed := by
      intro gone
      simp [step, World.reply, gone, setting] at stepped
    exact (keeps alive).reply meets stepped alive'
  | queryDone =>
    obtain ⟨sent, ⟨⟩⟩ := Machine.ite_eq_ok.mp stepped
    have live := keeps (by simp [sent])
    exact live.moves (setting_eq_none (by simp [sent])) w.current (.inl rfl)
  | resetConnection =>
    obtain ⟨pooled, ⟨⟩⟩ := Machine.ite_eq_ok.mp stepped
    exact (keeps (by simp [pooled])).resetConnection pooled

/-! ### Two clients -/

def codeHash (s : String) : Nat := Encodable.encode (s.toList.map Char.toNat) + 1

theorem codeHash_injective : Injective codeHash := by
  intro a b same
  have codes := Encodable.encode_injective (Nat.succ.inj same)
  have chars := List.map_injective_iff.mpr (fun _ _ => Char.toNat_inj.mp) codes
  exact String.toList_inj.mp chars

theorem codeHash_ne_zero (s : String) : codeHash s ≠ 0 := Nat.succ_ne_zero _

def mysql : Server := ⟨fun _ => true, fun _ => "", fun _ _ => false⟩

/-- Client 0 has set `sql_mode` to `(`, which the proxy sends without quotes, the others to
`ANSI`. -/
def twoClients : World codeHash where
  clients := fun id =>
    let mode := if id = 0 then "(" else "ANSI"
    ⟨(create ⟨"app", "db", 0⟩).clientSetValue sqlMode mode, false, false⟩
  current := 0
  server := .create ⟨"app", "db", 0⟩
  changingVariableIdx := lowWm
  actual := fun _ => ""
  phase := .pooled

theorem fresh_twoClients : twoClients.Fresh := ⟨rfl, rfl, fun _ => rfl⟩

/-- Whenever a query is sent, every variable that its client has set and the server knows has the
client's value on the server. -/
theorem query_sees_client_values (sv : Server) (injective : Injective hash)
    (nonzero : ∀ v, hash v ≠ 0) {start w : World hash} (fresh : start.Fresh)
    (run : Machine.Run (step sv) (Meets sv) start w) (sent : w.phase = .querySent) : w.Sees sv := by
  have keeps : w.Keeps sv := run.invariant (Keeps sv) (fun _ => fresh.live sv)
    fun _ _ _ keeps meets stepped => keeps_step injective nonzero keeps meets stepped
  exact (keeps (by simp [sent])).sent sent

theorem query_sees_client_values_ansi :
    ∃ w : World codeHash, Machine.Run (step mysql) (Meets mysql) twoClients w ∧
      w.phase = .querySent ∧ w.client.value sqlMode = some "ANSI" ∧ w.actual sqlMode = "ANSI" := by
  have attached : Machine.Run (step mysql) (Meets mysql) twoClients _ :=
    .step .start trivial (i := .attach 1) rfl
  have asked := attached.step (i := .verify) (by rintro ⟨locked, -⟩; cases locked) rfl
  have set := asked.step (i := .reply (.ok fun _ => "")) (by intro _ _ _ coupled; cases coupled) rfl
  have sent := set.step (i := .verify) (by rintro ⟨locked, -⟩; cases locked) rfl
  have sees := query_sees_client_values mysql codeHash_injective codeHash_ne_zero
    fresh_twoClients sent (by decide +kernel)
  refine ⟨_, sent, by decide +kernel, by decide +kernel, ?_⟩
  exact sees sqlMode "ANSI" (by decide) (by decide +kernel) rfl

/-- The `SET` of client 0 is a syntax error; it marks `sql_mode` as absent, although the server
knows it, and the query of client 1 is sent without its value. -/
theorem syntax_error_hides_next_value :
    Injective codeHash ∧ (∀ v, codeHash v ≠ 0) ∧ twoClients.Fresh ∧
      ∃ w : World codeHash, Machine.Run (step mysql) (fun _ _ => True) twoClients w ∧
        w.phase = .querySent ∧ ¬ w.Sees mysql := by
  have observed : ([.attach 0, .verify, .reply (.err 1064), .verify, .queryDone, .attach 1,
      .verify].foldlM (step mysql) twoClients).map (fun w =>
        (w.phase, w.client.value sqlMode, w.actual sqlMode)) =
      .ok (.querySent, some "ANSI", "") := by
    decide +kernel
  obtain ⟨w, ran, seen⟩ := Machine.map_eq_ok.mp observed
  simp only [Prod.mk.injEq] at seen
  obtain ⟨sent, isSet, value⟩ := seen
  refine ⟨codeHash_injective, codeHash_ne_zero, fresh_twoClients, w, Machine.run_of_foldlM ran,
    sent, fun sees => ?_⟩
  have same := sees sqlMode "ANSI" (by decide) isSet rfl
  rw [value] at same
  exact absurd same (by decide)

end World

end MockProxy.Variables
