import MockProxy.Cluster.Node
import MockProxy.Lib.Machine

/-!
# The peer to sync from

`ProxySQL_Cluster_Nodes::get_peer_to_sync_*` looks through the known peers for the one with the
newest configuration of a module. The loop keeps two maxima: `epoch` among the peers whose
`diff_check` is high enough, and `max_epoch`, which should be the maximum among all of them and is
compared with `epoch` in the end. But `max_epoch` is overwritten by every epoch above `epoch`, also
by one below `max_epoch` itself, so that a newer peer can be forgotten.
-/

namespace MockProxy.Cluster

open Machine List

inductive Fault
  | doubleFree
  deriving DecidableEq

/-- A `char *` to memory that the function owns. -/
inductive CharPtr
  | null
  | owned (text : String)
  -- the memory was freed and the pointer not reset
  | dangling
  deriving DecidableEq

/-- `if (p) { free(p); }` -/
def CharPtr.free : CharPtr → Except Fault CharPtr
  | .null => .ok .null
  | .owned _ => .ok .dangling
  | .dangling => .error .doubleFree

/-- The local variables of the loop. `hostname` and `pc` get a new value whenever they are freed,
`ip_addr` does not. -/
structure Selection where
  version : Nat := 0
  epoch : Nat := 0
  maxEpoch : Nat := 0
  hostname : Option String := none
  ipAddr : CharPtr := .null
  p : Nat := 0
  pc : Option String := none
  deriving DecidableEq

/-- The peer a function chooses, with the version and epoch it logs. -/
structure Peer where
  host : String
  port : Nat
  ipAddress : CharPtr
  peerChecksum : Option String
  version : Nat
  epoch : Nat
  deriving DecidableEq

/-- The body of `if (v->diff_check >= diff)` -/
def Selection.take (copies : Bool) (s : Selection) (node : NodeEntry) (v : ChecksumValue2) :
    Except Fault Selection := do
  let freed ← s.ipAddr.free
  return {
    version := v.version
    epoch := v.epoch
    maxEpoch := s.maxEpoch
    hostname := some node.hostname
    ipAddr := match node.ipAddr with
      | some ip => .owned ip
      | none => freed
    p := node.port
    pc := if copies then some v.checksum else none
  }

/-- One round of the loop -/
def Selection.visit (m : Module) (copies : Bool) (diff : Nat) (s : Selection) (node : NodeEntry) :
    Except Fault Selection :=
  let v := node.checksumsValues m
  if v.version > 1 then
    if v.epoch > s.epoch then
      if v.diffCheck ≥ diff then { s with maxEpoch := v.epoch }.take copies node v
      else .ok { s with maxEpoch := v.epoch }
    else .ok s
  else .ok s

/-- What follows the loop -/
def Selection.finish (s : Selection) : Except Fault (Option Peer) :=
  if s.epoch ≠ 0 ∧ s.maxEpoch > s.epoch then do
    let _ ← s.ipAddr.free
    return none
  else
    .ok (s.hostname.map fun host =>
      { host := host, port := s.p, ipAddress := s.ipAddr, peerChecksum := s.pc,
        version := s.version, epoch := s.epoch })

/-- The functions `get_peer_to_sync_*`: the module whose values they read, whether they return the
checksum of the peer, the number of differences that is required, and the peers in the order of the
unordered map. -/
def getPeerToSync (m : Module) (copies : Bool) (diff : Nat) (nodes : List NodeEntry) :
    Except Fault (Option Peer) := do
  let s ← nodes.foldlM (Selection.visit m copies diff) {}
  s.finish

def getPeerToSyncMysqlQueryRules (diffMqr : Nat) (nodes : List NodeEntry) :
    Except Fault (Option Peer) :=
  getPeerToSync .mysqlQueryRules false diffMqr nodes

def getPeerToSyncRuntimeMysqlServers (diffMs : Nat) (nodes : List NodeEntry) :
    Except Fault (Option Peer) :=
  getPeerToSync .mysqlServers true diffMs nodes

/-! ### What the choice should be -/

variable {m : Module} {copies : Bool} {diff : Nat} (node : NodeEntry)

def NodeEntry.epoch (m : Module) : Nat := (node.checksumsValues m).epoch

/-- The peer may be synced from: its version is above 1 and it has differed often enough. -/
def NodeEntry.Reached (m : Module) (diff : Nat) : Prop :=
  1 < (node.checksumsValues m).version ∧ diff ≤ (node.checksumsValues m).diffCheck

def NodeEntry.Waiting (m : Module) (diff : Nat) : Prop :=
  1 < (node.checksumsValues m).version ∧ (node.checksumsValues m).diffCheck < diff

/-- The choice among `nodes` is right. -/
structure RightChoice (m : Module) (diff : Nat) (nodes : List NodeEntry) (choice : Option Peer) :
    Prop where
  -- it is one of the peers that may be synced from
  member : ∀ peer, choice = some peer → ∃ node ∈ nodes, node.Reached m diff ∧
    peer.host = node.hostname ∧ peer.port = node.port ∧
    peer.version = (node.checksumsValues m).version ∧ peer.epoch = node.epoch m
  -- its epoch is the greatest
  greatest : ∀ peer, choice = some peer → ∀ node ∈ nodes, 1 < (node.checksumsValues m).version →
    node.epoch m ≤ peer.epoch
  -- there is none while a newer peer waits
  waits : ∀ node ∈ nodes, node.Waiting m diff →
    (∀ other ∈ nodes, other.Reached m diff → other.epoch m < node.epoch m) → choice = none
  -- there is one if a peer with the greatest epoch may be synced from
  chosen : ∀ node ∈ nodes, node.Reached m diff → 0 < node.epoch m →
    (∀ other ∈ nodes, 1 < (other.checksumsValues m).version → other.epoch m ≤ node.epoch m) →
    choice ≠ none

theorem NodeEntry.reached_or_waiting (m : Module) (diff : Nat)
    (version : 1 < (node.checksumsValues m).version) :
    node.Reached m diff ∨ node.Waiting m diff := by
  rcases Nat.lt_or_ge (node.checksumsValues m).diffCheck diff with low | high
  · exact .inr ⟨version, low⟩
  · exact .inl ⟨version, high⟩

variable {node : NodeEntry} {s : Selection} {nodes : List NodeEntry}

theorem NodeEntry.Reached.not_waiting (reached : node.Reached m diff) : ¬ node.Waiting m diff :=
  fun waiting => absurd waiting.2 (Nat.not_lt.mpr reached.2)

/-! ### The loop -/

def CharPtr.replaced (old : CharPtr) : Option String → CharPtr
  | some ip => .owned ip
  | none => if old = .null then .null else .dangling

theorem take_eq {v : ChecksumValue2} : s.take copies node v =
      if s.ipAddr = .dangling then .error .doubleFree
      else .ok ⟨v.version, v.epoch, s.maxEpoch, some node.hostname, s.ipAddr.replaced node.ipAddr,
        node.port, if copies then some v.checksum else none⟩ := by
  rcases s with ⟨_, _, _, _, ip, _, _⟩
  cases ip <;> cases found : node.ipAddr <;> simp [Selection.take, CharPtr.free, CharPtr.replaced,
    found, bind, Except.bind, pure, Except.pure]

theorem visit_skip (skipped : ¬ (1 < (node.checksumsValues m).version ∧ s.epoch < node.epoch m)) :
    s.visit m copies diff node = .ok s := by
  by_cases version : 1 < (node.checksumsValues m).version
  · have old : ¬ s.epoch < node.epoch m := fun newer => skipped ⟨version, newer⟩
    simp only [Selection.visit, version]
    exact if_neg old
  · simp [Selection.visit, version]

theorem visit_waiting (waiting : node.Waiting m diff) (newer : s.epoch < node.epoch m) :
    s.visit m copies diff node = .ok { s with maxEpoch := node.epoch m } := by
  have low := Nat.not_le.mpr waiting.2
  simp only [Selection.visit, waiting.1, low]
  exact if_pos newer

theorem visit_reached (reached : node.Reached m diff) (newer : s.epoch < node.epoch m) :
    s.visit m copies diff node =
      { s with maxEpoch := node.epoch m }.take copies node (node.checksumsValues m) := by
  simp only [Selection.visit, reached.1, reached.2]
  exact if_pos newer

/-- Three peers that may be synced from, with growing epochs: the address of the first is freed for
the second, which has none, and freed again for the third. -/
def FreesTwice (m : Module) (diff : Nat) (nodes : List NodeEntry) : Prop :=
  ∃ first ∈ nodes, ∃ second ∈ nodes, ∃ third ∈ nodes,
    first.Reached m diff ∧ second.Reached m diff ∧ third.Reached m diff ∧
    first.ipAddr ≠ none ∧ second.ipAddr = none ∧
    0 < first.epoch m ∧ first.epoch m < second.epoch m ∧ second.epoch m < third.epoch m

/-- What the loop has found among the peers. -/
structure Selected (m : Module) (diff : Nat) (nodes : List NodeEntry) (s : Selection) : Prop where
  chosen : (s.epoch = 0 ∧ s.hostname = none) ∨ ∃ node ∈ nodes, node.Reached m diff ∧
    0 < s.epoch ∧ s.hostname = some node.hostname ∧ s.p = node.port ∧
    s.version = (node.checksumsValues m).version ∧ s.epoch = node.epoch m
  maxEpoch : s.maxEpoch ≤ s.epoch ∨ ∃ node ∈ nodes, node.Waiting m diff ∧ node.epoch m = s.maxEpoch
  owned : s.ipAddr ≠ .null → ∃ node ∈ nodes, node.Reached m diff ∧ node.ipAddr ≠ none ∧
    0 < node.epoch m ∧ node.epoch m ≤ s.epoch
  dangling : s.ipAddr = .dangling → ∃ first ∈ nodes, ∃ second ∈ nodes,
    first.Reached m diff ∧ second.Reached m diff ∧ first.ipAddr ≠ none ∧ second.ipAddr = none ∧
    0 < first.epoch m ∧ first.epoch m < second.epoch m ∧ second.epoch m ≤ s.epoch

/-- The loop has gone over the peers `seen`: no epoch that it could take is above its own. -/
def Passed (m : Module) (diff : Nat) (seen : List NodeEntry) (s : Selection) : Prop :=
  ∀ node ∈ seen, node.Reached m diff → node.epoch m ≤ s.epoch

theorem Selected.take (selected : Selected m diff nodes s) (member : node ∈ nodes)
    (reached : node.Reached m diff) (newer : s.epoch < node.epoch m) (pc : Option String) :
    Selected m diff nodes ⟨(node.checksumsValues m).version, (node.checksumsValues m).epoch,
      node.epoch m, some node.hostname, s.ipAddr.replaced node.ipAddr, node.port, pc⟩ := by
  have positive : 0 < node.epoch m := Nat.zero_lt_of_lt newer
  -- an address that is freed without a new one belongs to an older peer
  have older : node.ipAddr = none → s.ipAddr.replaced node.ipAddr ≠ .null →
      ∃ other ∈ nodes, other.Reached m diff ∧ other.ipAddr ≠ none ∧ 0 < other.epoch m ∧
        other.epoch m < node.epoch m := by
    intro resolved notNull
    have wasNotNull : s.ipAddr ≠ .null := by
      intro null
      simp [CharPtr.replaced, resolved, null] at notNull
    obtain ⟨other, otherMember, otherReached, hasIp, low, high⟩ := selected.owned wasNotNull
    exact ⟨other, otherMember, otherReached, hasIp, low, Nat.lt_of_le_of_lt high newer⟩
  constructor
  · exact .inr ⟨node, member, reached, positive, rfl, rfl, rfl, rfl⟩
  · exact .inl le_rfl
  · intro notNull
    cases resolved : node.ipAddr with
    | some ip => exact ⟨node, member, reached, by simp [resolved], positive, le_rfl⟩
    | none =>
      obtain ⟨other, otherMember, otherReached, hasIp, low, less⟩ := older resolved notNull
      exact ⟨other, otherMember, otherReached, hasIp, low, Nat.le_of_lt less⟩
  · intro (dangling : s.ipAddr.replaced node.ipAddr = .dangling)
    cases resolved : node.ipAddr with
    | some ip => simp [CharPtr.replaced, resolved] at dangling
    | none =>
      obtain ⟨other, otherMember, otherReached, hasIp, low, less⟩ :=
        older resolved (by simp [dangling])
      exact ⟨other, otherMember, node, member, otherReached, reached, hasIp, resolved, low, less,
        le_rfl⟩

section Loop

variable (once : ¬ FreesTwice m diff nodes)

include once

/-- One round takes the peer into account. -/
theorem Selected.visit (selected : Selected m diff nodes s) (copies : Bool)
    (member : node ∈ nodes) :
    ∃ s', s.visit m copies diff node = .ok s' ∧ Selected m diff nodes s' ∧ s.epoch ≤ s'.epoch ∧
      (node.Reached m diff → node.epoch m ≤ s'.epoch) := by
  by_cases newer : 1 < (node.checksumsValues m).version ∧ s.epoch < node.epoch m
  · rcases node.reached_or_waiting m diff newer.1 with reached | waiting
    · have notDangling : s.ipAddr ≠ .dangling := by
        intro dangling
        obtain ⟨first, member₁, second, member₂, reached₁, reached₂, hasIp, hasNone, low, middle,
          high⟩ := selected.dangling dangling
        exact once ⟨first, member₁, second, member₂, node, member, reached₁, reached₂,
          reached, hasIp, hasNone, low, middle, Nat.lt_of_le_of_lt high newer.2⟩
      rw [visit_reached reached newer.2, take_eq, if_neg notDangling]
      exact ⟨_, rfl, selected.take member reached newer.2 _, Nat.le_of_lt newer.2,
        fun _ => le_rfl⟩
    · rw [visit_waiting waiting newer.2]
      exact ⟨_, rfl, ⟨selected.chosen, .inr ⟨node, member, waiting, rfl⟩, selected.owned,
        selected.dangling⟩, le_rfl, fun reached => absurd waiting reached.not_waiting⟩
  · rw [visit_skip newer]
    refine ⟨s, rfl, selected, le_rfl, fun reached => ?_⟩
    exact Nat.not_lt.mp fun later => newer ⟨reached.1, later⟩

variable {order : List NodeEntry}

theorem Selected.foldlM (selected : Selected m diff nodes s) (copies : Bool) (sub : order ⊆ nodes) :
    ∃ s', order.foldlM (Selection.visit m copies diff) s = .ok s' ∧ Selected m diff nodes s' ∧
      s.epoch ≤ s'.epoch ∧ Passed m diff order s' := by
  induction order generalizing s with
  | nil => exact ⟨s, rfl, selected, le_rfl, by simp [Passed]⟩
  | cons node order ih =>
    rw [cons_subset] at sub
    obtain ⟨next, visited, selected', grows, reached⟩ := selected.visit once copies sub.1
    obtain ⟨s', ran, selectedEnd, later, passed⟩ := ih selected' sub.2
    rw [foldlM_cons, visited]
    refine ⟨s', ran, selectedEnd, Nat.le_trans grows later, forall_mem_cons.mpr ⟨?_, passed⟩⟩
    exact fun here => Nat.le_trans (reached here) later

theorem loop_selected (copies : Bool) (perm : order.Perm nodes) :
    ∃ s, order.foldlM (Selection.visit m copies diff) {} = .ok s ∧ Selected m diff nodes s ∧
      Passed m diff nodes s := by
  have start : Selected m diff nodes {} := by constructor <;> simp
  obtain ⟨s, ran, selected, -, passed⟩ := start.foldlM once copies perm.subset
  exact ⟨s, ran, selected, fun node member => passed node (perm.mem_iff.mpr member)⟩

end Loop

/-! ### When the choice is right -/

/-- No peer that waits is newer than all that may be synced from, unless there is none of those. -/
def NewestReached (m : Module) (diff : Nat) (nodes : List NodeEntry) : Prop :=
  ∀ node ∈ nodes, node.Waiting m diff →
    (∃ other ∈ nodes, other.Reached m diff ∧ 0 < other.epoch m) →
    ∃ other ∈ nodes, other.Reached m diff ∧ node.epoch m ≤ other.epoch m

/-- In every order of the peers the call returns the right choice, and its epoch is the same in all
orders. -/
def ChoosesRightly (choose : List NodeEntry → Except Fault (Option Peer)) (m : Module) (diff : Nat)
    (nodes : List NodeEntry) : Prop :=
  (∀ order : List NodeEntry, order.Perm nodes →
    ∃ choice, choose order = .ok choice ∧ RightChoice m diff nodes choice) ∧
  ∀ order order' : List NodeEntry, order.Perm nodes → order'.Perm nodes →
    ∀ choice choice', choose order = .ok choice → choose order' = .ok choice' →
      choice.map (·.epoch) = choice'.map (·.epoch)

theorem Selected.finish (selected : Selected m diff nodes s) (passed : Passed m diff nodes s)
    (newest : NewestReached m diff nodes) :
    ∃ choice, s.finish = .ok choice ∧ RightChoice m diff nodes choice ∧
      ∀ peer, choice = some peer → 0 < peer.epoch := by
  rcases selected.chosen with ⟨zero, noHost⟩ |
    ⟨node, member, reached, positive, host, port, version, epoch⟩
  · refine ⟨none, by simp [Selection.finish, zero, noHost],
      ⟨by simp, by simp, by simp, ?_⟩, by simp⟩
    intro other otherMember otherReached otherPositive
    have := passed other otherMember otherReached
    omega
  · have greatest : ∀ {other : NodeEntry}, other ∈ nodes →
        1 < (other.checksumsValues m).version → other.epoch m ≤ s.epoch := by
      intro other otherMember otherVersion
      rcases other.reached_or_waiting m diff otherVersion with otherReached | waiting
      · exact passed other otherMember otherReached
      · obtain ⟨newer, newerMember, newerReached, le⟩ :=
          newest other otherMember waiting ⟨node, member, reached, epoch ▸ positive⟩
        exact Nat.le_trans le (passed newer newerMember newerReached)
    have notNewer : ¬ s.maxEpoch > s.epoch := by
      rcases selected.maxEpoch with le | ⟨other, otherMember, waiting, same⟩
      · omega
      · have := greatest otherMember waiting.1
        omega
    refine ⟨some ⟨node.hostname, s.p, s.ipAddr, s.pc, s.version, s.epoch⟩,
      by simp [Selection.finish, notNewer, host], ⟨?_, ?_, ?_, by simp⟩, by simpa using positive⟩
    · rintro _ ⟨rfl⟩
      exact ⟨node, member, reached, rfl, port, version, epoch⟩
    · rintro _ ⟨rfl⟩ other otherMember otherVersion
      exact greatest otherMember otherVersion
    · intro other otherMember waiting newer
      have := newer node member reached
      have := greatest otherMember waiting.1
      omega

theorem RightChoice.some_of_some {peer : Peer} {choice : Option Peer}
    (right : RightChoice m diff nodes (some peer)) (positive : 0 < peer.epoch)
    (other : RightChoice m diff nodes choice) : choice.map (·.epoch) = some peer.epoch := by
  obtain ⟨node, member, reached, -, -, -, epoch⟩ := right.member peer rfl
  have greatest := right.greatest peer rfl
  rw [epoch] at positive greatest ⊢
  cases choice with
  | none => exact absurd rfl (other.chosen node member reached positive greatest)
  | some peer' =>
    obtain ⟨node', member', reached', -, -, -, epoch'⟩ := other.member peer' rfl
    have le := greatest node' member' reached'.1
    have ge := other.greatest peer' rfl node member reached.1
    simp only [Option.map_some, Option.some.injEq]
    omega

section

variable (newest : NewestReached m diff nodes) (once : ¬ FreesTwice m diff nodes)

include newest once

theorem getPeerToSync_right {order : List NodeEntry} (perm : order.Perm nodes) :
    ∃ choice, getPeerToSync m copies diff order = .ok choice ∧ RightChoice m diff nodes choice ∧
      ∀ peer, choice = some peer → 0 < peer.epoch := by
  obtain ⟨s, ran, selected, passed⟩ := loop_selected once copies perm
  simp only [getPeerToSync, ran]
  exact selected.finish passed newest

theorem choosesRightly_of_newest : ChoosesRightly (getPeerToSync m copies diff) m diff nodes := by
  constructor
  · intro order perm
    obtain ⟨choice, ran, rightly, -⟩ := getPeerToSync_right newest once perm
    exact ⟨choice, ran, rightly⟩
  · intro order order' perm perm' choice choice' ran ran'
    obtain ⟨_, ran₁, rightly, positive⟩ := getPeerToSync_right newest once perm
    obtain ⟨_, ran₂, rightly', positive'⟩ := getPeerToSync_right newest once perm'
    cases ran.symm.trans ran₁
    cases ran'.symm.trans ran₂
    cases choice with
    | some peer => exact (rightly.some_of_some (positive peer rfl) rightly').symm
    | none =>
      cases choice' with
      | none => rfl
      | some peer' => exact rightly'.some_of_some (positive' peer' rfl) rightly

end

/-! ### Where it goes wrong -/

theorem visit_cases {s' : Selection} (ran : s.visit m copies diff node = .ok s') :
    s'.epoch = s.epoch ∧ (node.Reached m diff → s' = s) ∨
      node.Reached m diff ∧ s'.maxEpoch = s'.epoch := by
  by_cases newer : 1 < (node.checksumsValues m).version ∧ s.epoch < node.epoch m
  · rcases node.reached_or_waiting m diff newer.1 with reached | waiting
    · rw [visit_reached reached newer.2, take_eq] at ran
      by_cases dangling : s.ipAddr = .dangling
      · rw [if_pos dangling] at ran
        cases ran
      · rw [if_neg dangling] at ran
        cases ran
        exact .inr ⟨reached, rfl⟩
    · rw [visit_waiting waiting newer.2] at ran
      cases ran
      exact .inl ⟨rfl, fun reached => absurd waiting reached.not_waiting⟩
  · rw [visit_skip newer] at ran
    cases ran
    exact .inl ⟨rfl, fun _ => rfl⟩

/-- With the waiting peers first, the newest of the others is chosen whatever the waiting ones
have. -/
theorem chosen_after_waiting {waiting reached : List NodeEntry}
    (waits : ∀ node ∈ waiting, ¬ node.Reached m diff)
    (reaches : ∀ node ∈ reached, node.Reached m diff) (member : node ∈ reached)
    (positive : 0 < node.epoch m) (once : ¬ FreesTwice m diff nodes)
    (perm : (waiting ++ reached).Perm nodes) :
    ∃ peer, getPeerToSync m copies diff (waiting ++ reached) = .ok (some peer) := by
  obtain ⟨s, ran, selected, passed⟩ := loop_selected once copies perm
  have ranBoth := ran
  rw [foldlM_append] at ranBoth
  obtain ⟨mid, ranWaiting, ranReached⟩ := bind_eq_ok.mp ranBoth
  -- nothing is chosen among the waiting peers, and `max_epoch` follows `epoch` among the others
  have zero : mid.epoch = 0 := by
    refine foldlM_invariant ranWaiting (·.epoch = 0) rfl ?_
    intro node mem s s' zero ran
    rcases visit_cases ran with ⟨kept, -⟩ | ⟨reached, -⟩
    · rw [kept, zero]
    · exact absurd reached (waits node mem)
  have follows : s.epoch = 0 ∨ s.maxEpoch = s.epoch := by
    refine foldlM_invariant ranReached (fun s => s.epoch = 0 ∨ s.maxEpoch = s.epoch) (.inl zero) ?_
    intro node mem s s' before ran
    rcases visit_cases ran with ⟨-, kept⟩ | ⟨-, same⟩
    · rwa [kept (reaches node mem)]
    · exact .inr same
  have le := passed node (perm.subset (mem_append_right _ member)) (reaches node member)
  have same : s.maxEpoch = s.epoch := follows.resolve_left (by omega)
  rcases selected.chosen with ⟨zero, -⟩ | ⟨chosen, -, -, -, host, -⟩
  · omega
  · simp [getPeerToSync, ran, Selection.finish, same, host, bind, Except.bind]

theorem newestReached_of_choosesRightly
    (rightly : ChoosesRightly (getPeerToSync m copies diff) m diff nodes)
    (once : ¬ FreesTwice m diff nodes) : NewestReached m diff nodes := by
  classical
  rintro node member waiting ⟨other, otherMember, otherReached, positive⟩
  by_contra noneAsNew
  have newer : ∀ n ∈ nodes, n.Reached m diff → n.epoch m < node.epoch m := fun n nMember nReached =>
    Nat.lt_of_not_le fun le => noneAsNew ⟨n, nMember, nReached, le⟩
  have perm := filter_append_perm (fun n => ¬ n.Reached m diff) nodes
  obtain ⟨peer, ran⟩ : ∃ peer, getPeerToSync m copies diff
      (nodes.filter (fun n => ¬ n.Reached m diff) ++
        nodes.filter (fun n => !decide (¬ n.Reached m diff))) = .ok (some peer) := by
    have kept : other ∈ nodes.filter fun n => !decide (¬ n.Reached m diff) := by
      simp [otherMember, otherReached]
    exact chosen_after_waiting (by simp) (by simp) kept positive once perm
  obtain ⟨choice, ran', right⟩ := rightly.1 _ perm
  cases ran.symm.trans ran'
  exact absurd (right.waits node member waiting newer) (by simp)

theorem freesTwice_faults (copies : Bool) (twice : FreesTwice m diff nodes) :
    ∃ order : List NodeEntry, order.Perm nodes ∧
      getPeerToSync m copies diff order = .error .doubleFree := by
  classical
  obtain ⟨first, member₁, second, member₂, third, member₃, reached₁, reached₂, reached₃, hasIp,
    hasNone, positive, less, less'⟩ := twice
  have second_ne : second ≠ first := by
    rintro rfl
    omega
  have third_ne : third ≠ first ∧ third ≠ second := by
    constructor <;> (rintro rfl; omega)
  have in₂ : second ∈ nodes.erase first := (mem_erase_of_ne second_ne).mpr member₂
  have in₃ : third ∈ (nodes.erase first).erase second :=
    (mem_erase_of_ne third_ne.2).mpr ((mem_erase_of_ne third_ne.1).mpr member₃)
  refine ⟨first :: second :: third :: ((nodes.erase first).erase second).erase third, ?_, ?_⟩
  · refine .trans ?_ (perm_cons_erase member₁).symm
    refine .cons first (.trans ?_ (perm_cons_erase in₂).symm)
    exact .cons second (perm_cons_erase in₃).symm
  · obtain ⟨ip, resolved⟩ := Option.ne_none_iff_exists'.mp hasIp
    simp only [getPeerToSync, foldlM_cons]
    rw [visit_reached reached₁ positive, take_eq, if_neg (by simp)]
    simp only [bind, Except.bind]
    rw [visit_reached reached₂ less, take_eq, if_neg (by simp [CharPtr.replaced, resolved])]
    dsimp only
    rw [visit_reached reached₃ less', take_eq,
      if_pos (by simp [CharPtr.replaced, resolved, hasNone])]

theorem getPeerToSync_rightly_iff (m : Module) (copies : Bool) (diff : Nat)
    (nodes : List NodeEntry) : ChoosesRightly (getPeerToSync m copies diff) m diff nodes ↔
      NewestReached m diff nodes ∧ ¬ FreesTwice m diff nodes := by
  constructor
  · intro rightly
    have once : ¬ FreesTwice m diff nodes := by
      intro twice
      obtain ⟨order, perm, faults⟩ := freesTwice_faults copies twice
      obtain ⟨choice, ran, -⟩ := rightly.1 order perm
      rw [faults] at ran
      cases ran
    exact ⟨newestReached_of_choosesRightly rightly once, once⟩
  · rintro ⟨newest, once⟩
    exact choosesRightly_of_newest newest once

/-- The two functions choose rightly in every order of the peers exactly when no peer that still
waits is newer than all that may be synced from, and no address pointer is freed twice. -/
theorem getPeerToSync_right_iff (diff : Nat) (nodes : List NodeEntry) :
    (ChoosesRightly (getPeerToSyncMysqlQueryRules diff) .mysqlQueryRules diff nodes ↔
      NewestReached .mysqlQueryRules diff nodes ∧ ¬ FreesTwice .mysqlQueryRules diff nodes) ∧
    (ChoosesRightly (getPeerToSyncRuntimeMysqlServers diff) .mysqlServers diff nodes ↔
      NewestReached .mysqlServers diff nodes ∧ ¬ FreesTwice .mysqlServers diff nodes) :=
  ⟨getPeerToSync_rightly_iff .mysqlQueryRules false diff nodes,
    getPeerToSync_rightly_iff .mysqlServers true diff nodes⟩

/-- A peer with the same values for all modules. -/
def NodeEntry.uniform (hostname : String) (epoch diffCheck : Nat) : NodeEntry where
  hostname := hostname
  port := 6032
  ipAddr := none
  checksumsValues _ := { checksum := "0x1", version := 2, epoch := epoch, diffCheck := diffCheck }

/-- A newer peer is forgotten when an older one follows it, and not when it comes last. -/
theorem getPeerToSync_forgets_newer :
    (getPeerToSyncMysqlQueryRules 3 [.uniform "a" 10 1, .uniform "b" 5 3]).map
        (·.map fun peer => (peer.host, peer.epoch)) = .ok (some ("b", 5)) ∧
    getPeerToSyncMysqlQueryRules 3 [.uniform "b" 5 3, .uniform "a" 10 1] = .ok none ∧
    (getPeerToSyncRuntimeMysqlServers 3 [.uniform "a" 10 1, .uniform "b" 5 3]).map
        (·.map fun peer => (peer.host, peer.epoch)) = .ok (some ("b", 5)) ∧
    getPeerToSyncRuntimeMysqlServers 3 [.uniform "b" 5 3, .uniform "a" 10 1] = .ok none := by
  decide

end MockProxy.Cluster
