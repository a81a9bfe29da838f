import MockProxy.Hostgroups.Server
import MockProxy.Variables.Connection

/-!
# Backend connections and how well they suit a client

A connection suits a client if it was made with the same options, needs no change of user and has
the client's session variables. `number_of_matching_session_variables` counts matches and
mismatches; there is no mismatch exactly if all variables match (`notMatching_eq_zero_iff`).
-/

namespace MockProxy.Variables.MysqlConnection

open Var

variable {hash : String → Nat}

/-- The variables of the character set that `number_of_matching_session_variables` compares. -/
def comparedLow (client : MysqlConnection hash) : List Var :=
  (List.finRange 59).filter fun i => i < lowWm ∧ client.varHash i ≠ 0 ∧ i ≠ characterAction

def agrees (server client : MysqlConnection hash) (i : Var) : Bool :=
  server.varHash i = client.varHash i

/-- `server.number_of_matching_session_variables(client, not_matching)`: the matches and
`not_matching`. -/
def numberOfMatchingSessionVariables (server client : MysqlConnection hash) (notMatching : Nat) :
    Nat × Nat :=
  let low := client.comparedLow
  let found := SortedWalk.matching (server.agrees client) client.dynamicVariablesIdx
    server.dynamicVariablesIdx
  (low.countP (server.agrees client) + found,
    notMatching + low.countP (fun i => !server.agrees client i) +
      client.dynamicVariablesIdx.length + server.dynamicVariablesIdx.length - 2 * found)

/-- The connection has all the session variables of the client, and no others. -/
def MatchesAll (server client : MysqlConnection hash) : Prop :=
  (∀ i, i < lowWm → i ≠ characterAction → client.varHash i ≠ 0 →
    server.varHash i = client.varHash i) ∧
  ∀ i, lowWm < i → server.varHash i = client.varHash i

section

variable (server client : MysqlConnection hash)

include server client

theorem countP_low_eq_zero_iff : client.comparedLow.countP (fun i => !server.agrees client i) = 0 ↔
      ∀ i, i < lowWm → i ≠ characterAction → client.varHash i ≠ 0 →
        server.varHash i = client.varHash i := by
  rw [List.countP_eq_zero]
  simp only [comparedLow, agrees, List.mem_filter, List.mem_finRange, true_and,
    decide_eq_true_eq, Bool.not_eq_true', decide_eq_false_iff_not, not_not]
  constructor
  · intro all i low notAction isSet
    exact all i ⟨low, isSet, notAction⟩
  · rintro all i ⟨low, isSet, notAction⟩
    exact all i low notAction isSet

theorem matching_eq : SortedWalk.matching (server.agrees client) client.dynamicVariablesIdx
        server.dynamicVariablesIdx = client.dynamicVariablesIdx.countP fun i =>
        i ∈ server.dynamicVariablesIdx ∧ server.agrees client i :=
  SortedWalk.matching_eq_countP client.pairwise_dynamicVariablesIdx
    server.pairwise_dynamicVariablesIdx

theorem matching_le : SortedWalk.matching (server.agrees client) client.dynamicVariablesIdx
        server.dynamicVariablesIdx ≤ client.dynamicVariablesIdx.length ∧
      SortedWalk.matching (server.agrees client) client.dynamicVariablesIdx
        server.dynamicVariablesIdx ≤ server.dynamicVariablesIdx.length := by
  rw [matching_eq]
  refine ⟨List.countP_le_length, ?_⟩
  rw [List.countP_eq_length_filter]
  have distinct := (client.pairwise_dynamicVariablesIdx.imp ne_of_lt).sublist
    (List.filter_sublist (p := fun i => i ∈ server.dynamicVariablesIdx ∧ server.agrees client i))
  apply (List.Nodup.subperm distinct _).length_le
  intro i member
  have both := of_decide_eq_true (List.mem_filter.mp member).2
  exact both.1

theorem matching_eq_length_iff :
    (SortedWalk.matching (server.agrees client) client.dynamicVariablesIdx
        server.dynamicVariablesIdx = client.dynamicVariablesIdx.length ∧
      server.dynamicVariablesIdx.length = client.dynamicVariablesIdx.length) ↔
      ∀ i, lowWm < i → server.varHash i = client.varHash i := by
  rw [matching_eq, List.countP_eq_length]
  constructor
  · rintro ⟨all, lengths⟩ i dynamic
    by_cases unset : client.varHash i = 0
    · -- a variable only the connection has would make its list longer
      by_contra differ
      have extra := server.mem_dynamicVariablesIdx.mpr
        ⟨dynamic, fun zero => differ (zero.trans unset.symm)⟩
      have contained : client.dynamicVariablesIdx ⊆ server.dynamicVariablesIdx := by
        intro j member
        exact (of_decide_eq_true (all j member)).1
      have perm := (List.Nodup.subperm (client.pairwise_dynamicVariablesIdx.imp ne_of_lt)
        contained).perm_of_length_le lengths.le
      have member := client.mem_dynamicVariablesIdx.mp (perm.symm.subset extra)
      exact member.2 unset
    · have member := client.mem_dynamicVariablesIdx.mpr ⟨dynamic, unset⟩
      have both := of_decide_eq_true (all i member)
      exact of_decide_eq_true both.2
  · intro same
    have lists : server.dynamicVariablesIdx = client.dynamicVariablesIdx := by
      rw [server.indexed, client.indexed]
      apply List.filter_congr
      intro i _
      by_cases dynamic : lowWm < i
      · rw [same i dynamic]
      · simp [dynamic]
    rw [lists]
    refine ⟨?_, rfl⟩
    intro i member
    have dynamic := (client.mem_dynamicVariablesIdx.mp member).1
    exact decide_eq_true ⟨member, decide_eq_true (same i dynamic)⟩

theorem notMatching_eq_zero_iff :
    (server.numberOfMatchingSessionVariables client 0).2 = 0 ↔ server.MatchesAll client := by
  have bounds := matching_le server client
  unfold MatchesAll numberOfMatchingSessionVariables
  rw [← countP_low_eq_zero_iff, ← matching_eq_length_iff]
  dsimp only
  omega

end

end MockProxy.Variables.MysqlConnection

namespace MockProxy.Hostgroups

open Variables

variable {hash : String → Nat}

/-- What a connection, of a client or to a server, is compared by: `options.client_flag`, the user
and the session variables. -/
structure Tracked (hash : String → Nat) where
  clientFlag : UInt32
  vars : MysqlConnection hash

def clientFoundRows : UInt32 := 2
def clientIgnoreSpace : UInt32 := 256
def clientMultiStatements : UInt32 := 65536
def clientMultiResults : UInt32 := 131072

def Tracked.matchTrackedOptions (c d : Tracked hash) : Bool :=
  c.clientFlag &&& clientFoundRows = d.clientFlag &&& clientFoundRows ∧
    c.clientFlag &&& clientMultiStatements = d.clientFlag &&& clientMultiStatements ∧
    c.clientFlag &&& clientMultiResults = d.clientFlag &&& clientMultiResults ∧
    c.clientFlag &&& clientIgnoreSpace = d.clientFlag &&& clientIgnoreSpace

/-- `MySQL_Connection` to a server, as far as the pool reads it. -/
structure Conn (hash : String → Nat) where
  parent : SrvId
  tracked : Tracked hash
  -- `async_state_machine==ASYNC_IDLE`
  asyncIdle : Bool
  largestQueryLength : Nat
  -- `local_stmts->get_num_backend_stmts()`
  numBackendStmts : Nat
  sendQuit : Bool
  -- `mysql_errno`
  errno : Nat
  lastTimeUsed : Nat
  creationTime : Nat
  autoIncrementDelayToken : Nat
  -- `STATUS_MYSQL_CONNECTION_NO_MULTIPLEX_HG`
  noMultiplexHg : Bool

/-- `new MySQL_Connection()`, with its parent and the status set -/
def Conn.create (parent : SrvId) (multiplex : Bool) : Conn hash where
  parent := parent
  tracked := ⟨0, .create ⟨"", "", 0⟩⟩
  asyncIdle := false
  largestQueryLength := 0
  numBackendStmts := 0
  sendQuit := true
  errno := 0
  lastTimeUsed := 0
  creationTime := 0
  autoIncrementDelayToken := 0
  noMultiplexHg := !multiplex

end MockProxy.Hostgroups
