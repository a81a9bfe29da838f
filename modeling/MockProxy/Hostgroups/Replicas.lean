import MockProxy.Hostgroups.Select
import MockProxy.Lib.PtrScans

/-!
# Reading only from replicas

With Aurora, the writer is the server without lag. If there are enough candidates,
`get_random_MySrvC` takes those without lag out again, in a scan that goes on behind the place of
each one it takes out.

The candidate that was moved there is not looked at. With more than one candidate without lag it
matters which of them are the last ones (`onlyReplicas_exact_iff`).
-/

namespace MockProxy.Hostgroups

open scoped List

namespace Servers

variable {env : Env} {r : Request} {s : Servers} {c : Candidates}

def isWriter (s : Servers) (id : SrvId) : Bool := (s.srv id).auroraCurrentLagUs = 0

/-- The decision to read only from replicas -/
def ReadsOnlyReplicas (env : Env) (r : Request) (s : Servers) (c : Candidates) : Prop :=
  0 < r.maxLagMs ∧ env.vars.auroraMaxLagMsOnlyReadFromReplicas ≠ 0 ∧
    env.vars.auroraMaxLagMsOnlyReadFromReplicas ≤ c.list.length ∧
    s.total MySrvC.auroraCurrentLagUs c.list ≠ 0

instance : Decidable (ReadsOnlyReplicas env r s c) := inferInstanceAs (Decidable (_ ∧ _))

theorem list_removeWriters (s : Servers) (fuel j : Nat) (c : Candidates) :
    (s.removeWriters fuel j c).list = PtrArray.removeSkipping s.isWriter fuel j c.list := by
  induction fuel generalizing j c with
  | zero => rfl
  | succ fuel ih =>
    unfold removeWriters PtrArray.removeSkipping
    cases c.list[j]? with
    | none => rfl
    | some id =>
      by_cases writer : (s.srv id).auroraCurrentLagUs = 0
      · simp only [isWriter, writer]
        exact ih _ _
      · simp only [isWriter, writer]
        exact ih _ _

theorem list_onlyReplicas (decided : s.ReadsOnlyReplicas env r c) :
    (s.onlyReplicas env r c).list = PtrArray.removeSkipping s.isWriter c.list.length 0 c.list := by
  have chosen : s.onlyReplicas env r c = s.removeWriters c.list.length 0 c := if_pos decided
  rw [chosen]
  exact s.list_removeWriters _ _ c

/-- When only replicas are read from, every candidate with a lag stays. All candidates without lag
are removed if and only if, where there are `n` of them, none is among the last `n - 1`
candidates. -/
theorem onlyReplicas_exact_iff (decided : s.ReadsOnlyReplicas env r c) :
    (s.onlyReplicas env r c).list.filter (fun id => !s.isWriter id) ~
        c.list.filter (fun id => !s.isWriter id) ∧
      ((s.onlyReplicas env r c).list ~ c.list.filter (fun id => !s.isWriter id) ↔
        ∀ id ∈ c.list.drop (c.list.length + 1 - c.list.countP s.isWriter),
          (s.srv id).auroraCurrentLagUs ≠ 0) := by
  rw [list_onlyReplicas decided]
  constructor
  · exact PtrArray.removeSkipping_filter_perm s.isWriter _ 0 c.list
  · have exactly := PtrArray.removeSkipping_perm_filter_iff s.isWriter c.list
    simpa [PtrArray.Sources, isWriter] using exactly

/-! ### Three servers of an Aurora cluster -/

/-- An online server of weight 1 with some lag -/
def auroraServer (lagUs : Nat) : MySrvC :=
  { shunnedFull.cleared with
    status := .online, connectionsUsed := [], auroraCurrentLagUs := lagUs }

def auroraCluster (lags : SrvId → Nat) : Servers where
  srv id := auroraServer (lags id)
  hids := [1]
  hostgroup _ := { MyHGC.create with mysrvs := [0, 1, 2] }

def writerFirst : SrvId → Nat
  | 0 => 0
  | _ => 5000

def noLagAtEnds : SrvId → Nat
  | 1 => 5000
  | _ => 0

def readRequest : Request := ⟨none, 0, 10⟩

theorem onlyReplicas_exact_writerFirst :
    ReadsOnlyReplicas defaultEnv readRequest (auroraCluster writerFirst) ⟨[0, 1, 2], 3⟩ ∧
    ((auroraCluster writerFirst).onlyReplicas defaultEnv readRequest ⟨[0, 1, 2], 3⟩).list ~
      [1, 2] := by
  have decided : ReadsOnlyReplicas defaultEnv readRequest (auroraCluster writerFirst)
      ⟨[0, 1, 2], 3⟩ := by
    decide
  exact ⟨decided, (onlyReplicas_exact_iff decided).2.mpr (by decide)⟩

/-- The last server is moved to the place of the first one and stays. It is what a request for
replicas may get. -/
theorem onlyReplicas_leaves_writer :
    ReadsOnlyReplicas defaultEnv readRequest (auroraCluster noLagAtEnds) ⟨[0, 1, 2], 3⟩ ∧
    ((auroraCluster noLagAtEnds).onlyReplicas defaultEnv readRequest ⟨[0, 1, 2], 3⟩).list = [2, 1] ∧
    ((auroraCluster noLagAtEnds).srv 2).auroraCurrentLagUs = 0 ∧
    ∃ s', getRandomMySrvC defaultEnv readRequest (auroraCluster noLagAtEnds) 1 0 =
      .ok (some 2, s') :=
  ⟨by decide, by decide, rfl, _, rfl⟩

end Servers

end MockProxy.Hostgroups
