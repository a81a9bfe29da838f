import MockProxy.LionRouter.Safety
import MockProxy.LionRouter.YcsbKeys
import MockProxy.QueryProcessor.Rules

/-!
# Routing by LionRouter

Without a fast routing table the query processor asks LionRouter for the keys of the query and for
the hostgroup of the keys, and catches what the two throw. The routing step takes them as
parameters; here it is run with the model of the router. A remainder by 0 is not an exception, so
the routing is safe once a response has reported a store.
-/

namespace MockProxy.LionRouter

open QueryProcessor (Tables Env route)

/-- The two calls of the routing step, on the snapshot that is current. -/
def Lion.calls (s : Lion) (t : Lion.Tidbs) (random : Nat) : QueryProcessor.LionRouter where
  parseYcsbKey text := (parseYcsbKey text.toList).toOption
  evaluateHost keys :=
    ((evaluateHost (s.deployment t) keys random).alone s.router.current.answer).toOption.map
      Routed.hostgroupId

variable {J : Type} (lib : StoresLib J) {updates : List Update} {s : Lion}

variable (ran : updates.foldlM (Lion.step lib) Lion.start = .ok s)
    (reported : writtenBy lib updates ≠ []) (t : Lion.Tidbs)

include ran reported t

/-- After updates that have reported a store, what `EvaluateHost` does not return it throws. -/
theorem alone_evaluateHost_cases {keys : List Int}
    (few : (10 : Int) * keys.length < 2 ^ 31) (random : Nat) :
    (∃ routed, (evaluateHost (s.deployment t) keys random).alone
      s.router.current.answer = .ok routed ∧
      routed.bestStoreId ∈ (writtenBy lib updates).map Prod.fst ∧
      (s.deployment t).hostgroup routed.bestStoreId = .ok routed.hostgroupId) ∨
    ∃ what, (evaluateHost (s.deployment t) keys random).alone s.router.current.answer =
      .error (.exception what) := by
  have stores := mem_storeIds_iff lib ran t
  have some : (s.deployment t).storeIds ≠ [] := by
    intro none
    obtain ⟨entry, rest, list⟩ := List.exists_cons_of_ne_nil reported
    have member := (stores entry.1).mpr (List.mem_map_of_mem (list ▸ List.mem_cons_self))
    rw [none] at member
    cases member
  have ends := ends_evaluateHost (d := s.deployment t) rfl few random some
  rw [← Inquiry.Prog.along_const _ 0]
  cases ended : ((evaluateHost (s.deployment t) keys random).along
      (fun _ => s.router.current.answer) 0).1 with
  | ok routed =>
    obtain ⟨known, found⟩ := ends.along_ok ended
    exact .inl ⟨routed, rfl, (stores _).mp known, found⟩
  | error fault =>
    obtain ⟨what, rfl⟩ := ends.along_error ended
    exact .inr ⟨what, rfl⟩

/-- A query that no fast routing table is there for goes to the hostgroup of a store that some
response has reported, or LionRouter leaves its destination alone. -/
theorem route_lion (random : Nat) {tables : Tables}
    (noTable : tables.threadLocal = none ∧ tables.shared = none)
    (lion : tables.lion = s.calls t random) (env : Env) (flagIN : Int)
    (few : ∀ keys, parseYcsbKey env.query.text.toList = .ok keys →
      (10 : Int) * keys.length < 2 ^ 31) :
    route tables env flagIN = -1 ∨ ∃ storeId ∈ (writtenBy lib updates).map Prod.fst,
      (s.deployment t).hostgroup storeId = .ok (route tables env flagIN) := by
  unfold route
  rw [noTable.1, noTable.2, lion]
  simp only [Lion.calls]
  cases parsed : parseYcsbKey env.query.text.toList with
  | error fault => exact .inl rfl
  | ok keys =>
    cases keys with
    | nil => exact .inl rfl
    | cons key keys =>
      simp only [Except.toOption]
      rcases alone_evaluateHost_cases lib ran reported t (few _ parsed) random with
        ⟨routed, ended, known, found⟩ | ⟨what, ended⟩
      · rw [ended]
        exact .inr ⟨routed.bestStoreId, known, found⟩
      · rw [ended]
        exact .inl rfl

end MockProxy.LionRouter
