import Mathlib.Data.Set.Card

/-!
# Machines whose steps may fault

A step function takes a state and an input to the next state, or faults. `Run step ok start s` says
that `s` is reached from `start` by steps that all meet `ok`; with `ok` always true these are all
the reachable states. `Run.invariant` is the induction every safety result goes through.
-/

namespace Machine

@[simp] theorem ok_bind {ε α β : Type} (a : α) (next : α → Except ε β) :
    (.ok a >>= next) = next a := rfl

@[simp] theorem error_bind {ε α β : Type} (e : ε) (next : α → Except ε β) :
    (.error e >>= next) = .error e := rfl

@[simp] theorem pure_eq_ok {ε α : Type} (a : α) : (pure a : Except ε α) = .ok a := rfl

theorem bind_eq_ok {ε α β : Type} {first : Except ε α} {next : α → Except ε β} {b : β} :
    (first >>= next) = .ok b ↔ ∃ a, first = .ok a ∧ next a = .ok b := by
  cases first with
  | error e => simp
  | ok a => simp

theorem bind_eq_error {ε α β : Type} {first : Except ε α} {next : α → Except ε β} {e : ε} :
    (first >>= next) = .error e ↔ first = .error e ∨ ∃ a, first = .ok a ∧ next a = .error e := by
  cases first with
  | error f => simp [bind, Except.bind]
  | ok a => simp [bind, Except.bind]

theorem return_eq_ok {ε α β : Type} {first : Except ε α} {g : α → β} {b : β} :
    (first >>= fun a => .ok (g a)) = .ok b ↔ ∃ a, first = .ok a ∧ g a = b := by
  simp [bind_eq_ok]

theorem ite_eq_ok {ε α : Type} {p : Prop} [Decidable p] {e : Except ε α} {f : ε} {a : α} :
    (if p then e else .error f) = .ok a ↔ p ∧ e = .ok a := by
  split <;> simp_all

theorem map_eq_ok {ε α β : Type} {e : Except ε α} {f : α → β} {b : β} :
    e.map f = .ok b ↔ ∃ a, e = .ok a ∧ f a = b := by
  cases e with
  | error e => simp [Except.map]
  | ok a => simp [Except.map]

theorem map_bind {ε α β γ : Type} {e : Except ε α} {next : α → Except ε β} {f : β → γ} :
    (e >>= next).map f = e >>= fun a => (next a).map f := by
  cases e with
  | error e => rfl
  | ok a => rfl

theorem foldlM_congr {ε σ ι : Type} {f g : σ → ι → Except ε σ} {inputs : List ι}
    (same : ∀ s, ∀ i ∈ inputs, f s i = g s i) (s : σ) : inputs.foldlM f s = inputs.foldlM g s := by
  induction inputs generalizing s with
  | nil => rfl
  | cons i rest ih =>
    rw [List.foldlM_cons, same s i List.mem_cons_self]
    congr 1
    funext next
    exact ih (fun s j member => same s j (List.mem_cons_of_mem _ member)) next

def FailsOnly {ε α : Type} (allowed : ε → Prop) (e : Except ε α) : Prop :=
  ∀ f, e = .error f → allowed f

section FailsOnly

variable {ε α β : Type} {allowed : ε → Prop}

@[simp] theorem failsOnly_ok (a : α) : FailsOnly allowed (.ok a : Except ε α) := by
  intro f failed
  cases failed

@[simp] theorem failsOnly_error (f : ε) :
    FailsOnly allowed (.error f : Except ε α) ↔ allowed f := by
  constructor
  · intro only
    exact only f rfl
  · intro holds g same
    cases same
    exact holds

theorem failsOnly_bind {first : Except ε α} {next : α → Except ε β} :
    FailsOnly allowed (first >>= next) ↔
      FailsOnly allowed first ∧ ∀ a, first = .ok a → FailsOnly allowed (next a) := by
  cases first with
  | error f => simp
  | ok a => simp

theorem FailsOnly.returns {e : Except ε α} (only : FailsOnly allowed e)
    (never : FailsOnly (fun f => ¬ allowed f) e) : ∃ a, e = .ok a := by
  cases e with
  | ok a => exact ⟨a, rfl⟩
  | error f => exact absurd (only f rfl) (never f rfl)

end FailsOnly

variable {σ ι ε : Type}

/-- The states reached from `start` by steps that all meet `ok`. -/
inductive Run (step : σ → ι → Except ε σ) (ok : σ → ι → Prop) (start : σ) : σ → Prop where
  | start : Run step ok start start
  | step {s s' : σ} {i : ι} : Run step ok start s → ok s i → step s i = .ok s' →
      Run step ok start s'

variable {step : σ → ι → Except ε σ} {ok : σ → ι → Prop} {start s : σ}

/-- What holds at the start and is kept by every step that meets `ok` holds in every state. -/
theorem Run.invariant (run : Run step ok start s) (Inv : σ → Prop) (first : Inv start)
    (keeps : ∀ s i s', Inv s → ok s i → step s i = .ok s' → Inv s') : Inv s := by
  induction run with
  | start => exact first
  | step _ meets stepped ih => exact keeps _ _ _ ih meets stepped

/-- When every step that meets `ok` is possible and keeps `Inv`, no run gets stuck. -/
theorem Run.goes_on (run : Run step ok start s) (Inv : σ → Prop) (first : Inv start)
    (next : ∀ {s i}, Inv s → ok s i → ∃ s', step s i = .ok s' ∧ Inv s') :
    Inv s ∧ ∀ i, ok s i → ∃ s', step s i = .ok s' := by
  have inv : Inv s := by
    refine run.invariant Inv first fun s i s' inv meets stepped => ?_
    obtain ⟨s'', stepped', inv'⟩ := next inv meets
    obtain rfl : s'' = s' := Except.ok.inj (stepped'.symm.trans stepped)
    exact inv'
  refine ⟨inv, fun i meets => ?_⟩
  obtain ⟨s', stepped, -⟩ := next inv meets
  exact ⟨s', stepped⟩

theorem foldlM_invariant {inputs : List ι} (ran : inputs.foldlM step start = .ok s) (Inv : σ → Prop)
    (first : Inv start)
    (keeps : ∀ i ∈ inputs, ∀ s s', Inv s → step s i = .ok s' → Inv s') : Inv s := by
  induction inputs generalizing start with
  | nil =>
    cases ran
    exact first
  | cons i inputs ih =>
    obtain ⟨next, stepped, ran⟩ := bind_eq_ok.mp ran
    obtain ⟨here, later⟩ := List.forall_mem_cons.mp keeps
    exact ih ran (here _ _ first stepped) later

/-- A list of inputs that runs through gives a run, if each input may be given in every state. -/
theorem run_of_foldlM_of {inputs : List ι} {start s : σ} (meets : ∀ i ∈ inputs, ∀ s, ok s i)
    (ran : inputs.foldlM step start = .ok s) : Run step ok start s :=
  foldlM_invariant ran _ .start fun i mem s _ run stepped => .step run (meets i mem s) stepped

theorem run_of_foldlM {inputs : List ι} {start s : σ} (ran : inputs.foldlM step start = .ok s) :
    Run step (fun _ _ => True) start s :=
  run_of_foldlM_of (fun _ _ _ => trivial) ran

end Machine
