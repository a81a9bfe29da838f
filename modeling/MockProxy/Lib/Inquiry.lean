import Mathlib.Data.Set.Card

/-!
# Programs that ask a changing environment

A program asks questions one by one and goes on with each answer. `alone answers p` is its outcome
when all questions are answered from one fixed state of the environment. If the environment changes
between two questions, the outcome is still one of a program that runs alone as long as the answers
to the questions it can ask stay the same. `Ends good bad` speaks about the outcome whatever the
answers are.
-/

namespace Inquiry

/-- A program with questions `Q`, where `A q` are the possible answers to `q`. -/
inductive Prog (Q : Type) (A : Q → Type) (ε R : Type) : Type
  | done (r : R)
  | fail (e : ε)
  | ask (q : Q) (next : A q → Prog Q A ε R)

variable {Q : Type} {A : Q → Type} {ε R S : Type}

namespace Prog

def bind : Prog Q A ε R → (R → Prog Q A ε S) → Prog Q A ε S
  | done r, f => f r
  | fail e, _ => fail e
  | ask q next, f => ask q fun a => (next a).bind f

instance : Monad (Prog Q A ε) where
  pure := done
  bind := bind

def alone (answers : ∀ q, A q) : Prog Q A ε R → Except ε R
  | done r => .ok r
  | fail e => .error e
  | ask q next => (next (answers q)).alone answers

theorem alone_bind (answers : ∀ q, A q) (p : Prog Q A ε R) (f : R → Prog Q A ε S) :
    (p >>= f).alone answers = p.alone answers >>= fun r => (f r).alone answers := by
  induction p with
  | done r => rfl
  | fail e => rfl
  | ask q next ih => exact ih (answers q)

def step (answers : ∀ q, A q) : Prog Q A ε R → Prog Q A ε R
  | done r => done r
  | fail e => fail e
  | ask q next => next (answers q)

@[simp] theorem alone_step (answers : ∀ q, A q) (p : Prog Q A ε R) :
    (p.step answers).alone answers = p.alone answers := by
  cases p <;> rfl

/-- The program asks only questions in `qs`, whatever the answers are. -/
def Asks (qs : Set Q) : Prog Q A ε R → Prop
  | done _ => True
  | fail _ => True
  | ask q next => q ∈ qs ∧ ∀ a, (next a).Asks qs

variable {qs : Set Q} {p : Prog Q A ε R}

theorem Asks.step (asks : p.Asks qs) (answers : ∀ q, A q) : (p.step answers).Asks qs := by
  cases p with
  | done r => exact asks
  | fail e => exact asks
  | ask q next => exact asks.2 _

theorem Asks.bind {f : R → Prog Q A ε S} (asks : p.Asks qs) (after : ∀ r, (f r).Asks qs) :
    (p >>= f).Asks qs := by
  induction p with
  | done r => exact after r
  | fail e => exact asks
  | ask q next ih => exact ⟨asks.1, fun a => ih a (asks.2 a)⟩

theorem asks_foldlM {α : Type} {f : R → α → Prog Q A ε R} {l : List α} {r : R}
    (rounds : ∀ x ∈ l, ∀ r, (f r x).Asks qs) : (l.foldlM f r).Asks qs := by
  induction l generalizing r with
  | nil => trivial
  | cons x l ih =>
    rw [List.forall_mem_cons] at rounds
    exact (rounds.1 r).bind fun r => ih rounds.2

/-- Two states with the same answers to the questions a program can ask have the same outcome. -/
theorem Asks.alone_congr (asks : p.Asks qs) {answers answers' : ∀ q, A q}
    (agree : ∀ q ∈ qs, answers q = answers' q) : p.alone answers = p.alone answers' := by
  induction p with
  | done r => rfl
  | fail e => rfl
  | ask q next ih =>
    simp only [alone, agree q asks.1]
    exact ih _ (asks.2 _)

/-! ### Whatever the answers are -/

/-- The outcome when the `n`-th question and those behind it are answered from states of their own,
and the number of the next question -/
def along (answers : Nat → ∀ q, A q) : Nat → Prog Q A ε R → Except ε R × Nat
  | n, done r => (.ok r, n)
  | n, fail e => (.error e, n)
  | n, ask q next => (next (answers n q)).along answers (n + 1)

theorem along_const (answers : ∀ q, A q) (n : Nat) (p : Prog Q A ε R) :
    (p.along (fun _ => answers) n).1 = p.alone answers := by
  induction p generalizing n with
  | done r => rfl
  | fail e => rfl
  | ask q next ih => exact ih _ (n + 1)

theorem along_bind (answers : Nat → ∀ q, A q) (n : Nat) (p : Prog Q A ε R)
    (f : R → Prog Q A ε S) : (p >>= f).along answers n =
      match p.along answers n with
      | (.ok r, k) => (f r).along answers k
      | (.error e, k) => (.error e, k) := by
  induction p generalizing n with
  | done r => rfl
  | fail e => rfl
  | ask q next ih => exact ih _ (n + 1)

/-- Whatever the answers are, the program returns a good value or fails for a reason in `bad`. -/
def Ends (good : R → Prop) (bad : ε → Prop) : Prog Q A ε R → Prop
  | done r => good r
  | fail e => bad e
  | ask _ next => ∀ a, (next a).Ends good bad

section Ends

variable {good : R → Prop} {good' : S → Prop} {bad : ε → Prop} {p : Prog Q A ε R}
  {answers : Nat → ∀ q, A q} {n : Nat}

theorem Ends.bind {f : R → Prog Q A ε S} (ends : p.Ends good bad)
    (after : ∀ r, good r → (f r).Ends good' bad) : (p >>= f).Ends good' bad := by
  induction p with
  | done r => exact after r ends
  | fail e => exact ends
  | ask q next ih => exact fun a => ih a (ends a)

theorem Ends.mono (ends : p.Ends good bad) {good' : R → Prop} {bad' : ε → Prop}
    (returned : ∀ r, good r → good' r) (failed : ∀ e, bad e → bad' e) : p.Ends good' bad' := by
  induction p with
  | done r => exact returned r ends
  | fail e => exact failed e ends
  | ask q next ih => exact fun a => ih a (ends a)

theorem ends_foldlM {α : Type} {f : R → α → Prog Q A ε R} {l : List α} {r : R} (first : good r)
    (rounds : ∀ x ∈ l, ∀ r, good r → (f r x).Ends good bad) : (l.foldlM f r).Ends good bad := by
  induction l generalizing r with
  | nil => exact first
  | cons x l ih =>
    rw [List.forall_mem_cons] at rounds
    exact (rounds.1 r first).bind fun r kept => ih kept rounds.2

theorem Ends.along_ok (ends : p.Ends good bad) {r : R} (returned : (p.along answers n).1 = .ok r) :
    good r := by
  induction p generalizing n with
  | done r =>
    cases returned
    exact ends
  | fail e => cases returned
  | ask q next ih => exact ih _ (ends _) returned

theorem Ends.along_error (ends : p.Ends good bad) {e : ε}
    (failed : (p.along answers n).1 = .error e) : bad e := by
  induction p generalizing n with
  | done r => cases failed
  | fail e =>
    cases failed
    exact ends
  | ask q next ih => exact ih _ (ends _) failed

end Ends

end Prog

end Inquiry
