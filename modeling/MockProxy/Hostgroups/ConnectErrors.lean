import MockProxy.Hostgroups.Status

/-!
# Connect errors of the same second

`connect_error` counts the errors of a server within one second and shuns the server when they are
too many. The first error of a second only starts the count and is not compared with the limit.
-/

namespace MockProxy.Hostgroups.MySrvC

/-- A sequence of connect errors, each with its time and its number. -/
def connectErrors (vars : MonitorVars) (v : MySrvC) (errors : List (Int × Int)) : MySrvC :=
  errors.foldl (fun v e => v.connectError e.1 vars e.2) v

def seconds (errors : List (Int × Int)) : List Int := errors.map Prod.fst

@[simp] theorem seconds_nil : seconds [] = [] := rfl

@[simp] theorem seconds_cons (e : Int × Int) (errors : List (Int × Int)) :
    seconds (e :: errors) = e.1 :: seconds errors := rfl

/-- Errors that the code counts: they do say something about the server, and the clock never goes
back behind the last error that was detected. -/
structure Counting (errors : List (Int × Int)) : Prop where
  counts : ∀ e ∈ errors, ignoredError e.2 = false
  ordered : (seconds errors).Pairwise (· ≤ ·)

variable {vars : MonitorVars} {v : MySrvC} {e : Int × Int} {errors : List (Int × Int)}

theorem maxFailures_eq (vars : MonitorVars) :
    vars.maxFailures = min vars.shunOnFailures (vars.connectRetriesOnFailure + 1) := by
  unfold MonitorVars.maxFailures
  dsimp only
  split <;> omega

theorem connectErrors_shunned (shunned : v.status = .shunned) (errors : List (Int × Int)) :
    (v.connectErrors vars errors).status = .shunned := by
  induction errors generalizing v with
  | nil => exact shunned
  | cons e rest ih =>
    have stays : (v.connectError e.1 vars e.2).status = .shunned := by
      unfold connectError
      split_ifs <;> simp [shunned]
    exact ih stays

section First

variable (counting : Counting (e :: errors))
include counting

theorem Counting.tail : Counting errors :=
  ⟨fun e member => counting.counts e (List.mem_cons_of_mem _ member), counting.ordered.tail⟩

theorem Counting.behind : ∀ t ∈ seconds errors, e.1 ≤ t :=
  fun _ => List.rel_of_pairwise_cons counting.ordered

theorem connectErrors_later (later : v.timeLastDetectedError < e.1) :
    v.connectErrors vars (e :: errors) = connectErrors vars
      { v with timeLastDetectedError := e.1, connectErrAtTimeLastDetectedError := 1 } errors := by
  have counts := counting.counts e List.mem_cons_self
  simp [connectErrors, connectError, counts, later]

theorem connectErrors_again (online : v.status = .online) (again : v.timeLastDetectedError = e.1)
    (fits : v.connectErrAtTimeLastDetectedError + 1 < 2 ^ 32) :
    v.connectErrors vars (e :: errors) =
      let counted :=
        { v with connectErrAtTimeLastDetectedError := v.connectErrAtTimeLastDetectedError + 1 }
      connectErrors vars (if vars.maxFailures ≤ v.connectErrAtTimeLastDetectedError + 1 then
        { counted with status := .shunned, shunnedAutomatic := true } else counted) errors := by
  have counts := counting.counts e List.mem_cons_self
  simp only [connectErrors, connectError, tooManyErrors, List.foldl_cons, Nat.mod_eq_of_lt fits]
  simp [counts, again, online]

end First

/-- With the errors of the last second counted so far, the server is shunned as soon as those of one
second reach the limit. -/
theorem connectErrors_shuns_counted (small : vars.maxFailures < 2 ^ 32)
    (many : 2 ≤ vars.maxFailures) (online : v.status = .online) (counting : Counting errors)
    (later : ∀ t ∈ seconds errors, v.timeLastDetectedError ≤ t)
    (few : v.connectErrAtTimeLastDetectedError < vars.maxFailures) :
    (v.connectErrors vars errors).status = .shunned ↔
      ∃ t, vars.maxFailures ≤ (seconds errors).count t +
        (if v.timeLastDetectedError = t then v.connectErrAtTimeLastDetectedError else 0) := by
  induction errors generalizing v with
  | nil =>
    refine iff_of_false (by simp [connectErrors, online]) ?_
    rintro ⟨t, reached⟩
    simp only [seconds_nil, List.count_nil] at reached
    split at reached <;> omega
  | cons e rest ih =>
    simp only [seconds_cons, List.count_cons, beq_iff_eq]
    rcases (later e.1 List.mem_cons_self).lt_or_eq with new | again
    · rw [connectErrors_later counting new]
      refine Iff.trans (ih online counting.tail counting.behind many) (exists_congr fun t => ?_)
      dsimp only
      by_cases old : v.timeLastDetectedError = t
      · -- the clock does not go back to the second before
        have none : (seconds rest).count t = 0 :=
          List.count_eq_zero.mpr fun member => absurd (counting.behind t member) (by omega)
        rw [if_pos old, if_neg (by omega)]
        omega
      · rw [if_neg old, Nat.add_zero]
    · rw [connectErrors_again counting online again (by omega)]
      split
      next reached =>
        refine iff_of_true (connectErrors_shunned rfl _) ⟨e.1, ?_⟩
        rw [if_pos rfl, if_pos again]
        omega
      next few =>
        refine Iff.trans (ih online counting.tail (again ▸ counting.behind) (Nat.lt_of_not_le few))
          (exists_congr fun t => ?_)
        dsimp only
        rw [← again]
        split <;> omega

/-- With a limit of at least two, a server is shunned at the error that makes the errors of one
second reach the limit, and not before. -/
theorem connectErrors_shuns (vars : MonitorVars) (int : vars.shunOnFailures < 2 ^ 31)
    (many : 2 ≤ min vars.shunOnFailures (vars.connectRetriesOnFailure + 1)) (v : MySrvC)
    (online : v.status = .online) (errors : List (Int × Int)) (counting : Counting errors)
    (later : ∀ t ∈ seconds errors, v.timeLastDetectedError < t) :
    (v.connectErrors vars errors).status = .shunned ↔
      ∃ t, min vars.shunOnFailures (vars.connectRetriesOnFailure + 1) ≤
        (seconds errors).count t := by
  have small : vars.maxFailures < 2 ^ 32 := by
    rw [maxFailures_eq]
    omega
  rw [← maxFailures_eq] at many ⊢
  cases errors with
  | nil =>
    refine iff_of_false (by simp [connectErrors, online]) ?_
    rintro ⟨t, reached⟩
    simp only [seconds_nil, List.count_nil] at reached
    omega
  | cons e rest =>
    rw [connectErrors_later counting (later e.1 List.mem_cons_self)]
    simp only [seconds_cons, List.count_cons, beq_iff_eq]
    exact connectErrors_shuns_counted small many online counting.tail counting.behind many

def newOnline : MySrvC := ServerRow.newServer ⟨1, .online, 1000, 0, 0⟩ 0 "db" 3306

theorem connectErrors_shuns_twice :
    (newOnline.connectErrors { MonitorVars.defaults with shunOnFailures := 2 }
      [(1, 2003), (7, 2002), (7, 2003)]).status = .shunned := by
  rw [connectErrors_shuns _ (by decide) (by decide) _ rfl _ ⟨by decide, by decide⟩ (by decide)]
  exact ⟨7, by decide⟩

/-- One error is to shun the server, and does not. -/
theorem first_error_not_compared :
    (newOnline.connectErrors { MonitorVars.defaults with shunOnFailures := 1 } [(1, 2003)]).status =
      .online := rfl

end MockProxy.Hostgroups.MySrvC
