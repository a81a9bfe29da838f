import MockProxy.Cluster.Node

/-!
# Checks of a peer

`ProxySQL_Node_Entry::set_checksums` takes in the result of one check of a peer: the rows of
`runtime_checksums_values`, or no result at all while the peer's global checksum does not change.
For each module `diff_check` counts how long the peer's checksum has differed from the local one,
and the module is pulled once the count reaches the configured number.
-/

namespace MockProxy.Cluster

/-- A row of `runtime_checksums_values` -/
structure Row where
  name : String
  version : Nat
  epoch : Nat
  checksum : String
  deriving DecidableEq

/-- `++` on an `unsigned int` -/
def increment (n : Nat) : Nat := (n + 1) % 2 ^ 32

variable (v : ChecksumValue2)

/-- What a row of its module does to a value. -/
def ChecksumValue2.setRow (now : Nat) (own : String) (row : Row) : ChecksumValue2 :=
  let reported := { v with version := row.version, epoch := row.epoch, lastUpdated := now }
  let counted :=
    if v.checksum ≠ row.checksum then
      { reported with checksum := row.checksum, lastChanged := now, diffCheck := 1 }
    else { reported with diffCheck := increment v.diffCheck }
  if counted.checksum = own then { counted with diffCheck := 0 } else counted

/-- What a check without a result does to a value. -/
def ChecksumValue2.setUnchanged (now : Nat) (own : String) : ChecksumValue2 :=
  let reset :=
    if v.checksum = own then { v with lastUpdated := now, diffCheck := 0 }
    else { v with lastUpdated := now }
  if reset.diffCheck ≠ 0 then { reset with diffCheck := increment reset.diffCheck } else reset

abbrev ChecksumsValues := Module → ChecksumValue2

/-- One check: the clock, the result, the local state and the configuration at the time. -/
structure Check where
  now : Nat
  -- `_r`
  result : Option (List Row)
  -- `GloMyLdapAuth` is set
  ldapAuth : Bool
  -- `GloVars.checksums_values`, under the mutex
  ownChecksum : Module → String
  -- version and epoch, read after the mutex is released
  ownVersion : Module → Nat
  ownEpoch : Module → Nat
  -- `cluster_*_diffs_before_sync`
  diffsBeforeSync : Module → Nat

variable (check : Check)

/-- The row is one of module `m`; rows of `ldap_variables` are for the plugin only. -/
def Check.concerns (m : Module) (row : Row) : Bool :=
  row.name = m.name ∧ (m = .ldapVariables → check.ldapAuth)

variable (values : ChecksumsValues)

/-- The loop over the rows, and what is done when there is no result. -/
def Check.setValues : ChecksumsValues :=
  match check.result with
  | some rows => rows.foldl (fun values row m =>
      if check.concerns m row then (values m).setRow check.now (check.ownChecksum m) row
      else values m) values
  | none => fun m => (values m).setUnchanged check.now (check.ownChecksum m)

/-- What is done about one module after the mutex is released. -/
structure Action where
  -- checksum and epoch handed to the `pull_*_from_peer` function
  pull : Option (String × Nat) := none
  -- `sync_conflict_*_share_epoch`
  conflict : Bool := false
  -- `sync_delayed_*_version_one`
  delayed : Bool := false
  deriving DecidableEq

/-- The decision about one module -/
def ChecksumValue2.decide (ownVersion ownEpoch diff : Nat) : Action :=
  if diff ≠ 0 then
    let repeated := v.diffCheck ≠ 0 ∧ v.diffCheck % (diff * 10 % 2 ^ 32) = 0
    if v.version > 1 then {
      pull := if (ownVersion = 1 ∨ v.epoch > ownEpoch) ∧ v.diffCheck ≥ diff then
        some (v.checksum, v.epoch) else none
      conflict := v.epoch = ownEpoch ∧ repeated
    }
    else { delayed := repeated }
  else {}

def Check.decide (m : Module) : Action :=
  (values m).decide (check.ownVersion m) (check.ownEpoch m) (check.diffsBeforeSync m)

/-- What `set_checksums` does about `admin_variables` and `mysql_query_rules` -/
structure Actions where
  adminVariables : Action
  mysqlQueryRules : Action
  deriving DecidableEq

def setChecksums : ChecksumsValues × Actions :=
  let values := check.setValues values
  (values, ⟨check.decide values .adminVariables, check.decide values .mysqlQueryRules⟩)

def valuesAfter : List Check → ChecksumsValues
  | [] => fun _ => {}
  | check :: earlier => (setChecksums check (valuesAfter earlier)).1

/-! ### The history of reports -/

/-- What one row, or one check without a result, says about a module, and the local checksum at the
time. -/
structure Report where
  row : Option Row
  ownChecksum : String
  deriving DecidableEq

/-- The reports of one check about a module, the latest first. -/
def Check.reports (m : Module) : List Report :=
  match check.result with
  | some rows =>
    ((rows.filter (check.concerns m)).map fun row => ⟨some row, check.ownChecksum m⟩).reverse
  | none => [⟨none, check.ownChecksum m⟩]

def history (m : Module) (checks : List Check) : List Report :=
  checks.flatMap fun check => check.reports m

def latestRow : List Report → Option Row
  | [] => none
  | report :: earlier => report.row.or (latestRow earlier)

variable (reports : List Report)

def peerChecksum : String := ((latestRow reports).map (·.checksum)).getD ""
def peerVersion : Nat := ((latestRow reports).map (·.version)).getD 0
def peerEpoch : Nat := ((latestRow reports).map (·.epoch)).getD 0

/-- In each of the last `n` reports the peer's checksum was `x` and differed from the local one. -/
def Differed (x : String) : Nat → List Report → Prop
  | 0, _ => True
  | _ + 1, [] => False
  | n + 1, report :: earlier =>
    peerChecksum (report :: earlier) = x ∧ report.ownChecksum ≠ x ∧ Differed x n earlier

variable {x : String} {n : Nat} {reports : List Report} {v : ChecksumValue2} {m : Module}
  {values : ChecksumsValues}

theorem Differed.mono {k : Nat} (differed : Differed x n reports) (le : k ≤ n) :
    Differed x k reports := by
  induction k generalizing n reports with
  | zero => trivial
  | succ k ih =>
    obtain ⟨n, rfl⟩ := Nat.exists_eq_add_of_lt le
    cases reports with
    | nil => exact differed.elim
    | cons report earlier => exact ⟨differed.1, differed.2.1, ih differed.2.2 (by omega)⟩

/-- One more report that differs; where the counter wraps around it only gets smaller. -/
theorem Differed.increment {report : Report} {earlier : List Report}
    (differed : Differed x n earlier) (same : peerChecksum (report :: earlier) = x)
    (differs : report.ownChecksum ≠ x) : Differed x (increment n) (report :: earlier) := by
  have longer : Differed x (n + 1) (report :: earlier) := ⟨same, differs, differed⟩
  exact longer.mono (Nat.mod_le _ _)

/-- A value holds the latest row, and its counter is justified by the reports. -/
structure Tracks (reports : List Report) (v : ChecksumValue2) : Prop where
  checksum : v.checksum = peerChecksum reports
  version : v.version = peerVersion reports
  epoch : v.epoch = peerEpoch reports
  differed : Differed v.checksum v.diffCheck reports

theorem tracks_nil : Tracks [] {} :=
  ⟨rfl, rfl, rfl, trivial⟩

theorem Tracks.setRow (tracks : Tracks reports v) (now : Nat) (own : String) (row : Row) :
    Tracks (⟨some row, own⟩ :: reports) (v.setRow now own row) := by
  simp only [ChecksumValue2.setRow]
  by_cases new : v.checksum = row.checksum
  · simp only [new, ne_eq, not_true_eq_false, if_false]
    by_cases matched : row.checksum = own
    · simp only [matched]
      exact ⟨matched.symm ▸ rfl, rfl, rfl, trivial⟩
    · simp only [matched]
      have differed := tracks.differed
      rw [new] at differed
      exact ⟨rfl, rfl, rfl, differed.increment rfl (Ne.symm matched)⟩
  · simp only [new, ne_eq, not_false_eq_true, if_true]
    by_cases matched : row.checksum = own
    · simp only [matched]
      exact ⟨matched.symm ▸ rfl, rfl, rfl, trivial⟩
    · simp only [matched]
      exact ⟨rfl, rfl, rfl, rfl, Ne.symm matched, trivial⟩

theorem Tracks.setUnchanged (tracks : Tracks reports v) (now : Nat) (own : String) :
    Tracks (⟨none, own⟩ :: reports) (v.setUnchanged now own) := by
  simp only [ChecksumValue2.setUnchanged]
  by_cases matched : v.checksum = own
  · simp only [matched]
    exact ⟨matched ▸ tracks.checksum, tracks.version, tracks.epoch, trivial⟩
  · simp only [matched, if_false]
    by_cases zero : v.diffCheck = 0
    · simp only [zero]
      exact { __ := tracks, differed := trivial }
    · simp only [zero, ne_eq]
      exact ⟨tracks.checksum, tracks.version, tracks.epoch,
        tracks.differed.increment tracks.checksum.symm (Ne.symm matched)⟩

theorem Tracks.foldl_rows (tracks : Tracks reports (values m)) (check : Check) (rows : List Row) :
    Tracks (((rows.filter (check.concerns m)).map fun row =>
        (⟨some row, check.ownChecksum m⟩ : Report)).reverse ++ reports)
      (rows.foldl (fun values row m =>
        if check.concerns m row then (values m).setRow check.now (check.ownChecksum m) row
        else values m) values m) := by
  induction rows generalizing reports values with
  | nil => exact tracks
  | cons row rows ih =>
    by_cases concerned : check.concerns m row
    · rw [List.filter_cons_of_pos concerned, List.map_cons, List.reverse_cons, List.append_assoc]
      apply ih
      simp only [concerned]
      exact tracks.setRow _ _ _
    · rw [List.filter_cons_of_neg concerned]
      apply ih
      simp only [concerned]
      exact tracks

theorem Tracks.setValues (tracks : Tracks reports (values m)) (check : Check) :
    Tracks (check.reports m ++ reports) (check.setValues values m) := by
  unfold Check.reports Check.setValues
  cases check.result with
  | some rows => exact tracks.foldl_rows check rows
  | none => exact tracks.setUnchanged _ _

theorem tracks_valuesAfter (m : Module) (checks : List Check) :
    Tracks (history m checks) (valuesAfter checks m) := by
  induction checks with
  | nil => exact tracks_nil
  | cons check earlier ih => exact ih.setValues check

/-! ### When a module is pulled -/

def Check.ReportsOnce (check : Check) (m : Module) : Prop := (check.reports m).length = 1

theorem Check.ReportsOnce.reports_eq {check : Check} (once : check.ReportsOnce m) :
    ∃ row, check.reports m = [⟨row, check.ownChecksum m⟩] := by
  obtain ⟨report, only⟩ := List.length_eq_one_iff.mp once
  refine ⟨report.row, ?_⟩
  have member : report ∈ check.reports m := by simp [only]
  unfold Check.reports at member
  cases found : check.result with
  | some rows =>
    simp only [found, List.mem_reverse, List.mem_map] at member
    obtain ⟨row, -, same⟩ := member
    rw [only, ← same]
  | none =>
    simp only [found, List.mem_singleton] at member
    rw [only, member]

/-- In each of the last `n` checks the peer's checksum was `x` and differed from the local one. -/
def DifferedInChecks (m : Module) (x : String) (n : Nat) (checks : List Check) : Prop :=
  ∀ i < n, ∃ check earlier, checks.drop i = check :: earlier ∧
    peerChecksum (history m (check :: earlier)) = x ∧ check.ownChecksum m ≠ x

/-- When each of the last checks reports once about the module, the last reports are theirs. -/
theorem Differed.inChecks {checks : List Check} (differed : Differed x n (history m checks))
    (once : ∀ check ∈ checks.take n, check.ReportsOnce m) : DifferedInChecks m x n checks := by
  induction checks generalizing n with
  | nil =>
    cases n with
    | zero => exact fun i less => absurd less (Nat.not_lt_zero i)
    | succ n => exact differed.elim
  | cons check earlier ih =>
    cases n with
    | zero => exact fun i less => absurd less (Nat.not_lt_zero i)
    | succ n =>
      rw [List.take_succ_cons, List.forall_mem_cons] at once
      obtain ⟨row, only⟩ := once.1.reports_eq
      have reports : history m (check :: earlier) =
          ⟨row, check.ownChecksum m⟩ :: history m earlier := by
        simp [history, only]
      rw [reports] at differed
      intro i less
      cases i with
      | zero => exact ⟨check, earlier, rfl, reports ▸ differed.1, differed.2.1⟩
      | succ i => exact ih differed.2.2 once.2 i (Nat.lt_of_succ_lt_succ less)

/-- A pull of module `m` with checksum `x` at the latest of the checks is justified. -/
structure Justified (m : Module) (check : Check) (earlier : List Check) (x : String) : Prop where
  current : x = peerChecksum (history m (check :: earlier))
  version : 1 < peerVersion (history m (check :: earlier))
  newer : check.ownVersion m = 1 ∨ check.ownEpoch m < peerEpoch (history m (check :: earlier))
  -- pulling is not switched off
  enabled : 0 < check.diffsBeforeSync m
  differed : Differed x (check.diffsBeforeSync m) (history m (check :: earlier))
  differedInChecks : (∀ c ∈ (check :: earlier).take (check.diffsBeforeSync m), c.ReportsOnce m) →
    DifferedInChecks m x (check.diffsBeforeSync m) (check :: earlier)

theorem decide_pull {ownVersion ownEpoch diff : Nat} {epoch : Nat}
    (pulled : (v.decide ownVersion ownEpoch diff).pull = some (x, epoch)) :
    0 < diff ∧ 1 < v.version ∧ (ownVersion = 1 ∨ ownEpoch < v.epoch) ∧ diff ≤ v.diffCheck ∧
      x = v.checksum := by
  unfold ChecksumValue2.decide at pulled
  by_cases enabled : diff = 0
  · simp [enabled] at pulled
  · by_cases version : v.version > 1
    · simp only [ne_eq, enabled, not_false_eq_true, if_true, version, Option.ite_none_right_eq_some,
        Option.some.injEq, Prod.mk.injEq] at pulled
      exact ⟨Nat.pos_of_ne_zero enabled, version, pulled.1.1, pulled.1.2, pulled.2.1.symm⟩
    · simp [enabled, version] at pulled

theorem justified_of_pull {check : Check} {earlier : List Check} {epoch : Nat}
    (pulled : (check.decide (valuesAfter (check :: earlier)) m).pull = some (x, epoch)) :
    Justified m check earlier x := by
  have tracks := tracks_valuesAfter m (check :: earlier)
  obtain ⟨enabled, version, newer, reached, same⟩ := decide_pull pulled
  have differed : Differed x (check.diffsBeforeSync m) (history m (check :: earlier)) :=
    same ▸ tracks.differed.mono reached
  exact ⟨same.trans tracks.checksum, tracks.version ▸ version, tracks.epoch ▸ newer, enabled,
    differed, differed.inChecks⟩

/-- After any sequence of checks, `set_checksums` pulls the query rules or the admin variables only
if the peer's version is above 1, its epoch is newer or this instance has just booted, and the
peer's checksum was the same and differed from the local one in as many of the last reports as
configured. A report is a row of the module or a check without a result; where each of the last
results has one row of the module these are the last checks. -/
theorem setChecksums_pull_justified (check : Check) (earlier : List Check) :
    (∀ x epoch, (setChecksums check (valuesAfter earlier)).2.adminVariables.pull = some (x, epoch) →
      Justified .adminVariables check earlier x) ∧
    (∀ x epoch, (setChecksums check (valuesAfter earlier)).2.mysqlQueryRules.pull =
      some (x, epoch) →
      Justified .mysqlQueryRules check earlier x) :=
  ⟨fun _ _ => justified_of_pull, fun _ _ => justified_of_pull⟩

/-- A check of a peer that reports `checksum` for the query rules, with the local checksum `own`. -/
def Check.queryRules (checksum : Option String) (own : String) : Check where
  now := 100
  result := checksum.map fun checksum => [⟨"mysql_query_rules", 2, 50, checksum⟩]
  ldapAuth := false
  ownChecksum _ := own
  ownVersion _ := 7
  ownEpoch _ := 40
  diffsBeforeSync _ := 3

/-- The third check in a row that finds a difference starts the pull, also when the last two have no
result. -/
theorem setChecksums_pull_third :
    (setChecksums (.queryRules none "0xA") (valuesAfter [.queryRules none "0xA",
      .queryRules (some "0xB") "0xA"])).2.mysqlQueryRules.pull = some ("0xB", 50) ∧
    Justified .mysqlQueryRules (.queryRules none "0xA")
      [.queryRules none "0xA", .queryRules (some "0xB") "0xA"] "0xB" := by
  have pulled : (setChecksums (.queryRules none "0xA") (valuesAfter [.queryRules none "0xA",
      .queryRules (some "0xB") "0xA"])).2.mysqlQueryRules.pull = some ("0xB", 50) := by decide
  exact ⟨pulled, (setChecksums_pull_justified _ _).2 _ _ pulled⟩

end MockProxy.Cluster
