import MockProxy.Tokenizer.CompressionBounds

/-!
# The digest ends, inside of its buffer, and does not show what the buffer held

The loop over the four stages ends, since every pass that is followed by another one consumes a
part of the query. With limits that fit, or where no group follows another one directly, nothing is
written outside of the result buffer; without line comments, nothing of what the buffer
held before is read.
-/

namespace MockProxy.Tokenizer

open Scratch Prog

variable {x : Call} {d : DigestSt} {known : Set Int} {cells : Int → Byte}

theorem safe_compressionStages {pos : Nat} (staged : Staged x pos d known cells) :
    (compressionStages x d).Safe x.dMaxLen known cells fun d' known' _ =>
      StageInv x d' known' ∧ d'.shared.qCurPos = pos := by
  simp only [compressionStages, safe_bind]
  refine (safe_stage2Parsing staged).imp ?_
  intro d₂ known₂ cells₂ staged₂
  refine (safe_stage3Parsing staged₂).imp ?_
  intro d₃ known₃ cells₃ staged₃
  refine (safe_stage4Parsing staged₃).imp ?_
  rintro d₄ known₄ cells₄ ⟨inv₄, pos₄, -⟩
  exact ⟨⟨inv₄.cur, inv₄.written, inv₄.keep, inv₄.number, inv₄.careful.mono (fun _ => id) le_rfl,
    inv₄.sparse⟩, pos₄⟩

theorem safe_allStages (inv : PassInv x d known) :
    (allStages x d).Safe x.dMaxLen known cells fun d' known' _ =>
      StageInv x d' known' ∧ (d.shared.resCurPos < x.dMaxLen ∧ d.shared.qCurPos < x.qLen →
        d.shared.qCurPos < d'.shared.qCurPos) := by
  simp only [allStages, safe_bind]
  refine (safe_stage1Parsing inv).imp ?_
  rintro d₁ known₁ cells₁ ⟨inv₁, scattered, consumes⟩
  refine (safe_compressionStages ⟨inv₁, rfl, scattered⟩).imp ?_
  rintro d₂ known₂ cells₂ ⟨inv₂, pos⟩
  exact ⟨inv₂, fun entered => pos ▸ consumes entered⟩

def CanGoOn (x : Call) (d : DigestSt) : Prop :=
  0 < x.dMaxLen → 0 < x.qLen → d.shared.resCurPos < x.dMaxLen ∧ d.shared.qCurPos < x.qLen

theorem safe_digestRound (inv : PassInv x d known) (room : CanGoOn x d) :
    (digestRound x d).Safe x.dMaxLen known cells (Next.Either
      (fun d' known' _ => (PassInv x d' known' ∧ CanGoOn x d') ∧
        x.qLen - d'.shared.qCurPos < x.qLen - d.shared.qCurPos)
      fun d' known' _ => StageInv x d' known') := by
  simp only [digestRound]
  rw [safe_bind]
  refine (safe_allStages inv).imp ?_
  rintro d' known' cells' ⟨inv', consumes⟩
  split
  · exact inv'
  next going =>
    simp only [not_or, not_le] at going
    obtain ⟨left, space, -⟩ := going
    have nonneg := inv'.cur.1
    have later := consumes (room (by omega) (by omega))
    refine ⟨⟨⟨inv'.cur, rfl, rfl, ?_, inv'.keep, inv'.number,
      inv'.careful.mono (fun _ => id) le_rfl, .inl (inv'.sparse.resolve_right (by omega))⟩,
      fun _ _ => ⟨space, left⟩⟩, ?_⟩
    · exact fun i low high => inv'.written i low (by dsimp only at high; omega)
    · dsimp only
      omega

section FinalStage

variable {s : SharedSt} {textEnd : Int} {fuel : Nat}

theorem safe_trimEnd {i : Int} (room : textEnd ≤ x.dMaxLen) (readable : Readable textEnd known)
    (low : -1 ≤ i) (high : i ≤ textEnd) (enough : i < fuel) (some : 0 < fuel) :
    (trimEnd fuel i).Safe x.dMaxLen known cells fun p known' cells' =>
      known' = known ∧ cells' = cells ∧ 0 ≤ p ∧ p ≤ i + 1 := by
  induction fuel generalizing i with
  | zero => omega
  | succ fuel ih =>
    simp only [trimEnd, safe_bind, safe_andThen, decide_eq_true_eq, safe_get, safe_pure]
    refine ⟨fun later => ⟨by omega, readable _ (by omega) (by omega), ?_⟩, fun _ => ?_⟩
    · split
      · refine (ih (by omega) (by omega) (by omega)
          (by omega)).imp ?_
        rintro p known' cells' ⟨same, same', low, high⟩
        exact ⟨same, same', low, by omega⟩
      · exact ⟨rfl, rfl, by omega, le_rfl⟩
    · simp
      omega

theorem safe_trimDigits (inv : StageInv x d known) :
    (trimDigits x d.shared d.stage1).Safe x.dMaxLen known cells fun _ _ _ => True := by
  have full := inv.cur.2
  unfold trimDigits
  split
  · trivial
  next start started =>
    have number : d.shared.st = .literalNumber := by
      by_contra outside
      rw [(inv.number.outside outside).1] at started
      cases started
    obtain ⟨⟨start', started', nonneg, before⟩, -⟩ := inv.number.inside number
    rw [started'] at started
    obtain rfl : start' = start := by simpa using started
    simp only [safe_bind, safe_andThen, safe_get, safe_pure]
    refine ⟨fun _ => ⟨by omega, inv.written _ nonneg (by omega), ?_⟩, fun _ => by simp⟩
    split
    · exact ⟨by omega, by omega, trivial⟩
    · trivial

theorem safe_finalStage (inv : StageInv x d known) :
    (finalStage x d.shared d.stage1).Safe x.dMaxLen known cells fun _ known' cells' =>
      ∃ p, 0 ≤ p ∧ p ≤ d.shared.resCurPos ∧ cells' p = nul ∧
        Readable d.shared.resCurPos known' := by
  have cur := inv.cur
  have enough := x.dMaxLen_lt_fuel
  simp only [finalStage, safe_bind]
  refine (safe_trimDigits inv).grows.imp ?_
  rintro _ known₁ cells₁ ⟨more₁, _⟩
  refine (safe_trimEnd inv.cur.2 (inv.mono more₁).written (by omega) (by omega)
    (by omega) (by omega)).imp ?_
  rintro p known₂ cells₂ ⟨same, _, low, high⟩
  refine safe_set.mpr ⟨by omega, p, low, by omega, put_same _ _ _, ?_⟩
  rw [same]
  exact Readable.mono (inv.mono more₁).written (Set.subset_insert _ _)

theorem safe_cString {p i : Int} (room : textEnd ≤ x.dMaxLen) (readable : Readable textEnd known)
    (low : 0 ≤ i) (high : i ≤ p) (within : p ≤ textEnd) (terminated : cells p = nul)
    (enough : p - i < fuel) : (cString fuel i).Safe x.dMaxLen known cells fun _ _ _ => True := by
  induction fuel generalizing i with
  | zero => omega
  | succ fuel ih =>
    simp only [cString, safe_bind]
    refine safe_get.mpr ⟨by omega, readable _ low (by omega), ?_⟩
    split
    · trivial
    next visible =>
      rw [safe_bind]
      refine (ih (by omega) ?_ (by omega)).imp fun _ _ _ _ => trivial
      by_contra past
      obtain rfl : i = p := by omega
      exact visible (by simp [terminated])

end FinalStage

section

variable (careful : Covered x known ∨ LineFree x) (sparse : FitLimits x ∨ GroupsApart x)

include careful sparse

theorem passInv_start : PassInv x {} known where
  cur := ⟨le_rfl, x.nonneg⟩
  init := rfl
  pre := rfl
  written := fun i low high => absurd high (by dsimp only; omega)
  keep := rfl
  number := ⟨by simp, fun _ => ⟨rfl, rfl⟩⟩
  careful := careful.imp_right fun free =>
    ⟨⟨⟨_, free⟩, by simp, fun _ => rfl, fun _ => rfl, by simp, by simp, .inl rfl⟩, .inl rfl⟩
  sparse := sparse.imp_right fun apart => ⟨apart, rfl, rfl, rfl⟩

theorem safe_digestLoop :
    (repeated (digestRound x) x.fuel {}).Safe x.dMaxLen known cells
      fun d' known' _ => StageInv x d' known' := by
  refine safe_repeated (fun d known' _ => PassInv x d known' ∧ CanGoOn x d)
    (fun d => x.qLen - d.shared.qCurPos) ?_
    ⟨passInv_start careful sparse, fun room left => ⟨room, left⟩⟩ ?_
  · rintro d known cells ⟨inv, room⟩
    exact safe_digestRound inv room
  · have enough := x.qLen_le_fuel
    omega

theorem safe_digestProg :
    (digestProg x).Safe x.dMaxLen known cells fun _ _ _ => True := by
  simp only [digestProg, safe_bind]
  refine (safe_digestLoop careful sparse).imp ?_
  intro d known₁ cells₁ inv
  refine (safe_finalStage inv).imp ?_
  rintro _ known₂ cells₂ ⟨p, low, high, terminated, readable⟩
  refine (safe_cString inv.cur.2 readable le_rfl low high terminated ?_).imp
    fun _ _ _ _ => trivial
  have full := inv.cur.2
  have enough := x.dMaxLen_lt_fuel
  omega

end

/-- What was known to be written decides what the call returns. -/
theorem digest_of_safe {fuel : Nat} {vars : DigestVars} {q : List Byte} {buf : Int → Byte}
    (safe : (digestProg (callOf fuel vars q)).Safe (callOf fuel vars q).dMaxLen known buf
      fun _ _ _ => True) :
    ∃ digest, ∀ buf', (∀ i ∈ known, buf' i = buf i) →
      mysqlQueryDigestAndFirstComment2 fuel vars q buf' = .ok digest := by
  obtain ⟨digest, _, _, _, runs⟩ := safe.run
  refine ⟨digest, fun buf' same => ?_⟩
  obtain ⟨_, run, _⟩ := runs _ (le_refl _) buf' same
  simp only [mysqlQueryDigestAndFirstComment2, run]
  rfl

def defaultVars : DigestVars where
  lowercase := false
  replaceNull := false
  noDigits := false
  keepComment := false
  groupingLimit := 3
  groupsGroupingLimit := 10
  maxQueryLength := 65000

/-- Limits of one mark and of five groups. -/
def fiveGroups : DigestVars := { defaultVars with groupingLimit := 1, groupsGroupingLimit := 5 }

/-- Six times `(1,2,3),` -/
def groupsWithCommas : List Byte :=
  (List.replicate 6 ['(', '1', ',', '2', ',', '3', ')', ',']).flatten

/-- Six times `(1,2,3)` and then `abcde`. -/
def groupsWithoutCommas : List Byte :=
  (List.replicate 6 ['(', '1', ',', '2', ',', '3', ')']).flatten ++ ['a', 'b', 'c', 'd', 'e']

/-- `a='#' /*--b */ c` -/
def marksInLiterals : List Byte :=
  ['a', '=', '\'', '#', '\'', ' ', '/', '*', '-', '-', ' ', 'b', '*', '/', ' ', 'c']

/-- `a#c`, a line end and ` b` -/
def lineCommentQuery : List Byte := ['a', '#', 'c', '\n', ' ', 'b']

end MockProxy.Tokenizer
