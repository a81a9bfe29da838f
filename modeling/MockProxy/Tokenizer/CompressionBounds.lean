import Mathlib.Tactic.Linarith
import Mathlib.Tactic.Ring
import MockProxy.Tokenizer.Stage1Bounds

/-!
# The compression stages stay inside of the text

A compression stage reads the text of stage 1 and its terminator only, and it writes behind its
reading cursor: the text never becomes longer. For stage 4 that takes a condition on the limits, or
that groups do not follow each other directly, which no stage changes (`Joined`).
-/

namespace MockProxy.Tokenizer

open Scratch Prog

variable {x : Call} {s : SharedSt} {known : Set Int} {cells : Int → Byte}

/-- The text up to `textEnd`, with the byte behind it, may be read. -/
def Readable (textEnd : Int) (known : Set Int) : Prop := ∀ i, 0 ≤ i → i ≤ textEnd → i ∈ known

theorem Readable.mono {textEnd : Int} {known' : Set Int} (readable : Readable textEnd known)
    (more : known ⊆ known') : Readable textEnd known' :=
  fun i low high => more (readable i low high)

/-- The text `base` that a compression stage starts with, up to `stop`, in a state `shared`. -/
structure Text (x : Call) where
  textEnd : Int
  stop : Int
  shared : SharedSt
  base : Int → Byte
  room : stop + 1 ≤ textEnd ∧ textEnd ≤ x.dMaxLen

/-- Neither the text nor what is written has groups that follow each other directly. What was
dropped behind a closing parenthesis is followed by another one or by a comma. -/
structure Joined (v : Text x) (s : SharedSt) (cells : Int → Byte) : Prop where
  text : Scattered x v.stop v.base
  apart : Apart cells s.resPrePos
  next : 0 < s.resPrePos → cells (s.resPrePos - 1) = ')' → s.resCurPos ≤ v.stop →
    v.base (s.resCurPos - 1) = ')' ∨ v.base s.resCurPos = ')' ∨ v.base s.resCurPos = ','

/-- The state of the loop of a compression stage. What the stage has not passed yet is still what
the text was. -/
structure Window (v : Text x) (s : SharedSt) (known : Set Int) (cells : Int → Byte) : Prop where
  frame : s = { v.shared with resCurPos := s.resCurPos, resPrePos := s.resPrePos }
  pre : 0 ≤ s.resPrePos ∧ s.resPrePos ≤ s.resCurPos
  high : s.resPrePos ≤ v.stop + 1
  readable : Readable v.textEnd known
  rest : ∀ i, s.resPrePos ≤ i → cells i = v.base i
  sparse : FitLimits x ∨ Joined v s cells

/-- Between two stages, with the query read up to `pos`. -/
structure Staged (x : Call) (pos : Nat) (d : DigestSt) (known : Set Int) (cells : Int → Byte) :
    Prop where
  inv : StageInv x d known
  pos : d.shared.qCurPos = pos
  scattered : FitLimits x ∨ Scattered x (getStageDigestEnd d.shared d.stage1) cells

section Joins

variable {v : Text x} {cells' : Int → Byte} {cur n m : Int} (joined : Joined v s cells)

include joined

theorem Joined.jump (follows : 0 < s.resPrePos → cells (s.resPrePos - 1) = ')' → cur ≤ v.stop →
      v.base cur = ')' ∨ v.base cur = ',') : Joined v { s with resCurPos := cur } cells :=
  ⟨joined.text, joined.apart, fun some close inside => .inr (follows some close inside)⟩

/-- Bytes that are no parentheses are written. -/
theorem Joined.write (some : 0 < n) (same : ∀ i < s.resPrePos, cells' i = cells i)
    (new : ∀ i, s.resPrePos ≤ i → i < s.resPrePos + n → isParen (cells' i) = false) :
    Joined v { s with resPrePos := s.resPrePos + n, resCurPos := cur } cells' := by
  refine ⟨joined.text, fun i low high => ?_, fun _ close => ?_⟩
  · by_cases old : i < s.resPrePos
    · rw [same i old, same (i - 1) (by omega)]
      exact joined.apart i low old
    · rintro ⟨-, opens⟩
      simpa [opens, isParen] using new i (by omega) high
  · dsimp only at close
    simpa [close, isParen] using new (s.resPrePos + n - 1) (by omega) (by omega)

/-- The next bytes of the text are written as they are. -/
theorem Joined.move (ahead : s.resPrePos ≤ s.resCurPos) (some : 0 < m)
    (inside : s.resCurPos + m ≤ v.stop + 1) (same : ∀ i < s.resPrePos, cells' i = cells i)
    (moved : ∀ k, 0 ≤ k → k < m → cells' (s.resPrePos + k) = v.base (s.resCurPos + k)) :
    Joined v { s with resPrePos := s.resPrePos + m, resCurPos := s.resCurPos + m } cells' := by
  have byte : ∀ i, s.resPrePos ≤ i → i < s.resPrePos + m →
      cells' i = v.base (i + (s.resCurPos - s.resPrePos)) := by
    intro i low high
    have byte := moved (i - s.resPrePos) (by omega) (by omega)
    rwa [show s.resPrePos + (i - s.resPrePos) = i by omega,
      show s.resCurPos + (i - s.resPrePos) = i + (s.resCurPos - s.resPrePos) by omega] at byte
  refine ⟨joined.text, fun i low high => ?_, fun _ close _ => .inl ?_⟩
  · dsimp only at high
    rintro ⟨close, opens⟩
    by_cases old : i < s.resPrePos
    · rw [same i old] at opens
      rw [same (i - 1) (by omega)] at close
      exact joined.apart i low old ⟨close, opens⟩
    rw [byte i (by omega) high] at opens
    have before : v.base (i + (s.resCurPos - s.resPrePos) - 1) = ')' := by
      by_cases first : i = s.resPrePos
      · subst first
        rw [same _ (by omega)] at close
        have here : s.resPrePos + (s.resCurPos - s.resPrePos) = s.resCurPos := by omega
        rw [here] at opens ⊢
        simpa [opens] using joined.next low close (by omega)
      · rw [byte (i - 1) (by omega) (by omega)] at close
        rw [← close]
        congr 1
        omega
    exact joined.text.apart _ (by omega) (by omega) ⟨before, opens⟩
  · dsimp only at close ⊢
    rw [byte _ (by omega) (by omega)] at close
    rw [← close]
    congr 1
    omega

theorem Joined.scattered {stop : Int} (same : ∀ i < s.resPrePos, cells' i = cells i)
    (ended : isParen (cells' s.resPrePos) = false) (at_ : stop + 1 = s.resPrePos) :
    Scattered x stop cells' := by
  refine ⟨joined.text.groups, fun i low high => ?_, at_ ▸ ended⟩
  rw [same i (by omega), same (i - 1) (by omega)]
  exact joined.apart i low (by omega)

end Joins

section EndOfStage

theorem safe_moveDigits (textEnd : Int) {stop f r : Int} {fuel : Nat}
    (readable : Readable textEnd known) (room : textEnd ≤ x.dMaxLen) (nonneg : 0 ≤ r)
    (behind : r ≤ f) (ordered : f ≤ stop) (within : stop ≤ textEnd) (enough : stop - f < fuel) :
    (moveDigits stop fuel f r).Safe x.dMaxLen known cells fun p _ cells' =>
      p = r + (stop - f) ∧ (∀ i < r, cells' i = cells i) ∧ (f < stop → cells' r = cells f) := by
  induction fuel generalizing f r known cells with
  | zero => omega
  | succ fuel ih =>
    unfold moveDigits
    split
    · refine ⟨by omega, readable f (by omega) (by omega), by omega, ?_⟩
      refine (ih (readable.mono (Set.subset_insert _ _)) (by omega) (by omega) (by omega)
        (by omega)).imp ?_
      rintro p _ _ ⟨eq, below, _⟩
      refine ⟨by omega, fun i less => ?_, fun _ => ?_⟩
      · rw [below i (by omega), put_other (by omega)]
      · rw [below r (by omega), put_same]
    · exact ⟨by omega, fun _ _ => rfl, by omega⟩

variable {d : DigestSt} {known' : Set Int} {pos : Nat}

/-- The end of the text that a stage works on: what stage 1 wrote, up to a number it is in. -/
theorem StageInv.digestEnd (inv : StageInv x d known) :
    0 ≤ getStageDigestEnd d.shared d.stage1 + 1 ∧
      getStageDigestEnd d.shared d.stage1 + 1 ≤ d.shared.resCurPos := by
  have cur := inv.cur.1
  by_cases st : d.shared.st = .literalNumber
  · obtain ⟨⟨start, inside⟩, -⟩ := inv.number.inside st
    have before := inside.before
    have nonneg := inside.nonneg
    rw [getStageDigestEnd_inside st inside]
    omega
  · rw [getStageDigestEnd_outside (inv.number.outside st).1]
    omega

def StageInv.text (inv : StageInv x d known) (base : Int → Byte) : Text x where
  textEnd := d.shared.resCurPos
  stop := getStageDigestEnd d.shared d.stage1
  shared := d.shared
  base := base
  room := ⟨inv.digestEnd.2, inv.cur.2⟩

theorem Careful.mono {t : Stage1St} {n pre init offset : Int} {digit : LiteralDigitSt} {it : Int}
    {newEnd : Option Int} {copy : Bool} (careful : Careful x s t known) (more : known ⊆ known')
    (shorter : n ≤ s.resCurPos) :
    Careful x { s with
        resCurPos := n, resPrePos := pre, resItInitPos := init, glCOffset := offset
        copyNextChar := copy }
      { t with literalDigit := digit, preItPos := it, newEndPos := newEnd } known' :=
  careful.imp (Covered.mono more) fun ⟨lexed, rest⟩ => ⟨{
    __ := lexed
    room := lexed.room.imp_right (Or.imp_right (Or.imp_left (lt_of_le_of_lt shorter))) }, rest⟩

theorem StageInv.mono (inv : StageInv x d known) (more : known ⊆ known') : StageInv x d known' :=
  ⟨inv.cur, fun i low high => more (inv.written i low high), inv.keep, inv.number,
    inv.careful.mono more le_rfl, inv.sparse⟩

theorem safe_endStage {base : Int → Byte} (inv : StageInv x d known)
    (at_ : d.shared.qCurPos = pos) (window : Window (inv.text base) s known cells) :
    (endStage x d s (getStageDigestEnd d.shared d.stage1)).Safe x.dMaxLen known cells
      fun r known' cells' => Staged x pos r.1 known' cells' := by
  obtain ⟨frame, ⟨low, -⟩, high, -, rest, sparse⟩ := window
  obtain ⟨cur, pre, rfl⟩ : ∃ cur pre, s = { d.shared with resCurPos := cur, resPrePos := pre } :=
    ⟨_, _, frame⟩
  dsimp only [StageInv.text] at low high rest
  have bounds := inv.digestEnd
  have full := inv.cur.2
  by_cases st : d.shared.st = .literalNumber
  · obtain ⟨⟨start, inside⟩, newEnd⟩ := inv.number.inside st
    obtain ⟨started, nonneg, before⟩ := id inside
    have enough := x.dMaxLen_lt_fuel
    have first : ∀ {r}, Joined (inv.text base) r cells → isParen (base start) = false := by
      intro r joined
      simpa [StageInv.text, getStageDigestEnd_inside st inside] using joined.text.ended
    rw [getStageDigestEnd_inside st inside] at high ⊢
    simp only [endStage, endCompressionStageIt, started, newEnd, if_true, safe_bind, safe_pure]
    refine (safe_moveDigits d.shared.resCurPos inv.written full low (by omega)
      (by omega) le_rfl (by omega)).grows.imp ?_
    rintro p known' cells' ⟨more, rfl, below, moved⟩
    refine ⟨by omega, ⟨⟨by dsimp only; omega, by dsimp only; omega⟩, ?_, inv.keep,
      ⟨fun _ => ⟨⟨pre, rfl, low, by dsimp only; omega⟩, rfl⟩, fun other => absurd st other⟩, ?_,
      inv.sparse⟩, at_, sparse.imp_right fun joined => joined.scattered ?_ ?_ ?_⟩
    · exact fun i below above => .inr (more (inv.written i below (by dsimp only at above; omega)))
    · exact inv.careful.mono (fun i mem => .inr (more mem)) (by omega)
    · intro i less
      dsimp only at less
      rw [put_other (by omega), below i less]
    · dsimp only
      rw [put_other (by omega), moved before, rest start (by omega)]
      exact first joined
    · simp [getStageDigestEnd, st]
  · obtain ⟨fresh, none⟩ := inv.number.outside st
    simp only [endStage, endCompressionStageIt, fresh, safe_bind, safe_pure]
    refine ⟨by omega, ⟨⟨low, by dsimp only; omega⟩, ?_, inv.keep,
      ⟨fun number => absurd number st, fun _ => ⟨fresh, none⟩⟩, ?_, inv.sparse⟩, at_,
      sparse.imp_right fun joined => joined.scattered ?_ ?_ ?_⟩
    · exact fun i below above => .inr (inv.written i below (by dsimp only at above; omega))
    · exact inv.careful.mono (Set.subset_insert _ _) (by omega)
    · exact fun i less => put_other (by dsimp only at less; omega)
    · rw [put_same]
      rfl
    · rw [getStageDigestEnd_outside fresh]
      dsimp only
      omega

theorem Staged.noted {d₁ d₂ : DigestSt} (ended : Staged x pos d₁ known cells)
    (shared : d₂.shared = d₁.shared) (stage1 : d₂.stage1 = d₁.stage1) :
    Staged x pos d₂ known cells := by
  obtain ⟨s, t, _, _, _⟩ := d₁
  obtain ⟨s', t', _, _, _⟩ := d₂
  obtain rfl : s' = s := shared
  obtain rfl : t' = t := stage1
  exact ⟨{ __ := ended.inv }, ended.pos, ended.scattered⟩

end EndOfStage

section Loops

variable {v : Text x} {textEnd stop : Int}

/-- What a round of a loop that goes on has to show. -/
structure Step (v : Text x) (s s' : SharedSt) (known : Set Int) (cells : Int → Byte) : Prop where
  window : Window v s' known cells
  forward : s.resCurPos < s'.resCurPos

variable {d : DigestSt} {cur i : Int} {Post : Bool → Set Int → (Int → Byte) → Prop} {fuel : Nat}
  {opts : Options}

variable {pos : Nat}

theorem Window.start (staged : Staged x pos d known cells) (next : Int) :
    Window (staged.inv.text cells)
      (setStageNextStartPos d.shared (getStageDigestEnd d.shared d.stage1) next) known cells := by
  have bounds := staged.inv.digestEnd
  unfold setStageNextStartPos
  split_ifs with later
  · refine ⟨rfl, ⟨later.2.1, le_rfl⟩, by dsimp only [StageInv.text]; omega, staged.inv.written,
      fun _ _ => rfl, staged.scattered.imp_right fun scattered => ⟨scattered, ?_, ?_⟩⟩
    · exact fun i low high => scattered.apart i low (by dsimp only [StageInv.text] at high ⊢; omega)
    · exact fun _ close _ => .inl close
  · exact ⟨rfl, ⟨le_rfl, le_rfl⟩, bounds.1, staged.inv.written, fun _ _ => rfl,
      staged.scattered.imp_right fun scattered =>
        ⟨scattered, fun i low high => absurd low (by dsimp only at high; omega), by simp⟩⟩

section

variable (window : Window v s known cells)

include window

theorem Window.jump (forward : s.resCurPos ≤ cur)
    (follows : Joined v s cells → 0 < s.resPrePos → cells (s.resPrePos - 1) = ')' → cur ≤ v.stop →
      v.base cur = ')' ∨ v.base cur = ',') : Window v { s with resCurPos := cur } known cells where
  __ := window
  frame := by rw [window.frame]
  pre := ⟨window.pre.1, window.pre.2.trans forward⟩
  sparse := window.sparse.imp_right fun joined => joined.jump (follows joined)

theorem Window.drop (follows : Joined v s cells → 0 < s.resPrePos →
      cells (s.resPrePos - 1) = ')' → cells (s.resCurPos + 1) = ')' ∨
      cells (s.resCurPos + 1) = ',') :
    Step v s (dropChar s) known cells := by
  have pre := window.pre
  refine ⟨window.jump (by omega) fun joined some close _ => ?_, by simp only [dropChar]; omega⟩
  rw [← window.rest _ (by omega)]
  exact follows joined some close

theorem Window.write {n : Int} {known' : Set Int} {cells' : Int → Byte} (more : known ⊆ known')
    (some : 0 ≤ n)
    (inside : s.resPrePos + n ≤ v.stop + 1) (shorter : s.resPrePos + n ≤ cur)
    (other : ∀ i, s.resPrePos + n ≤ i → cells' i = cells i)
    (sparse : Joined v s cells →
      Joined v { s with resPrePos := s.resPrePos + n, resCurPos := cur } cells') :
    Window v { s with resPrePos := s.resPrePos + n, resCurPos := cur } known'
      cells' where
  frame := by rw [window.frame]
  pre := ⟨Int.add_nonneg window.pre.1 some, shorter⟩
  high := inside
  readable := window.readable.mono more
  rest := by
    intro i low
    dsimp only at low
    rw [other i low]
    exact window.rest i (by omega)
  sparse := window.sparse.imp_right sparse

theorem Window.put {b : Byte} (behind : s.resPrePos ≤ v.stop) (forward : s.resPrePos + 1 ≤ cur)
    (sparse : Joined v s cells →
      Joined v { s with resPrePos := s.resPrePos + 1, resCurPos := cur }
        (put cells s.resPrePos b)) :
    Window v { s with resPrePos := s.resPrePos + 1, resCurPos := cur }
      (insert s.resPrePos known) (put cells s.resPrePos b) :=
  window.write (Set.subset_insert _ _) (by decide) (by omega) forward
    (fun i low => put_other (by omega)) sparse

end

def textLeft (stop : Int) (s : SharedSt) : Nat := (stop + 1 - s.resCurPos).toNat

theorem Step.decreases {s' : SharedSt} (step : Step v s s' known cells)
    (inside : s.resCurPos ≤ v.stop) : textLeft v.stop s' < textLeft v.stop s := by
  have forward := step.forward
  unfold textLeft
  omega

/-- A compression stage: if every round of its loop inside of the text goes forward, it ends with
its cursors inside of the text. -/
theorem safe_stageLoop {σ : Type} (staged : Staged x pos d known cells) (body : σ → Act (Next σ))
    (shared : σ → SharedSt) (Extra : σ → Prop)
    (round : ∀ s known' cells', Window (staged.inv.text cells) (shared s) known' cells' → Extra s →
      (shared s).resCurPos ≤ getStageDigestEnd d.shared d.stage1 →
        (body s).Safe x.dMaxLen known' cells' (Next.Either
          (fun s' known'' cells'' =>
            Step (staged.inv.text cells) (shared s) (shared s') known'' cells'' ∧ Extra s')
          fun s' => Window (staged.inv.text cells) (shared s')))
    {s : σ} {next : Int}
    (first : shared s = setStageNextStartPos d.shared (getStageDigestEnd d.shared d.stage1) next)
    (extra : Extra s) :
    (repeated (fun s => do
      if (shared s).resCurPos ≤ getStageDigestEnd d.shared d.stage1 then body s
      else return .leave s) x.fuel s).Safe x.dMaxLen known cells fun s known' cells' =>
        (endStage x d (shared s) (getStageDigestEnd d.shared d.stage1)).Safe x.dMaxLen known' cells'
          fun r => Staged x pos r.1 := by
  have bounds := staged.inv.digestEnd
  have full := staged.inv.cur.2
  have window : Window (staged.inv.text cells) (shared s) known cells :=
    first ▸ Window.start staged next
  refine safe_repeated
    (fun s known' cells' =>
      StageInv x d known' ∧ Window (staged.inv.text cells) (shared s) known' cells' ∧ Extra s)
    (fun s => textLeft (getStageDigestEnd d.shared d.stage1) (shared s)) ?_
    ⟨staged.inv, window, extra⟩ ?_
  · rintro s known cells ⟨inv', window, extra⟩
    split
    next inside =>
      refine (round s known cells window extra inside).grows.imp ?_
      rintro n known' cells' ⟨more, post⟩
      cases n with
      | again s' => exact ⟨⟨inv'.mono more, post.1.window, post.2⟩, post.1.decreases inside⟩
      | leave s' => exact safe_endStage (inv'.mono more) staged.pos post
    · exact safe_endStage inv' staged.pos window
  · have low := window.pre
    have enough := x.dMaxLen_lt_fuel
    simp only [textLeft]
    omega

theorem length_groupMarks {limit : Int} (len : Nat) (nonneg : 0 ≤ limit) :
    ((groupMarks limit len).length : Int) =
      if limit < len then 2 * limit + 3 else 2 * (len : Int) := by
  induction len with
  | zero => simp [groupMarks]; omega
  | succ len ih =>
    have more : groupMarks limit (len + 1) = groupMarks limit len ++
        (if (len : Int) < limit then ['?', ','] else if (len : Int) = limit then ['.', '.', '.']
          else []) := by
      simp [groupMarks, List.range_succ]
    rw [more]
    split_ifs <;> simp <;> omega

theorem plain_written {cs : List Byte} {n : Int}
    (contents : ∀ k (within : k < cs.length), cells (n + k) = cs[k])
    (plain : ∀ c ∈ cs, isParen c = false) (low : n ≤ i) (high : i < n + cs.length) :
    isParen (cells i) = false := by
  have byte := contents (i - n).toNat (by omega)
  rw [show n + ((i - n).toNat : Int) = i by omega] at byte
  rw [byte]
  exact plain _ (List.getElem_mem _)

theorem isParen_groupMarks {limit : Int} {len : Nat} {c : Byte} (mark : c ∈ groupMarks limit len) :
    isParen c = false := by
  simp only [groupMarks, List.mem_flatMap, List.mem_range] at mark
  obtain ⟨i, -, mark⟩ := mark
  split_ifs at mark
  · rcases List.mem_pair.mp mark with rfl | rfl <;> rfl
  · obtain rfl : c = '.' := by simpa using mark
    rfl
  · cases mark

theorem length_groupPattern (limit : 0 ≤ opts.groupingLimit) :
    ((groupPattern opts.groupingLimit).length : Int) = groupPatternSize opts - 1 := by
  simp only [groupPattern, groupPatternSize, List.length_map, List.length_range]
  omega

theorem getElem_groupPattern_last {limit : Int} (some : 1 < (groupPattern limit).length) :
    (groupPattern limit)[(groupPattern limit).length - 1] = ')' := by
  simp only [groupPattern, List.length_map, List.length_range] at some
  simp only [groupPattern, List.length_map, List.length_range, List.getElem_map,
    List.getElem_range, if_true]
  rw [if_neg (by omega)]

section Reading

/-- The character `k` places before a position, `'0'` where there is none. -/
def before (cells : Int → Byte) (i k : Int) : Byte := if i ≥ k then cells (i - k) else '0'

/-- What is known of the groups that are counted from `i` on: each takes its size, and none but the
last lacks its comma where groups do not follow each other directly. -/
structure Counted (opts : Options) (stop : Int) (cells : Int → Byte) (i : Int) (found : Nat)
    (r : Int × Nat) : Prop where
  more : found ≤ r.2
  long : i + ((r.2 : Int) - found) * (groupPatternSize opts - 1) ≤ r.1
  near : r.1 ≤ stop + 2
  opens : found < r.2 → cells i = '(' ∧ i ≤ stop
  commas : (∀ k, i < k → k ≤ stop → ¬ (cells (k - 1) = ')' ∧ cells k = '(')) →
    i + ((r.2 : Int) - found) * groupPatternSize opts ≤ r.1 + 1

/-- A group, the place behind it and its comma, and the groups that are counted from there. -/
theorem Counted.next {found : Nat} {j : Int} {r : Int × Nat} (size : 2 ≤ groupPatternSize opts)
    (opens : cells i = '(') (closes : cells (i + (groupPatternSize opts - 2)) = ')')
    (inside : i + (groupPatternSize opts - 2) ≤ stop)
    (behind : j = i + (groupPatternSize opts - 1) ∨ j = i + groupPatternSize opts)
    (counted : Counted opts stop cells j (found + 1) r) : Counted opts stop cells i found r := by
  obtain ⟨more, long, near, open', commas⟩ := counted
  push_cast at long commas
  have times : ∀ n : Int, ((r.2 : Int) - found) * n = ((r.2 : Int) - (found + 1)) * n + n :=
    fun n => by ring
  refine ⟨by omega, ?_, near, fun _ => ⟨opens, by omega⟩, fun apart => ?_⟩
  · rw [times]
    omega
  · have rest := commas fun k low => apart k (by omega)
    rw [times]
    by_cases another : found + 1 < r.2
    · rcases behind with direct | comma
      · have here := open' another
        refine absurd ⟨?_, here.1⟩ (apart j (by omega) here.2)
        rw [← closes]
        congr 1
        omega
      · omega
    · have single : (r.2 : Int) - (found + 1) = 0 := by omega
      rw [single] at long ⊢
      omega

theorem reads_charBefore {k : Int} (back : 0 ≤ k) (within : s.resCurPos ≤ textEnd) :
    (charBefore s k).Reads textEnd cells (· = before cells s.resCurPos k) := by
  unfold charBefore before
  split
  · exact ⟨by omega, rfl⟩
  · rfl

theorem reads_endsWith {cs : List Byte} (low : cs.length ≤ i) (high : i ≤ textEnd + 1) :
    (endsWith i cs).Reads textEnd cells fun b => b → ∀ c ∈ cs.head?, cells (i - 1) = c := by
  induction cs generalizing i with
  | nil => simp [endsWith]
  | cons c cs ih =>
    simp only [List.length_cons] at low
    simp only [endsWith, reads_bind, reads_andThen]
    refine ⟨by omega, fun head => ?_, by simp⟩
    exact (ih (by omega) (by omega)).imp fun b _ _ => by simpa using head

theorem reads_readsAt {cs : List Byte} (low : 0 ≤ i) (high : i + cs.length ≤ textEnd + 1) :
    (readsAt i cs).Reads textEnd cells fun b =>
      b ↔ ∀ k (within : k < cs.length), cells (i + k) = cs[k] := by
  induction cs generalizing i with
  | nil => simp [readsAt]
  | cons c cs ih =>
    simp only [List.length_cons] at high
    have shift : ∀ k : Nat, i + ((k + 1 : Nat) : Int) = i + 1 + k := fun k => by omega
    simp only [readsAt, reads_bind, reads_andThen, beq_iff_eq, beq_eq_false_iff_ne]
    refine ⟨by omega, fun head => ?_, fun other => ?_⟩
    · refine (ih (by omega) (by omega)).imp fun b tail =>
        tail.trans ⟨fun all k within => ?_, fun all k within => ?_⟩
      · cases k with
        | zero => simpa using head
        | succ k => exact shift k ▸ all k (Nat.lt_of_succ_lt_succ within)
      · exact shift k ▸ all (k + 1) (Nat.succ_lt_succ within)
    · exact iff_of_false Bool.false_ne_true fun all =>
        other ((congrArg cells (Int.add_zero i).symm).trans (all 0 (Nat.succ_pos _)))

theorem reads_isMinPattern (low : 0 ≤ i) (high : i + 3 ≤ textEnd) :
    (isMinPattern i).Reads textEnd cells fun b => b → cells i = '?' ∧ cells (i + 1) = ',' := by
  simp only [isMinPattern, reads_bind]
  refine (reads_readsAt low (by simp; omega)).imp fun b holds => ?_
  rw [reads_andThen]
  refine ⟨fun all => ?_, by simp⟩
  rw [reads_bind]
  refine reads_get.mpr ⟨by omega, fun _ => ⟨?_, ?_⟩⟩
  · simpa using holds.mp all 0 (by simp)
  · simpa using holds.mp all 1 (by simp)

theorem reads_isGroupPattern (limit : 0 ≤ opts.groupingLimit) (low : 0 ≤ i)
    (high : i + (groupPatternSize opts - 2) ≤ textEnd) :
    (isGroupPattern opts i).Reads textEnd cells fun b =>
      b → cells i = '(' ∧ cells (i + (groupPatternSize opts - 2)) = ')' := by
  have size := length_groupPattern limit
  refine (reads_readsAt low (by omega)).imp fun b holds found => ⟨?_, ?_⟩
  · have first := holds.mp found 0 (by unfold groupPatternSize at size; omega)
    simpa [groupPattern] using first
  · have last := holds.mp found ((groupPattern opts.groupingLimit).length - 1)
      (by unfold groupPatternSize at size; omega)
    rw [getElem_groupPattern_last (by unfold groupPatternSize at size; omega)] at last
    rw [← last]
    congr 1
    unfold groupPatternSize at size ⊢
    omega

theorem reads_readAll {n : Nat} (low : 0 ≤ i) (high : i + n ≤ textEnd + 1) :
    (readAll i n).Reads textEnd cells fun cs =>
      cs.length = n ∧ ∀ k (within : k < cs.length), cs[k] = cells (i + k) := by
  induction n generalizing i with
  | zero => exact ⟨rfl, fun k within => absurd within (Nat.not_lt_zero _)⟩
  | succ n ih =>
    simp only [readAll, reads_bind]
    refine reads_get.mpr ⟨by omega, (ih (by omega) (by omega)).imp ?_⟩
    rintro cs ⟨length, contents⟩
    refine ⟨congrArg Nat.succ length, fun k within => ?_⟩
    cases k with
    | zero => simp
    | succ k =>
      rw [List.getElem_cons_succ, contents k (by simpa using within)]
      congr 1
      omega

variable (room : stop + 1 ≤ textEnd)

include room

section

variable (low : 0 ≤ i) (high : i ≤ stop + 1) (enough : stop + 1 - i < fuel)

include low high enough

/-- Skipping `?,` behind an expansion pack goes forward inside of the text. -/
theorem reads_skipMarks :
    (skipMarks stop fuel i).Reads textEnd cells fun r =>
      i ≤ r.1 ∧ r.1 ≤ stop + 1 ∧ (r.2 → i + 1 ≤ r.1) := by
  induction fuel generalizing i with
  | zero => omega
  | succ fuel ih =>
    unfold skipMarks
    split
    · rw [reads_bind]
      refine (reads_readsAt low (by simp; omega)).imp fun comma _ => ?_
      split
      · refine (ih (by omega) (by omega) (by omega)).imp ?_
        rintro r ⟨forward, within, -⟩
        exact ⟨by omega, within, fun _ => by omega⟩
      · rw [reads_bind]
        refine (reads_readsAt low (by simp; omega)).imp fun close _ => ?_
        split
        · exact ⟨by omega, by omega, fun _ => le_rfl⟩
        · exact ⟨le_rfl, high, by simp⟩
    · exact ⟨le_rfl, high, by simp⟩

/-- The pattern from `i` on; where it starts with `?,`, that is counted. -/
theorem reads_patternRun {len : Nat} : (patternRun stop fuel i len).Reads textEnd cells fun r =>
      (len ≤ r.2.1 ∧ (i < stop → cells i = '?' → cells (i + 1) = ',' → len < r.2.1)) ∧
        r.1 = i + 2 * (r.2.1 - len : Int) ∧ r.1 ≤ stop + 1 ∧ (r.2.2 → r.1 < stop) := by
  induction fuel generalizing i len with
  | zero => omega
  | succ fuel ih =>
    unfold patternRun
    split
    · rw [reads_bind]
      refine (reads_readsAt low (by simp; omega)).imp fun found holds => ?_
      split
      · refine (ih (by omega) (by omega) (by omega)).imp ?_
        rintro r ⟨⟨more, -⟩, pos, within, closed⟩
        exact ⟨⟨by omega, fun _ _ _ => more⟩, by omega, within, closed⟩
      next other =>
        rw [reads_bind]
        refine reads_get.mpr ⟨by omega,
          ⟨le_rfl, fun _ mark comma => ?_⟩, by dsimp only; omega, high, fun _ => by omega⟩
        refine absurd (holds.mpr fun k within => ?_) other
        rcases k with _ | _ | k
        · simpa using mark
        · simpa using comma
        · simp at within
    · exact ⟨⟨le_rfl, by omega⟩, by dsimp only; omega, high, by simp⟩

end

variable (limit : 0 ≤ opts.groupingLimit) (low : 0 ≤ i) (enough : stop + 3 - i ≤ fuel)
    (some : 0 < fuel)

include limit low enough some

theorem reads_skipGroups (near : i ≤ stop + 2) :
    (skipGroups opts stop fuel i).Reads textEnd cells (i ≤ ·) := by
  induction fuel generalizing i with
  | zero => omega
  | succ fuel ih =>
    have size : 6 ≤ groupPatternSize opts := by
      unfold groupPatternSize
      omega
    unfold skipGroups
    split
    · rw [reads_bind]
      refine (reads_isGroupPattern limit low (by omega)).imp fun found _ => ?_
      split
      · split
        all_goals
          refine (ih (by omega) (by omega) (by omega)
            (by omega)).imp fun j forward => ?_
          omega
      · exact le_rfl
    · exact le_rfl

theorem reads_countGroups {found : Nat} (near : i ≤ stop + 2) :
    (countGroups opts stop fuel i found).Reads textEnd cells
      (Counted opts stop cells i found) := by
  induction fuel generalizing i found with
  | zero => omega
  | succ fuel ih =>
    have size : 6 ≤ groupPatternSize opts := by
      unfold groupPatternSize
      omega
    have none : Counted opts stop cells i found (i, found) :=
      ⟨le_rfl, by simp, near, by simp, fun _ => by simp⟩
    unfold countGroups
    split
    · rw [reads_bind]
      refine (reads_isGroupPattern limit low (by omega)).imp fun group holds => ?_
      split
      next found =>
        obtain ⟨opens, closes⟩ := holds found
        rw [reads_bind]
        refine reads_get.mpr ⟨by omega, ?_⟩
        refine (ih (by omega) (by omega) (by omega) (by omega)).imp fun r counted => ?_
        exact counted.next (by omega) opens closes (by omega) (by split <;> omega)
      · exact none
    · exact none

end Reading

section Rounds

variable (window : Window v s known cells)

include window

theorem Window.bounds : (v.stop + 1 ≤ v.textEnd ∧ v.textEnd ≤ x.dMaxLen) ∧
    (0 ≤ s.resPrePos ∧ s.resPrePos ≤ s.resCurPos) ∧ s.resPrePos ≤ v.stop + 1 :=
  ⟨v.room, window.pre, window.high⟩

theorem Window.reads {α : Type} {P : α → Prop} {p : Act α}
    {Post : α → Set Int → (Int → Byte) → Prop}
    (reads : p.Reads v.textEnd cells P) (post : ∀ a, P a → Post a known cells) :
    p.Safe x.dMaxLen known cells Post :=
  reads.safe v.room.2 window.readable post

theorem Window.get {α : Type} {rest : Byte → Act α} {Post : α → Set Int → (Int → Byte) → Prop}
    (inside : 0 ≤ i ∧ i ≤ v.textEnd) (post : (rest (cells i)).Safe x.dMaxLen known cells Post) :
    (get i >>= rest).Safe x.dMaxLen known cells Post :=
  ⟨⟨inside.1, inside.2.trans v.room.2⟩, window.readable i inside.1 inside.2, post⟩

theorem safe_keepChar (inside : s.resCurPos ≤ v.stop + 1) (behind : s.resPrePos ≤ v.stop) :
    (keepChar s).Safe x.dMaxLen known cells (Step v s) := by
  have bounds := window.bounds
  have same := window.rest s.resCurPos bounds.2.1.2
  refine window.get (by omega) ⟨by omega, window.put behind (by omega) fun joined => ?_, ?_⟩
  · by_cases last : s.resCurPos = v.stop + 1
    · refine joined.write (by decide) (fun i low => put_other (by omega)) ?_
      intro i low high
      obtain rfl : i = s.resPrePos := by omega
      rw [put_same, same, last]
      exact joined.text.ended
    · refine joined.move bounds.2.1.2 (by decide) (by omega) (fun i low => put_other (by omega)) ?_
      intro k low high
      obtain rfl : k = 0 := by omega
      rw [Int.add_zero, Int.add_zero, put_same, same]
  · dsimp only
    omega

section

variable (inside : s.resCurPos ≤ v.stop)

include inside

/-- What stands before the cursor where a closing parenthesis is the last byte written. -/
theorem Joined.behind (joined : Joined v s cells) (some : 0 < s.resPrePos)
    (close : cells (s.resPrePos - 1) = ')')
    (other : cells s.resCurPos ≠ ')' ∧ cells s.resCurPos ≠ ',') :
    before cells s.resCurPos 1 = ')' := by
  have pre := window.pre
  rw [window.rest _ pre.2] at other
  have byte := (joined.next some close inside).resolve_right (not_or.mpr other)
  rw [before, if_pos (by omega)]
  by_cases here : s.resPrePos = s.resCurPos
  · rw [← here, close]
  · rw [window.rest _ (by omega), byte]

theorem safe_stage2Space (blank : cells s.resCurPos = ' ') :
    (stage2Space x s).Safe x.dMaxLen known cells (Step v s) := by
  have bounds := window.bounds
  have kept := safe_keepChar window (by omega) (by omega)
  simp only [stage2Space]
  rw [safe_bind]
  refine window.reads (reads_charBefore (by decide) (by omega)) fun lc left => ?_
  have closed : Joined v s cells → 0 < s.resPrePos → cells (s.resPrePos - 1) = ')' → lc = ')' :=
    fun joined some close => left.trans (joined.behind window inside some close (by simp [blank]))
  refine window.get (by omega) ?_
  split_ifs with inner comma sign
  · refine window.drop fun joined some close => .inl ?_
    simpa [closed joined some close] using inner
  · rw [safe_bind]
    refine window.reads (reads_charBefore (by decide) (by omega)) fun llc _ => ?_
    split_ifs
    · exact kept
    · refine window.drop fun joined some close => .inr ?_
      simpa [closed joined some close, isArithmeticOp] using comma
  · refine window.drop fun joined some close => ?_
    simp [closed joined some close] at sign
  · exact kept

theorem safe_stage2Sign (sign : cells s.resCurPos = '+' ∨ cells s.resCurPos = '-') :
    (stage2Sign s).Safe x.dMaxLen known cells (Step v s) := by
  have bounds := window.bounds
  have kept := safe_keepChar window (by omega) (by omega)
  simp only [stage2Sign]
  rw [safe_bind]
  refine window.reads (reads_charBefore (by decide) (by omega)) fun llc _ => ?_
  rw [safe_bind]
  refine window.reads (reads_charBefore (by decide) (by omega)) fun lc left => ?_
  have closed : Joined v s cells → 0 < s.resPrePos → cells (s.resPrePos - 1) = ')' → lc = ')' :=
    fun joined some close => left.trans (joined.behind window inside some close
      (by rcases sign with sign | sign <;> simp [sign]))
  refine window.get (by omega) ?_
  split_ifs with blank _ _ unary
  · refine window.drop fun joined some close => ?_
    simp [closed joined some close] at blank
  · refine window.drop fun joined some close => ?_
    simp [closed joined some close] at blank
  · exact kept
  · refine window.drop fun joined some close => ?_
    simp [closed joined some close, unarySign] at unary
  · exact kept

theorem safe_stage2Digit : (stage2Digit s).Safe x.dMaxLen known cells (Step v s) := by
  have bounds := window.bounds
  simp only [stage2Digit, safe_bind, safe_andThen, decide_eq_true_eq]
  refine ⟨fun later => window.get (by omega) ?_, fun first => ?_⟩
  · change (if _ then _ else _ : Act SharedSt).Safe _ _ _ _
    split_ifs with other
    · simp only [dropChar]
      refine ⟨by omega, window.put (by omega) (by omega) fun joined => ?_, ?_⟩
      · refine joined.write (by decide) (fun i low => put_other (by omega)) ?_
        intro i low high
        obtain rfl : i = s.resPrePos := by omega
        rw [put_same]
        rfl
      · dsimp only
        omega
    · refine window.drop fun _ _ close => ?_
      simp [close] at other
  · refine window.drop fun _ some _ => ?_
    simp at first
    omega

theorem safe_stage2Round : (stage2Round x s).Safe x.dMaxLen known cells (Step v s) := by
  have bounds := window.bounds
  refine window.get (by omega) ?_
  split_ifs with blank sign
  · exact safe_stage2Space window inside (by simpa using blank)
  · exact safe_stage2Sign window inside (by simpa using sign)
  · exact safe_stage2Digit window inside
  · exact safe_keepChar window (by omega) (by omega)

end

/-- The stage has gone forward, and there is room to write. -/
structure Ahead (v : Text x) (s r : SharedSt) (known : Set Int) (cells : Int → Byte) : Prop where
  window : Window v r known cells
  behind : r.resPrePos ≤ v.stop
  forward : s.resCurPos ≤ r.resCurPos

variable {startPos : Option Int}

theorem safe_stage3ExpPack (inside : s.resCurPos ≤ v.stop) (later : s.resPrePos > 4) :
    (stage3ExpPack x v.stop startPos s).Safe x.dMaxLen known cells fun p known' cells' =>
      Ahead v s p.2 known' cells' ∧ p.2.resCurPos ≤ v.stop + 1 := by
  have bounds := window.bounds
  have stay : Ahead v s s known cells ∧ s.resCurPos ≤ v.stop + 1 :=
    ⟨⟨window, by omega, le_rfl⟩, by omega⟩
  simp only [stage3ExpPack, safe_bind]
  refine window.reads (reads_endsWith (by simp; omega) (by omega)) fun pack ends => ?_
  split
  next found =>
    simp only [Bool.and_eq_true, decide_eq_true_eq] at found
    have dot : cells (s.resPrePos - 1) = '.' := ends found.1 '.' rfl
    refine window.get (by omega) ?_
    have enough := x.dMaxLen_lt_fuel
    rw [safe_bind]
    refine window.reads (reads_skipMarks v.room.1 (by omega) (by omega) (by omega)) ?_
    rintro ⟨j, isLast⟩ ⟨forward, within, last⟩
    have moved : Ahead v s (overMarks s j isLast) known cells ∧
        (overMarks s j isLast).resCurPos ≤ v.stop + 1 := by
      unfold overMarks
      split_ifs with skips
      · refine ⟨⟨window.jump (by omega) fun _ _ close => ?_, by dsimp only; omega,
          by dsimp only; omega⟩, within⟩
        simp [dot] at close
      · exact stay
    rw [safe_bind, safe_andThen]
    exact ⟨fun _ => window.get (by omega) moved, fun _ => moved⟩
  · exact stay

theorem safe_writeMarks {marks : List Byte} (some : 0 < marks.length)
    (plain : ∀ c ∈ marks, isParen c = false) (forward : s.resCurPos < cur)
    (shorter : s.resPrePos + marks.length ≤ cur)
    (inside : s.resPrePos + marks.length ≤ v.stop + 1) :
    (do
      writeAll s.resPrePos marks
      return { s with resPrePos := s.resPrePos + marks.length, resCurPos := cur } :
        Act SharedSt).Safe x.dMaxLen known cells (Step v s) := by
  have bounds := window.bounds
  rw [safe_bind]
  refine (safe_writeAll window.pre.1 (by omega)).grows.imp ?_
  rintro _ known' cells' ⟨more, _, other, contents⟩
  refine ⟨window.write more (by omega) inside shorter (fun i low => other i (.inr low))
    fun joined => ?_, forward⟩
  exact joined.write (by omega) (fun i low => other i (.inl low))
    fun i => plain_written contents plain

theorem safe_stage3Pattern (limit : 0 ≤ x.opts.groupingLimit) (inside : s.resCurPos < v.stop)
    (mark : cells s.resCurPos = '?') (comma : cells (s.resCurPos + 1) = ',') :
    (stage3Pattern x v.stop s).Safe x.dMaxLen known cells (Step v s) := by
  have bounds := window.bounds
  have enough := x.dMaxLen_lt_fuel
  simp only [stage3Pattern]
  rw [safe_bind]
  refine window.reads (reads_patternRun v.room.1 (by omega) (by omega) (by omega)) ?_
  rintro ⟨j, len, closed⟩ ⟨⟨-, some⟩, pos, within, close⟩
  have first : 0 < len := some inside mark comma
  dsimp only at pos within close ⊢
  -- more marks than the limit stand for a text that is longer than what replaces it
  have marks := length_groupMarks len limit
  have short : ((List.replicate len ['?', ',']).flatten.length : Int) = 2 * len := by
    simp
    omega
  cases closed with
  | true | false =>
    simp only [Bool.false_eq_true, true_implies, false_implies, if_true, if_false] at close ⊢
    split
    · refine safe_writeMarks window ?_ (fun c => isParen_groupMarks) (by omega)
        (by omega) (by omega)
      split at marks <;> omega
    · refine safe_writeMarks window (by omega) (fun c mark => ?_) (by omega) (by omega) (by omega)
      obtain ⟨pair, member, mark⟩ := List.mem_flatten.mp mark
      rw [List.eq_of_mem_replicate member] at mark
      rcases List.mem_pair.mp mark with rfl | rfl <;> rfl

theorem safe_stage3Char {group : Bool} (limit : 0 < x.opts.groupingLimit)
    (inside : s.resCurPos ≤ v.stop + 1) (behind : s.resPrePos ≤ v.stop)
    (candidate : group → 1 ≤ s.resCurPos) :
    (stage3Char x v.stop group s).Safe x.dMaxLen known cells (Step v s) := by
  have bounds := window.bounds
  have kept := safe_keepChar window inside behind
  unfold stage3Char
  split
  next fit =>
    simp only [Bool.and_eq_true, decide_eq_true_eq] at fit
    have later := candidate fit.1
    rw [safe_bind]
    refine window.reads (reads_isMinPattern (by omega) (by omega)) fun b holds => ?_
    refine window.get (by omega) ?_
    split
    next both =>
      simp only [Bool.and_eq_true] at both
      obtain ⟨mark, comma⟩ := holds both.2
      exact safe_stage3Pattern window (by omega) (by omega) mark comma
    · exact kept
  · exact kept

theorem safe_stage3Round {group : Bool} (limit : 0 < x.opts.groupingLimit)
    (inside : s.resCurPos ≤ v.stop) (candidate : group → 1 ≤ s.resCurPos) :
    (stage3Round x v.stop startPos (s, group)).Safe x.dMaxLen known cells (Next.Either
      (fun s' known' cells' =>
        Step v s s'.1 known' cells' ∧ (s'.2 → 1 ≤ s'.1.resCurPos))
      fun s' known' cells' => Window v s'.1 known' cells') := by
  have bounds := window.bounds
  have behind : (stage3Behind x v.stop startPos group s).Safe x.dMaxLen known cells
      fun p known' cells' => Ahead v s p.2 known' cells' ∧ p.2.resCurPos ≤ v.stop + 1 := by
    unfold stage3Behind
    split
    next both =>
      simp only [Bool.and_eq_true, decide_eq_true_eq] at both
      exact safe_stage3ExpPack window inside both.2
    · exact ⟨⟨window, by dsimp only; omega, le_rfl⟩, by dsimp only; omega⟩
  simp only [stage3Round]
  rw [safe_bind]
  refine behind.imp ?_
  rintro ⟨broken, s₁⟩ known₁ cells₁ ⟨⟨window₁, room, forward⟩, within⟩
  split
  · exact window₁
  · rw [safe_bind]
    refine (safe_stage3Char window₁ limit within room fun holds => ?_).imp ?_
    · have := candidate holds
      omega
    · rintro s₂ known₂ cells₂ ⟨window₂, further⟩
      refine window₂.get (by omega) ?_
      exact ⟨⟨window₂, by dsimp only; omega⟩, fun _ => by dsimp only; omega⟩

/-- What stage 4 does behind an expansion pack: it goes forward behind its dots, leaves, or changes
nothing. -/
theorem reads_stage4Behind (group : 0 < x.opts.groupingLimit) (inside : s.resCurPos ≤ v.stop) :
    (stage4Behind x v.stop s).Reads v.textEnd cells fun n => n = none ∨ n = some (.leave s) ∨
      ∃ j, n = some (.again { s with resCurPos := j }) ∧ s.resCurPos < j ∧
        cells (s.resPrePos - 1) = '.' := by
  have bounds := window.bounds
  have enough := x.dMaxLen_lt_fuel
  simp only [stage4Behind, reads_bind, reads_andThen, decide_eq_true_eq]
  refine ⟨fun later => (reads_endsWith (by simp; omega) (by omega)).imp fun pack ends => ?_,
    fun _ => .inl rfl⟩
  split
  next found =>
    simp only [stage4ExpPack]
    rw [reads_bind]
    refine reads_get.mpr ⟨by omega, ?_⟩
    rw [reads_bind]
    refine (reads_skipGroups v.room.1 group.le (by omega) (by omega) (by omega) (by omega)).imp ?_
    intro j forward
    split_ifs with jump past
    · exact .inr (.inr ⟨j - 1, rfl, by omega, ends found '.' rfl⟩)
    · exact .inr (.inl rfl)
    · exact .inl rfl
  · exact .inl rfl

section

variable (groups : 0 < x.opts.groupsGroupingLimit) (group : 0 < x.opts.groupingLimit)

include groups group

/-- More groups than the limit take the place of those that are kept, and of the dots. -/
theorem Counted.long_enough {j : Int} {found : Nat}
    (counted : Counted x.opts v.stop cells s.resCurPos 0 (j, found))
    (more : (found : Int) > x.opts.groupsGroupingLimit)
    (inside : s.resCurPos ≤ v.stop - groupPatternSize x.opts *
      (x.opts.groupsGroupingLimit + 1) + 2) :
    groupPatternSize x.opts * x.opts.groupsGroupingLimit + 3 ≤ j - s.resCurPos := by
  have bounds := window.bounds
  have size : groupPatternSize x.opts = 2 * x.opts.groupingLimit + 6 := by
    unfold groupPatternSize
    omega
  have long := counted.long
  rcases window.sparse with limits | joined
  · -- the pattern can only fit in a buffer for which the limits are in proportion
    have proportion : x.opts.groupsGroupingLimit ≤ 2 * x.opts.groupingLimit + 2 := by
      rcases limits.2.2 with none | none | some | small
      · omega
      · omega
      · exact some
      · omega
    simp only [Nat.cast_zero, Int.sub_zero] at long
    nlinarith
  · have commas := counted.commas fun k low high => by
      rw [window.rest k (by omega), window.rest (k - 1) (by omega)]
      exact joined.text.apart k (by omega) (by omega)
    have times : groupPatternSize x.opts * (x.opts.groupsGroupingLimit + 1) ≤
        found * groupPatternSize x.opts := by nlinarith
    rw [Int.mul_add, Int.mul_one] at times
    simp only [Nat.cast_zero, Int.sub_zero] at commas
    omega

/-- Stage 4 at a chain of groups that fits: what it writes is not longer than what it passes. -/
theorem safe_stage4Groups
    (inside : s.resCurPos ≤ v.stop - groupPatternSize x.opts *
      (x.opts.groupsGroupingLimit + 1) + 2) :
    (stage4Groups x v.stop s).Safe x.dMaxLen known cells (Ahead v s) := by
  have bounds := window.bounds
  have split : groupPatternSize x.opts * (x.opts.groupsGroupingLimit + 1) =
      groupPatternSize x.opts * x.opts.groupsGroupingLimit + groupPatternSize x.opts := by
    rw [Int.mul_add, Int.mul_one]
  have size : 6 ≤ groupPatternSize x.opts := by
    unfold groupPatternSize
    omega
  have large : 0 < groupPatternSize x.opts * x.opts.groupsGroupingLimit :=
    Int.mul_pos (by omega) groups
  have enough := x.dMaxLen_lt_fuel
  simp only [stage4Groups]
  rw [safe_bind]
  refine window.reads (reads_countGroups v.room.1 group.le (by omega) (by omega) (by omega)
    (by omega)) ?_
  rintro ⟨j, found⟩ counted
  split
  next more =>
    have long := counted.long_enough window groups group more inside
    generalize groupPatternSize x.opts * x.opts.groupsGroupingLimit = moved at *
    simp only [memmove, if_neg (show ¬ moved < 0 by omega), safe_bind]
    refine window.reads (reads_readAll (by omega) (by omega)) ?_
    rintro text ⟨length, source⟩
    refine (safe_writeAll window.pre.1 (by omega)).grows.imp ?_
    rintro _ known₁ cells₁ ⟨more₁, _, other₁, contents₁⟩
    refine (safe_writeAll (by omega) (by simp; omega)).grows.imp ?_
    rintro _ known₂ cells₂ ⟨more₂, _, other₂, contents₂⟩
    refine ⟨?_, ?_, ?_⟩
    · rw [Int.add_assoc]
      refine window.write (more₁.trans more₂) (by omega) (by omega) (by omega) ?_ fun joined => ?_
      · intro i low
        rw [other₂ i (.inr (by simp; omega)), other₁ i (.inr (by omega))]
      · have kept := joined.move window.pre.2 large (by omega) (fun i low => other₁ i (.inl low))
          fun k low high => ?_
        · have dots : Joined v { s with resPrePos := s.resPrePos + moved + 3, resCurPos := j }
              cells₂ :=
            kept.write (by decide) (fun i low => other₂ i (.inl low))
              fun i => plain_written contents₂ (by simp [isParen])
          rwa [Int.add_assoc] at dots
        · have byte := contents₁ k.toNat (by omega)
          rw [source, Int.toNat_of_nonneg low] at byte
          rw [byte]
          exact window.rest _ (by omega)
    all_goals dsimp only; omega
  · exact ⟨window, by omega, le_rfl⟩

variable (inside : s.resCurPos ≤ v.stop)

include inside

theorem safe_stage4Collapse :
    (stage4Collapse x v.stop s).Safe x.dMaxLen known cells (Ahead v s) := by
  have bounds := window.bounds
  have stay : Ahead v s s known cells := ⟨window, by omega, le_rfl⟩
  have large : 8 * 2 ≤ groupPatternSize x.opts * (x.opts.groupsGroupingLimit + 1) := by
    refine Int.mul_le_mul ?_ (by omega) (by decide) ?_
    all_goals unfold groupPatternSize; omega
  simp only [stage4Collapse, safe_bind, safe_andThen, decide_eq_true_eq]
  refine ⟨fun fit => ?_, fun _ => stay⟩
  refine window.reads (reads_readsAt (by omega) (by simp; omega)) fun found _ => ?_
  split
  · exact safe_stage4Groups window groups group fit
  · exact stay

theorem safe_stage4Plain :
    (stage4Plain x v.stop s).Safe x.dMaxLen known cells (Next.Either (Step v s) (Window v)) := by
  simp only [stage4Plain]
  rw [safe_bind]
  refine (safe_stage4Collapse window groups group inside).imp ?_
  rintro s₁ known₁ cells₁ ⟨window₁, behind, forward⟩
  split
  · exact window₁
  · refine (safe_keepChar window₁ (by omega) behind).imp ?_
    intro s₂ known₂ _ step
    have further := step.forward
    exact ⟨step.window, by omega⟩

theorem safe_stage4Round : (stage4Round x v.stop s).Safe x.dMaxLen known cells (Next.Either
      (fun s' known' cells' => Step v s s' known' cells' ∧ True)
      fun s' known' cells' => Window v s' known' cells') := by
  simp only [stage4Round]
  rw [safe_bind]
  refine window.reads (reads_stage4Behind window group inside) ?_
  rintro n (rfl | rfl | ⟨j, rfl, forward, dot⟩)
  · refine (safe_stage4Plain window groups group inside).imp ?_
    intro n known' cells' post
    cases n with
    | again s' => exact ⟨post, trivial⟩
    | leave s' => exact post
  · exact window
  · refine ⟨⟨window.jump (by omega) fun _ _ close => ?_, forward⟩, trivial⟩
    simp [dot] at close

end

end Rounds

section Stages

variable (staged : Staged x pos d known cells)

include staged

theorem Staged.limits_nonneg : 0 ≤ x.opts.groupingLimit ∧ 0 ≤ x.opts.groupsGroupingLimit := by
  rcases staged.scattered with limits | scattered
  · exact ⟨limits.1, limits.2.1⟩
  · exact ⟨scattered.groups.1, scattered.groups.2.1⟩

theorem safe_stage2Parsing : (stage2Parsing x d).Safe x.dMaxLen known cells (Staged x pos) := by
  simp only [stage2Parsing, safe_bind]
  refine (safe_stageLoop staged (fun s => do return .again (← stage2Round x s)) id (fun _ => True)
    ?_ rfl trivial).imp fun _ _ _ ended => ended.imp fun _ _ _ next => next.noted rfl rfl
  intro s known cells window _ inside
  rw [safe_bind]
  refine (safe_stage2Round window inside).imp ?_
  intro s' known' _ step
  exact ⟨step, trivial⟩

theorem safe_stage3Parsing : (stage3Parsing x d).Safe x.dMaxLen known cells (Staged x pos) := by
  have limit := staged.limits_nonneg.1
  unfold stage3Parsing
  split
  · exact staged
  · simp only [safe_bind]
    refine (safe_stageLoop staged _ Prod.fst (fun s => s.2 = true → 1 ≤ s.1.resCurPos) ?_ rfl
      (by simp)).imp fun _ _ _ ended => ended.imp fun _ _ _ next => next.noted rfl rfl
    intro s known cells window candidate inside
    exact safe_stage3Round window (by omega) inside candidate

theorem safe_stage4Parsing : (stage4Parsing x d).Safe x.dMaxLen known cells (Staged x pos) := by
  have limits := staged.limits_nonneg
  unfold stage4Parsing
  split
  · exact staged
  · simp only [safe_bind]
    refine (safe_stageLoop staged _ id (fun _ => True) ?_ rfl trivial).imp
      fun _ _ _ ended => ended.imp fun _ _ _ next => next.noted rfl rfl
    intro s known cells window _ inside
    exact safe_stage4Round window (by omega) (by omega) inside

end Stages

end Loops

end MockProxy.Tokenizer
