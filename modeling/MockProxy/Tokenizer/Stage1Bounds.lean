import MockProxy.Tokenizer.Lexing

/-!
# Stage 1 stays inside of the query and of the result buffer

Every round of stage 1 reads characters of the query only, writes inside of the buffer, and goes on
with a later character or with a state that is nearer to the next one. What it has written is
everything before its cursor, except for the byte it steps over after a line comment; in a query
without line comments it is where the scan of the query is (`Free`).
-/

namespace MockProxy.Tokenizer

open Scratch Prog

variable (x : Call)

section Reading

variable {x : Call} {s : SharedSt} {last : Int} {known : Set Int} {cells : Int → Byte} {i : Nat}

theorem peek_eq (within : i < x.qLen) : x.peek i = pure (x.char i) := by
  simp only [Call.peek, Call.char, List.getElem?_eq_getElem within]
  rfl

theorem andThen_peek {first : Bool} (test : Byte → Act Bool) (answer : Byte → Bool)
    (within : first → i < x.qLen)
    (tested : first → test (x.char i) = pure (answer (x.char i))) :
    andThen first (do test (← x.peek i)) = pure (first && answer (x.char i)) := by
  cases first with
  | false => rfl
  | true => simp [andThen, peek_eq (within rfl), tested]

/-- What `get_next_st` has seen at a position when it answers a state. -/
def Seen (x : Call) (i : Nat) (prev : Byte) : PSt → Prop
  | .noMarkFound => blockAt x i = false ∧ (dashAt x i ∨ isQuote (x.char i) = false)
  | .cmntType1 => blockAt x i
  | .cmntType2 => blockAt x i = false ∧ x.char i = '#'
  | .cmntType3 => blockAt x i = false ∧ dashAt x i
  | .literalString => isQuote (x.char i)
  | .literalNumber => isTokenChar prev ∧ isDigitChar (x.char i)
  | .replaceNull => x.char i = 'n' ∨ x.char i = 'N'

theorem getNextSt_seen (within : s.qCurPos < x.qLen) :
    ∃ st, getNextSt x s = pure st ∧ Seen x s.qCurPos s.prevChar st := by
  have fits := x.dMaxLen_le
  simp only [getNextSt, peek_eq within, pure_bind]
  rw [andThen_peek (fun c => pure (c == '*')) (· == '*') (by simp; omega) fun _ => rfl, pure_bind,
    andThen_peek _ (fun c => c == '-' && isSpaceChar (x.char (s.qCurPos + 2))) (by simp; omega)
      fun near => andThen_peek (fun c => pure (isSpaceChar c)) isSpaceChar
        (fun _ => by simp at near; omega) fun _ => rfl]
  simp only [pure_bind]
  split_ifs
  all_goals
    refine ⟨_, rfl, ?_⟩
    grind [Seen, blockAt, dashAt, isQuote]

def advanced (x : Call) (s : SharedSt) : SharedSt :=
  { s with
    prevChar := if s.keepPrevChar then s.prevChar else x.char s.qCurPos
    keepPrevChar := false
    qCurPos := s.qCurPos + 1 }

theorem incProcPos_eq (within : s.qCurPos < x.qLen) : incProcPos x s = pure (advanced x s) := by
  unfold incProcPos advanced
  split_ifs with keep
  · rfl
  · obtain ⟨⟩ := s
    simp only [Bool.not_eq_true] at keep
    subst keep
    simp [peek_eq within]

theorem copyNextChar_eq (within : s.qCurPos < x.qLen) :
    copyNextChar x s = (do
      set s.resCurPos (copied x.opts.lowercase (x.char s.qCurPos))
      return advanced x { s with resCurPos := s.resCurPos + 1 }) := by
  unfold copyNextChar
  rw [peek_eq within, pure_bind]
  congr 1
  funext _
  exact incProcPos_eq within

end Reading

/-- The whole buffer may be read, and the limits fit whatever it held. -/
def Covered (known : Set Int) : Prop :=
  FitLimits x ∧ ∀ i, 0 ≤ i → i ≤ x.dMaxLen → i ∈ known

abbrev Written (n : Int) (known : Set Int) : Prop := ∀ i, 0 ≤ i → i < n → i ∈ known

/-- A space stands before the cursor, unless nothing is written yet or the buffer is full. -/
abbrev Blank (n : Int) (cells : Int → Byte) : Prop :=
  n = 0 ∨ n = x.dMaxLen ∨ isSpaceChar (cells (n - 1))

/-- Where the scan of the query is when stage 1 is in a state. -/
def lexOf (s : SharedSt) (t : Stage1St) : Lex :=
  match s.st with
  | .cmntType1 => .comment s.prevChar t.cmntType1.isCmd
  | .literalString =>
    if t.literalStr.delimNum then .quoted t.literalStr.qStartPos t.literalStr.delimChar s.prevChar
    else .text
  | _ => .text

/-- Stage 1 is where the scan of the query is, and in no line comment. -/
structure Lexed (x : Call) (s : SharedSt) (t : Stage1St) : Prop where
  clear : Clear x (lexOf s t) s.qCurPos
  line : s.st ≠ .cmntType2 ∧ s.st ≠ .cmntType3
  string : s.st ≠ .literalString → t.literalStr.delimNum = false
  cmd : s.st ≠ .cmntType1 → t.cmntType1.isCmd = false
  quote : s.st = .literalString → t.literalStr.delimNum = false → isQuote (x.char s.qCurPos)
  null : s.st = .replaceNull → x.char s.qCurPos = 'n' ∨ x.char s.qCurPos = 'N'
  room : s.st = .noMarkFound ∨ s.st = .literalNumber ∨ s.resCurPos < x.dMaxLen ∨
    x.qLen ≤ s.qCurPos

def isParen (c : Byte) : Bool := c == '(' || c == ')'

/-- In the first `n` bytes no parenthesis is opened right behind one that is closed. -/
def Apart (cells : Int → Byte) (n : Int) : Prop :=
  ∀ i, 0 < i → i < n → ¬ (cells (i - 1) = ')' ∧ cells i = '(')

/-- What is written has no groups that follow each other directly, and the next character opens
none behind it. -/
structure Sparse (x : Call) (s : SharedSt) (t : Stage1St) (cells : Int → Byte) : Prop where
  groups : GroupsApart x
  behind : s.resCurPos ≤ s.qCurPos
  cmd : t.cmntType1.isCmd = false
  apart : Apart cells s.resCurPos
  next : s.st = .noMarkFound → 0 < s.resCurPos → cells (s.resCurPos - 1) = ')' →
    x.char s.qCurPos ≠ '('
  number : ∀ start, t.literalDigit.startPos = some start →
    ∀ i, start ≤ i → i < s.resCurPos → isParen (cells i) = false

/-- The state in a query without line comments. Where `prev_char` is a space, a space was written:
the removal of double spaces steps over no other byte. -/
structure Free (x : Call) (s : SharedSt) (t : Stage1St) (cells : Int → Byte) : Prop
    extends Lexed x s t where
  spaced : s.st = .noMarkFound ∨ s.st = .literalNumber → isSpaceChar s.prevChar →
    Blank x s.resCurPos cells
  sparse : FitLimits x ∨ Sparse x s t cells

/-- Stage 1 has just met the first digit of a number. -/
structure FirstDigit (x : Call) (s : SharedSt) (t : Stage1St) : Prop where
  fresh : t.literalDigit = {}
  token : isTokenChar s.prevChar
  digit : isDigitChar (x.char s.qCurPos)
  pre : s.resPrePos = s.resCurPos
  goes : stage1Goes x s

/-- Stage 1 is in a number that starts at `start`, with its cursor at `cur`. -/
structure InNumber (cur : Int) (digit : LiteralDigitSt) (start : Int) : Prop where
  started : digit = { firstDigit := false, startPos := some start }
  nonneg : 0 ≤ start
  before : start < cur

/-- The invariant of the loop of stage 1. -/
structure Stage1Inv (x : Call) (s : SharedSt) (t : Stage1St) (known : Set Int)
    (cells : Int → Byte) : Prop where
  cur : 0 ≤ s.resCurPos ∧ s.resCurPos ≤ x.dMaxLen
  pre : s.st = .literalString ∨ s.st = .replaceNull →
    0 ≤ s.resPrePos ∧ s.resPrePos ≤ s.resCurPos
  written : ∀ i, 0 ≤ i → i < s.resCurPos → i ∈ known
  keep : s.keepPrevChar = false
  number : s.st = .literalNumber → FirstDigit x s t ∨
    ∃ start, InNumber s.resCurPos t.literalDigit start
  outside : s.st ≠ .literalNumber → t.literalDigit = {}
  mode : Covered x known ∨ Free x s t cells

/-- How far a state is from consuming a character: a number may end without consuming one, and
the neutral state may go over to another one. -/
def rank (s : SharedSt) (t : Stage1St) : Nat :=
  match s.st with
  | .noMarkFound => 1
  | .literalNumber => if t.literalDigit.firstDigit then 0 else 2
  | _ => 0

/-- What one round of the loop achieves. -/
structure RoundPost (x : Call) (s : SharedSt) (t : Stage1St) (r : SharedSt × Stage1St)
    (known : Set Int) (cells : Int → Byte) : Prop where
  inv : Stage1Inv x r.1 r.2 known cells
  progress : s.qCurPos < r.1.qCurPos ∨
    (r.1.qCurPos = s.qCurPos ∧ r.1.resCurPos ≤ s.resCurPos ∧ rank r.1 r.2 < rank s t)

section Rounds

variable {x : Call} {s : SharedSt} {t : Stage1St} {known : Set Int} {cells : Int → Byte}

theorem stage1Goes_iff : stage1Goes x s ↔ s.resCurPos ≤ x.dMaxLen - 1 ∧ s.qCurPos < x.qLen := by
  simp [stage1Goes]

theorem Lexed.text (lexed : Lexed x s t)
    (st : s.st = .noMarkFound ∨ s.st = .literalNumber ∨ s.st = .replaceNull) :
    Clear x .text s.qCurPos := by
  rcases st with st | st | st <;> simpa [lexOf, st] using lexed.clear

section

variable (sparse : Sparse x s t cells)

include sparse

/-- The last byte becomes another one that is no parenthesis, behind what is kept of the others. -/
theorem Sparse.cut (behind : r.resCurPos ≤ r.qCurPos)
    (cmd : t'.cmntType1.isCmd = false) (back : r.resCurPos ≤ s.resCurPos + 1)
    (same : ∀ i < r.resCurPos - 1, cells' i = cells i)
    (last : isParen (cells' (r.resCurPos - 1)) = false)
    (number : ∀ start, t'.literalDigit.startPos = some start →
      ∀ i, start ≤ i → i < r.resCurPos - 1 → isParen (cells i) = false) : Sparse x r t' cells' where
  groups := sparse.groups
  behind := behind
  cmd := cmd
  apart := by
    intro i low high
    by_cases old : i < r.resCurPos - 1
    · rw [same i old, same (i - 1) (by omega)]
      exact sparse.apart i low (by omega)
    · obtain rfl : i = r.resCurPos - 1 := by omega
      rintro ⟨-, opens⟩
      simp [opens, isParen] at last
  next := by
    intro _ _ close
    simp [close, isParen] at last
  number := by
    intro start started i low high
    by_cases old : i < r.resCurPos - 1
    · rw [same i old]
      exact number start started i low old
    · obtain rfl : i = r.resCurPos - 1 := by omega
      exact last

/-- A mark replaces what was written since `res_pre_pos`. -/
theorem Sparse.mark
    (pre : s.resPrePos ≤ s.resCurPos) (cur : r.resCurPos = s.resPrePos + 1)
    (pos : s.qCurPos < r.qCurPos) (cmnt : t'.cmntType1 = t.cmntType1)
    (fresh : t'.literalDigit = {}) : Sparse x r t' (put cells s.resPrePos '?') := by
  have behind := sparse.behind
  exact sparse.cut (by omega) (cmnt ▸ sparse.cmd) (by omega) (fun i low => put_other (by omega))
    (by rw [cur, Int.add_sub_cancel, put_same]; rfl) (by simp [fresh])

/-- Nothing is written, and what comes next is not written behind a closing parenthesis. -/
theorem Sparse.skip (pos : s.qCurPos ≤ r.qCurPos) (cur : r.resCurPos = s.resCurPos)
    (cmd : t'.cmntType1.isCmd = false) (same : ∀ i < s.resCurPos, cells' i = cells i)
    (last : r.st = .noMarkFound → 0 < s.resCurPos → cells (s.resCurPos - 1) ≠ ')')
    (number : ∀ start, t'.literalDigit.startPos = some start →
      t.literalDigit.startPos = some start) : Sparse x r t' cells' where
  groups := sparse.groups
  behind := by
    have behind := sparse.behind
    omega
  cmd := cmd
  apart := by
    intro i low high
    rw [same i (by omega), same (i - 1) (by omega)]
    exact sparse.apart i low (by omega)
  next := by
    intro st some close
    rw [same _ (by omega), cur] at close
    exact absurd close (last st (by omega))
  number := by
    intro start started i low high
    rw [same i (by omega)]
    exact sparse.number start (number start started) i low (by omega)

end

/-- A parenthesis is copied as it is, and nothing else becomes one. -/
theorem copied_eq_paren {p c : Byte} (paren : p = '(' ∨ p = ')') :
    copied x.opts.lowercase c = p ↔ c = p := by
  have other : ¬ ('a' ≤ p ∨ 'A' ≤ p ∨ isSpaceChar p ∨ p = ' ') := by
    rcases paren with rfl | rfl <;> decide
  unfold copied
  split_ifs with space lower
  · exact ⟨fun blank => absurd blank.symm (by grind), fun same => absurd space (by grind)⟩
  · rcases tolower_cases c with same | ⟨low, upper⟩
    · rw [same]
    · exact ⟨fun same => absurd low (by grind), fun same => absurd upper (by grind)⟩
  · rfl

theorem isParen_copied (c : Byte) : isParen (copied x.opts.lowercase c) = isParen c := by
  rw [isParen, isParen, beq_eq_beq.mpr (copied_eq_paren (.inl rfl)),
    beq_eq_beq.mpr (copied_eq_paren (.inr rfl))]

/-- A character is copied behind the last byte. -/
theorem Sparse.copy {r : SharedSt} {cells' : Int → Byte} (sparse : Sparse x s t cells)
    (within : s.qCurPos < x.qLen) (fresh : t.literalDigit = {})
    (joined : s.st = .noMarkFound ∨ x.char s.qCurPos ≠ '(')
    (pos : r.qCurPos = s.qCurPos + 1) (cur : r.resCurPos = s.resCurPos + 1)
    (same : ∀ i < s.resCurPos, cells' i = cells i)
    (last : cells' s.resCurPos = copied x.opts.lowercase (x.char s.qCurPos)) :
    Sparse x r t cells' where
  groups := sparse.groups
  behind := by
    have behind := sparse.behind
    omega
  cmd := sparse.cmd
  apart := by
    intro i low high
    rw [same (i - 1) (by omega)]
    by_cases old : i < s.resCurPos
    · rw [same i old]
      exact sparse.apart i low old
    · obtain rfl : i = s.resCurPos := by omega
      rw [last, copied_eq_paren (.inl rfl)]
      rintro ⟨close, opens⟩
      exact joined.elim (fun st => sparse.next st low close opens) fun other => other opens
  next := by
    intro _ _ close
    rw [cur, Int.add_sub_cancel, last, copied_eq_paren (.inr rfl)] at close
    rw [pos]
    exact fun opens => sparse.groups.2.2.2.2 _ within ⟨close, opens⟩
  number := by simp [fresh]

theorem Free.enter (free : Free x s t cells) (goes : stage1Goes x s) (neutral : s.st = .noMarkFound)
    {r : SharedSt} (cur : r.resCurPos = s.resCurPos) (pos : r.qCurPos = s.qCurPos)
    (prev : r.prevChar = s.prevChar) (seen : Seen x s.qCurPos s.prevChar r.st)
    (other : r.st ≠ .noMarkFound) :
    Free x r t cells := by
  obtain ⟨room, within⟩ := stage1Goes_iff.mp goes
  have clear := free.text (.inl neutral)
  have string : t.literalStr.delimNum = false := free.string (by simp [neutral])
  have cmd : t.cmntType1.isCmd = false := free.cmd (by simp [neutral])
  have sparse : FitLimits x ∨ Sparse x r t cells := by
    refine free.sparse.imp_right fun sparse => ?_
    exact sparse.skip (le_of_eq pos.symm) cur cmd (fun _ _ => rfl) (fun st => absurd st other)
      fun _ => id
  refine ⟨⟨?_, ?_, fun _ => string, fun _ => cmd, fun quoted _ => ?_, fun null => ?_,
    .inr (.inr (.inl (by omega)))⟩, fun _ space => ?_, sparse⟩
  · rw [pos]
    cases found : r.st <;> rw [found] at seen <;> simp only [lexOf, found, string, cmd]
    · exact clear
    · exact clear.comment within seen
    all_goals exact clear
  · constructor
    · intro found
      rw [found] at seen
      exact (clear.open_ within seen.1).1 seen.2
    · intro found
      rw [found] at seen
      simpa [seen.2] using (clear.open_ within seen.1).2.1
  · rw [quoted] at seen
    exact pos ▸ seen
  · rw [null] at seen
    exact pos ▸ seen
  · rw [cur]
    exact free.spaced (.inl neutral) (prev ▸ space)

theorem Stage1Inv.enter (inv : Stage1Inv x s t known cells) (goes : stage1Goes x s)
    (neutral : s.st = .noMarkFound) (fresh : t.literalDigit = {}) {st : PSt}
    (seen : Seen x s.qCurPos s.prevChar st) (other : st ≠ .noMarkFound) :
    RoundPost x s t ({ s with resPrePos := s.resCurPos, st }, t) known cells := by
  refine ⟨⟨inv.cur, fun _ => ⟨inv.cur.1, le_rfl⟩, inv.written, inv.keep, ?_,
    fun _ => fresh, ?_⟩, .inr ⟨rfl, le_rfl, ?_⟩⟩
  · rintro rfl
    exact .inl ⟨fresh, seen.1, seen.2, rfl, goes⟩
  · exact inv.mode.imp_right fun free => free.enter goes neutral rfl rfl rfl seen other
  · simp only [rank]
    split <;> simp_all

theorem Free.neutral (st : s.st = .noMarkFound) (clear : Clear x .text s.qCurPos)
    (string : t.literalStr.delimNum = false) (cmd : t.cmntType1.isCmd = false)
    (spaced : isSpaceChar s.prevChar → Blank x s.resCurPos cells)
    (sparse : FitLimits x ∨ Sparse x s t cells) : Free x s t cells where
  clear := by simpa [lexOf, st] using clear
  line := by simp [st]
  string := fun _ => string
  cmd := fun _ => cmd
  quote := by simp [st]
  null := by simp [st]
  room := .inl st
  spaced := fun _ => spaced
  sparse := sparse

theorem Free.copying (free : Free x s t cells) (b : Bool) :
    Free x { s with copyNextChar := b } t cells :=
  ⟨{ __ := free.toLexed }, free.spaced, free.sparse.imp_right fun sparse => { __ := sparse }⟩

/-- The invariant in the neutral state. -/
theorem Stage1Inv.neutral (st : s.st = .noMarkFound) (fresh : t.literalDigit = {})
    (cur : 0 ≤ s.resCurPos ∧ s.resCurPos ≤ x.dMaxLen)
    (written : Written s.resCurPos known) (keep : s.keepPrevChar = false)
    (mode : Covered x known ∨ Free x s t cells) : Stage1Inv x s t known cells where
  cur := cur
  pre := by simp [st]
  written := written
  keep := keep
  number := by simp [st]
  outside := fun _ => fresh
  mode := mode

theorem written_insert {n m : Int} (written : Written n known) (next : m ≤ n + 1) :
    Written m (insert n known) := by
  intro i nonneg below
  by_cases last : i = n
  · exact .inl last
  · exact .inr (written i nonneg (by omega))

variable {r : SharedSt} {last f start : Int} {known' : Set Int} {cells' : Int → Byte} {i : Nat}
  {c : Byte}

theorem Covered.mono (more : known ⊆ known') (covered : Covered x known) : Covered x known' :=
  ⟨covered.1, fun i low high => more (covered.2 i low high)⟩

theorem Covered.insert (covered : Covered x known) (i : Int) : Covered x (insert i known) :=
  covered.mono (Set.subset_insert _ _)

theorem afterProcess_neutral (st : s.st = .noMarkFound) :
    afterProcess x s = pure { s with copyNextChar := true } := by
  simp [afterProcess, st]

theorem afterProcess_skip (st : s.st ≠ .noMarkFound) (skip : s.copyNextChar = false)
    (within : s.qCurPos < x.qLen) : afterProcess x s = pure (advanced x s) := by
  rw [afterProcess, if_neg st, skip]
  exact incProcPos_eq within

section

variable (inv : Stage1Inv x s t known cells) (st : s.st = .cmntType2 ∨ s.st = .cmntType3)

include inv st

theorem Stage1Inv.lineCmnt : Covered x known ∧ t.literalDigit = {} := by
  refine ⟨inv.mode.resolve_right fun line => ?_, inv.outside ?_⟩
  · exact st.elim line.line.1 line.line.2
  · rcases st with two | three <;> simp [*]

theorem lineCmnt_left (left : r.st = .noMarkFound) (cur : r.resCurPos = s.resCurPos)
    (pos : s.qCurPos < r.qCurPos) (keep : r.keepPrevChar = false) :
    RoundPost x s t (r, t) known cells := by
  obtain ⟨covered, fresh⟩ := inv.lineCmnt st
  refine ⟨Stage1Inv.neutral left fresh ?_ ?_ keep (.inl covered), .inl pos⟩
  · exact cur ▸ inv.cur
  · exact cur ▸ inv.written

end

attribute [local simp] advanced

theorem safe_lineCmnt (inv : Stage1Inv x s t known cells)
    (st : s.st = .cmntType2 ∨ s.st = .cmntType3) (skip : r.copyNextChar = false)
    (cur : r.resCurPos = s.resCurPos) (same : r.st = s.st) (pos : s.qCurPos ≤ r.qCurPos)
    (within : r.qCurPos < x.qLen) (keep : r.keepPrevChar = false) :
    (do return (← afterProcess x (← endLineCmnt x r), t) :
      Act (SharedSt × Stage1St)).Safe x.dMaxLen known cells (RoundPost x s t) := by
  obtain ⟨covered, fresh⟩ := inv.lineCmnt st
  simp only [endLineCmnt, peek_eq within, pure_bind]
  split_ifs with ended
  · exact lineCmnt_left inv st rfl cur (Nat.lt_succ_of_le pos) keep
  · rw [pure_bind, afterProcess_skip (by rcases st with two | three <;> simp [*]) skip within]
    refine ⟨⟨?_, ?_, ?_, rfl, ?_, fun _ => fresh, .inl covered⟩, .inl (Nat.lt_succ_of_le pos)⟩
    · exact cur ▸ inv.cur
    · rcases st with two | three <;> simp [*]
    · exact cur ▸ inv.written
    · rcases st with two | three <;> simp [*]

theorem safe_writeAll {i : Int} {cs : List Byte} (nonneg : 0 ≤ i)
    (fits : i + cs.length ≤ last + 1) : (writeAll i cs).Safe last known cells fun _ known' cells' =>
      (∀ j, i ≤ j → j < i + cs.length → j ∈ known') ∧
        (∀ j, (j < i ∨ i + cs.length ≤ j) → cells' j = cells j) ∧
        ∀ k (within : k < cs.length), cells' (i + k) = cs[k] := by
  induction cs generalizing i known cells with
  | nil =>
    refine ⟨fun j low high => ?_, fun _ _ => rfl, fun k within => absurd within (Nat.not_lt_zero _)⟩
    simp only [List.length_nil] at high
    omega
  | cons c cs ih =>
    simp only [List.length_cons] at fits ⊢
    refine ⟨by omega, (ih (by omega) (by push_cast at fits ⊢; omega)).grows.imp ?_⟩
    rintro _ known' cells' ⟨more, written, other, contents⟩
    refine ⟨fun j low high => ?_, fun j out => ?_, fun k within => ?_⟩
    · by_cases first : j = i
      · exact more (.inl first)
      · exact written j (by omega) (by omega)
    · rw [other j (by omega), put_other (by omega)]
    · cases k with
      | zero =>
        rw [other _ (by omega)]
        simp [put]
      | succ k =>
        rw [List.getElem_cons_succ, ← contents k (by omega)]
        congr 1
        omega

/-- What the cursor has passed is written: moving it over freshly written bytes keeps that. -/
theorem written_extend {n m : Int} (more : known ⊆ known') (written : Written n known)
    (new : ∀ i, n ≤ i → i < m → i ∈ known') : Written m known' := by
  intro i low high
  by_cases old : i < n
  · exact more (written i low old)
  · exact new i (by omega) high

theorem safe_copyCmnt {text : List Byte} (cur : 0 ≤ s.resCurPos ∧ s.resCurPos ≤ x.dMaxLen - 1)
    (written : Written s.resCurPos known) :
    (copyCmnt x s text).Safe x.dMaxLen known cells fun r known' cells' =>
      ∃ n, r = { s with resCurPos := n } ∧ s.resCurPos ≤ n ∧ n ≤ x.dMaxLen ∧
        Written n known' ∧ (text = [] → n = s.resCurPos ∧ cells' = cells) := by
  unfold copyCmnt
  split_ifs with empty
  · exact ⟨s.resCurPos, rfl, le_rfl, by omega, written, fun _ => ⟨rfl, rfl⟩⟩
  · dsimp only
    rw [List.isEmpty_iff] at empty
    have some : 0 < (text.take (x.dMaxLen - s.resCurPos).toNat).length := by
      rw [List.length_take]
      have := List.length_pos_iff.mpr empty
      omega
    have fits : (text.take (x.dMaxLen - s.resCurPos).toNat).length ≤ x.dMaxLen - s.resCurPos := by
      rw [List.length_take]
      omega
    rw [safe_bind]
    refine (safe_writeAll cur.1 (by omega)).grows.imp ?_
    rintro _ known' cells' ⟨more, new, -⟩
    have all := written_extend more written new
    simp only [safe_bind, safe_get]
    refine ⟨by omega, all _ (by omega) (by omega), ?_⟩
    split_ifs with space
    · simp only [Bool.and_eq_true, bne_iff_ne] at space
      simp only [safe_bind]
      exact ⟨by omega, _, rfl, by omega, by omega, written_insert all le_rfl,
        fun none => absurd none empty⟩
    · exact ⟨_, rfl, by omega, by omega, all, fun none => absurd none empty⟩

/-- Behind what it was, the text has at most a space more. -/
structure Imposed (x : Call) (cur : Int) (cells : Int → Byte) (n : Int) (cells' : Int → Byte) :
    Prop where
  within : cur ≤ n ∧ n ≤ cur + 1
  same : ∀ i < cur, cells' i = cells i
  blank : cur < x.dMaxLen → n = 0 ∨ isSpaceChar (cells' (n - 1))

theorem safe_imposeSpace (cur : 0 ≤ s.resCurPos ∧ s.resCurPos ≤ x.dMaxLen)
    (written : Written s.resCurPos known) :
    (imposeSpace x s).Safe x.dMaxLen known cells fun r known' cells' =>
      ∃ n, r = { s with resCurPos := n } ∧ s.resCurPos ≤ n ∧ n ≤ x.dMaxLen ∧
        Written n known' ∧ Blank x n cells' ∧ Imposed x s.resCurPos cells n cells' := by
  have stay : Blank x s.resCurPos cells →
      ∃ n, s = { s with resCurPos := n } ∧ s.resCurPos ≤ n ∧ n ≤ x.dMaxLen ∧
        Written n known ∧ Blank x n cells ∧ Imposed x s.resCurPos cells n cells := by
    intro ends
    refine ⟨s.resCurPos, rfl, le_rfl, cur.2, written, ends, ⟨le_rfl, by omega⟩, fun _ _ => rfl,
      fun room => ?_⟩
    exact ends.imp_right fun space => space.resolve_left (by omega)
  simp only [imposeSpace, safe_bind, safe_andThen, safe_ite, Bool.and_eq_true,
    Bool.and_eq_false_iff, bne_iff_ne, bne_eq_false_iff_eq]
  refine ⟨fun inner => ⟨by omega, written _ (by omega) (by omega), fun other => ?_, ?_⟩, ?_⟩
  · refine ⟨by omega, _, rfl, by omega, by omega, written_insert written le_rfl, ?_,
      ⟨by omega, le_rfl⟩, ?_, ?_⟩
    · simp [Blank, put]
    · exact fun i low => put_other (by omega)
    · simp [put]
  · intro blank
    have space : cells (s.resCurPos - 1) = ' ' := by simpa using blank
    exact stay (.inr (.inr (by simp [space])))
  · intro edge
    refine ⟨by simp, fun _ => stay ?_⟩
    exact edge.imp_right .inl

theorem Sparse.close {t' : Stage1St} (sparse : Sparse x s t cells) (nonneg : 0 ≤ s.resCurPos)
    (room : s.resCurPos < x.dMaxLen) (imposed : Imposed x s.resCurPos cells r.resCurPos cells')
    (pos : s.qCurPos < r.qCurPos) (cmd : t'.cmntType1.isCmd = false)
    (fresh : t'.literalDigit = {}) : Sparse x r t' cells' := by
  obtain ⟨within, same, blank⟩ := imposed
  have behind := sparse.behind
  by_cases none : r.resCurPos = 0
  · exact sparse.skip pos.le (by omega) cmd same (fun _ some => absurd none (by omega))
      (by simp [fresh])
  · refine sparse.cut (by omega) cmd within.2 (fun i low => same i (by omega)) ?_
      (by simp [fresh])
    have space := (blank room).resolve_left none
    simp only [isSpaceChar, Bool.or_eq_true, beq_iff_eq] at space
    rcases space with ((eq | eq) | eq) | eq <;> rw [eq] <;> rfl

theorem cmntText_plain {c1 : CmntType1St} (cmd : c1.isCmd = false)
    (plain : x.opts.keepComment = false) : cmntText x c1 = [] := by
  simp [cmntText, CmntType1St.kept, cmd, plain]

theorem isCmd_recordCmnt (c1 : CmntType1St) (c : Byte) :
    (recordCmnt x s c1 c).isCmd = c1.isCmd := by
  unfold recordCmnt
  dsimp only
  split_ifs <;> rfl

/-- What `openCmntType1` answers: it passes a mark that it meets, and leaves the comment where the
query is over. -/
theorem openCmntType1_cases (s : SharedSt) (c1 : CmntType1St) :
    (∃ pos c, openCmntType1 x s c1 = pure (false, { s with qCurPos := pos }, c) ∧
        s.qCurPos ≤ pos ∧ (pos = s.qCurPos ∨ pos < x.qLen) ∧
        lexComment x s.prevChar c1.isCmd s.qCurPos = some (lexInComment x s.prevChar c.isCmd pos) ∧
        (Plain x → c1.isCmd = false → c.isCmd = false)) ∨
      (∃ pos c,
        openCmntType1 x s c1 = pure (true, { s with qCurPos := pos, st := .noMarkFound }, c) ∧
        s.qCurPos < pos ∧ lexComment x s.prevChar c1.isCmd s.qCurPos = none) := by
  rw [openCmntType1, lexComment, andThen_peek _ (fun c => c == '/' && x.char (s.qCurPos + 1) == '*')
    (by simp; omega) fun near => andThen_peek (fun c => pure (c == '*')) (· == '*')
      (fun _ => by simp at near; omega) fun _ => rfl, pure_bind]
  by_cases here : cmntMarkAt x s.qCurPos
  · rw [if_pos here]
    simp only [cmntMarkAt, Bool.and_eq_true, decide_eq_true_eq, beq_iff_eq] at here
    rw [if_pos (by simpa using here), andThen_peek (fun c => pure (c == '!')) (· == '!')
      (by simp; omega) fun _ => rfl, cmntMark, peek_eq (by omega), pure_bind, peek_eq (by omega),
      pure_bind]
    have plain : Plain x → c1.isCmd = false →
        (c1.isCmd || (s.qCurPos + 2 != x.qLen && x.char (s.qCurPos + 2) == '!')) = false := by
      intro plain cmd
      have bang := plain.2 s.qCurPos (by omega)
      simp only [cmd, Bool.false_or, Bool.and_eq_false_iff, beq_eq_false_iff_ne]
      exact .inr fun mark => bang ⟨here.2.1, here.2.2, mark⟩
    simp only [pure_bind]
    generalize (c1.isCmd || (s.qCurPos + 2 != x.qLen && x.char (s.qCurPos + 2) == '!')) = isCmd
      at plain ⊢
    cases x.opts.keepComment
    all_goals
      simp only [Bool.false_eq_true, if_true, if_false]
      by_cases past : s.qCurPos + 2 + isCmd.toNat + 1 ≥ x.qLen
      · exact .inr ⟨s.qCurPos + 2 + isCmd.toNat, _, if_pos past, by omega, if_pos past⟩
      · exact .inl ⟨s.qCurPos + 2 + isCmd.toNat, _, if_neg past, by omega, .inr (by omega),
          if_neg past, plain⟩
  · rw [if_neg here]
    exact .inl ⟨_, _, if_neg here, le_rfl, .inl rfl, rfl, fun _ => id⟩

/-- A string literal goes on behind a character, which may have been its last one. -/
theorem string_goes (inv : Stage1Inv x s t known cells) (st : s.st = .literalString)
    {str : LiteralStringSt} (same : r.st = s.st) (pos : r.qCurPos = s.qCurPos)
    (pre : 0 ≤ r.resPrePos ∧ r.resPrePos ≤ r.resCurPos) (full : r.resCurPos ≤ x.dMaxLen)
    (room : r.resCurPos < x.dMaxLen ∨ x.qLen ≤ s.qCurPos + 1) (more : known ⊆ known')
    (written : Written r.resCurPos known') (started : str.delimNum)
    (clear : Free x s t cells →
      Clear x (.quoted str.qStartPos str.delimChar (advanced x r).prevChar) (s.qCurPos + 1))
    (sparse : Sparse x s t cells → Sparse x (advanced x r) { t with literalStr := str } cells') :
    RoundPost x s t (advanced x r, { t with literalStr := str }) known' cells' := by
  have quoted : r.st = .literalString := same.trans st
  refine ⟨⟨⟨pre.1.trans pre.2, full⟩, fun _ => pre, written, rfl, by simp [quoted],
    fun _ => inv.outside (by simp [st]), ?_⟩, .inl (by simp [pos])⟩
  refine inv.mode.imp (Covered.mono more) fun free => ⟨⟨?_, by simp [quoted], by simp [quoted],
    fun _ => free.cmd (by simp [st]), by simp [started], by simp [quoted], ?_⟩, by simp [quoted],
    free.sparse.imp_right sparse⟩
  · simpa [lexOf, quoted, started, pos] using clear free
  · exact .inr (.inr (by simpa [pos] using room))

theorem closesString_eq (within : s.qCurPos < x.qLen) (delim c : Byte) :
    closesString x s.qCurPos delim c =
      pure (c == delim && (x.qLen = s.qCurPos + 1 || x.char (s.qCurPos + 1) != delim)) := by
  unfold closesString
  by_cases final : x.qLen = s.qCurPos + 1
  · cases c == delim <;> simp [andThen, final]
  · rw [peek_eq (by omega)]
    cases c == delim <;> simp [andThen, final]

theorem nullAt_cases (within : i + 4 ≤ x.qLen) :
    ∃ b, nullAt x i = pure b ∧ (b → Clear x .text i → Clear x .text (i + 4)) := by
  have both (b c : Bool) : andThen b (pure c : Act Bool) = pure (b && c) := by cases b <;> rfl
  have plain {j : Nat} (a b : Byte) (inside : j < x.qLen) (char : x.char j = a ∨ x.char j = b)
      (other : (a ≠ '/' ∧ isQuote a = false) ∧ b ≠ '/' ∧ isQuote b = false)
      (clear : Clear x .text j) : Clear x .text (j + 1) := by
    rcases char with char | char
    · exact clear.plain inside (char ▸ other.1.1) (char ▸ other.1.2)
    · exact clear.plain inside (char ▸ other.2.1) (char ▸ other.2.2)
  unfold nullAt
  rw [peek_eq (by omega), peek_eq (by omega), peek_eq (by omega), peek_eq (by omega)]
  simp only [pure_bind, both]
  refine ⟨_, rfl, fun null clear => ?_⟩
  simp only [Bool.and_eq_true, Bool.or_eq_true, beq_iff_eq] at null
  obtain ⟨first, second, third, last⟩ := null
  exact plain _ _ (by omega) last (by decide) <| plain _ _ (by omega) third (by decide) <|
    plain _ _ (by omega) second (by decide) <| plain _ _ (by omega) first (by decide) clear

theorem nullFound_cases (i : Nat) : ∃ b, nullFound x i = pure b ∧
    (b → i + 4 ≤ x.qLen ∧ (Clear x .text i → Clear x .text (i + 4))) := by
  unfold nullFound
  split_ifs with long exact
  · obtain ⟨b, eq, null⟩ := nullAt_cases (x := x) long.le
    rw [eq, pure_bind, peek_eq long]
    refine ⟨b && isTokenChar (x.char (i + 4)), by cases b <;> rfl, fun both => ⟨long.le, ?_⟩⟩
    exact null (Bool.and_eq_true_iff.mp both).1
  · obtain ⟨b, eq, null⟩ := nullAt_cases exact.ge
    exact ⟨b, eq, fun found => ⟨exact.ge, null found⟩⟩
  · exact ⟨false, rfl, by simp⟩

theorem reads_isFloatAt {P : Bool → Prop} (inside : f ≤ last) (post : ∀ b, P b) :
    (isFloatAt f c).Reads last cells P := by
  unfold isFloatAt
  split
  · exact post true
  · simp only [reads_andThen, decide_eq_true_eq]
    exact ⟨fun pos => ⟨by omega, post _⟩, fun _ => post false⟩

theorem reads_isHexMarkAt {P : Bool → Prop} (inside : f ≤ last)
    (post : ∀ b, (b = true → isDigitChar c = false) → P b) :
    (isHexMarkAt f i c).Reads last cells P := by
  simp only [isHexMarkAt, reads_andThen, Bool.and_eq_true, decide_eq_true_eq]
  refine ⟨fun pos => ⟨by omega, post _ ?_⟩, fun _ => post false (by simp)⟩
  simp only [Bool.and_eq_true, Bool.or_eq_true, beq_iff_eq]
  rintro ⟨-, rfl | rfl⟩ <;> rfl

theorem reads_digitStringFrom {stop : Int} {fuel : Nat} {isHex : Bool} (nonneg : 0 ≤ f)
    (ordered : f ≤ stop) (fits : stop ≤ last + 1) (enough : stop - f < fuel) :
    (digitStringFrom stop fuel f i isHex).Reads last cells fun r =>
      (∀ j, f ≤ j → j < stop → isDigitChar (cells j)) → isHex = false → r := by
  induction fuel generalizing f i isHex with
  | zero => omega
  | succ fuel ih =>
    unfold digitStringFrom
    split
    · exact fun _ _ => rfl
    · have again : ∀ i isHex, (digitStringFrom stop fuel (f + 1) i isHex).Reads last cells _ :=
        fun i isHex => ih (by omega) (by omega) (by omega)
      have here : (∀ j, f ≤ j → j < stop → isDigitChar (cells j)) → isDigitChar (cells f) :=
        fun digits => digits f le_rfl (by omega)
      simp only [reads_bind]
      refine ⟨by omega, reads_isFloatAt (by omega) fun isFloat => ?_⟩
      refine reads_isHexMarkAt (by omega) fun mark isMark => ?_
      split_ifs with marked other end_
      · exact (again _ _).imp fun r _ digits => absurd (here digits) (by simp [isMark marked])
      · intro digits
        simp [here digits] at other
      · rintro - rfl
        simp at end_
      · exact (again _ _).imp fun r post digits => post fun j low => digits j (by omega)

theorem stage1Round_literalNumber (st : s.st = .literalNumber) :
    stage1Round x (s, t) = (do
      let (r, digit) ← processLiteralDigit x { s with copyNextChar := true } t.literalDigit
      return (← afterProcess x r, { t with literalDigit := rearmed r digit })) := by
  simp [stage1Round, st]

theorem afterProcess_copy (st : s.st ≠ .noMarkFound) (copy : s.copyNextChar) :
    afterProcess x s = copyNextChar x s := by
  rw [afterProcess, if_neg st, if_pos copy]

theorem isTokenChar_of_digit (digit : isDigitChar c) : isTokenChar c = false := by
  simp [isTokenChar, isNormalChar, digit]

/-- The characters that number literals do not have and that matter outside of them. -/
def isSpecial (c : Byte) : Bool := isParen c || isQuote c || c == '/' || isSpaceChar c

theorem token_of_special (special : isSpecial c) :
    isTokenChar c ∧ c ≠ '.' ∧ c ≠ '-' ∧ c ≠ '+' := by
  simp only [isSpecial, isParen, isQuote, isSpaceChar, Bool.or_eq_true, beq_iff_eq] at special
  rcases special with (((rfl | rfl) | (rfl | rfl)) | rfl) | (((rfl | rfl) | rfl) | rfl) <;> decide

theorem plain_of_normal (normal : isTokenChar c = false) : isSpecial c = false := by
  by_contra special
  simp [(token_of_special (by simpa using special)).1] at normal

theorem plain_of_going (going : endsNumber x s c = false) : isSpecial c = false := by
  by_contra special
  have token := token_of_special (by simpa using special)
  simp [endsNumber, token] at going

theorem Free.congr (free : Free x s t cells) (st : s.st ≠ .noMarkFound)
    (same : ∀ i < s.resCurPos, cells' i = cells i) : Free x s t cells' where
  __ := free.toLexed
  spaced := by
    intro text space
    rw [Blank, same _ (by omega)]
    exact free.spaced text space
  sparse := by
    refine free.sparse.imp_right fun sparse => ?_
    exact sparse.skip le_rfl rfl sparse.cmd same (fun text => absurd text st) fun _ => id

/-- A number goes on behind a character, and its last byte so far is at `n - 1`. -/
theorem number_goes {n : Int} (mode : Covered x known' ∨ Free x s t cells)
    (st : s.st = .literalNumber) (within : s.qCurPos < x.qLen) (keep : s.keepPrevChar = false)
    (plain : isSpecial (x.char s.qCurPos) = false) (nonneg : 0 ≤ start) (before : start < n)
    (back : n ≤ s.resCurPos + 1) (full : n ≤ x.dMaxLen) (written : Written n known')
    (same : ∀ i < n - 1, cells' i = cells i) (last : isParen (cells' (n - 1)) = false)
    (digits : t.literalDigit.startPos = some start ∨ n - 1 ≤ start) (copy : Bool) (pre : Int)
    (prev : Byte) : RoundPost x s t
      (advanced x { s with
          copyNextChar := copy, resCurPos := n, resPrePos := pre, prevChar := prev },
        { t with literalDigit := { firstDigit := false, startPos := some start } })
      known' cells' := by
  refine ⟨⟨⟨by simp only [advanced]; omega, full⟩, by simp [st], written, rfl,
    fun _ => .inr ⟨start, rfl, nonneg, before⟩, fun other => absurd st other, ?_⟩,
    .inl (lt_add_one _)⟩
  refine mode.imp_right fun free => ?_
  simp only [isSpecial, Bool.or_eq_false_iff, beq_eq_false_iff_ne] at plain
  have clear := free.text (.inr (.inl st))
  refine ⟨⟨?_, by simp [st], fun _ => free.string (by simp [st]), fun _ => free.cmd (by simp [st]),
    by simp [st], by simp [st], .inr (.inl st)⟩, ?_, free.sparse.imp_right fun sparse => ?_⟩
  · simpa [lexOf, st] using clear.plain within plain.1.2 plain.1.1.2
  · simp [keep, plain.2]
  · have behind := sparse.behind
    refine sparse.cut (by simp only [advanced]; omega) sparse.cmd back same last ?_
    rintro _ ⟨⟩ i low high
    simp only [advanced] at high
    rcases digits with running | fresh
    · exact sparse.number start running i low (by omega)
    · omega

theorem safe_copyDigit (mode : Covered x known ∨ Free x s t cells)
    (room : s.resCurPos ≤ x.dMaxLen - 1) (within : s.qCurPos < x.qLen) (st : s.st = .literalNumber)
    (nonneg : 0 ≤ start) (before : start ≤ s.resCurPos)
    (digits : t.literalDigit.startPos = some start ∨ start = s.resCurPos)
    (written : Written s.resCurPos known) (keep : s.keepPrevChar = false)
    (plain : isSpecial (x.char s.qCurPos) = false) (same : r = { s with copyNextChar := true }) :
    (afterProcess x r).Safe x.dMaxLen known cells fun r' known cells =>
      RoundPost x s t (r', { t with
        literalDigit := rearmed r { firstDigit := false, startPos := some start } })
        known cells := by
  subst same
  rw [afterProcess_copy (by simp [st]) rfl,
    copyNextChar_eq (s := { s with copyNextChar := true }) within]
  simp only [safe_bind]
  refine ⟨⟨by omega, by omega⟩, ?_⟩
  rw [rearmed, if_neg (by simp [st])]
  refine number_goes (mode.imp_left fun covered => covered.insert _) st within keep plain nonneg
    (by omega) le_rfl (by omega) (written_insert written le_rfl)
    (fun i low => put_other (by omega)) ?_
    (digits.imp_right fun fresh => by omega) true _ _
  simp only [isSpecial, Bool.or_eq_false_iff] at plain
  simp [put, isParen_copied, plain]

theorem startDigits_first {d : LiteralDigitSt} (within : s.qCurPos < x.qLen)
    (fresh : d.firstDigit) (token : isTokenChar s.prevChar)
    (digit : isDigitChar (x.char s.qCurPos)) :
    startDigits x s d = (do
      set s.resCurPos (x.char s.qCurPos)
      return { firstDigit := false, startPos := some s.resPrePos }) := by
  rw [startDigits, peek_eq within, pure_bind, if_pos (by simp [fresh, token, digit])]

theorem startDigits_later {d : LiteralDigitSt} (within : s.qCurPos < x.qLen)
    (running : d.firstDigit = false) : startDigits x s d = pure d := by
  rw [startDigits, peek_eq within, pure_bind, if_neg (by simp [running])]

theorem number_left (inv : Stage1Inv x s t known cells) (st : s.st = .literalNumber)
    (inside : InNumber s.resCurPos t.literalDigit start) (neutral : r.st = .noMarkFound)
    (cur : 0 ≤ r.resCurPos ∧ r.resCurPos ≤ s.resCurPos) (pos : r.qCurPos = s.qCurPos)
    (keep : r.keepPrevChar = false) (more : known ⊆ known')
    (spaced : Free x s t cells → isSpaceChar r.prevChar → Blank x r.resCurPos cells')
    (sparse : Sparse x s t cells →
      Sparse x { r with copyNextChar := true } { t with literalDigit := {} } cells') :
    RoundPost x s t ({ r with copyNextChar := true }, { t with literalDigit := {} })
      known' cells' := by
  have full := inv.cur.2
  refine ⟨?_, .inr ⟨pos, cur.2, ?_⟩⟩
  · refine Stage1Inv.neutral neutral rfl ⟨cur.1, by dsimp only; omega⟩ ?_ keep ?_
    · intro i low high
      exact more (inv.written i low (by dsimp only at high; omega))
    · refine inv.mode.imp (Covered.mono more) fun free => Free.neutral neutral ?_
        (free.string (by simp [st])) (free.cmd (by simp [st])) (spaced free)
        (free.sparse.imp_right sparse)
      exact pos ▸ free.text (.inr (.inl st))
  · simp [rank, neutral, st, inside.started]

/-- A character that is copied outside of literals and comments, or one that is no `NULL`. -/
theorem Free.text_next (free : Free x s t cells) (within : s.qCurPos < x.qLen)
    (text : (s.st = .noMarkFound ∧ Seen x s.qCurPos s.prevChar .noMarkFound) ∨
      s.st = .replaceNull) :
    Clear x .text (s.qCurPos + 1) ∧ t.literalStr.delimNum = false ∧ t.cmntType1.isCmd = false := by
  rcases text with ⟨st, block, other⟩ | st
  · refine ⟨?_, free.string (by simp [st]), free.cmd (by simp [st])⟩
    obtain ⟨-, dash, next⟩ := (free.text (.inl st)).open_ within block
    rwa [if_neg (by simpa [dash] using other)] at next
  · refine ⟨?_, free.string (by simp [st]), free.cmd (by simp [st])⟩
    rcases free.null st with null | null
    all_goals
      exact (free.text (.inr (.inr st))).plain within (by simp [null]) (by simp [null, isQuote])

section Safe

variable (inv : Stage1Inv x s t known cells) (within : s.qCurPos < x.qLen)

include inv within

attribute [local simp] advanced

theorem safe_cmntType2 (st : s.st = .cmntType2) :
    (stage1Round x (s, t)).Safe x.dMaxLen known cells (RoundPost x s t) := by
  simp only [stage1Round, st, processCmntType2, peek_eq within, pure_bind]
  split_ifs with mark past
  · exact lineCmnt_left inv (.inl st) rfl rfl (lt_add_one _) inv.keep
  · simp only [Bool.and_eq_true, decide_eq_true_eq] at mark
    exact safe_lineCmnt inv (.inl st) rfl rfl st.symm (Nat.le_succ _) mark.2 inv.keep
  · exact safe_lineCmnt inv (.inl st) rfl rfl st.symm le_rfl within inv.keep

theorem safe_cmntType3 (st : s.st = .cmntType3) :
    (stage1Round x (s, t)).Safe x.dMaxLen known cells (RoundPost x s t) := by
  simp only [stage1Round, st, processCmntType3]
  rw [andThen_peek _ (fun c => c == '-' && (x.char (s.qCurPos + 1) == '-' &&
      isSpaceChar (x.char (s.qCurPos + 2)))) (by simp; omega) fun near => andThen_peek _ (fun c =>
      c == '-' && isSpaceChar (x.char (s.qCurPos + 2))) (fun _ => by simp at near; omega) fun _ =>
      andThen_peek (fun c => pure (isSpaceChar c)) isSpaceChar (fun _ => by simp at near; omega)
        fun _ => rfl, pure_bind]
  split_ifs with mark past
  · exact lineCmnt_left inv (.inr st) rfl rfl (by dsimp only; omega) inv.keep
  · simp only [Bool.and_eq_true, decide_eq_true_eq] at mark
    exact safe_lineCmnt inv (.inr st) rfl rfl st.symm (by dsimp only; omega) (by dsimp only; omega)
      inv.keep
  · exact safe_lineCmnt inv (.inr st) rfl rfl st.symm le_rfl within inv.keep

variable (room : s.resCurPos ≤ x.dMaxLen - 1)

include room

theorem safe_copy (fresh : t.literalDigit = {})
    (text : (s.st = .noMarkFound ∧ Seen x s.qCurPos s.prevChar .noMarkFound) ∨ s.st = .replaceNull)
    (st : r.st = .noMarkFound) (cur : r.resCurPos = s.resCurPos) (pos : r.qCurPos = s.qCurPos)
    (keep : r.keepPrevChar = false) :
    (copyNextChar x r).Safe x.dMaxLen known cells fun r known cells =>
      r.st = .noMarkFound ∧ RoundPost x s t (r, t) known cells := by
  have nonneg := inv.cur.1
  rw [copyNextChar_eq (by omega)]
  refine ⟨by omega, st, ?_, .inl (by simp [pos])⟩
  refine Stage1Inv.neutral st fresh ?_ ?_ rfl ?_
  · simp only [advanced]
    omega
  · simp only [cur]
    exact written_insert inv.written le_rfl
  · refine inv.mode.imp (fun covered => covered.insert _) fun free => ?_
    obtain ⟨clear, string, cmd⟩ := free.text_next within text
    refine Free.neutral st (by simpa [pos] using clear) string cmd ?_
      (free.sparse.imp_right fun sparse => ?_)
    · intro space
      simp only [advanced, keep, Bool.false_eq_true, if_false] at space
      right
      simp [put, copied, space]
    · refine sparse.copy within fresh (text.imp And.left fun null => ?_) (by simp [pos])
        (by simp [cur]) (fun i low => put_other (by omega)) (by rw [← cur, put_same, pos])
      rcases free.null null with char | char <;> simp [char]

omit within in
/-- A second space in a row: a space written before it is kept, another byte is stepped over. -/
theorem safe_doubleSpace (neutral : s.st = .noMarkFound) (fresh : t.literalDigit = {})
    (later : s.resCurPos ≠ 0) (space : isSpaceChar s.prevChar)
    (next : Free x s t cells → Clear x .text (s.qCurPos + 1))
    (same : r = { s with resPrePos := s.resCurPos, st := .noMarkFound }) :
    (do
      let r := if isSpaceChar (← get (r.resCurPos - 1)) then r
        else { r with resCurPos := r.resCurPos + 1 }
      set r.resCurPos ' '
      return { r with prevChar := ' ', qCurPos := r.qCurPos + 1 } : Act SharedSt).Safe
        x.dMaxLen known cells fun r known cells => RoundPost x s t (r, t) known cells := by
  subst same
  obtain ⟨nonneg, full⟩ := inv.cur
  have more : 0 ≤ s.resCurPos + 1 ∧ s.resCurPos + 1 ≤ x.dMaxLen := by omega
  simp only [safe_bind, safe_get]
  refine ⟨⟨by omega, by omega⟩, inv.written _ (by omega) (by omega), ?_⟩
  have blank : Free x s t cells → isSpaceChar (cells (s.resCurPos - 1)) := by
    intro free
    exact ((free.spaced (.inl neutral) space).resolve_left later).resolve_left (by omega)
  split_ifs with written
  · refine ⟨inv.cur, ?_, .inl (lt_add_one _)⟩
    refine Stage1Inv.neutral rfl fresh inv.cur ?_ inv.keep ?_
    · exact written_insert inv.written (Int.le_add_one le_rfl)
    · refine inv.mode.imp (fun covered => covered.insert _) fun free => ?_
      have last : put cells s.resCurPos ' ' (s.resCurPos - 1) = cells (s.resCurPos - 1) :=
        put_other (by omega)
      refine Free.neutral rfl (next free) (free.string (by simp [neutral]))
        (free.cmd (by simp [neutral])) (fun _ => .inr (.inr ?_))
        (free.sparse.imp_right fun sparse => ?_)
      · exact last ▸ written
      · refine sparse.skip (Nat.le_succ _) rfl sparse.cmd (fun i low => put_other ?_) ?_
          fun _ => id
        · dsimp only
          omega
        · intro _ _ close
          simp [close, isSpaceChar] at written
  · have covered : Covered x known := inv.mode.resolve_right fun free => written (blank free)
    refine ⟨more, ?_, .inl (lt_add_one _)⟩
    refine Stage1Inv.neutral rfl fresh more ?_ inv.keep (.inl (covered.insert _))
    intro i low high
    exact (covered.insert _).2 i low (by dsimp only at high; omega)

theorem safe_neutral (neutral : s.st = .noMarkFound) :
    (stage1Round x (s, t)).Safe x.dMaxLen known cells (RoundPost x s t) := by
  have fresh : t.literalDigit = {} := inv.outside (by simp [neutral])
  simp only [stage1Round, neutral]
  obtain ⟨st, answered, stays⟩ :=
    getNextSt_seen (s := { s with resPrePos := s.resCurPos, st := .noMarkFound }) within
  rw [answered, pure_bind]
  split_ifs with other
  · exact inv.enter (stage1Goes_iff.mpr ⟨room, within⟩) neutral fresh stays other
  · obtain rfl := Decidable.not_not.mp other
    simp only [processNoMark, peek_eq within, pure_bind, safe_bind]
    split_ifs with leading double
    · refine ⟨?_, .inl (lt_add_one _)⟩
      refine Stage1Inv.neutral rfl fresh inv.cur inv.written inv.keep ?_
      refine inv.mode.imp_right fun free => ?_
      simp only [Bool.and_eq_true, beq_iff_eq] at leading
      obtain ⟨clear, string, cmd⟩ := free.text_next within (.inl ⟨neutral, stays⟩)
      refine Free.neutral rfl clear string cmd (free.spaced (.inl neutral))
        (free.sparse.imp_right fun sparse => ?_)
      exact sparse.skip (Nat.le_succ _) rfl cmd (fun _ _ => rfl)
        (by simp [leading.1]) fun _ => id
    · simp only [Bool.and_eq_true, beq_iff_eq] at leading double
      refine safe_doubleSpace inv room neutral fresh ?_ double.1 (fun free => ?_) rfl
      · intro start
        exact leading ⟨start, double.2⟩
      · exact (free.text_next within (.inl ⟨neutral, stays⟩)).1
    · have copy := safe_copy (r := { s with resPrePos := s.resCurPos, st := .noMarkFound }) inv
        within room fresh (.inl ⟨neutral, stays⟩) rfl rfl rfl inv.keep
      refine copy.imp ?_
      intro r known cells copied
      exact copied.2

theorem safe_cmntType1 (st : s.st = .cmntType1) :
    (stage1Round x (s, t)).Safe x.dMaxLen known cells (RoundPost x s t) := by
  have fresh : t.literalDigit = {} := inv.outside (by simp [st])
  have scan : Free x s t cells → ∃ lex' pos,
      lexComment x s.prevChar t.cmntType1.isCmd s.qCurPos = some (lex', pos) ∧
        Clear x lex' pos := by
    intro free
    simpa only [lexOf, st, lexStep] using free.clear.step within
  simp only [stage1Round, st, processCmntType1]
  rcases openCmntType1_cases { s with st := .cmntType1, copyNextChar := false } t.cmntType1 with
    ⟨pos, c1, eq, later, bound, lexed, isCmd⟩ | ⟨pos, c1, eq, later, ends⟩
  · have here : pos < x.qLen := by
      rcases bound with same | near
      · exact same ▸ within
      · exact near
    have clear : Free x s t cells →
        Clear x (lexInComment x s.prevChar c1.isCmd pos).1 (pos + 1) := by
      intro free
      obtain ⟨lex', pos', found, clear⟩ := scan free
      rw [lexed] at found
      cases found
      exact clear
    rw [eq]
    simp only [Bool.false_eq_true, if_false, peek_eq here, pure_bind]
    split
    next closes =>
      rw [bind_assoc, safe_bind]
      have cur := inv.cur.1
      refine (safe_copyCmnt
        (s := { s with st := .cmntType1, copyNextChar := false, qCurPos := pos })
        ⟨cur, room⟩ inv.written).grows.imp ?_
      rintro r known₁ cells₁ ⟨more₁, m, rfl, forward, fits, written, empty⟩
      dsimp only at forward empty
      rw [bind_assoc, safe_bind]
      refine (safe_imposeSpace ⟨by dsimp only; omega, fits⟩ written).grows.imp ?_
      rintro r known₂ cells₂ ⟨more₂, n, rfl, further, full, written, ends, imposed⟩
      refine ⟨?_, .inl (Nat.lt_succ_of_le later)⟩
      refine Stage1Inv.neutral rfl fresh ⟨by dsimp only at further ⊢; omega, full⟩
        written inv.keep ?_
      refine inv.mode.imp (Covered.mono (more₁.trans more₂)) fun free => ?_
      refine Free.neutral rfl ?_ (free.string (by simp [st])) rfl (fun _ => ends)
        (free.sparse.imp_right fun sparse => ?_)
      · simpa [lexInComment, closes] using clear free
      · have plain := sparse.groups.2.2.2.1
        obtain ⟨rfl, rfl⟩ := empty
          (cmntText_plain ((isCmd_recordCmnt _ _).trans (isCmd plain sparse.cmd)) plain.1)
        exact sparse.close cur (by omega) imposed (Nat.lt_succ_of_le later) rfl fresh
    next goes =>
      rw [pure_bind]
      rw [afterProcess_skip (by simp) rfl here]
      refine ⟨⟨inv.cur, by simp, inv.written, rfl, by simp,
        fun _ => fresh, ?_⟩, .inl (Nat.lt_succ_of_le later)⟩
      refine inv.mode.imp_right fun free => ?_
      refine ⟨⟨?_, by simp, fun _ => free.string (by simp [st]), by simp, by simp, by simp,
        .inr (.inr (.inl (by simp only [advanced]; omega)))⟩, by simp,
        free.sparse.imp_right fun sparse => ?_⟩
      · simpa [lexOf, lexInComment, goes, inv.keep, isCmd_recordCmnt] using clear free
      · refine sparse.skip (Nat.le_succ_of_le later) rfl ?_ (fun _ _ => rfl)
          (by simp) fun _ => id
        exact (isCmd_recordCmnt _ _).trans (isCmd sparse.groups.2.2.2.1 sparse.cmd)
  · rw [eq]
    refine ⟨?_, .inl later⟩
    refine Stage1Inv.neutral rfl fresh inv.cur inv.written inv.keep (.inl ?_)
    refine inv.mode.resolve_right fun free => ?_
    obtain ⟨lex', pos', found, -⟩ := scan free
    rw [ends] at found
    cases found

theorem safe_replaceString (st : s.st = .literalString) (started : t.literalStr.delimNum)
    (closes : Free x s t cells → Clear x .text (s.qCurPos + 1))
    (same : r = { s with copyNextChar := false, st := .literalString }) :
    (do
      let (r, str) ← replaceString x r t.literalStr
      return (← afterProcess x r, { t with literalStr := str }) :
        Act (SharedSt × Stage1St)).Safe x.dMaxLen known cells (RoundPost x s t) := by
  subst same
  obtain ⟨low, high⟩ := inv.pre (.inl st)
  have fresh : t.literalDigit = {} := inv.outside (by simp [st])
  have written : Written (s.resPrePos + 1) (insert s.resPrePos known) :=
    written_insert (fun i first below => inv.written i first (by omega)) le_rfl
  unfold replaceString
  simp only [safe_bind, safe_set]
  refine ⟨⟨low, by omega⟩, ?_⟩
  split_ifs with final
  · rw [safe_pure, afterProcess_skip (by simp) rfl (by exact within)]
    exact string_goes inv st st.symm rfl ⟨low, by dsimp only; omega⟩ (by dsimp only; omega)
      (.inr final.le) (Set.subset_insert _ _) written started (fun _ => Clear.ended final.le)
      fun sparse => sparse.mark high rfl (lt_add_one _) rfl fresh
  · rw [safe_pure]
    refine ⟨?_, .inl (lt_add_one _)⟩
    refine Stage1Inv.neutral rfl fresh ⟨by dsimp only; omega, by dsimp only; omega⟩ written
      inv.keep ?_
    refine inv.mode.imp (fun covered => covered.insert _) fun free => ?_
    exact Free.neutral rfl (closes free) rfl (free.cmd (by simp [st])) (by simp [nul, isSpaceChar])
      (free.sparse.imp_right fun sparse => sparse.mark high rfl (lt_add_one _) rfl fresh)

theorem safe_literalString (st : s.st = .literalString) :
    (stage1Round x (s, t)).Safe x.dMaxLen known cells (RoundPost x s t) := by
  have skip : ∀ (k : Bool) (p : Byte) (str : LiteralStringSt), str.delimNum → (Free x s t cells →
      Clear x (.quoted str.qStartPos str.delimChar (if k then p else x.char s.qCurPos))
        (s.qCurPos + 1)) →
      (do return (← afterProcess x { s with
            copyNextChar := false, st := .literalString, keepPrevChar := k, prevChar := p },
          { t with literalStr := str }) :
        Act (SharedSt × Stage1St)).Safe x.dMaxLen known cells (RoundPost x s t) := by
    intro k p str started clear
    rw [afterProcess_skip (by simp) rfl (by exact within)]
    exact string_goes inv st st.symm rfl (inv.pre (.inl st)) inv.cur.2
      (.inl (by dsimp only; omega)) (fun _ => id) inv.written started clear fun sparse =>
        sparse.skip (Nat.le_succ _) rfl sparse.cmd (fun _ _ => rfl) (by simp) fun _ => id
  simp only [stage1Round, st, processLiteralString, peek_eq within, pure_bind,
    closesString_eq within]
  by_cases first : t.literalStr.delimNum = false
  · rw [if_pos (by simp [first])]
    refine skip s.keepPrevChar s.prevChar _ rfl fun free => ?_
    have quote := free.quote st first
    have clear : Clear x .text s.qCurPos := by simpa [lexOf, st, first] using free.clear
    have block : blockAt x s.qCurPos = false := by
      simp only [isQuote, Bool.or_eq_true, beq_iff_eq] at quote
      rcases quote with eq | eq <;> simp [blockAt, eq]
    simpa [quote, inv.keep] using (clear.open_ within block).2.2
  · have started : t.literalStr.delimNum := by simpa using first
    -- one step of the scan inside of the literal
    have scan : Free x s t cells → Clear x (lexQuoted x t.literalStr.qStartPos
        t.literalStr.delimChar s.prevChar s.qCurPos) (s.qCurPos + 1) := by
      intro free
      obtain ⟨lex', pos, next, clear⟩ := free.clear.step within
      simp only [lexOf, st, started, if_true, lexStep] at next
      cases next
      exact clear
    rw [if_neg (by simp [started])]
    unfold lexQuoted at scan
    split_ifs with escaped closes
    · refine skip true 'X' _ started fun free => ?_
      simpa only [advanced, if_true, if_pos escaped] using scan free
    · refine safe_replaceString inv within room st started (fun free => ?_) rfl
      simpa only [if_neg escaped, if_pos closes] using scan free
    · refine skip s.keepPrevChar s.prevChar _ started fun free => ?_
      simpa only [advanced, inv.keep, Bool.false_eq_true, if_false, if_neg escaped,
        if_neg closes] using scan free

theorem safe_replaceNull (st : s.st = .replaceNull) :
    (stage1Round x (s, t)).Safe x.dMaxLen known cells (RoundPost x s t) := by
  obtain ⟨low, high⟩ := inv.pre (.inr st)
  have fresh : t.literalDigit = {} := inv.outside (by simp [st])
  simp only [stage1Round, st]
  obtain ⟨found, answered, null⟩ := nullFound_cases (x := x) s.qCurPos
  rw [processReplaceNull, answered, pure_bind]
  cases found with
  | true =>
    refine ⟨⟨low, by omega⟩, ?_⟩
    refine ⟨?_, .inl (by dsimp only; omega)⟩
    refine Stage1Inv.neutral rfl fresh ⟨by dsimp only; omega, by dsimp only; omega⟩ ?_ inv.keep ?_
    · exact written_insert (fun i first below => inv.written i first (by omega)) le_rfl
    · refine inv.mode.imp (fun covered => covered.insert _) fun free => ?_
      refine Free.neutral rfl ((null rfl).2 (free.text (.inr (.inr st))))
        (free.string (by simp [st])) (free.cmd (by simp [st])) (by simp [isSpaceChar])
        (free.sparse.imp_right fun sparse => sparse.mark high rfl (by dsimp only; omega) rfl fresh)
  | false =>
    rw [if_neg (by simp), safe_bind]
    have copy := safe_copy (r := { s with st := .noMarkFound }) inv within room fresh (.inr st)
      rfl rfl rfl inv.keep
    refine copy.imp ?_
    rintro r known cells ⟨neutral, post⟩
    rw [afterProcess_neutral neutral]
    exact ⟨{ __ := post.inv
             number := by simp [neutral]
             mode := post.inv.mode.imp_right fun free => free.copying true },
             post.progress⟩

theorem safe_firstDigit (st : s.st = .literalNumber) (first : FirstDigit x s t) :
    (stage1Round x (s, t)).Safe x.dMaxLen known cells (RoundPost x s t) := by
  obtain ⟨nonneg, full⟩ := inv.cur
  have plain := plain_of_normal (isTokenChar_of_digit first.digit)
  have mode : Covered x (insert s.resCurPos known) ∨
      Free x s t (put cells s.resCurPos (x.char s.qCurPos)) :=
    inv.mode.imp (fun covered => covered.insert _) fun free =>
      free.congr (by simp [st]) fun i low => put_other (by omega)
  have written : Written (s.resCurPos + 1) (insert s.resCurPos known) :=
    written_insert inv.written le_rfl
  rw [stage1Round_literalNumber st, processLiteralDigit,
    startDigits_first (s := { s with copyNextChar := true }) within (by rw [first.fresh])
      first.token first.digit]
  simp only [safe_bind, safe_set, pure_bind, peek_eq within]
  refine ⟨⟨nonneg, full⟩, ?_⟩
  split
  · -- the digit is the query's last character: what was just written is a number
    rename_i ends
    have final : x.qLen = s.qCurPos + 1 := by
      simpa [endsNumber, isTokenChar_of_digit first.digit] using ends
    simp only [replaceDigits, isDigitString2, first.pre, if_true, safe_bind, safe_get, put_same,
      first.digit, safe_pure]
    refine ⟨⟨nonneg, full⟩, .inl rfl, ?_⟩
    simp only [isTokenChar_of_digit first.digit, final, Bool.not_false, decide_true, Bool.and_self,
      if_true, safe_pure]
    refine ⟨⟨nonneg, full⟩, ?_⟩
    rw [afterProcess_skip (by simp [st]) rfl (by simp [final]), rearmed, if_neg (by simp [st])]
    refine number_goes (mode.imp_left fun covered => covered.insert _) st within inv.keep plain
      nonneg (lt_add_one _) le_rfl (by omega) (fun i low high => .inr (written i low high)) ?_ ?_
      (.inr (by omega)) false _ _
    · exact fun i low => put_other (by omega)
    · simp [put, isParen]
  · exact safe_copyDigit mode room within st (first.pre ▸ nonneg) (le_of_eq first.pre)
      (.inr first.pre) (fun i low high => written i low (by omega)) inv.keep plain rfl

theorem safe_inNumber (st : s.st = .literalNumber)
    (inside : InNumber s.resCurPos t.literalDigit start) :
    (stage1Round x (s, t)).Safe x.dMaxLen known cells (RoundPost x s t) := by
  obtain ⟨started, nonneg, before⟩ := id inside
  rw [stage1Round_literalNumber st, processLiteralDigit,
    startDigits_later (s := { s with copyNextChar := true }) within (by rw [started]), started]
  simp only [pure_bind, peek_eq within, safe_bind]
  split
  · simp only [replaceDigits, safe_bind]
    have enough := x.dMaxLen_lt_fuel
    rw [isDigitString2, if_neg (by omega)]
    refine (reads_digitStringFrom nonneg (le_of_lt before) (le_of_eq (Int.sub_add_cancel _ 1).symm)
      (by omega)).safe (by omega) (fun i low high => inv.written i low (by omega))
      fun isNumber _ => ?_
    split_ifs with number final
    · simp only [safe_bind, safe_pure]
      refine ⟨⟨nonneg, by omega⟩, ?_⟩
      simp only [Bool.and_eq_true, Bool.not_eq_true', decide_eq_true_eq] at final
      rw [afterProcess_skip (by simp [st]) rfl (by simp [final]), rearmed, if_neg (by simp [st])]
      refine number_goes (inv.mode.imp_left fun covered => covered.insert _) st within inv.keep
        (plain_of_normal final.1) nonneg (lt_add_one _) (by omega) (by omega)
        (fun i low high => .inr (inv.written i low (by omega))) ?_ ?_ (.inl (by rw [started]))
        false _ _
      · exact fun i low => put_other (by omega)
      · simp [put, isParen]
    · refine ⟨⟨nonneg, by omega⟩, ?_⟩
      refine number_left inv st inside
        rfl ⟨by dsimp only; omega, by dsimp only; omega⟩ rfl inv.keep (Set.subset_insert _ _)
        (fun _ => by simp [isSpaceChar]) fun sparse => ?_
      have behind := sparse.behind
      exact sparse.cut (by dsimp only; omega) sparse.cmd (by dsimp only; omega)
        (fun i low => put_other (by dsimp only at low; omega)) (by simp [put, isParen]) (by simp)
    · refine number_left inv st inside rfl ⟨inv.cur.1, le_rfl⟩ rfl inv.keep (fun _ => id)
        (fun free => free.spaced (.inr st)) fun sparse => ?_
      have last := sparse.number start (by rw [started]) (s.resCurPos - 1) (by omega) (by omega)
      simp only [isParen, Bool.or_eq_false_iff, beq_eq_false_iff_ne] at last
      exact sparse.skip le_rfl rfl sparse.cmd (fun _ _ => rfl) (fun _ _ => last.2) (by simp)
  next going =>
    exact safe_copyDigit inv.mode room within st nonneg (by omega) (.inl (by rw [started]))
      inv.written inv.keep (plain_of_going (by simpa using going)) rfl

end Safe

/-- Every round of stage 1 stays inside of its bounds, keeps the invariant and makes progress. -/
theorem safe_stage1Round (inv : Stage1Inv x s t known cells) (goes : stage1Goes x s) :
    (stage1Round x (s, t)).Safe x.dMaxLen known cells (RoundPost x s t) := by
  obtain ⟨room, within⟩ := stage1Goes_iff.mp goes
  cases st : s.st with
  | noMarkFound => exact safe_neutral inv within room st
  | cmntType1 => exact safe_cmntType1 inv within room st
  | cmntType2 => exact safe_cmntType2 inv within st
  | cmntType3 => exact safe_cmntType3 inv within st
  | literalString => exact safe_literalString inv within room st
  | literalNumber =>
    rcases inv.number st with first | ⟨start, inside⟩
    · exact safe_firstDigit inv within room st first
    · exact safe_inNumber inv within room st inside
  | replaceNull => exact safe_replaceNull inv within room st

def stage1Left (x : Call) (r : SharedSt × Stage1St) : Nat :=
  3 * (x.qLen - r.1.qCurPos) + rank r.1 r.2

theorem rank_le (s : SharedSt) (t : Stage1St) : rank s t ≤ 2 := by
  unfold rank
  split <;> [skip; split; skip] <;> omega

theorem RoundPost.decreases {r : SharedSt × Stage1St} (post : RoundPost x s t r known cells)
    (goes : stage1Goes x s) : stage1Left x r < stage1Left x (s, t) := by
  have within := (stage1Goes_iff.mp goes).2
  have low := rank_le r.1 r.2
  unfold stage1Left
  rcases post.progress with later | ⟨same, -, nearer⟩
  · dsimp only
    omega
  · dsimp only
    omega

theorem safe_stage1Loop (inv : Stage1Inv x s t known cells) :
    (stage1Loop x (s, t)).Safe x.dMaxLen known cells fun r known cells =>
      Stage1Inv x r.1 r.2 known cells ∧ stage1Goes x r.1 = false ∧
        (stage1Goes x s → s.qCurPos < r.1.qCurPos) := by
  refine safe_repeated
    (fun r known cells => Stage1Inv x r.1 r.2 known cells ∧ s.qCurPos ≤ r.1.qCurPos ∧
      (stage1Goes x s → s.qCurPos < r.1.qCurPos ∨ stage1Goes x r.1))
    (stage1Left x) ?_ ⟨inv, le_rfl, .inr⟩ ?_
  · rintro r known cells ⟨inv, later, entered⟩
    by_cases goes : stage1Goes x r.1
    · rw [stage1Body, if_pos goes, safe_bind]
      refine (safe_stage1Round inv goes).imp ?_
      intro r' known cells post
      refine ⟨⟨post.inv, ?_, fun start => ?_⟩, post.decreases goes⟩
      · rcases post.progress with further | ⟨same, -⟩ <;> omega
      · rcases post.progress with further | ⟨same, shrinks, -⟩
        · exact .inl (by omega)
        · refine (entered start).imp (by omega) fun _ => ?_
          obtain ⟨room, within⟩ := stage1Goes_iff.mp goes
          exact stage1Goes_iff.mpr ⟨by omega, by omega⟩
    · rw [stage1Body, if_neg goes]
      refine ⟨inv, by simpa using goes, fun start => ?_⟩
      exact (entered start).resolve_right goes
  · have low := rank_le s t
    have enough := x.qLen_le_fuel
    simp only [stage1Left]
    omega

end Rounds

/-- Stage 1 reads either every byte of the buffer safely, or no byte it has not written. Where it
stops before the query is over, it is in no comment and in no string literal. -/
def Careful (s : SharedSt) (t : Stage1St) (known : Set Int) : Prop :=
  Covered x known ∨
    (Lexed x s t ∧ (s.st = .noMarkFound ∨ s.st = .literalNumber ∨ x.qLen ≤ s.qCurPos))

/-- Stage 1 stopped in the middle of a number, which ends at the cursor, or outside of one. -/
structure NumberInv (st : PSt) (cur : Int) (digit : LiteralDigitSt) (newEnd : Option Int) :
    Prop where
  inside : st = .literalNumber → (∃ start, InNumber cur digit start) ∧ newEnd = some cur
  outside : st ≠ .literalNumber → digit = {} ∧ newEnd = none

/-- Before a pass over the stages. -/
structure PassInv (x : Call) (d : DigestSt) (known : Set Int) : Prop where
  cur : 0 ≤ d.shared.resCurPos ∧ d.shared.resCurPos ≤ x.dMaxLen
  pre : d.shared.resPrePos = d.shared.resCurPos
  init : d.shared.resItInitPos = d.shared.resCurPos
  written : ∀ i, 0 ≤ i → i < d.shared.resCurPos → i ∈ known
  keep : d.shared.keepPrevChar = false
  number : NumberInv d.shared.st d.shared.resCurPos d.stage1.literalDigit d.stage1.newEndPos
  careful : Careful x d.shared d.stage1 known
  sparse : FitLimits x ∨ (GroupsApart x ∧
    d.shared.st = .noMarkFound ∧ d.shared.qCurPos = 0 ∧ d.shared.resCurPos = 0)

/-- Between two stages: the text and its terminator are written. -/
structure StageInv (x : Call) (d : DigestSt) (known : Set Int) : Prop where
  cur : 0 ≤ d.shared.resCurPos ∧ d.shared.resCurPos ≤ x.dMaxLen
  written : ∀ i, 0 ≤ i → i ≤ d.shared.resCurPos → i ∈ known
  keep : d.shared.keepPrevChar = false
  number : NumberInv d.shared.st d.shared.resCurPos d.stage1.literalDigit d.stage1.newEndPos
  careful : Careful x d.shared d.stage1 known
  sparse : FitLimits x ∨ x.qLen ≤ d.shared.qCurPos

/-- The text up to `stop` has no groups that follow each other directly. -/
structure Scattered (x : Call) (stop : Int) (cells : Int → Byte) : Prop where
  groups : GroupsApart x
  apart : Apart cells (stop + 1)
  ended : isParen (cells (stop + 1)) = false

variable {s : SharedSt} {t : Stage1St}

theorem getStageDigestEnd_outside (outside : t.literalDigit = {}) :
    getStageDigestEnd s t = s.resCurPos - 1 := by
  unfold getStageDigestEnd
  rw [outside]
  cases s.st <;> rfl

theorem getStageDigestEnd_inside {start : Int}
    (st : s.st = .literalNumber) (inside : InNumber s.resCurPos t.literalDigit start) :
    getStageDigestEnd s t = start - 1 := by
  simp [getStageDigestEnd, st, inside.started]

/-- What stage 1 leaves, with its terminator. -/
theorem Sparse.scattered {x : Call} {cells : Int → Byte}
    (sparse : Sparse x s t cells)
    (number : (s.st = .literalNumber ∧ ∃ start, InNumber s.resCurPos t.literalDigit start) ∨
      t.literalDigit = {}) :
    Scattered x (getStageDigestEnd s t) (put cells s.resCurPos nul) := by
  have upTo : ∀ n ≤ s.resCurPos, Apart (put cells s.resCurPos nul) n := by
    intro n within i low high
    rw [put_other (by omega), put_other (by omega)]
    exact sparse.apart i low (by omega)
  rcases number with ⟨st, start, inside⟩ | outside
  · have before := inside.before
    rw [getStageDigestEnd_inside st inside]
    refine ⟨sparse.groups, upTo _ (by omega), ?_⟩
    rw [Int.sub_add_cancel, put_other (by omega)]
    exact sparse.number start (by rw [inside.started]) start le_rfl before
  · rw [getStageDigestEnd_outside outside]
    refine ⟨sparse.groups, upTo _ (by omega), ?_⟩
    rw [Int.sub_add_cancel, put_same]
    rfl

section Parsing

variable {x : Call} {d : DigestSt} {known : Set Int} {cells : Int → Byte} (inv : PassInv x d known)

include inv

theorem behindNumber_eq : behindNumber d.shared d.stage1 = d.shared := by
  unfold behindNumber
  by_cases st : d.shared.st = .literalNumber
  · rw [(inv.number.inside st).2]
    have pre := inv.pre
    obtain ⟨⟨⟩⟩ := d
    dsimp only at pre
    subst pre
    rfl
  · rw [(inv.number.outside st).2]

theorem safe_stage1Resume
    {Post : SharedSt → Set Int → (Int → Byte) → Prop}
    (post : ∀ c, (d.shared.resCurPos ≠ 0 → c = cells (d.shared.resCurPos - 1)) →
      Post { d.shared with prevChar := c } known cells) :
    (stage1Resume d.shared d.stage1).Safe x.dMaxLen known cells Post := by
  have cur := inv.cur
  have pre := inv.pre
  have init := inv.init
  unfold stage1Resume
  rw [behindNumber_eq inv]
  dsimp only
  split
  · exact ⟨by omega, inv.written _ (by omega) (by omega), post _ fun _ => by rw [pre]⟩
  · exact post d.shared.prevChar fun later => by omega

/-- Stage 1 resumes with the invariant of its loop, whichever byte it takes for `prev_char`. -/
theorem PassInv.resumed (c : Byte)
    (shown : d.shared.resCurPos ≠ 0 → c = cells (d.shared.resCurPos - 1)) :
    Stage1Inv x { d.shared with prevChar := c } d.stage1 known cells := by
  have pre := inv.pre
  have cur := inv.cur
  refine ⟨inv.cur, fun _ => ⟨by dsimp only; omega, by dsimp only; omega⟩, inv.written, inv.keep,
    fun st => .inr (inv.number.inside st).1, fun st => (inv.number.outside st).1, ?_⟩
  · refine inv.careful.imp_right fun ⟨lexed, rest⟩ => ⟨{ __ := lexed, clear := ?_ }, ?_, ?_⟩
    · rcases rest with st | st | past
      · simpa [lexOf, st] using lexed.clear
      · simpa [lexOf, st] using lexed.clear
      · exact Clear.ended past
    · intro _ space
      by_cases start : d.shared.resCurPos = 0
      · exact .inl start
      · exact .inr (.inr (shown start ▸ space))
    · refine inv.sparse.imp_right ?_
      rintro ⟨groups, st, pos, start⟩
      refine ⟨groups, by simp [pos, start], lexed.cmd (by simp [st]), ?_, by simp [start], ?_⟩
      · exact fun i low high => absurd low (by dsimp only at high; omega)
      · simp [(inv.number.outside (by simp [st])).1]

theorem safe_stage1Parsing : (stage1Parsing x d).Safe x.dMaxLen known cells fun d' known' cells' =>
      StageInv x d' known' ∧
        (FitLimits x ∨ Scattered x (getStageDigestEnd d'.shared d'.stage1) cells') ∧
        (d.shared.resCurPos < x.dMaxLen ∧ d.shared.qCurPos < x.qLen →
          d.shared.qCurPos < d'.shared.qCurPos) := by
  simp only [stage1Parsing, safe_bind]
  refine safe_stage1Resume inv fun c shown => ?_
  refine (safe_stage1Loop (inv.resumed c shown)).imp ?_
  rintro ⟨s, t⟩ known₁ cells₁ ⟨inv₁, stops, consumes⟩
  dsimp only at inv₁ stops consumes ⊢
  have ended : x.dMaxLen ≤ s.resCurPos ∨ x.qLen ≤ s.qCurPos := by
    have not : ¬ (s.resCurPos ≤ x.dMaxLen - 1 ∧ s.qCurPos < x.qLen) := by
      rw [← stage1Goes_iff, stops]
      exact Bool.false_ne_true
    omega
  have running : s.st = .literalNumber → ∃ start, InNumber s.resCurPos t.literalDigit start := by
    intro st
    rcases inv₁.number st with first | inside
    · rw [first.goes] at stops
      cases stops
    · exact inside
  have read : Sparse x s t cells₁ → x.qLen ≤ s.qCurPos := by
    intro sparse
    have behind := sparse.behind
    have whole := sparse.groups.2.2.1
    omega
  refine ⟨inv₁.cur, ⟨inv₁.cur, ?_, inv₁.keep, ⟨fun st => ⟨running st, if_pos st⟩,
    fun st => ⟨inv₁.outside st, if_neg st⟩⟩, ?_, ?_⟩, ?_, ?_⟩
  · exact fun i low high => written_insert inv₁.written le_rfl i low (by dsimp only at high; omega)
  · refine inv₁.mode.imp (fun covered => covered.insert _) fun free => ⟨{ __ := free.toLexed }, ?_⟩
    rcases free.room with neutral | number | room | past
    · exact .inl neutral
    · exact .inr (.inl number)
    · exact .inr (.inr (by dsimp only; omega))
    · exact .inr (.inr past)
  · rcases inv₁.mode with covered | free
    · exact .inl covered.1
    · exact free.sparse.imp_right read
  · rcases inv₁.mode with covered | free
    · exact .inl covered.1
    · refine free.sparse.imp_right fun sparse => sparse.scattered ?_
      by_cases st : s.st = .literalNumber
      · exact .inl ⟨st, running st⟩
      · exact .inr (inv₁.outside st)
  · rintro ⟨room, within⟩
    exact consumes (stage1Goes_iff.mpr ⟨by dsimp only; omega, within⟩)

end Parsing

end MockProxy.Tokenizer
