import MockProxy.Tokenizer.Compression

/-!
# What is asked of a query

A scan of the query that knows literals and comments only, and the conditions that the bounds of the
digest take: no line comment is opened (`LineFree`), and what stage 4 writes for a chain of groups
is not longer than the chain, because of the limits (`FitLimits`) or because no group follows
another one directly (`GroupsApart`).
-/

namespace MockProxy.Tokenizer

variable (x : Call)

def Call.char (i : Nat) : Byte := x.q[i]?.getD nul

/-- Where the scan is: outside of literals and comments, in a comment, or in a string literal that
starts at `start`; `prev` is the character before, `'X'` for one that was escaped. -/
inductive Lex where
  | text
  | comment (prev : Byte) (cmd : Bool)
  | quoted (start : Nat) (delim prev : Byte)
  deriving DecidableEq, Repr

def blockAt (i : Nat) : Bool :=
  i < x.dMaxLen - 1 && x.char i == '/' && x.char (i + 1) == '*'

def dashAt (i : Nat) : Bool :=
  i < x.dMaxLen - 2 && x.char i == '-' &&
    (x.char (i + 1) == '-' && isSpaceChar (x.char (i + 2)))

def isQuote (c : Byte) : Bool := c == '\'' || c == '"'

def cmntMarkAt (i : Nat) : Bool :=
  i + 2 ≤ x.qLen && (x.char i == '/' && x.char (i + 1) == '*')

def lexInComment (prev : Byte) (cmd : Bool) (i : Nat) : Lex × Nat :=
  (if prev == '*' && x.char i == '/' then .text else .comment (x.char i) cmd, i + 1)

/-- In a comment its mark is passed where it is met again; none may be met at the query's end. -/
def lexComment (prev : Byte) (cmd : Bool) (i : Nat) : Option (Lex × Nat) :=
  if cmntMarkAt x i then
    let cmd := cmd || (i + 2 != x.qLen && x.char (i + 2) == '!')
    let pos := i + 2 + cmd.toNat
    if pos + 1 ≥ x.qLen then none else some (lexInComment x prev cmd pos)
  else
    some (lexInComment x prev cmd i)

def lexQuoted (start : Nat) (delim prev : Byte) (i : Nat) : Lex :=
  let c := x.char i
  if i > start + 1 && ((prev == '\\' && c == '\\') || (prev == '\\' && c == delim) ||
      (prev == delim && c == delim)) then .quoted start delim 'X'
  else if c == delim && (x.qLen = i + 1 || x.char (i + 1) != delim) then .text
  else .quoted start delim c

/-- One step of the scan, which line comments stop, and comments that start with `/*/`. -/
def lexStep : Lex → Nat → Option (Lex × Nat)
  | .text, i =>
    if blockAt x i then
      match lexComment x '*' false i with
      | some (.comment c cmd, pos) => some (.comment c cmd, pos)
      | _ => none
    else if x.char i == '#' || dashAt x i then none
    else if isQuote (x.char i) then some (.quoted i (x.char i) (x.char i), i + 1)
    else some (.text, i + 1)
  | .comment prev cmd, i => lexComment x prev cmd i
  | .quoted start delim prev, i => some (lexQuoted x start delim prev i, i + 1)

def clearFrom : Nat → Lex → Nat → Bool
  | 0, _, _ => false
  | fuel + 1, lex, i =>
    if i < x.qLen then
      match lexStep x lex i with
      | some (lex, i) => clearFrom fuel lex i
      | none => false
    else true

/-- The scan reaches the end of the query. -/
def Clear (lex : Lex) (i : Nat) : Prop := ∃ fuel, clearFrom x fuel lex i

/-- No line comment is opened in the query. -/
def LineFree : Prop := clearFrom x (x.qLen + 1) .text 0

instance (x : Call) : Decidable (LineFree x) := inferInstanceAs (Decidable (_ = true))

/-- The limits for which collapsed groups are never longer than the groups they stand for: where
groups may follow each other without a comma, the dots have to fit into the last one. -/
def FitLimits : Prop :=
  0 ≤ x.opts.groupingLimit ∧ 0 ≤ x.opts.groupsGroupingLimit ∧
    (x.opts.groupingLimit = 0 ∨ x.opts.groupsGroupingLimit = 0 ∨
      x.opts.groupsGroupingLimit ≤ 2 * x.opts.groupingLimit + 2 ∨
      x.dMaxLen < groupPatternSize x.opts * (x.opts.groupsGroupingLimit + 1) - 1)

instance (x : Call) : Decidable (FitLimits x) := inferInstanceAs (Decidable (_ ∧ _ ∧ _))

/-- No comment of the query is copied into its digest. -/
def Plain : Prop :=
  x.opts.keepComment = false ∧
    ∀ i < x.qLen, ¬ (x.char i = '/' ∧ x.char (i + 1) = '*' ∧ x.char (i + 2) = '!')

/-- The query is not cut, no comment of it is copied, and nowhere in it a parenthesis is opened
right behind one that is closed. -/
def GroupsApart : Prop :=
  0 ≤ x.opts.groupingLimit ∧ 0 ≤ x.opts.groupsGroupingLimit ∧ x.dMaxLen = x.qLen ∧ Plain x ∧
    ∀ i < x.qLen, ¬ (x.char i = ')' ∧ x.char (i + 1) = '(')

instance (x : Call) : Decidable (Plain x) := inferInstanceAs (Decidable (_ ∧ _))

instance (x : Call) : Decidable (GroupsApart x) :=
  inferInstanceAs (Decidable (_ ∧ _ ∧ _ ∧ _ ∧ _))

section Scan

variable {x : Call} {lex : Lex} {i : Nat} {prev : Byte}

theorem Clear.ended (past : x.qLen ≤ i) : Clear x lex i :=
  ⟨1, by simp [clearFrom, past]⟩

theorem Clear.step (clear : Clear x lex i) (within : i < x.qLen) :
    ∃ lex' pos, lexStep x lex i = some (lex', pos) ∧ Clear x lex' pos := by
  obtain ⟨fuel, clear⟩ := clear
  cases fuel with
  | zero => cases clear
  | succ fuel =>
    rw [clearFrom, if_pos within] at clear
    cases next : lexStep x lex i with
    | none =>
      rw [next] at clear
      cases clear
    | some r =>
      rw [next] at clear
      exact ⟨r.1, r.2, rfl, fuel, clear⟩

/-- Outside of literals and comments no line comment starts. -/
theorem Clear.open_ (clear : Clear x .text i) (within : i < x.qLen) (block : blockAt x i = false) :
    x.char i ≠ '#' ∧ dashAt x i = false ∧
      if isQuote (x.char i) then Clear x (.quoted i (x.char i) (x.char i)) (i + 1)
      else Clear x .text (i + 1) := by
  obtain ⟨lex', pos, next, clear'⟩ := clear.step within
  simp only [lexStep, block, Bool.false_eq_true, if_false] at next
  by_cases line : x.char i == '#' || dashAt x i
  · rw [if_pos line] at next
    cases next
  · rw [if_neg line] at next
    simp only [Bool.or_eq_true, beq_iff_eq, not_or, Bool.not_eq_true] at line
    refine ⟨line.1, line.2, ?_⟩
    by_cases quote : isQuote (x.char i)
    · rw [if_pos quote] at next ⊢
      cases next
      exact clear'
    · rw [if_neg quote] at next ⊢
      cases next
      exact clear'

theorem Clear.plain (clear : Clear x .text i) (within : i < x.qLen) (slash : x.char i ≠ '/')
    (quote : isQuote (x.char i) = false) : Clear x .text (i + 1) := by
  have rest := (clear.open_ within (by simp [blockAt, slash])).2.2
  rwa [if_neg (by simp [quote])] at rest

theorem cmntMarkAt_of_blockAt (block : blockAt x i) : cmntMarkAt x i := by
  have fits := x.dMaxLen_le
  simp only [blockAt, cmntMarkAt, Bool.and_eq_true, decide_eq_true_eq] at block ⊢
  exact ⟨by omega, block.1.2, block.2⟩

/-- A comment that is opened is one that the scan is in, whatever stands before it. -/
theorem Clear.comment (clear : Clear x .text i) (within : i < x.qLen) (block : blockAt x i) :
    Clear x (.comment prev false) i := by
  obtain ⟨lex', pos, next, fuel, clear'⟩ := clear.step within
  refine ⟨fuel + 1, ?_⟩
  have same : lexStep x (.comment prev false) i = some (lex', pos) := by
    simp only [lexStep, block, if_true, lexComment, cmntMarkAt_of_blockAt block,
      lexInComment] at next ⊢
    grind
  rw [clearFrom, if_pos within, same]
  exact clear'

end Scan

end MockProxy.Tokenizer
