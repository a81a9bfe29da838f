import MockProxy.Lib.Scratch

/-!
# The query digest: characters, options and state

`mysql_query_digest_and_first_comment_2` (`c_tokenizer.cpp`) writes the digest of a query into a
result buffer, in four stages that rewrite the buffer in place. A pointer into the buffer is its
distance from `res_init_pos`, a pointer into the query is the position `q_cur_pos` that moves
with it, and a null pointer is `none`.
-/

namespace MockProxy.Tokenizer

open Scratch

/-- A `char` of the query or of the result buffer; `'\x00'` is the terminator. -/
abbrev Byte := Char

def nul : Byte := '\x00'

variable (c : Byte)

def isDigitChar : Bool := '0' ≤ c && c ≤ '9'

def isNormalChar : Bool :=
  ('a' ≤ c && c ≤ 'z') || ('A' ≤ c && c ≤ 'Z') || isDigitChar c || c == '$' || c == '_'

def isTokenChar : Bool := !isNormalChar c

def isSpaceChar : Bool := c == ' ' || c == '\t' || c == '\n' || c == '\r'

@[simp] theorem isSpaceChar_blank : isSpaceChar ' ' := rfl

def isHexChar : Bool :=
  isDigitChar c || ('a' ≤ c && c ≤ 'f') || ('A' ≤ c && c ≤ 'F')

def isArithmeticOp : Bool := c == '+' || c == '-' || c == '*' || c == '/' || c == '%'

def tolower : Byte := c.toLower

/-- What is copied for a character of the query. -/
def copied (lowercase : Bool) (c : Byte) : Byte :=
  if isSpaceChar c then ' ' else if lowercase then tolower c else c

theorem tolower_cases (c : Byte) : tolower c = c ∨ ('a' ≤ tolower c ∧ 'A' ≤ c) := by
  by_cases upper : c.val ≥ 'A'.val ∧ c.val ≤ 'Z'.val
  · have low : 65 ≤ c.toNat := upper.1
    have high : c.toNat ≤ 90 := upper.2
    rw [show tolower c = _ from dif_pos upper]
    refine .inr ⟨?_, upper.1⟩
    simp only [Char.le_def, UInt32.le_iff_toNat_le]
    simp
    omega
  · exact .inl (dif_neg upper)

/-- The thread's variables that the tokenizer reads. -/
structure DigestVars where
  lowercase : Bool
  replaceNull : Bool
  noDigits : Bool
  keepComment : Bool
  groupingLimit : Int
  groupsGroupingLimit : Int
  maxQueryLength : Nat
  deriving DecidableEq, Repr

structure Options where
  lowercase : Bool
  replaceNull : Bool
  replaceNumber : Bool
  keepComment : Bool
  groupingLimit : Int
  groupsGroupingLimit : Int
  deriving DecidableEq, Repr

/-- The value of an `int` variable that this file declares as `char`: its low byte, signed. -/
def asChar (n : Int) : Int :=
  if n % 256 < 128 then n % 256 else n % 256 - 256

def getOptions (vars : DigestVars) : Options where
  lowercase := vars.lowercase
  replaceNull := vars.replaceNull
  replaceNumber := vars.noDigits
  keepComment := vars.keepComment
  groupingLimit := asChar vars.groupingLimit
  groupsGroupingLimit := asChar vars.groupsGroupingLimit

/-- `enum p_st`: what stage 1 is in the middle of. -/
inductive PSt where
  | noMarkFound
  | cmntType1
  | cmntType2
  | cmntType3
  | literalString
  | literalNumber
  | replaceNull
  deriving DecidableEq, Repr

/-- What does not change during a call. The digest is not longer than the query, and no loop is
followed for more than `fuel` rounds, of which there are enough for the query. -/
structure Call where
  opts : Options
  q : List Byte
  dMaxLen : Int
  fuel : Nat
  nonneg : 0 ≤ dMaxLen
  fits : dMaxLen ≤ q.length
  enough : 3 * q.length + 3 ≤ fuel

variable (x : Call)

def Call.qLen : Nat := x.q.length

theorem Call.dMaxLen_le : x.dMaxLen ≤ x.qLen := x.fits

theorem Call.qLen_le_fuel : 3 * x.qLen + 3 ≤ x.fuel := x.enough

theorem Call.dMaxLen_lt_fuel : x.dMaxLen + 2 < x.fuel := by
  have fits := x.dMaxLen_le
  have enough := x.qLen_le_fuel
  omega

def getDigestMaxLen (vars : DigestVars) (len : Nat) : Int :=
  if len > vars.maxQueryLength then vars.maxQueryLength else len

structure SharedSt where
  glCOffset : Int := 0
  qCurPos : Nat := 0
  resItInitPos : Int := 0
  resCurPos : Int := 0
  resPrePos : Int := 0
  st : PSt := .noMarkFound
  prevChar : Byte := nul
  keepPrevChar : Bool := false
  copyNextChar : Bool := false
  deriving DecidableEq, Repr

structure CmntType1St where
  isCmd : Bool := false
  -- the first `cur_cmd_cmnt_len` characters of `cur_cmd_cmnt`
  curCmdCmnt : List Byte := []
  fstCmntEnd : Bool := false
  -- `fst_cmnt`, once allocated: its first `fst_cmnt_len` characters
  fstCmnt : Option (List Byte) := none
  deriving DecidableEq, Repr

structure LiteralStringSt where
  delimNum : Bool := false
  delimChar : Byte := nul
  qStartPos : Nat := 0
  deriving DecidableEq, Repr

structure LiteralDigitSt where
  firstDigit : Bool := true
  startPos : Option Int := none
  deriving DecidableEq, Repr

structure Stage1St where
  cmntType1 : CmntType1St := {}
  literalStr : LiteralStringSt := {}
  literalDigit : LiteralDigitSt := {}
  preItPos : Int := 0
  newEndPos : Option Int := none
  deriving DecidableEq, Repr

/-- `stage_2_st`, `stage_3_st` and `stage_4_st`, which have the same fields. -/
structure StageSt where
  preItPos : Int := 0
  cOffset : Int := 0
  deriving DecidableEq, Repr

/-- The states that the stages share. -/
structure DigestSt where
  shared : SharedSt := {}
  stage1 : Stage1St := {}
  stage2 : StageSt := {}
  stage3 : StageSt := {}
  stage4 : StageSt := {}
  deriving DecidableEq, Repr

abbrev Act := Prog Byte

def Call.peek (i : Nat) : Act Byte :=
  match x.q[i]? with
  | some c => .done c
  | none => .fail .outOfInput

end MockProxy.Tokenizer
