import MockProxy.Tokenizer.Basic

/-!
# Stage 1: literals, comments and spaces

The first stage copies the query into the result buffer, with a `?` for every literal and without
its comments and double spaces. It stops when the query is consumed or the buffer is full.
-/

namespace MockProxy.Tokenizer

open Scratch Prog

variable (x : Call) (s : SharedSt)

def getNextSt : Act PSt := do
  let c ← x.peek s.qCurPos
  if ← andThen (s.qCurPos < x.dMaxLen - 1 && c == '/')
      (do return (← x.peek (s.qCurPos + 1)) == '*') then
    return .cmntType1
  else if c == '#' then
    return .cmntType2
  else if ← andThen (s.qCurPos < x.dMaxLen - 2 && c == '-') (do
      andThen ((← x.peek (s.qCurPos + 1)) == '-')
        (do return isSpaceChar (← x.peek (s.qCurPos + 2)))) then
    return if s.prevChar != '-' || s.qCurPos == 0 then .cmntType3 else .noMarkFound
  else if c == '\'' || c == '"' then
    return .literalString
  else if isTokenChar s.prevChar && isDigitChar c then
    return .literalNumber
  else if isTokenChar s.prevChar && (c == 'n' || c == 'N') && x.opts.replaceNull then
    return .replaceNull
  else
    return .noMarkFound

def incProcPos : Act SharedSt := do
  if s.keepPrevChar then
    return { s with keepPrevChar := false, qCurPos := s.qCurPos + 1 }
  else
    return { s with prevChar := ← x.peek s.qCurPos, qCurPos := s.qCurPos + 1 }

def copyNextChar : Act SharedSt := do
  let c ← x.peek s.qCurPos
  set s.resCurPos (if isSpaceChar c then ' ' else if x.opts.lowercase then tolower c else c)
  incProcPos x { s with resCurPos := s.resCurPos + 1 }

/-- `is_float` for the character `c` at a position: a point, an exponent, or its sign. -/
def isFloatAt (f : Int) (c : Byte) : Act Bool :=
  if c == '.' || tolower c == 'e' then pure true
  else andThen (f > 0) (do return tolower (← get (f - 1)) == 'e' && (c == '+' || c == '-'))

/-- The `x` of `0x`, as the second character of a number. -/
def isHexMarkAt (f : Int) (i : Nat) (c : Byte) : Act Bool :=
  andThen (f > 0 && i == 1) (do return (← get (f - 1)) == '0' && (c == 'x' || c == 'X'))

/-- The loop of `is_digit_string_2`, at the position `f` and with `i` characters seen. -/
def digitStringFrom (t : Int) : Nat → Int → Nat → Bool → Act Bool
  | 0, _, _, _ => .fail .endless
  | fuel + 1, f, i, isHex =>
    if f = t then
      return true
    else do
      let c ← get f
      let isFloat ← isFloatAt f c
      if ← isHexMarkAt f i c then
        digitStringFrom t fuel (f + 1) (i + 1) true
      else if !isHex && !isDigitChar c && !isFloat then
        return false
      else if isHex && !isHexChar c then
        return false
      else
        digitStringFrom t fuel (f + 1) (i + 1) isHex

def isDigitString2 (f t : Int) : Act Bool := do
  if f = t then
    return isDigitChar (← get f)
  else
    digitStringFrom t x.fuel f 0 false

def firstCommentMaxLength : Nat := 1024

def cmntMark (i : Nat) : Act (List Byte) := do
  return [← x.peek i, ← x.peek (i + 1)]

variable (c1 : CmntType1St)

/-- `process_cmnt_type_1` at the initial mark of a comment; the flag says that it returns there. -/
def openCmntType1 : Act (Bool × SharedSt × CmntType1St) := do
  if ← andThen (s.qCurPos + 2 ≤ x.qLen) (do
      andThen ((← x.peek s.qCurPos) == '/') (do return (← x.peek (s.qCurPos + 1)) == '*')) then
    let bang ← andThen (s.qCurPos + 2 != x.qLen) (do return (← x.peek (s.qCurPos + 2)) == '!')
    let isCmd := c1.isCmd || bang
    let mark ← if x.opts.keepComment then cmntMark x s.qCurPos else pure []
    let s := { s with qCurPos := s.qCurPos + 2 + isCmd.toNat }
    let c1 := { c1 with isCmd, curCmdCmnt := mark }
    if s.qCurPos + 1 ≥ x.qLen then
      return (true, { s with st := .noMarkFound }, c1)
    else
      return (false, s, c1)
  else
    return (false, s, c1)

def CmntType1St.kept : Bool := c1.isCmd || x.opts.keepComment

/-- `process_cmnt_type_1` records the comment's next character. -/
def recordCmnt (c : Byte) : CmntType1St :=
  let c1 :=
    if c1.kept x && c1.curCmdCmnt.length < firstCommentMaxLength - 1 then
      { c1 with curCmdCmnt := c1.curCmdCmnt ++ [c] }
    else c1
  if c1.fstCmntEnd then c1
  else
    let text := c1.fstCmnt.getD []
    let text :=
      if text.length < firstCommentMaxLength - 1 then
        text ++ [if isSpaceChar c then ' ' else c]
      else text
    if s.prevChar == '*' && c == '/' then
      { c1 with
        fstCmnt := some (if text.length ≥ 2 then text.take (text.length - 2) else text)
        fstCmntEnd := true }
    else
      { c1 with fstCmnt := some text }

/-- The characters of the annotation of a comment such as `/*!12345 ... */`. -/
def isAnnotation (c : Byte) : Bool :=
  c == '/' || c == '*' || c == '!' || c == ' ' || isDigitChar c

/-- `memcpy` into the result buffer. -/
def writeAll : Int → List Byte → Act Unit
  | _, [] => return ()
  | i, c :: cs => do
    set i c
    writeAll (i + 1) cs

/-- What is copied of a comment: nothing if it is not wanted or all annotation. -/
def cmntText : List Byte :=
  if !c1.kept x || c1.curCmdCmnt.length < 2 then []
  else
    -- the final `*/` is dropped unless comments are preserved
    let text :=
      if x.opts.keepComment then c1.curCmdCmnt
      else c1.curCmdCmnt.take (c1.curCmdCmnt.length - 2)
    let rest := text.dropWhile isAnnotation
    if x.opts.keepComment && !rest.isEmpty then text else rest

/-- The text of a comment is copied into the digest, as far as there is room. -/
def copyCmnt (text : List Byte) : Act SharedSt := do
  if text.isEmpty then
    return s
  else
    let copied := text.take (x.dMaxLen - s.resCurPos).toNat
    writeAll s.resCurPos copied
    let s := { s with resCurPos := s.resCurPos + copied.length }
    if (← get (s.resCurPos - 1)) != ' ' && s.resCurPos != x.dMaxLen then
      set s.resCurPos ' '
      return { s with resCurPos := s.resCurPos + 1 }
    else
      return s

/-- The space imposed in place of a comment that was not separated by spaces. -/
def imposeSpace : Act SharedSt := do
  if ← andThen (s.resCurPos != 0 && s.resCurPos != x.dMaxLen)
      (do return (← get (s.resCurPos - 1)) != ' ') then
    set s.resCurPos ' '
    return { s with resCurPos := s.resCurPos + 1 }
  else
    return s

def processCmntType1 : Act (SharedSt × CmntType1St) := do
  let (returned, s, c1) ← openCmntType1 x s c1
  if returned then
    return (s, c1)
  else
    let c ← x.peek s.qCurPos
    let c1 := recordCmnt x s c1 c
    if s.prevChar == '*' && c == '/' then
      let s ← copyCmnt x s (cmntText x c1)
      let s ← imposeSpace x s
      let c1 := if c1.kept x then { c1 with isCmd := false, curCmdCmnt := [] } else c1
      return ({ s with prevChar := ' ', st := .noMarkFound, qCurPos := s.qCurPos + 1 },
        { c1 with isCmd := false })
    else
      return (s, c1)

/-- The end of a comment of type 2 or 3, which runs to the end of its line or of the query. -/
def endLineCmnt : Act SharedSt := do
  let c ← x.peek s.qCurPos
  if c == '\n' || c == '\r' || s.qCurPos + 1 == x.qLen then
    return { s with st := .noMarkFound, prevChar := ' ', qCurPos := s.qCurPos + 1 }
  else
    return s

def processCmntType2 : Act SharedSt := do
  if (← x.peek s.qCurPos) == '#' && s.qCurPos + 2 ≤ x.qLen then
    let s := { s with qCurPos := s.qCurPos + 1 }
    if s.qCurPos + 2 = x.qLen then
      return { s with st := .noMarkFound }
    else
      endLineCmnt x s
  else
    endLineCmnt x s

def processCmntType3 : Act SharedSt := do
  if ← andThen (s.qCurPos + 4 ≤ x.qLen) (do
      andThen ((← x.peek s.qCurPos) == '-') (do
        andThen ((← x.peek (s.qCurPos + 1)) == '-')
          (do return isSpaceChar (← x.peek (s.qCurPos + 2))))) then
    let s := { s with qCurPos := s.qCurPos + 3 }
    if s.qCurPos + 4 = x.qLen then
      return { s with st := .noMarkFound }
    else
      endLineCmnt x s
  else
    endLineCmnt x s

/-- The character `c` at a position closes a string literal: a doubled delimiter does not. -/
def closesString (i : Nat) (delim c : Byte) : Act Bool :=
  andThen (c == delim)
    (if x.qLen = i + 1 then pure true else do return (← x.peek (i + 1)) != delim)

/-- A string literal is replaced by its mark when its delimiter is met again. -/
def replaceString (str : LiteralStringSt) : Act (SharedSt × LiteralStringSt) := do
  let s := { s with resCurPos := s.resPrePos }
  set s.resCurPos '?'
  let s := { s with resCurPos := s.resCurPos + 1, prevChar := '?' }
  if x.qLen = s.qCurPos + 1 then
    return ({ s with copyNextChar := false }, str)
  else
    -- `prev_char` becomes the delimiter of the state that was just reset
    return ({ s with prevChar := nul, qCurPos := s.qCurPos + 1, st := .noMarkFound }, {})

def processLiteralString (str : LiteralStringSt) : Act (SharedSt × LiteralStringSt) := do
  let c ← x.peek s.qCurPos
  if !str.delimNum then
    return (s, { qStartPos := s.qCurPos, delimChar := c, delimNum := true })
  else if s.qCurPos > str.qStartPos + 1 &&
      ((s.prevChar == '\\' && c == '\\') || (s.prevChar == '\\' && c == str.delimChar) ||
        (s.prevChar == str.delimChar && c == str.delimChar)) then
    return ({ s with keepPrevChar := true, prevChar := 'X' }, str)
  else if ← closesString x s.qCurPos str.delimChar c then
    replaceString x s str
  else
    return (s, str)

variable (d : LiteralDigitSt)

/-- The first digit of a number is stored at the place where the number starts. -/
def startDigits : Act LiteralDigitSt := do
  let c ← x.peek s.qCurPos
  if d.firstDigit && isTokenChar s.prevChar && isDigitChar c then
    set s.resCurPos c
    return { firstDigit := false, startPos := some s.resPrePos }
  else
    return d

/-- The character `c` ends a number: a token that belongs to no float, or the query's last. -/
def endsNumber (c : Byte) : Bool :=
  let isFloatChar := c == '.' || (tolower s.prevChar == 'e' && (c == '-' || c == '+'))
  (isTokenChar c && !isFloatChar) || x.qLen = s.qCurPos + 1

/-- A number is replaced by its mark, if what was copied of it is a number. -/
def replaceDigits (c : Byte) : Act (SharedSt × LiteralDigitSt) := do
  match d.startPos with
  | none => .fail .outOfBuffer
  | some start =>
    if ← isDigitString2 x start s.resCurPos then
      set start '?'
      let s := { s with resCurPos := start + 1, prevChar := '?' }
      if !isTokenChar c && x.qLen = s.qCurPos + 1 then
        return ({ s with copyNextChar := false }, d)
      else
        return ({ s with st := .noMarkFound }, { startPos := none, firstDigit := false })
    else
      return ({ s with st := .noMarkFound }, { startPos := none, firstDigit := false })

def processLiteralDigit : Act (SharedSt × LiteralDigitSt) := do
  let d ← startDigits x s d
  let c ← x.peek s.qCurPos
  if endsNumber x s c then replaceDigits x s d c else return (s, d)

/-- The query reads `NULL` at a position, in either case. -/
def nullAt (i : Nat) : Act Bool := do
  let c ← x.peek i
  andThen (c == 'N' || c == 'n') do
    let c ← x.peek (i + 1)
    andThen (c == 'U' || c == 'u') do
      let c ← x.peek (i + 2)
      andThen (c == 'L' || c == 'l') do
        let c ← x.peek (i + 3)
        return c == 'L' || c == 'l'

/-- `null_found`: the query reads `NULL` and a token character or its end. -/
def nullFound (i : Nat) : Act Bool := do
  if x.qLen > i + 4 then
    andThen (← nullAt x i) (do return isTokenChar (← x.peek (i + 4)))
  else if x.qLen = i + 4 then
    nullAt x i
  else
    return false

def processReplaceNull : Act SharedSt := do
  if ← nullFound x s.qCurPos then
    set s.resPrePos '?'
    return { s with
      resCurPos := s.resPrePos + 1, prevChar := '?', qCurPos := s.qCurPos + 4, st := .noMarkFound }
  else
    copyNextChar x { s with st := .noMarkFound }

/-- Stage 1 outside of literals and comments: spaces are removed, other characters copied. -/
def processNoMark : Act SharedSt := do
  let c ← x.peek s.qCurPos
  if s.resCurPos == 0 && isSpaceChar c then
    return { s with qCurPos := s.qCurPos + 1 }
  else if isSpaceChar s.prevChar && isSpaceChar c then
    let s := if isSpaceChar (← get (s.resCurPos - 1)) then s
      else { s with resCurPos := s.resCurPos + 1 }
    set s.resCurPos ' '
    return { s with prevChar := ' ', qCurPos := s.qCurPos + 1 }
  else
    copyNextChar x s

/-- What follows a processing function that returns: back to the neutral state, or past the
current character. -/
def afterProcess : Act SharedSt :=
  if s.st = .noMarkFound then
    return { s with copyNextChar := true }
  else if s.copyNextChar then
    copyNextChar x s
  else
    incProcPos x s

def rearmed : LiteralDigitSt :=
  if s.st = .noMarkFound then { d with firstDigit := true } else d

/-- One round of the loop of `stage_1_parsing`. -/
def stage1Round (d : SharedSt × Stage1St) : Act (SharedSt × Stage1St) := do
  let (s, t) := d
  match s.st with
  | .noMarkFound =>
    let s := { s with resPrePos := s.resCurPos }
    let st ← getNextSt x s
    if st ≠ .noMarkFound then
      return ({ s with st }, t)
    else
      return (← processNoMark x s, t)
  | .cmntType1 =>
    let (s, c1) ← processCmntType1 x { s with copyNextChar := false } t.cmntType1
    return (← afterProcess x s, { t with cmntType1 := c1 })
  | .cmntType2 =>
    let s ← processCmntType2 x { s with copyNextChar := false }
    return (← afterProcess x s, t)
  | .cmntType3 =>
    let s ← processCmntType3 x { s with copyNextChar := false }
    return (← afterProcess x s, t)
  | .literalString =>
    let (s, str) ← processLiteralString x { s with copyNextChar := false } t.literalStr
    return (← afterProcess x s, { t with literalStr := str })
  | .literalNumber =>
    let (s, digit) ← processLiteralDigit x { s with copyNextChar := true } t.literalDigit
    return (← afterProcess x s, { t with literalDigit := rearmed s digit })
  | .replaceNull =>
    let s ← processReplaceNull x s
    return (← afterProcess x s, t)

def stage1Goes : Bool :=
  s.resCurPos ≤ x.dMaxLen - 1 && s.qCurPos < x.qLen

/-- The loop of `stage_1_parsing`: its body, and the loop itself. -/
def stage1Body (d : SharedSt × Stage1St) : Act (Next (SharedSt × Stage1St)) := do
  if stage1Goes x d.1 then
    return .again (← stage1Round x d)
  else
    return .leave d

def stage1Loop : SharedSt × Stage1St → Act (SharedSt × Stage1St) :=
  repeated (stage1Body x) x.fuel

def behindNumber (t : Stage1St) : SharedSt :=
  match t.newEndPos with
  | some p => { s with resCurPos := p, resPrePos := p }
  | none => s

/-- Where stage 1 resumes; `prev_char` is then the one that the buffer shows. -/
def stage1Resume (t : Stage1St) : Act SharedSt := do
  let s := behindNumber s t
  if s.resItInitPos ≠ 0 then
    return { s with prevChar := ← get (s.resPrePos - 1) }
  else
    return s

def stage1Parsing (d : DigestSt) : Act DigestSt := do
  let s ← stage1Resume d.shared d.stage1
  let (s, t) ← stage1Loop x (s, d.stage1)
  set s.resCurPos nul
  return { d with
    shared := s
    stage1 := { t with
      preItPos := s.resCurPos
      newEndPos := if s.st = .literalNumber then some s.resCurPos else none } }

end MockProxy.Tokenizer
