import MockProxy.Tokenizer.Stage1

/-!
# Stages 2 to 4, the final stage and the whole digest

The compression stages rewrite the text of stage 1 in place, with the cursor `res_cur_pos` for
reading and `res_pre_pos` for writing. Where the text becomes shorter and the query is not over,
stage 1 resumes with the room that was won.
-/

namespace MockProxy.Tokenizer

open Scratch Prog

def getStageDigestEnd (s : SharedSt) (t : Stage1St) : Int :=
  match s.st, t.literalDigit.startPos with
  | .literalNumber, some start => start - 1
  | _, _ => s.resCurPos - 1

def setStageNextStartPos (s : SharedSt) (digestEnd nextStartPos : Int) : SharedSt :=
  if s.resItInitPos ≠ 0 ∧ nextStartPos ≥ 0 ∧ nextStartPos < digestEnd then
    { s with resCurPos := nextStartPos, resPrePos := nextStartPos }
  else
    { s with resCurPos := 0, resPrePos := 0 }

/-- The digits from `f` up to `t` are moved to `r`; the answer is the place behind them. -/
def moveDigits (t : Int) : Nat → Int → Int → Act Int
  | 0, _, _ => .fail .endless
  | fuel + 1, f, r =>
    if f < t then do
      set r (← get f)
      moveDigits t fuel (f + 1) (r + 1)
    else
      return r

variable (x : Call) (s : SharedSt)

/-- `end_compression_stage_it`; the last component is the new `pre_it_pos` of the stage. -/
def endCompressionStageIt (digestEnd : Int) (t : Stage1St) : Act (SharedSt × Stage1St × Int) := do
  match t.literalDigit.startPos, t.newEndPos with
  | some start, some newEnd =>
    if digestEnd = start - 1 then
      let p ← moveDigits newEnd x.fuel start s.resPrePos
      set p nul
      return ({ s with resPrePos := p },
        { t with
          literalDigit := { t.literalDigit with startPos := some s.resPrePos }
          newEndPos := some p },
        s.resPrePos)
    else
      set s.resPrePos nul
      return (s, t, s.resPrePos)
  | _, _ =>
    set s.resPrePos nul
    return (s, t, s.resPrePos)

/-- `*res_pre_pos++ = *res_cur_pos++` -/
def keepChar : Act SharedSt := do
  set s.resPrePos (← get s.resCurPos)
  return { s with resPrePos := s.resPrePos + 1, resCurPos := s.resCurPos + 1 }

/-- `res_cur_pos++` -/
def dropChar : SharedSt := { s with resCurPos := s.resCurPos + 1 }

/-- The character `k` places before the cursor, `'0'` where there is none. -/
def charBefore (k : Int) : Act Byte :=
  if s.resCurPos ≥ k then get (s.resCurPos - k) else pure '0'

/-- Stage 2 at a space. -/
def stage2Space : Act SharedSt := do
  let lc ← charBefore s 1
  let rc ← get (s.resCurPos + 1)
  if lc == '(' || rc == ')' then
    return dropChar s
  else if (isArithmeticOp lc && rc == '?') || lc == ',' || rc == ',' then
    let llc ← charBefore s 2
    if x.opts.keepComment && (llc == '*' && lc == '/') then keepChar s else return dropChar s
  else if isArithmeticOp rc && lc == '?' && isTokenChar lc then
    return dropChar s
  else
    keepChar s

/-- A sign behind `c` and before `rc` acts on a single value. -/
def unarySign (c rc : Byte) : Bool :=
  isTokenChar c && (c != '?' && c != ')') && (rc == '?' || rc == ' ')

/-- Stage 2 at `+` or `-`. -/
def stage2Sign : Act SharedSt := do
  let llc ← charBefore s 2
  let lc ← charBefore s 1
  let rc ← get (s.resCurPos + 1)
  if lc == ' ' then
    if isNormalChar llc then return dropChar s
    else if unarySign llc rc then return dropChar s
    else keepChar s
  else if unarySign lc rc then return dropChar s
  else keepChar s

/-- Stage 2 at a digit outside of literals, with `replace_number`. -/
def stage2Digit : Act SharedSt := do
  if ← andThen (s.resPrePos > 0) (do return (← get (s.resPrePos - 1)) != '?') then
    set s.resPrePos '?'
    return dropChar { s with resPrePos := s.resPrePos + 1 }
  else
    return dropChar s

def stage2Round : Act SharedSt := do
  let c ← get s.resCurPos
  if c == ' ' then stage2Space x s
  else if c == '+' || c == '-' then stage2Sign s
  else if x.opts.replaceNumber && isDigitChar c then stage2Digit s
  else keepChar s

/-- What every compression stage does after its loop. -/
def endStage (d : DigestSt) (s : SharedSt) (digestEnd : Int) : Act (DigestSt × StageSt) := do
  let cOffset := digestEnd - s.resPrePos + 1
  let (s, t, preItPos) ← endCompressionStageIt x s digestEnd d.stage1
  return ({ d with shared := { s with resCurPos := s.resPrePos }, stage1 := t },
    { preItPos, cOffset := if cOffset > 0 then cOffset else 0 })

def stage2Parsing (d : DigestSt) : Act DigestSt := do
  let digestEnd := getStageDigestEnd d.shared d.stage1
  let nextStartPos := d.stage2.preItPos - (d.shared.glCOffset - d.stage2.cOffset) - (5 + 1)
  let s ← repeated (fun s => do
    if s.resCurPos ≤ digestEnd then return .again (← stage2Round x s) else return .leave s)
    x.fuel (setStageNextStartPos d.shared digestEnd nextStartPos)
  let (d, stage2) ← endStage x d s digestEnd
  return { d with stage2 }

def endsWith : Int → List Byte → Act Bool
  | _, [] => pure true
  | i, c :: cs => do andThen ((← get (i - 1)) == c) (endsWith (i - 1) cs)

/-- The buffer reads `cs` from a position on. -/
def readsAt : Int → List Byte → Act Bool
  | _, [] => pure true
  | i, c :: cs => do andThen ((← get i) == c) (readsAt (i + 1) cs)

/-- The loop over the `?,` behind an expansion pack; the flag says that `?)` was found. -/
def skipMarks (digestEnd : Int) : Nat → Int → Act (Int × Bool)
  | 0, _ => .fail .endless
  | fuel + 1, i =>
    if i < digestEnd then do
      if ← readsAt i ['?', ','] then
        skipMarks digestEnd fuel (i + 2)
      else if ← readsAt i ['?', ')'] then
        return (i + 1, true)
      else
        return (i, false)
    else
      return (i, false)

/-- The cursor is moved over the marks if a `?,` or the final `?)` was found. -/
def overMarks (newCurPos : Int) (isLast : Bool) : SharedSt :=
  if newCurPos > s.resCurPos + 1 || isLast then { s with resCurPos := newCurPos } else s

variable (digestEnd : Int) (startPos : Option Int)

/-- Stage 3 behind an expansion pack `,...`; the flag says that the loop is left. -/
def stage3ExpPack (s : SharedSt) : Act (Bool × SharedSt) := do
  if (← endsWith s.resPrePos ['.', '.', '.', ',']) && digestEnd - s.resCurPos ≥ 1 then
    let first := if (← get s.resCurPos) == ',' then s.resCurPos + 1 else s.resCurPos
    let (newCurPos, isLast) ← skipMarks digestEnd x.fuel first
    let broken ← andThen (startPos.isSome && newCurPos ≥ digestEnd)
      (do return isDigitChar (← get newCurPos))
    return (broken, overMarks s newCurPos isLast)
  else
    return (false, s)

def isMinPattern (i : Int) : Act Bool := do
  andThen (← readsAt i ['?', ',', '?']) do
    let c ← get (i + 3)
    return c == ',' || c == ')'

/-- The pattern `?,?,...` from a position on: where it ends, how many `?,` it has, and whether
the character behind the next one is `)`, as in `?)`. -/
def patternRun (digestEnd : Int) : Nat → Int → Nat → Act (Int × Nat × Bool)
  | 0, _, _ => .fail .endless
  | fuel + 1, i, len =>
    if i < digestEnd then do
      if ← readsAt i ['?', ','] then
        patternRun digestEnd fuel (i + 2) (len + 1)
      else
        return (i, len, (← get (i + 1)) == ')')
    else
      return (i, len, false)

/-- What is written for a pattern of `len` times `?,` that is longer than the limit. -/
def groupMarks (limit : Int) (len : Nat) : List Byte :=
  (List.range len).flatMap fun i : Nat =>
    if (i : Int) < limit then ['?', ','] else if (i : Int) = limit then ['.', '.', '.'] else []

variable (s : SharedSt)

/-- Stage 3 at a pattern. -/
def stage3Pattern : Act SharedSt := do
  let (patternPos, patternLen, closed) ← patternRun digestEnd x.fuel s.resCurPos 0
  let fPatternLen : Int := if closed then patternLen * 2 + 1 else patternLen * 2
  if fPatternLen ≥ x.opts.groupingLimit * 2 + 3 then
    let marks := groupMarks x.opts.groupingLimit patternLen
    writeAll s.resPrePos marks
    return { s with
      resPrePos := s.resPrePos + marks.length
      resCurPos := if closed then patternPos + 1 else patternPos - 1 }
  else
    let marks := (List.replicate patternLen ['?', ',']).flatten
    writeAll s.resPrePos marks
    return { s with resPrePos := s.resPrePos + marks.length, resCurPos := patternPos }

/-- Stage 3 looks for an expansion pack inside of a candidate for a group. -/
def stage3Behind (group : Bool) (s : SharedSt) : Act (Bool × SharedSt) :=
  if group && s.resPrePos > 4 then stage3ExpPack x digestEnd startPos s else pure (false, s)

/-- Stage 3 at a character: a pattern that fits is grouped, others are kept. -/
def stage3Char (group : Bool) (s : SharedSt) : Act SharedSt := do
  if group && s.resCurPos < digestEnd - x.opts.groupingLimit * 2 then
    let minPattern ← isMinPattern s.resCurPos
    if !isArithmeticOp (← get (s.resCurPos - 1)) && minPattern then stage3Pattern x digestEnd s
    else keepChar s
  else
    keepChar s

/-- `group_candidate` behind a character: candidates start with a parenthesis. -/
def groupCandidate (group : Bool) (c : Byte) : Bool :=
  if c == '(' then true else if c == ')' then false else group

/-- One round of the loop of stage 3; the flag is `group_candidate`. -/
def stage3Round (r : SharedSt × Bool) : Act (Next (SharedSt × Bool)) := do
  let (broken, s) ← stage3Behind x digestEnd startPos r.2 r.1
  if broken then
    return .leave (s, r.2)
  else
    let curChar := s.resCurPos
    let s ← stage3Char x digestEnd r.2 s
    return .again (s, groupCandidate r.2 (← get curChar))

variable (d : DigestSt)

def stage3Parsing : Act DigestSt := do
  if x.opts.groupingLimit = 0 then
    return d
  else
    let digestEnd := getStageDigestEnd d.shared d.stage1
    let minGroupSize := x.opts.groupingLimit * 2 + 7
    let nextStartPos :=
      d.stage3.preItPos - (d.shared.glCOffset - d.stage3.cOffset) - (minGroupSize + 1)
    let (s, _) ← repeated (fun r => do
      if r.1.resCurPos ≤ digestEnd then
        stage3Round x digestEnd d.stage1.literalDigit.startPos r
      else return .leave r)
      x.fuel (setStageNextStartPos d.shared digestEnd nextStartPos, false)
    let (d, stage3) ← endStage x d s digestEnd
    return { d with stage3 }

/-- The group that `is_group_pattern` looks for, as in `(?,?,...)`. -/
def groupPattern (limit : Int) : List Byte :=
  let groupSize := (1 + limit * 2 + 3 + 1).toNat
  (List.range groupSize).map fun i =>
    if i = 0 then '('
    else if i = groupSize - 1 then ')'
    else if (i : Int) ≤ limit * 2 then (if i % 2 = 1 then '?' else ',')
    else '.'

def isGroupPattern (opts : Options) (i : Int) : Act Bool :=
  readsAt i (groupPattern opts.groupingLimit)

/-- `group_pattern_size`: a group and the comma behind it. -/
def groupPatternSize (opts : Options) : Int := 1 + opts.groupingLimit * 2 + 3 + 1 + 1

/-- The loop over the groups behind an expansion pack. -/
def skipGroups (opts : Options) (digestEnd : Int) : Nat → Int → Act Int
  | 0, _ => .fail .endless
  | fuel + 1, i =>
    if i + (groupPatternSize opts - 2) ≤ digestEnd then do
      if ← isGroupPattern opts i then
        if i + (groupPatternSize opts - 1) = digestEnd then
          skipGroups opts digestEnd fuel (i + (groupPatternSize opts - 1))
        else
          skipGroups opts digestEnd fuel (i + groupPatternSize opts)
      else
        return i
    else
      return i

/-- The loop that counts groups from a position on: where they end and how many there are. -/
def countGroups (opts : Options) (digestEnd : Int) : Nat → Int → Nat → Act (Int × Nat)
  | 0, _, _ => .fail .endless
  | fuel + 1, i, found =>
    if i + (groupPatternSize opts - 2) ≤ digestEnd then do
      if ← isGroupPattern opts i then
        let j := i + (groupPatternSize opts - 1)
        let j := if (← get j) == ',' then j + 1 else j
        countGroups opts digestEnd fuel j (found + 1)
      else
        return (i, found)
    else
      return (i, found)

/-- `n` characters of the buffer from a position on. -/
def readAll : Int → Nat → Act (List Byte)
  | _, 0 => return []
  | i, n + 1 => do return (← get i) :: (← readAll (i + 1) n)

/-- `memmove` inside of the result buffer; a negative size is an enormous one. -/
def memmove (target source size : Int) : Act Unit := do
  if size < 0 then .fail .outOfBuffer
  else writeAll target (← readAll source size.toNat)

/-- Stage 4 behind an expansion pack `),...`: how the loop goes on, `none` if the round does. -/
def stage4ExpPack : Act (Option (Next SharedSt)) := do
  let c ← get s.resCurPos
  let first := if c == ',' || c == ' ' then s.resCurPos + 1 else s.resCurPos
  let curPatternPos ← skipGroups x.opts digestEnd x.fuel first
  if curPatternPos > s.resCurPos + 1 then
    return some (.again { s with resCurPos := curPatternPos - 1 })
  else if curPatternPos ≥ digestEnd then
    return some (.leave s)
  else
    return none

/-- Stage 4 at a chain of groups, of which more than the limit are collapsed. -/
def stage4Groups : Act SharedSt := do
  let (curPatternPos, found) ← countGroups x.opts digestEnd x.fuel s.resCurPos 0
  if (found : Int) > x.opts.groupsGroupingLimit then
    let size := groupPatternSize x.opts * x.opts.groupsGroupingLimit
    memmove s.resPrePos s.resCurPos size
    writeAll (s.resPrePos + size) ['.', '.', '.']
    return { s with resPrePos := s.resPrePos + size + 3, resCurPos := curPatternPos }
  else
    return s

/-- Stage 4 at a position where more groups than the limit fit. -/
def stage4Collapse : Act SharedSt := do
  if ← andThen (s.resCurPos ≤
      digestEnd - groupPatternSize x.opts * (x.opts.groupsGroupingLimit + 1) + 2)
      (readsAt s.resCurPos ['(', '?', ',']) then
    stage4Groups x digestEnd s
  else
    return s

def stage4Plain : Act (Next SharedSt) := do
  let s ← stage4Collapse x digestEnd s
  if s.resCurPos > digestEnd then
    return .leave s
  else
    return .again (← keepChar s)

/-- Stage 4 looks for an expansion pack of groups. -/
def stage4Behind : Act (Option (Next SharedSt)) := do
  if ← andThen (s.resPrePos > 5) (endsWith s.resPrePos ['.', '.', '.', ',', ')']) then
    stage4ExpPack x digestEnd s
  else
    return none

def stage4Round : Act (Next SharedSt) := do
  match ← stage4Behind x digestEnd s with
  | some next => return next
  | none => stage4Plain x digestEnd s

def stage4Parsing : Act DigestSt := do
  if x.opts.groupsGroupingLimit = 0 ∨ x.opts.groupingLimit = 0 then
    return d
  else
    let digestEnd := getStageDigestEnd d.shared d.stage1
    let nextStartPos :=
      d.stage4.preItPos - groupPatternSize x.opts * (x.opts.groupsGroupingLimit + 2)
    let s ← repeated (fun s => do
      if s.resCurPos ≤ digestEnd then stage4Round x digestEnd s else return .leave s)
      x.fuel (setStageNextStartPos d.shared digestEnd nextStartPos)
    let (d, stage4) ← endStage x d s digestEnd
    return { d with stage4 }

def trimEnd : Nat → Int → Act Int
  | 0, _ => .fail .endless
  | fuel + 1, i => do
    if ← andThen (i > 0) (do let c ← get i; return c == ' ' || c == ';') then
      trimEnd fuel (i - 1)
    else
      return i + 1

/-- A number that did not fit in the buffer becomes a `?`. -/
def trimDigits (t : Stage1St) : Act Unit := do
  match t.literalDigit.startPos with
  | none => return ()
  | some start =>
    if ← andThen (x.dMaxLen ≤ s.resCurPos && s.st = .literalNumber)
        (do return isDigitChar (← get start)) then
      set start '?'
      set (start + 1) nul
    else
      return ()

def finalStage (t : Stage1St) : Act Unit := do
  trimDigits x s t
  set (← trimEnd x.fuel (s.resCurPos - 1)) nul

/-- The three compression stages, and the room they gained. -/
def compressionStages : Act DigestSt := do
  let d ← stage2Parsing x d
  let d ← stage3Parsing x d
  let d ← stage4Parsing x d
  return { d with shared.glCOffset := d.stage1.preItPos - d.shared.resCurPos }

def allStages : Act DigestSt := do
  compressionStages x (← stage1Parsing x d)

/-- One round of the loop of `mysql_query_digest_and_first_comment_2`. -/
def digestRound : Act (Next DigestSt) := do
  let d ← allStages x d
  if d.shared.qCurPos ≥ x.qLen ∨ x.dMaxLen ≤ d.shared.resCurPos ∨ d.shared.glCOffset = 0 then
    return .leave d
  else
    let newStartPoint := d.shared.resCurPos
    return .again { d with
      shared.resItInitPos := newStartPoint
      shared.resCurPos := newStartPoint
      shared.resPrePos := newStartPoint }

def cString : Nat → Int → Act (List Byte)
  | 0, _ => .fail .endless
  | fuel + 1, i => do
    let c ← get i
    if c == nul then return [] else return c :: (← cString fuel (i + 1))

/-- The digest that the caller reads, and the first comment. -/
structure Digest where
  text : List Byte
  fstCmnt : Option (List Byte)
  deriving DecidableEq, Repr

def digestProg : Act Digest := do
  let d ← repeated (digestRound x) x.fuel {}
  finalStage x d.shared d.stage1
  return { text := ← cString x.fuel 0, fstCmnt := d.stage1.cmntType1.fstCmnt }

theorem getDigestMaxLen_nonneg (vars : DigestVars) (len : Nat) : 0 ≤ getDigestMaxLen vars len := by
  unfold getDigestMaxLen
  split <;> omega

theorem getDigestMaxLen_le (vars : DigestVars) (len : Nat) : getDigestMaxLen vars len ≤ len := by
  unfold getDigestMaxLen
  split <;> omega

/-- The call for a query; its loops are followed for `fuel` rounds, or for more if the query is
long. -/
def callOf (fuel : Nat) (vars : DigestVars) (q : List Byte) : Call where
  opts := getOptions vars
  q := q
  dMaxLen := getDigestMaxLen vars q.length
  fuel := max fuel (3 * q.length + 3)
  nonneg := getDigestMaxLen_nonneg vars q.length
  fits := getDigestMaxLen_le vars q.length
  enough := le_max_right _ _

/-- `mysql_query_digest_and_first_comment_2` on a result buffer that holds `buf`. -/
def mysqlQueryDigestAndFirstComment2 (fuel : Nat) (vars : DigestVars) (q : List Byte)
    (buf : Int → Byte) : Except Fault Digest :=
  let x := callOf fuel vars q
  ((digestProg x).run x.dMaxLen buf).map Prod.fst

end MockProxy.Tokenizer
