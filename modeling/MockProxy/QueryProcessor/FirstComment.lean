import MockProxy.Lib.CString
import MockProxy.Lib.Machine

/-!
# The comment at the front of a query

`query_parser_first_comment` reads settings from the first comment of a query: pairs `key=value`,
with `;` between them. Among them are the greatest lag a replica may have (`max_lag_ms`, or
`min_epoch_ms` from which it is computed) and a GTID the server must have executed (`min_gtid`).

The copy of a GTID is made with `malloc(l+1)`, `strncpy(buf, value, l)` and `buf[l+1]='\0'`. The
byte behind the text is never written, and the byte behind the block is.
-/

namespace MockProxy.QueryProcessor.FirstComment

open Machine List
open CString

/-! ### Texts -/

def Comment : Type := { text : List Char // '\x00' ∉ text }

def cSplit2 (s : List Char) (delimiter : Char) : List Char × List Char :=
  let parts := tokens delimiter s
  (parts.getD 0 [], parts.getD 1 [])

/-- The loop of `remove_spaces`: what has been written, and whether its last character stands for
spaces. Nothing is written for spaces at the front. -/
def removeSpacesLoop : (out : List Char) → (prevSpace : Bool) → List Char → List Char × Bool
  | out, prevSpace, [] => (out, prevSpace)
  | out, prevSpace, c :: rest =>
    if isSpace c then
      if out ≠ [] ∧ prevSpace = false then removeSpacesLoop (out ++ [' ']) true rest
      else removeSpacesLoop out prevSpace rest
    else removeSpacesLoop (out ++ [c]) false rest

def removeSpaces (s : List Char) : List Char :=
  let (out, prevSpace) := removeSpacesLoop [] false s
  -- a space at the end is taken off again
  if prevSpace then out.dropLast else out

/-- `strcasecmp(key, literal) == 0` -/
def isKey (key : List Char) (literal : String) : Bool :=
  key.map Char.toLower = literal.toList.map Char.toLower

/-! ### The copy of a GTID -/

/-- What `malloc` returns for a request of `size` bytes: the allocator may have reserved more, and
the bytes are whatever they were. -/
structure Block (size : Nat) where
  bytes : List Char
  fits : size ≤ bytes.length

/-- The clock in milliseconds and the allocator, while the token with a given index is read -/
structure Env where
  nowMs : Nat → Nat
  malloc : Nat → (size : Nat) → Block size

def isValidGtid (gtid : List Char) : Bool :=
  3 ≤ gtid.length && ':' ∈ gtid && 1 ≤ gtid.idxOf ':' && gtid.idxOf ':' + 2 ≤ gtid.length

/-- `strncpy(buf, value, l); buf[l+1] = '\0';` with `l = strlen(value)` -/
def copyGtid (value : List Char) (block : Block (value.length + 1)) : Except MemFault (List Char) :=
  -- `strncpy` writes no null byte, and the byte behind the text keeps its value
  let buf := value ++ block.bytes.drop value.length
  if value.length + 1 < buf.length then .ok (buf.set (value.length + 1) '\x00')
  else .error .outOfBounds

/-! ### The settings -/

/-- `Query_Processor_Output`, as far as comments set it. `minGtid` is the memory it points to. -/
structure Settings where
  cacheTtl : Int := -1
  delay : Int := -1
  retries : Int := -1
  timeout : Int := -1
  destinationHostgroup : Int := -1
  mirrorHostgroup : Int := -1
  maxLagMs : Int := -1
  minGtid : Option (List Char) := none
  createNewConn : Bool := false
  deriving DecidableEq

/-- The settings that are a number: it has to start with a digit. -/
def setNumber (key value : List Char) (qpo : Settings) : Settings :=
  if (value.head?.any isDigit) then
    let t := atoi value
    if isKey key "cache_ttl" then { qpo with cacheTtl := t }
    else if isKey key "query_delay" then { qpo with delay := t }
    else if isKey key "query_retries" then { qpo with retries := t }
    else if isKey key "query_timeout" then { qpo with timeout := t }
    else if isKey key "hostgroup" then { qpo with destinationHostgroup := t }
    else if isKey key "mirror" then { qpo with mirrorHostgroup := t }
    else qpo
  else qpo

/-- `max_lag_ms` and `min_epoch_ms` -/
def setMaxLag (nowMs : Nat) (key value : List Char) (qpo : Settings) : Settings :=
  if value.head?.any isDigit then
    if isKey key "max_lag_ms" ∧ 0 ≤ atoi value ∧ atoi value ≤ 600000 then
      { qpo with maxLagMs := atoi value }
    else
      let diff := nowMs - atoll value
      if isKey key "min_epoch_ms" ∧ 0 ≤ diff ∧ diff ≤ 600000 then { qpo with maxLagMs := diff }
      else qpo
  else qpo

/-- `min_gtid` -/
def setMinGtid (malloc : (size : Nat) → Block size) (key value : List Char) (qpo : Settings) :
    Except MemFault Settings :=
  if isKey key "min_gtid" ∧ isValidGtid value then do
    let buf ← copyGtid value (malloc (value.length + 1))
    return { qpo with minGtid := some buf }
  else .ok qpo

/-- `create_new_connection` -/
def setCreateNewConn (key value : List Char) (qpo : Settings) : Settings :=
  if isKey key "create_new_connection" ∧ atoi value = 1 then { qpo with createNewConn := true }
    else qpo

def keyValue (token : List Char) : List Char × List Char :=
  let (key, value) := cSplit2 token '='
  (removeSpaces key, removeSpaces value)

/-- One token. The keys are all different, so at most one setting is changed. -/
def setToken (env : Env) (qpo : Settings) (token : List Char × Nat) : Except MemFault Settings :=
  let (key, value) := keyValue token.1
  if key = [] then .ok qpo
  else do
    let qpo := setNumber key value qpo
    let qpo := setMaxLag (env.nowMs token.2) key value qpo
    let qpo ← setMinGtid (env.malloc token.2) key value qpo
    return setCreateNewConn key value qpo

def Comment.tokens (fc : Comment) : List (List Char × Nat) := (CString.tokens ';' fc.val).zipIdx

/-- The first `n` tokens of a comment are read. `qpo` is what the rules have set. -/
def parsed (env : Env) (qpo : Settings) (fc : Comment) (n : Nat) : Except MemFault Settings :=
  (fc.tokens.take n).foldlM (setToken env) qpo

def queryParserFirstComment (env : Env) (qpo : Settings) (fc : Comment) :
    Except MemFault Settings :=
  fc.tokens.foldlM (setToken env) qpo

/-! ### Texts without null bytes -/

variable {c : Char} {i : Nat} {fc : Comment} {token : List Char × Nat} {env : Env} {qpo : Settings}
  {s : List Char}

theorem removeSpacesLoop_subset (other : c ≠ ' ') (s out : List Char) (prevSpace : Bool)
    (inside : c ∈ (removeSpacesLoop out prevSpace s).1) : c ∈ out ∨ c ∈ s := by
  induction s generalizing out prevSpace with
  | nil => exact .inl inside
  | cons first rest ih =>
    rw [removeSpacesLoop] at inside
    split at inside
    · split at inside
      · rcases ih _ _ inside with written | behind
        · rcases mem_append.mp written with before | space
          · exact .inl before
          · exact absurd (mem_singleton.mp space) other
        · exact .inr (mem_cons_of_mem _ behind)
      · exact (ih _ _ inside).imp id (mem_cons_of_mem _)
    · rcases ih _ _ inside with written | behind
      · rcases mem_append.mp written with before | this
        · exact .inl before
        · exact .inr (mem_singleton.mp this ▸ mem_cons_self)
      · exact .inr (mem_cons_of_mem _ behind)

theorem mem_of_mem_removeSpaces (other : c ≠ ' ') (inside : c ∈ removeSpaces s) : c ∈ s := by
  have written : c ∈ (removeSpacesLoop [] false s).1 := by
    unfold removeSpaces at inside
    dsimp only at inside
    split at inside
    · exact dropLast_subset _ inside
    · exact inside
  rcases removeSpacesLoop_subset other s [] false written with before | here
  · cases before
  · exact here

theorem mem_of_mem_cSplit2 {delimiter : Char} (inside : c ∈ (cSplit2 s delimiter).2) : c ∈ s := by
  unfold cSplit2 at inside
  dsimp only at inside
  cases part : (tokens delimiter s)[1]? with
  | none =>
    rw [getD_eq_getElem?_getD, part] at inside
    cases inside
  | some value =>
    rw [getD_eq_getElem?_getD, part] at inside
    have member := mem_of_getElem? part
    exact mem_of_mem_tokens member inside

theorem Comment.nul_notMem_value (fc : Comment) {token : List Char}
    (member : (token, i) ∈ fc.tokens) : '\x00' ∉ (keyValue token).2 := by
  intro inside
  have in_token := mem_of_mem_cSplit2 (mem_of_mem_removeSpaces (by decide) inside)
  have listed : token ∈ CString.tokens ';' fc.val := by
    exact fst_mem_of_mem_zipIdx member
  exact fc.property (mem_of_mem_tokens listed in_token)

/-! ### The copy -/

theorem copyGtid_ok_iff {value buf : List Char} {block : Block (value.length + 1)} :
    copyGtid value block = .ok buf ↔ value.length + 1 < block.bytes.length ∧
      buf = (value ++ block.bytes.drop value.length).set (value.length + 1) '\x00' := by
  have size : (value ++ block.bytes.drop value.length).length = block.bytes.length := by
    have fits := block.fits
    simp only [length_append, length_drop]
    omega
  unfold copyGtid
  dsimp only
  rw [size]
  split
  next room =>
    simp only [Except.ok.injEq, room, true_and]
    exact eq_comm
  next full =>
    simp [full]

theorem copyGtid_nulTerminated_iff {value buf : List Char} {block : Block (value.length + 1)}
    (copied : copyGtid value block = .ok buf) :
    NulTerminated buf value ↔ block.bytes[value.length]? = some '\x00' := by
  obtain ⟨room, rfl⟩ := copyGtid_ok_iff.mp copied
  -- the byte behind the text is the one that was there before
  have behind : block.bytes.drop value.length =
      block.bytes[value.length] :: block.bytes.drop (value.length + 1) :=
    drop_eq_getElem_cons (by omega)
  unfold NulTerminated
  rw [set_append_right _ _ (by omega), prefix_append_right_inj, behind]
  simp only [Nat.add_sub_cancel_left, set_cons_succ, cons_prefix_cons, nil_prefix,
    and_true, getElem?_eq_getElem (show value.length < block.bytes.length by omega),
    Option.some.injEq]
  exact eq_comm

/-! ### A run over the tokens -/

/-- The token with index `i` asks for a GTID that is accepted. -/
def AcceptedAt (fc : Comment) (i : Nat) (value : List Char) : Prop :=
  ∃ token, fc.tokens[i]? = some (token, i) ∧ (keyValue token).2 = value ∧
    isKey (keyValue token).1 "min_gtid" = true ∧ isValidGtid value = true

theorem AcceptedAt.clean {gtid : List Char} (accepted : AcceptedAt fc i gtid) : '\x00' ∉ gtid := by
  obtain ⟨token, found, rfl, -, -⟩ := accepted
  exact fc.nul_notMem_value (mem_of_getElem? found)

theorem snd_of_getElem?_tokens (found : fc.tokens[i]? = some token) : token.2 = i := by
  unfold Comment.tokens at found
  rw [getElem?_zipIdx] at found
  obtain ⟨text, -, rfl⟩ := Option.map_eq_some_iff.mp found
  exact Nat.zero_add i

theorem parsed_succ (found : fc.tokens[i]? = some token) :
    parsed env qpo fc (i + 1) = parsed env qpo fc i >>= fun qpo => setToken env qpo token := by
  unfold parsed
  rw [take_add_one, found, foldlM_append]
  simp only [Option.toList_some, foldlM_cons, foldlM_nil, bind_pure]

theorem minGtid_setCreateNewConn (key value : List Char) (qpo : Settings) :
    (setCreateNewConn key value qpo).minGtid = qpo.minGtid := by
  unfold setCreateNewConn
  split_ifs <;> rfl

section Token

variable {env : Env} {qpo qpo' : Settings} {token value : List Char} {i : Nat}

theorem ne_nil_of_isKey {key : List Char} (gtid : isKey key "min_gtid") : key ≠ [] := by
  rintro rfl
  exact absurd gtid (by decide)

theorem setToken_accepted (gtid : isKey (keyValue token).1 "min_gtid")
    (same : (keyValue token).2 = value) (valid : isValidGtid value) :
    setToken env qpo (token, i) = copyGtid value (env.malloc i (value.length + 1)) >>= fun buf =>
        pure (setCreateNewConn (keyValue token).1 value
          { setMaxLag (env.nowMs i) (keyValue token).1 value
          (setNumber (keyValue token).1 value qpo)
            with minGtid := some buf }) := by
  subst same
  unfold setToken
  dsimp only
  rw [if_neg (ne_nil_of_isKey gtid), setMinGtid, if_pos ⟨gtid, valid⟩]
  simp

theorem setToken_accepted_iff (env : Env) (qpo : Settings) {buf : List Char}
    (gtid : isKey (keyValue token).1 "min_gtid") (same : (keyValue token).2 = value)
    (valid : isValidGtid value) :
    (∃ qpo', setToken env qpo (token, i) = .ok qpo' ∧ qpo'.minGtid = some buf) ↔
      copyGtid value (env.malloc i (value.length + 1)) = .ok buf := by
  rw [setToken_accepted gtid same valid]
  constructor
  · rintro ⟨qpo', stepped, stored⟩
    obtain ⟨buf', copied, rfl⟩ := return_eq_ok.mp stepped
    rw [minGtid_setCreateNewConn] at stored
    cases stored
    exact copied
  · intro copied
    refine ⟨_, bind_eq_ok.mpr ⟨buf, copied, rfl⟩, ?_⟩
    rw [minGtid_setCreateNewConn]

theorem setToken_other
    (other : ¬ (isKey (keyValue token).1 "min_gtid" ∧ isValidGtid (keyValue token).2)) :
    ∃ qpo', setToken env qpo (token, i) = .ok qpo' := by
  unfold setToken
  dsimp only
  split
  · exact ⟨_, rfl⟩
  · rw [setMinGtid, if_neg other]
    exact ⟨_, rfl⟩

end Token

/-- The tokens are read without a fault if there is room for every GTID that is accepted. -/
theorem parsed_ok (qpo : Settings) (n : Nat) (room : ∀ i < n, ∀ value, AcceptedAt fc i value →
      value.length + 1 < (env.malloc i (value.length + 1)).bytes.length) :
    ∃ qpo', parsed env qpo fc n = .ok qpo' := by
  induction n with
  | zero => exact ⟨qpo, rfl⟩
  | succ n ih =>
    obtain ⟨before, ran⟩ := ih fun i earlier => room i (Nat.lt_succ_of_lt earlier)
    cases found : fc.tokens[n]? with
    | none =>
      -- the comment has no more tokens
      refine ⟨before, ?_⟩
      unfold parsed at ran ⊢
      rw [take_add_one, found]
      simpa using ran
    | some token =>
      obtain rfl := snd_of_getElem?_tokens found
      rw [parsed_succ found, ran]
      by_cases accepted : isKey (keyValue token.1).1 "min_gtid" ∧
          isValidGtid (keyValue token.1).2
      · have space := room _ (lt_add_one _) _ ⟨token.1, found, rfl, accepted.1, accepted.2⟩
        obtain ⟨qpo', stepped, -⟩ := (setToken_accepted_iff env before accepted.1 rfl
          accepted.2).mpr (copyGtid_ok_iff.mpr ⟨space, rfl⟩)
        exact ⟨qpo', stepped⟩
      · exact setToken_other accepted

/-! ### The greatest lag -/

def LagAccepted (lag : Int) : Prop := 0 ≤ lag ∧ lag ≤ 600000

theorem maxLagMs_setNumber (key value : List Char) (qpo : Settings) :
    (setNumber key value qpo).maxLagMs = qpo.maxLagMs := by
  unfold setNumber
  split_ifs <;> rfl

theorem maxLagMs_setMaxLag (nowMs : Nat) (key value : List Char) (qpo : Settings) :
    (setMaxLag nowMs key value qpo).maxLagMs = qpo.maxLagMs ∨
      LagAccepted (setMaxLag nowMs key value qpo).maxLagMs := by
  unfold setMaxLag
  dsimp only
  split
  · split
    next accepted =>
      exact .inr accepted.2
    · split
      next accepted =>
        exact .inr accepted.2
      · exact .inl rfl
  · exact .inl rfl

theorem maxLagMs_setToken {qpo' : Settings} (stepped : setToken env qpo token = .ok qpo') :
    qpo'.maxLagMs = qpo.maxLagMs ∨ LagAccepted qpo'.maxLagMs := by
  have lagged := maxLagMs_setMaxLag (env.nowMs token.2) (keyValue token.1).1 (keyValue token.1).2
    (setNumber (keyValue token.1).1 (keyValue token.1).2 qpo)
  rw [maxLagMs_setNumber] at lagged
  unfold setToken at stepped
  dsimp only at stepped
  split at stepped
  · cases stepped
    exact .inl rfl
  · obtain ⟨copied, stored, rfl⟩ := return_eq_ok.mp stepped
    have kept : copied.maxLagMs = (setMaxLag (env.nowMs token.2) (keyValue token.1).1
        (keyValue token.1).2 (setNumber (keyValue token.1).1
        (keyValue token.1).2 qpo)).maxLagMs := by
      unfold setMinGtid at stored
      split at stored
      · obtain ⟨buf, -, rfl⟩ := return_eq_ok.mp stored
        rfl
      · cases stored
        rfl
    have unchanged : (setCreateNewConn (keyValue token.1).1 (keyValue token.1).2 copied).maxLagMs =
        copied.maxLagMs := by
      unfold setCreateNewConn
      split_ifs <;> rfl
    rw [unchanged, kept]
    exact lagged

theorem maxLagMs_queryParserFirstComment {qpo' : Settings}
    (ran : queryParserFirstComment env qpo fc = .ok qpo') :
    qpo'.maxLagMs = qpo.maxLagMs ∨ LagAccepted qpo'.maxLagMs := by
  have run : Run (setToken env) (fun _ _ => True) qpo qpo' := run_of_foldlM ran
  apply run.invariant (fun qpo' => qpo'.maxLagMs = qpo.maxLagMs ∨ LagAccepted qpo'.maxLagMs)
  · exact .inl rfl
  · intro before token after known _ stepped
    rcases maxLagMs_setToken stepped with same | accepted
    · rw [same]
      exact known
    · exact .inr accepted

end MockProxy.QueryProcessor.FirstComment
