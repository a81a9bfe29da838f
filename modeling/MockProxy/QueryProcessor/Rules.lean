import Mathlib.Data.Set.Card

/-!
# Query rules and routing

`Query_Processor::process_mysql_query` walks the query rules of the thread, takes what each matching
rule sets, and after the walk routes the query by the fast routing table, or by LionRouter when no
table is loaded. A rule may jump: it changes `flagIN` and the walk starts again, as long as
`query_processor_iterations` allows it.

Whether the query is routed is read off the loop variable `qr` after the walk, so it is the rule
that was looked at last that decides. `Walk.ends` says which rule that is.
-/

namespace MockProxy.QueryProcessor

/-- The regular expressions, RE2 or PCRE; `modifiers` is `re_modifiers`. -/
structure RegexEngine where
  partialMatch (pattern : String) (modifiers : Nat) (text : String) : Bool
  replace (pattern : String) (modifiers : Nat) (replacement text : String) : String

/-- What a rule may set for a query; negative values leave it as it is. -/
structure Settings where
  destinationHostgroup : Int := -1
  mirrorHostgroup : Int := -1
  mirrorFlagOUT : Int := -1
  nextQueryFlagIN : Int := -1
  cacheTtl : Int := -1
  cacheEmptyResult : Int := -1
  cacheTimeout : Int := -1
  reconnect : Int := -1
  timeout : Int := -1
  retries : Int := -1
  delay : Int := -1
  stickyConn : Int := -1
  multiplex : Int := -1
  gtidFromHostgroup : Int := -1
  log : Int := -1
  deriving DecidableEq

/-- `if (qr->x >= 0) ret->x = qr->x` -/
def keepOr (old new : Int) : Int := if 0 ≤ new then new else old

def Settings.overriddenBy (old new : Settings) : Settings where
  destinationHostgroup := keepOr old.destinationHostgroup new.destinationHostgroup
  mirrorHostgroup := keepOr old.mirrorHostgroup new.mirrorHostgroup
  mirrorFlagOUT := keepOr old.mirrorFlagOUT new.mirrorFlagOUT
  nextQueryFlagIN := keepOr old.nextQueryFlagIN new.nextQueryFlagIN
  cacheTtl := keepOr old.cacheTtl new.cacheTtl
  cacheEmptyResult := keepOr old.cacheEmptyResult new.cacheEmptyResult
  cacheTimeout := keepOr old.cacheTimeout new.cacheTimeout
  reconnect := keepOr old.reconnect new.reconnect
  timeout := keepOr old.timeout new.timeout
  retries := keepOr old.retries new.retries
  delay := keepOr old.delay new.delay
  stickyConn := keepOr old.stickyConn new.stickyConn
  multiplex := keepOr old.multiplex new.multiplex
  gtidFromHostgroup := keepOr old.gtidFromHostgroup new.gtidFromHostgroup
  log := keepOr old.log new.log

/-- `QP_rule_t`. -/
structure Rule where
  ruleId : Int
  username : Option String := none
  schemaname : Option String := none
  flagIN : Int := 0
  clientAddr : Option String := none
  -- -1 without a wildcard
  clientAddrWildcardPosition : Int := -1
  proxyAddr : Option String := none
  proxyPort : Int := -1
  digest : Nat := 0
  matchDigest : Option String := none
  matchPattern : Option String := none
  negateMatchPattern : Bool := false
  reModifiers : Nat := 0
  flagOUT : Int := -1
  -- `flagOUT_ids` with `flagOUT_weights`
  flagOUTWeights : List (Int × Nat) := []
  replacePattern : Option String := none
  settings : Settings := {}
  errorMsg : Option String := none
  okMsg : Option String := none
  apply : Bool
  deriving DecidableEq

variable (r : Rule)

def Rule.flagOUTWeightsTotal : Nat := (r.flagOUTWeights.map Prod.snd).sum

/-- `Query_Processor_Output`, as far as the rules set it. -/
structure Output where
  settings : Settings := {}
  errorMsg : Option String := none
  okMsg : Option String := none
  newQuery : Option String := none
  deriving DecidableEq

/-- What is read of the session. -/
structure Session where
  mirror : Bool := false
  mirrorHostgroup : Int := -1
  mirrorFlagOUT : Int := -1
  nextQueryFlagIN : Int := -1
  username : String
  schemaname : String
  addr : Option String := none
  proxyAddr : Option String := none
  proxyPort : Int := 0

/-- `SQP_par_t`, as far as the rules read it. -/
structure QueryParserArgs where
  digest : Nat
  digestText : Option String

structure Query where
  text : String
  parserArgs : Option QueryParserArgs
  -- `ptr == NULL`
  stmtExecute : Bool := false

/-! ### Matching a rule -/

def unsetOr (criterion : Option String) (holds : String → Bool) : Bool :=
  match criterion with
  | none => true
  | some text => text = "" || holds text

def Rule.matchesClientAddr (sess : Session) : Bool :=
  unsetOr r.clientAddr fun wanted =>
    match sess.addr with
    | none => true
    | some addr =>
      if r.clientAddrWildcardPosition = -1 then wanted = addr
      else if r.clientAddrWildcardPosition = 0 then true
      else
        let n := r.clientAddrWildcardPosition.toNat
        wanted.toList.take n = addr.toList.take n

def Rule.matchesProxyAddr (sess : Session) : Bool :=
  unsetOr r.proxyAddr fun wanted =>
    match sess.proxyAddr with
    | none => true
    | some addr => wanted = addr

def Rule.matchesProxyPort (sess : Session) : Bool :=
  r.proxyPort < 0 || r.proxyPort = sess.proxyPort

def Rule.matchesDigest (query : Query) : Bool :=
  match query.parserArgs with
  | none => true
  | some qp => qp.digest = 0 || r.digest = 0 || r.digest = qp.digest

variable (re : RegexEngine)

/-- A pattern rejects a text it does not match, or one it matches if the rule negates it. -/
def Rule.accepts (pattern text : String) : Bool :=
  re.partialMatch pattern r.reModifiers text != r.negateMatchPattern

def Rule.matchesDigestText (query : Query) : Bool :=
  match query.parserArgs.bind QueryParserArgs.digestText, r.matchDigest with
  | some text, some pattern => r.accepts re pattern text
  | _, _ => true

def Rule.matchesPattern (query : Query) (out : Output) : Bool :=
  match r.matchPattern with
  | none => true
  | some pattern => r.accepts re pattern (out.newQuery.getD query.text)

/-- The checks of the rule loop, in its order. -/
def Rule.isMatch (sess : Session) (query : Query) (flagIN : Int) (out : Output) : Bool :=
  r.flagIN = flagIN &&
    unsetOr r.username (· = sess.username) &&
    unsetOr r.schemaname (· = sess.schemaname) &&
    r.matchesClientAddr sess && r.matchesProxyAddr sess && r.matchesProxyPort sess &&
    r.matchesDigest query && r.matchesDigestText re query && r.matchesPattern re query out

/-! ### The rule loop -/

/-- What the loop reads besides the rules. `random n` is the n-th value drawn. -/
structure Env where
  re : RegexEngine
  sess : Session
  query : Query
  random : Nat → Nat

/-- The loop's variables. `hits` are the rules whose `hits` were increased, the last one first. -/
structure Walk where
  flagIN : Int
  out : Output := {}
  qr : Option Rule := none
  hits : List Rule := []
  drawn : Nat := 0

/-- The weighted choice among `flagOUT_ids`. -/
def chooseFlagOUT : List (Int × Nat) → Nat → Option Int
  | [], _ => none
  | (id, w) :: rest, rnd => if rnd < w then some id else chooseFlagOUT rest (rnd - w)

/-- The `flagIN` a matching rule jumps to, if it jumps; `flagOUT` wins over the weights. -/
def Rule.jump (random : Nat) : Option Int :=
  if 0 ≤ r.flagOUT then some r.flagOUT
  else if 0 < r.flagOUTWeightsTotal then
    chooseFlagOUT r.flagOUTWeights (random % r.flagOUTWeightsTotal)
  else none

/-- `QP_RE_MOD_GLOBAL` and the other modifiers are the regular expression's affair. -/
def Rule.rewrite (query : Query) (newQuery : Option String) : Option String :=
  match query.stmtExecute, r.replacePattern with
  | false, some replacement =>
    some (re.replace (r.matchPattern.getD "") r.reModifiers replacement (newQuery.getD query.text))
  | _, _ => newQuery

/-- What a matching rule does. -/
def Walk.take (w : Walk) (env : Env) (r : Rule) : Walk where
  flagIN := (r.jump (env.random w.drawn)).getD w.flagIN
  out :=
    { settings := w.out.settings.overriddenBy r.settings
      errorMsg := r.errorMsg.or w.out.errorMsg
      okMsg := r.okMsg.or w.out.okMsg
      newQuery := r.rewrite env.re env.query w.out.newQuery }
  qr := some r
  hits := r :: w.hits
  drawn := if 0 < r.flagOUTWeightsTotal then w.drawn + 1 else w.drawn

/-- How a pass over the rules ends: at a rule with `apply`, at a jump, or at the end of the list. -/
inductive Verdict where
  | applied
  | again
  | ended
  deriving DecidableEq

/-- One pass of the loop; `reiterate` says whether a jump may start another one. -/
def pass (env : Env) (reiterate : Bool) : List Rule → Walk → Verdict × Walk
  | [], w => (.ended, w)
  | r :: rules, w =>
    if r.isMatch env.re env.sess env.query w.flagIN w.out then
      if r.apply then (.applied, w.take env r)
      else if (r.jump (env.random w.drawn)).isSome && reiterate then (.again, w.take env r)
      else pass env reiterate rules (w.take env r)
    else pass env reiterate rules { w with qr := some r }

/-- `__internal_loop`; the counter is what is left of `query_processor_iterations`. -/
def iterate (env : Env) (rules : List Rule) : (reiterate : Nat) → Walk → Walk
  | 0, w => (pass env false rules w).2
  | n + 1, w =>
    match pass env true rules w with
    | (.again, w) => iterate env rules n w
    | (_, w) => w

/-! ### Routing -/

/-- `khash_t(khStrInt)` -/
abbrev FastRouting := String → Option Int

/-- What the routing step asks of LionRouter: the keys of a query and the hostgroup for them. An
exception is `none`; `LionRouter.Lion.calls` is the model of the router. -/
structure LionRouter where
  parseYcsbKey : String → Option (List Int)
  evaluateHost : List Int → Option Int

structure Tables where
  -- `_thr_SQP_rules_fast_routing`
  threadLocal : Option FastRouting
  -- `rules_fast_routing`
  shared : Option FastRouting
  randDel : String
  lion : LionRouter

def searchRulesFastRoutingDestHg (table : FastRouting) (randDel u s : String) (flagIN : Int) :
    Int :=
  let anyUser := randDel ++ s ++ "---" ++ toString flagIN
  match table (u ++ anyUser) with
  | some hg => hg
  | none => (table anyUser).getD (-1)

/-- The destination that the routing step finds, -1 for none. -/
def route (tables : Tables) (env : Env) (flagIN : Int) : Int :=
  let u := env.sess.username
  let s := env.sess.schemaname
  match tables.threadLocal, tables.shared with
  | some table, _ => searchRulesFastRoutingDestHg table tables.randDel u s flagIN
  | none, some table => searchRulesFastRoutingDestHg table tables.randDel u s flagIN
  | none, none =>
    match tables.lion.parseYcsbKey env.query.text with
    | some (key :: keys) => (tables.lion.evaluateHost (key :: keys)).getD (-1)
    | _ => -1

/-- `qr == NULL || qr->apply == false` -/
def Walk.routes (w : Walk) : Bool := w.qr.all fun r => !r.apply

/-- The routing step. -/
def Walk.routed (w : Walk) (tables : Tables) (env : Env) : Walk :=
  if w.routes then
    let dstHg := route tables env w.flagIN
    if dstHg ≠ -1 then
      { w with out := { w.out with settings :=
          { w.out.settings with destinationHostgroup := dstHg } } }
    else w
  else w

/-- The walk over the rules, up to `__exit_process_mysql_query`. -/
def walkRules (env : Env) (rules : List Rule) (iterations : Nat) : Walk :=
  let flagIN := if 0 ≤ env.sess.nextQueryFlagIN then env.sess.nextQueryFlagIN else 0
  if env.sess.mirror then
    let out : Output := { settings := { destinationHostgroup := env.sess.mirrorHostgroup } }
    if env.sess.mirrorFlagOUT ≠ -1 then
      iterate env rules iterations { flagIN := env.sess.mirrorFlagOUT, out := out }
    else { flagIN := flagIN, out := out }
  else iterate env rules iterations { flagIN := flagIN }

def processMysqlQuery (env : Env) (rules : List Rule) (iterations : Nat) (tables : Tables) :
    Output :=
  ((walkRules env rules iterations).routed tables env).out

/-! ### Which rule the loop variable holds after the walk -/

/-- A rule with `apply` among those that matched. -/
def Walk.Applied (w : Walk) : Prop := ∃ r ∈ w.hits, r.apply = true

/-- After the walk `qr` is the rule that was applied or else, whether or not it matched, the last
rule of the list. -/
structure Walk.Ends (w : Walk) (rules : List Rule) : Prop where
  applied : w.Applied → ∃ r, w.qr = some r ∧ r.apply = true
  ended : ¬ w.Applied → w.qr = rules.getLast?

/-- How one pass leaves the walk, if no rule was applied before it. -/
def PassEnds (rules : List Rule) (before : Option Rule) (w : Walk) : Verdict → Prop
  | .applied => w.Applied ∧ ∃ r, w.qr = some r ∧ r.apply = true
  | .again => ¬ w.Applied ∧ rules ≠ []
  | .ended => ¬ w.Applied ∧ w.qr = rules.getLast?.or before

variable {w : Walk} {rules : List Rule} {v : Verdict}

theorem PassEnds.cons {r : Rule} (ends : PassEnds rules (some r) w v) (before : Option Rule) :
    PassEnds (r :: rules) before w v := by
  cases v with
  | applied => exact ends
  | again => exact ⟨ends.1, List.cons_ne_nil r rules⟩
  | ended =>
    have last : (r :: rules).getLast?.or before = rules.getLast?.or (some r) := by
      rw [List.getLast?_cons]
      cases rules.getLast? <;> rfl
    exact ⟨ends.1, ends.2.trans last.symm⟩

variable (env : Env)

theorem not_applied_take {r : Rule} (unapplied : ¬ w.Applied) (clear : ¬ r.apply) :
    ¬ (w.take env r).Applied := by
  rintro ⟨s, member, isApply⟩
  rcases List.mem_cons.mp member with rfl | earlier
  · exact clear isApply
  · exact unapplied ⟨s, earlier, isApply⟩

theorem pass_ends (reiterate : Bool) (rules : List Rule) (unapplied : ¬ w.Applied) :
    PassEnds rules w.qr (pass env reiterate rules w).2 (pass env reiterate rules w).1 := by
  induction rules generalizing w with
  | nil => exact ⟨unapplied, rfl⟩
  | cons r rules ih =>
    unfold pass
    split
    · split
      next isApply =>
        exact ⟨⟨r, List.mem_cons_self, isApply⟩, r, rfl, isApply⟩
      next notApply =>
        have clear := not_applied_take env unapplied notApply
        split
        · exact ⟨clear, List.cons_ne_nil r rules⟩
        · exact (ih clear).cons w.qr
    · -- a rule that does not match still becomes the loop variable
      have skipped : ¬ { w with qr := some r }.Applied := unapplied
      exact (ih skipped).cons w.qr

theorem PassEnds.ends {before : Option Rule} (ends : PassEnds rules before w v) (final : v ≠ .again)
    (start : rules = [] → before = none) : w.Ends rules := by
  cases v with
  | applied => exact ⟨fun _ => ends.2, fun unapplied => absurd ends.1 unapplied⟩
  | again => exact absurd rfl final
  | ended =>
    have last : rules.getLast?.or before = rules.getLast? := by
      cases rules with
      | nil => rw [start rfl]; rfl
      | cons r rules => rw [List.getLast?_cons]; rfl
    exact ⟨fun applied => absurd applied ends.1, fun _ => ends.2.trans last⟩

variable (rules : List Rule)

theorem pass_false_ne_again (w : Walk) : (pass env false rules w).1 ≠ .again := by
  induction rules generalizing w with
  | nil => exact Verdict.noConfusion
  | cons r rules ih =>
    unfold pass
    split
    · split
      · exact Verdict.noConfusion
      · rw [Bool.and_false]
        exact ih _
    · exact ih _

theorem iterate_ends (n : Nat) (unapplied : ¬ w.Applied) (start : rules = [] → w.qr = none) :
    (iterate env rules n w).Ends rules := by
  induction n generalizing w with
  | zero => exact (pass_ends env false rules unapplied).ends (pass_false_ne_again env rules w) start
  | succ n ih =>
    have ends := pass_ends env true rules unapplied
    unfold iterate
    split
    next w' jumped =>
      rw [jumped] at ends
      exact ih ends.1 fun empty => absurd empty ends.2
    next v w' final jumped =>
      rw [jumped] at ends
      exact ends.ends final start

theorem walkRules_ends {env : Env} (iterations : Nat)
    (nonMirror : env.sess.mirror = false) : (walkRules env rules iterations).Ends rules := by
  unfold walkRules
  rw [nonMirror]
  apply iterate_ends
  · rintro ⟨r, member, _⟩
    exact List.not_mem_nil member
  · intro _
    rfl

/-! ### The rules that match -/

/-- A rule matches the query when the walk is at `rest`, or later: the walk goes past rules that do
not match and on from rules that do, and a jump starts over, if there are iterations left. -/
inductive MatchesFrom (env : Env) (rules : List Rule) : Nat → List Rule → Walk → Rule → Prop where
  | here {n : Nat} {r : Rule} {rest : List Rule} {w : Walk} :
      r.isMatch env.re env.sess env.query w.flagIN w.out = true →
        MatchesFrom env rules n (r :: rest) w r
  | skip {n : Nat} {r s : Rule} {rest : List Rule} {w : Walk} :
      r.isMatch env.re env.sess env.query w.flagIN w.out = false →
      MatchesFrom env rules n rest { w with qr := some r } s →
        MatchesFrom env rules n (r :: rest) w s
  | next {n : Nat} {r s : Rule} {rest : List Rule} {w : Walk} :
      r.isMatch env.re env.sess env.query w.flagIN w.out = true → r.apply = false →
      (r.jump (env.random w.drawn) = none ∨ n = 0) →
      MatchesFrom env rules n rest (w.take env r) s → MatchesFrom env rules n (r :: rest) w s
  | jump {n : Nat} {r s : Rule} {rest : List Rule} {w : Walk} :
      r.isMatch env.re env.sess env.query w.flagIN w.out = true → r.apply = false →
      r.jump (env.random w.drawn) ≠ none →
      MatchesFrom env rules n rules (w.take env r) s → MatchesFrom env rules (n + 1) (r :: rest) w s

def Matched (env : Env) (rules : List Rule) (iterations : Nat) (r : Rule) : Prop :=
  MatchesFrom env rules iterations rules
    { flagIN := if 0 ≤ env.sess.nextQueryFlagIN then env.sess.nextQueryFlagIN else 0 } r

section Hits

variable {env : Env} {rules : List Rule} {n : Nat}

theorem MatchesFrom.cons_iff {r s : Rule} {rest : List Rule} {w : Walk} :
    MatchesFrom env rules n (r :: rest) w s ↔
      if r.isMatch env.re env.sess env.query w.flagIN w.out then
        s = r ∨ r.apply = false ∧
          ((r.jump (env.random w.drawn) = none ∨ n = 0) ∧
            MatchesFrom env rules n rest (w.take env r) s ∨
            r.jump (env.random w.drawn) ≠ none ∧
              ∃ k, n = k + 1 ∧ MatchesFrom env rules k rules (w.take env r) s)
      else MatchesFrom env rules n rest { w with qr := some r } s := by
  constructor
  · intro matched
    cases matched with
    | here holds => exact (if_pos holds).mpr (.inl rfl)
    | skip fails later => rwa [fails]
    | next holds clear stays later => exact (if_pos holds).mpr (.inr ⟨clear, .inl ⟨stays, later⟩⟩)
    | jump holds clear jumps later =>
      exact (if_pos holds).mpr (.inr ⟨clear, .inr ⟨jumps, _, rfl, later⟩⟩)
  · split_ifs with holds
    · rintro (rfl | ⟨clear, ⟨stays, later⟩ | ⟨jumps, k, rfl, later⟩⟩)
      · exact .here holds
      · exact .next holds clear stays later
      · exact .jump holds clear jumps later
    · exact .skip (Bool.eq_false_iff.mpr holds)

theorem mem_hits_take {w : Walk} {r s : Rule} : s ∈ (w.take env r).hits ↔ s = r ∨ s ∈ w.hits :=
  List.mem_cons

/-- What matches is hit in this pass, or matches in the walk behind the jump that ends it. -/
theorem mem_hits_pass (s : Rule) (rest : List Rule) (w : Walk) :
    s ∈ (pass env (n ≠ 0) rest w).2.hits ∨ (pass env (n ≠ 0) rest w).1 = .again ∧
        MatchesFrom env rules (n - 1) rules (pass env (n ≠ 0) rest w).2 s ↔
      s ∈ w.hits ∨ MatchesFrom env rules n rest w s := by
  induction rest generalizing w with
  | nil =>
    have never : ¬ MatchesFrom env rules n [] w s := by
      intro matched
      cases matched
    simp [pass, never]
  | cons r rest ih =>
    rw [MatchesFrom.cons_iff]
    unfold pass
    split_ifs with holds isApply jumps
    · simp [mem_hits_take, isApply, or_comm]
    · simp only [Bool.and_eq_true, Option.isSome_iff_ne_none, decide_eq_true_eq] at jumps
      obtain ⟨k, rfl⟩ := Nat.exists_eq_succ_of_ne_zero jumps.2
      simp [mem_hits_take, isApply, jumps.1, or_assoc, or_left_comm]
    · have stays : r.jump (env.random w.drawn) = none ∨ n = 0 := by
        simpa [or_iff_not_imp_left, Option.isSome_iff_ne_none] using jumps
      have none : ¬ (r.jump (env.random w.drawn) ≠ none ∧
          ∃ k, n = k + 1 ∧ MatchesFrom env rules k rules (w.take env r) s) := by
        rintro ⟨jumped, k, rfl, -⟩
        simp [jumped] at stays
      rw [ih, mem_hits_take, or_iff_left none]
      simp [isApply, stays, or_assoc, or_left_comm]
    · exact ih _

theorem mem_hits_iterate (s : Rule) (w : Walk) :
    s ∈ (iterate env rules n w).hits ↔ s ∈ w.hits ∨ MatchesFrom env rules n rules w s := by
  induction n generalizing w with
  | zero =>
    have final := pass_false_ne_again env rules w
    rw [← mem_hits_pass s rules w, iterate]
    simp [final]
  | succ n ih =>
    rw [← mem_hits_pass s rules w, iterate]
    split
    · next jumped => simp [jumped, ih]
    · next v w' final jumped =>
      have last : v ≠ .again := final
      simp [jumped, last]

theorem mem_hits_walkRules {iterations : Nat} (nonMirror : env.sess.mirror = false) (s : Rule) :
    s ∈ (walkRules env rules iterations).hits ↔ Matched env rules iterations s := by
  unfold walkRules
  rw [nonMirror, if_neg Bool.false_ne_true, mem_hits_iterate,
    or_iff_right List.not_mem_nil, Matched]

end Hits

/-- The routing step is taken exactly when no matching rule had `apply` set, unless the last rule of
the list has it set and no rule was applied: that rule then suppresses the routing although it did
not match. -/
theorem routes_iff_unapplied_iff (env : Env) (rules : List Rule) (iterations : Nat)
    (nonMirror : env.sess.mirror = false) : ((walkRules env rules iterations).routes = true ↔
        ∀ r, Matched env rules iterations r → r.apply = false) ↔
      (∀ last ∈ rules.getLast?, last.apply = false) ∨
        ∃ r, Matched env rules iterations r ∧ r.apply = true := by
  have ends := walkRules_ends rules iterations nonMirror
  simp only [← mem_hits_walkRules nonMirror]
  generalize walkRules env rules iterations = w at ends
  have unapplied : (∀ r ∈ w.hits, r.apply = false) ↔ ¬ w.Applied := by
    simp [Walk.Applied]
  rw [unapplied, ← Walk.Applied]
  by_cases applied : w.Applied
  · obtain ⟨r, here, isApply⟩ := ends.applied applied
    have suppressed : ¬ w.routes = true := by simp [Walk.routes, here, isApply]
    exact iff_of_true (iff_of_false suppressed (not_not_intro applied)) (.inr applied)
  · have atEnd : w.routes = true ↔ ∀ last ∈ rules.getLast?, last.apply = false := by
      rw [Walk.routes, ends.ended applied]
      cases rules.getLast? with
      | none => simp
      | some last => simp
    rw [atEnd, iff_true_right applied, or_iff_left applied]

/-- A rule for another `flagIN` with `apply` set, and a query it does not match. -/
theorem unmatched_apply_suppresses_routing :
    ∃ (env : Env) (rules : List Rule), env.sess.mirror = false ∧
      (∀ r, ¬ Matched env rules 0 r) ∧ (walkRules env rules 0).routes = false := by
  refine ⟨{ re := ⟨fun _ _ _ => true, fun _ _ _ text => text⟩
            sess := { username := "app", schemaname := "db" }
            query := { text := "SELECT 1", parserArgs := none }
            random := fun _ => 0 },
    [{ ruleId := 1, flagIN := 1, apply := true }], rfl, ?_, rfl⟩
  intro r matched
  rw [← mem_hits_walkRules rfl] at matched
  exact List.not_mem_nil matched

/-- A first rule that matches without `apply`, and a last one that does not have it: the query is
routed. -/
theorem routes_iff_unapplied_iff_two : let env : Env :=
      { re := ⟨fun _ _ _ => true, fun _ _ _ text => text⟩
        sess := { username := "app", schemaname := "db" }
        query := { text := "SELECT 1", parserArgs := none }
        random := fun _ => 0 }
    let rules : List Rule :=
      [{ ruleId := 1, apply := false }, { ruleId := 2, flagIN := 1, apply := false }]
    (walkRules env rules 0).hits.length = 1 ∧ (walkRules env rules 0).routes = true := by
  intro env rules
  have exact_iff := routes_iff_unapplied_iff env rules 0 rfl
  have lastClear : ∀ last ∈ rules.getLast?, last.apply = false := by decide
  have noneApplied : ∀ r, Matched env rules 0 r → r.apply = false := by
    intro r matched
    rw [← mem_hits_walkRules rfl] at matched
    rw [List.mem_singleton.mp matched]
  exact ⟨rfl, (exact_iff.mpr (.inl lastClear)).mpr noneApplied⟩

end MockProxy.QueryProcessor
