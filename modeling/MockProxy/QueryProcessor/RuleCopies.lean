import MockProxy.Lib.CString
import MockProxy.Lib.Machine
import MockProxy.QueryProcessor.Rules

/-!
# The rules of a thread

Each thread works on its own copies of the query rules. A copy is made by `new_query_rule`, which
made the rule itself from a row of the table. It gets the fields of the rule one by one: what the
rule has as a number is printed, read again and checked again, and the weights are parsed once more.
Four fields of a rule are computed from others or are limited, and the rules for which this is so
are the ones that `new_query_rule` returns. They survive the copy unchanged (`copyRules_same`).
-/

open CString (strtoullAny hexDigits tokens startsFolded)

namespace MockProxy.QueryProcessor

/-- `QP_rule_t`, with what only the administration reads. -/
structure QueryRule extends Rule where
  active : Bool
  attributes : Option String := none
  comment : Option String := none
  deriving DecidableEq

/-- The library for JSON: the elements of the array `flagOUTs` of a text, with `id` and `weight`
where an element has both as unsigned numbers. A text that is not JSON throws. -/
structure JsonLib where
  flagOUTs (text : String) : Except Unit (List (Option (Int × Nat)))

variable (json : JsonLib)

def caseless : Nat := 1

def global : Nat := 2

def modifiersOf (reModifiers : List Char) : Nat :=
  let add := fun modifiers token =>
    let modifiers := if startsFolded token "CASELESS".toList then modifiers ||| caseless
      else modifiers
    if startsFolded token "GLOBAL".toList then modifiers ||| global else modifiers
  (tokens ',' reModifiers).foldl add 0

def digestOf : Option (List Char) → Nat
  | none => 0
  | some text =>
    if strtoullAny text ≠ 2 ^ 64 - 1 ∧ strtoullAny text ≠ 0 then strtoullAny text else 0

def wildcardPosition : Option String → Int
  | none => -1
  | some clientAddr =>
    match clientAddr.toList.idxOf? '%' with
    | none => -1
    | some position => position

def flagOUTWeightsOf : Option String → Except Unit (List (Int × Nat))
  | none => .ok []
  | some attributes =>
    if attributes = "" then .ok [] else (json.flagOUTs attributes).map List.reduceOption

/-- The parameters are those of the source, in their order. -/
def newQueryRule (ruleId : Int) (active : Bool) (username schemaname : Option String) (flagIN : Int)
    (clientAddr proxyAddr : Option String) (proxyPort : Int) (digest : Option (List Char))
    (matchDigest matchPattern : Option String) (negateMatchPattern : Bool) (reModifiers : List Char)
    (flagOUT : Int) (replacePattern : Option String) (destinationHostgroup : Int)
    (cacheTtl cacheEmptyResult cacheTimeout : Int) (reconnect timeout retries delay : Int)
    (nextQueryFlagIN mirrorFlagOUT mirrorHostgroup : Int) (errorMsg okMsg : Option String)
    (stickyConn multiplex gtidFromHostgroup log : Int) (apply : Bool)
    (attributes comment : Option String) : Except Unit QueryRule := do
  let weights ← flagOUTWeightsOf json attributes
  return {
    ruleId := ruleId
    active := active
    username := username
    schemaname := schemaname
    flagIN := flagIN
    matchDigest := matchDigest
    matchPattern := matchPattern
    negateMatchPattern := negateMatchPattern
    reModifiers := modifiersOf reModifiers
    flagOUT := flagOUT
    replacePattern := replacePattern
    settings :=
      { destinationHostgroup := destinationHostgroup
        cacheTtl := cacheTtl
        cacheEmptyResult := cacheEmptyResult
        cacheTimeout := cacheTimeout
        reconnect := reconnect
        timeout := timeout
        retries := retries
        delay := delay
        nextQueryFlagIN := nextQueryFlagIN
        mirrorFlagOUT := mirrorFlagOUT
        mirrorHostgroup := mirrorHostgroup
        stickyConn := stickyConn
        multiplex := multiplex
        gtidFromHostgroup := gtidFromHostgroup
        log := log }
    errorMsg := errorMsg
    okMsg := okMsg
    apply := apply
    attributes := attributes
    comment := comment
    clientAddrWildcardPosition := wildcardPosition clientAddr
    clientAddr := clientAddr
    proxyAddr := proxyAddr
    proxyPort := proxyPort
    digest := digestOf digest
    flagOUTWeights := weights }

def printDigest (digest : Nat) : Option (List Char) :=
  if digest ≠ 0 then some ('0' :: 'x' :: hexDigits 16 digest) else none

def printModifiers (modifiers : Nat) : List Char :=
  let text := if modifiers &&& caseless = caseless then "CASELESS".toList else []
  if modifiers &&& global = global then (if text ≠ [] then text ++ [','] else text) ++
    "GLOBAL".toList
  else text

/-- The call of `new_query_rule` for a copy -/
def copyRule (qr1 : QueryRule) : Except Unit QueryRule :=
  newQueryRule json qr1.ruleId qr1.active qr1.username qr1.schemaname qr1.flagIN
    qr1.clientAddr qr1.proxyAddr qr1.proxyPort
    (printDigest qr1.digest)
    qr1.matchDigest qr1.matchPattern qr1.negateMatchPattern (printModifiers qr1.reModifiers)
    qr1.flagOUT qr1.replacePattern qr1.settings.destinationHostgroup
    qr1.settings.cacheTtl qr1.settings.cacheEmptyResult qr1.settings.cacheTimeout
    qr1.settings.reconnect qr1.settings.timeout qr1.settings.retries qr1.settings.delay
    qr1.settings.nextQueryFlagIN qr1.settings.mirrorFlagOUT qr1.settings.mirrorHostgroup
    qr1.errorMsg qr1.okMsg qr1.settings.stickyConn qr1.settings.multiplex
    qr1.settings.gtidFromHostgroup
    qr1.settings.log qr1.apply
    qr1.attributes
    qr1.comment

/-- The loop over `rules` in `process_mysql_query`, run when the version of the rules has
changed. -/
def copyRules (rules : List QueryRule) : Except Unit (List QueryRule) :=
  (rules.filter (·.active)).mapM (copyRule json)

/-! ### Print and read again -/

theorem modifiersOf_lt (reModifiers : List Char) : modifiersOf reModifiers < 2 ^ 2 := by
  apply List.foldlRecOn (motive := (· < 2 ^ 2))
  · decide
  · intro modifiers small token _
    have one : modifiers ||| caseless < 2 ^ 2 := Nat.or_lt_two_pow small (by decide)
    split <;> split <;> first | assumption | exact Nat.or_lt_two_pow (by assumption) (by decide)

theorem modifiersOf_print :
    ∀ modifiers < 2 ^ 2, modifiersOf (printModifiers modifiers) = modifiers := by
  decide

theorem digestOf_print {digest : Nat} (small : digest < 2 ^ 64 - 1) :
    digestOf (printDigest digest) = digest := by
  unfold printDigest
  by_cases zero : digest = 0
  · rw [zero]
    rfl
  · have read : strtoullAny ('0' :: 'x' :: hexDigits 16 digest) = digest :=
      CString.strtoullAny_hex (by omega) (by omega)
    rw [if_pos zero, digestOf, read, if_pos ⟨by omega, zero⟩]

theorem digestOf_lt (digest : Option (List Char)) : digestOf digest < 2 ^ 64 - 1 := by
  cases digest with
  | none => decide
  | some text =>
    have bound := CString.strtoullAny_lt text
    rw [digestOf]
    split
    next usable => omega
    next => decide

/-! ### Copies -/

/-- The rule is one that `new_query_rule` returned, whatever its arguments were. -/
inductive Made : QueryRule → Prop
  | intro {rule : QueryRule} {ruleId : Int} {active : Bool} {username schemaname : Option String}
      {flagIN : Int} {clientAddr proxyAddr : Option String} {proxyPort : Int}
      {digest : Option (List Char)} {matchDigest matchPattern : Option String}
      {negateMatchPattern : Bool} {reModifiers : List Char} {flagOUT : Int}
      {replacePattern : Option String} {destinationHostgroup : Int}
      {cacheTtl cacheEmptyResult cacheTimeout : Int} {reconnect timeout retries delay : Int}
      {nextQueryFlagIN mirrorFlagOUT mirrorHostgroup : Int} {errorMsg okMsg : Option String}
      {stickyConn multiplex gtidFromHostgroup log : Int} {apply : Bool}
      {attributes comment : Option String}
      (returned : newQueryRule json ruleId active username schemaname flagIN clientAddr proxyAddr
        proxyPort digest matchDigest matchPattern negateMatchPattern reModifiers flagOUT
        replacePattern destinationHostgroup cacheTtl cacheEmptyResult cacheTimeout reconnect timeout
        retries delay nextQueryFlagIN mirrorFlagOUT mirrorHostgroup errorMsg okMsg stickyConn
        multiplex gtidFromHostgroup log apply attributes comment = .ok rule) : Made rule

/-- The fields that are not taken from the arguments as they are -/
structure Consistent (rule : QueryRule) : Prop where
  modifiers : rule.reModifiers < 2 ^ 2
  digest : rule.digest < 2 ^ 64 - 1
  wildcard : rule.clientAddrWildcardPosition = wildcardPosition rule.clientAddr
  weights : flagOUTWeightsOf json rule.attributes = .ok rule.flagOUTWeights

variable {json} {rule : QueryRule}

theorem Made.consistent (made : Made json rule) : Consistent json rule := by
  obtain ⟨returned⟩ := made
  obtain ⟨weights, parsed, rfl⟩ := Machine.return_eq_ok.mp returned
  exact ⟨modifiersOf_lt _, digestOf_lt _, rfl, parsed⟩

theorem Consistent.copyRule (consistent : Consistent json rule) :
    copyRule json rule = .ok rule := by
  obtain ⟨modifiers, digest, wildcard, weights⟩ := consistent
  unfold QueryProcessor.copyRule newQueryRule
  rw [weights, modifiersOf_print _ modifiers, digestOf_print digest, ← wildcard]
  rfl

theorem made_iff_consistent : Made json rule ↔ Consistent json rule :=
  ⟨Made.consistent, fun consistent => ⟨consistent.copyRule⟩⟩

variable (json)

/-- The rules that can be are those whose computed fields are as they should be, with any values of
the others. The active ones of such rules are copied in their order, and every copy has all the
fields of the rule it is made of. -/
theorem copyRules_same (rules : List QueryRule) :
    (∀ rule, Made json rule ↔ Consistent json rule) ∧
      ((∀ rule ∈ rules, Made json rule) → copyRules json rules =
        .ok (rules.filter (·.active))) := by
  refine ⟨fun rule => made_iff_consistent, fun made => ?_⟩
  have each : ∀ rule ∈ rules.filter (·.active), copyRule json rule = .ok rule := by
    intro rule member
    exact (made rule (List.mem_of_mem_filter member)).consistent.copyRule
  unfold copyRules
  generalize rules.filter (·.active) = active at each
  induction active with
  | nil => rfl
  | cons rule rest ih =>
    rw [List.mapM_cons, each rule List.mem_cons_self,
      ih fun other member => each other (List.mem_cons_of_mem _ member)]
    rfl

def weightsText : String :=
  "\x7b\"flagOUTs\":[\x7b\"id\":5,\"weight\":70\x7d,\x7b\"id\":7\x7d,\x7b\"id\":6,\"weight\":30\x7d]\x7d"

def parseWeights : JsonLib where
  flagOUTs text := if text = weightsText then .ok [some (5, 70), none, some (6, 30)] else .error ()

def weightedRule : QueryRule where
  ruleId := 1
  apply := true
  active := true
  clientAddr := some "10.%"
  attributes := some weightsText
  clientAddrWildcardPosition := 3
  digest := 0x113652E22CB08B22
  reModifiers := 3
  flagOUTWeights := [(5, 70), (6, 30)]

example : copyRules parseWeights [weightedRule, { weightedRule with active := false }] =
    .ok [weightedRule] := by decide +kernel

end MockProxy.QueryProcessor
