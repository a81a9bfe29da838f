import Mathlib.Data.List.Find
import MockProxy.Lib.CompareSearch
import MockProxy.QueryProcessor.FastRouting

/-!
# The firewall whitelist

A load brings all rows of the tables `mysql_firewall_whitelist_users` and
`mysql_firewall_whitelist_rules`. The users are updated in the map that is there, and what the load
did not touch is removed at its end; the digests of the rules are collected under their key in
arrays that are sorted then. After any sequence of loads the lookups answer according to the rows of
the last one (`firewall_answers_last_load`), as long as the names do not hold the random part of the
delimiter of the keys.
-/

namespace MockProxy.QueryProcessor

open CompareSearch

/-- `WUS_NOT_FOUND`, `WUS_OFF`, `WUS_DETECTING`, `WUS_PROTECTING` -/
inductive WusMode where
  | notFound
  | off
  | detecting
  | protecting
  deriving DecidableEq, Repr

/-- A row of `mysql_firewall_whitelist_users`; the table checks the mode. -/
structure FirewallUserRow where
  active : CString
  username : CString
  clientAddress : CString
  mode : CString
  checked : mode.text = "OFF" ∨ mode.text = "DETECTING" ∨ mode.text = "PROTECTING"

/-- A row of `mysql_firewall_whitelist_rules`. -/
structure FirewallRuleRow where
  active : CString
  username : CString
  clientAddress : CString
  schemaname : CString
  flagIN : CString
  digest : CString

/-- What is loaded together. -/
structure FirewallLoad where
  users : List FirewallUserRow
  rules : List FirewallRuleRow

/-- `global_mysql_firewall_whitelist_users` and `global_mysql_firewall_whitelist_rules`. -/
structure Firewall where
  users : String → Option WusMode
  rules : String → Option (List UInt64)

def Firewall.empty : Firewall where
  users _ := none
  rules _ := none

def intCmp (a b : UInt64) : Int := if a < b then -1 else if b < a then 1 else 0

-- `strtoull`, with the base taken from the text
variable (strtoull : String → UInt64) (del : RandDel)

variable (row : FirewallUserRow)

def FirewallUserRow.isActive : Bool := CString.atoi row.active.text.toList ≠ 0

def FirewallRuleRow.isActive (row : FirewallRuleRow) : Bool :=
  CString.atoi row.active.text.toList ≠ 0

def userKey (username client : String) : String := username ++ del.text ++ client

def ruleKey (username client schemaname flagIN : String) : String :=
  username ++ del.text ++ client ++ del.text ++ schemaname ++ del.text ++ flagIN

def setEntry {α : Type} (map : String → Option α) (key : String) (value : α) : String → Option α :=
  fun k => if k = key then some value else map k

variable (users : String → Option WusMode)

/-- A row of the users: a user that is there keeps its mode if the text is none of the three, a new
one is off. -/
def putUser (row : FirewallUserRow) : String → Option WusMode :=
  if row.isActive then
    let key := userKey del row.username.text row.clientAddress.text
    match users key with
    | some old => setEntry users key <|
        if row.mode.text = "DETECTING" then .detecting
        else if row.mode.text = "PROTECTING" then .protecting
        else if row.mode.text = "OFF" then .off
        else old
    | none => setEntry users key <|
        if row.mode.text = "DETECTING" then .detecting
        else if row.mode.text = "PROTECTING" then .protecting
        else .off
  else users

def loadMysqlFirewallUsers (rows : List FirewallUserRow) : String → Option WusMode :=
  let marked := fun k => (users k).map fun _ => WusMode.notFound
  let updated := rows.foldl (putUser del) marked
  fun k => (updated k).filter (· ≠ .notFound)

def putRule (rules : String → Option (List UInt64)) (row : FirewallRuleRow) :
    String → Option (List UInt64) :=
  if row.isActive then
    let key := ruleKey del row.username.text row.clientAddress.text row.schemaname.text
      row.flagIN.text
    match rules key with
    | some digests => setEntry rules key (digests ++ [strtoull row.digest.text])
    | none => setEntry rules key [strtoull row.digest.text]
  else rules

def loadMysqlFirewallRules (rules : String → Option (List UInt64)) (rows : List FirewallRuleRow) :
    String → Option (List UInt64) :=
  if rows.length = 0 then fun _ => none
  else
    let reset := fun k => (rules k).map fun _ => ([] : List UInt64)
    let updated := rows.foldl (putRule strtoull del) reset
    fun k => (updated k).bind fun digests =>
      if digests.length = 0 then none else some (qsort intCmp digests)

def loadMysqlFirewall (fw : Firewall) (load : FirewallLoad) : Firewall where
  users := loadMysqlFirewallUsers del fw.users load.users
  rules := loadMysqlFirewallRules strtoull del fw.rules load.rules

def findFirewallWhitelistUser (fw : Firewall) (username client : String) : WusMode :=
  (fw.users (userKey del username client)).getD .notFound

def findFirewallWhitelistRule (fw : Firewall) (username clientAddress schemaname : String)
    (flagIN : Int) (digest : UInt64) : Bool :=
  match fw.rules (ruleKey del username clientAddress schemaname (toString flagIN)) with
  | some digests => bsearch intCmp digest digests
  | none => false

theorem ranks_intCmp : Ranks intCmp UInt64.toNat where
  less a b := by
    simp only [intCmp, UInt64.lt_iff_toNat_lt]
    split_ifs <;> omega
  more a b := by
    simp only [intCmp, UInt64.lt_iff_toNat_lt]
    split_ifs <;> omega
  injective a b := UInt64.toNat_inj.mp

/-! ### Users -/

def FirewallUserRow.wusMode : WusMode :=
  if row.mode.text = "DETECTING" then .detecting
  else if row.mode.text = "PROTECTING" then .protecting
  else .off

theorem FirewallUserRow.wusMode_ne : row.wusMode ≠ .notFound := by
  unfold wusMode
  split_ifs <;> simp

theorem putUser_eq (k : String) (users : String → Option WusMode) (row : FirewallUserRow) :
    putUser del users row k =
      if row.isActive && userKey del row.username.text row.clientAddress.text = k then
        some row.wusMode else users k := by
  unfold putUser
  by_cases active : row.isActive
  · have entry : setEntry users (userKey del row.username.text row.clientAddress.text)
      row.wusMode k =
        if userKey del row.username.text row.clientAddress.text = k then some row.wusMode
        else users k := by
      simp [setEntry, eq_comm]
    simp only [active, Bool.true_and, decide_eq_true_eq, ← entry]
    cases users (userKey del row.username.text row.clientAddress.text) with
    | none => rfl
    | some old =>
      rcases row.checked with mode | mode | mode <;> simp [FirewallUserRow.wusMode, mode]
  · simp [active]

def lastRow {α : Type} (rows : List α) (p : α → Bool) : Option α := rows.reverse.find? p

/-- After a load a user has the mode of its last active row, whatever was loaded before. -/
theorem loadMysqlFirewallUsers_eq (rows : List FirewallUserRow) (k : String) :
    loadMysqlFirewallUsers del users rows k =
      (lastRow rows fun row =>
        row.isActive && userKey del row.username.text row.clientAddress.text = k).map
          FirewallUserRow.wusMode := by
  have updated := LastWrite.lookup_foldl (fun users : String → Option WusMode => users k)
    (putUser_eq del k) rows fun k => (users k).map fun _ => WusMode.notFound
  simp only [loadMysqlFirewallUsers, updated, lastRow]
  cases rows.reverse.find? fun row =>
      row.isActive && userKey del row.username.text row.clientAddress.text = k with
  | some row => simp [Option.filter, row.wusMode_ne]
  | none => cases users k <;> simp [Option.filter]

/-! ### Rules -/

section Rules

variable (rows : List FirewallRuleRow)

/-- The digests of the active rows with a key. -/
def digestsOf (k : String) : List UInt64 :=
  (rows.filter fun row => row.isActive && ruleKey del row.username.text row.clientAddress.text
    row.schemaname.text row.flagIN.text = k).map fun row => strtoull row.digest.text

variable (rules : String → Option (List UInt64))

theorem putRule_eq {row : FirewallRuleRow} (active : row.isActive) {k : String}
    (key : ruleKey del row.username.text row.clientAddress.text row.schemaname.text
      row.flagIN.text = k) : putRule strtoull del rules row =
      setEntry rules k ((rules k).getD [] ++ [strtoull row.digest.text]) := by
  subst key
  rw [putRule, if_pos active]
  dsimp only
  split
  next digests found => rw [found, Option.getD_some]
  next missing => rw [missing, Option.getD_none, List.nil_append]

theorem foldl_putRule (rules : String → Option (List UInt64)) (k : String) :
    (rows.foldl (putRule strtoull del) rules k).getD [] =
      (rules k).getD [] ++ digestsOf strtoull del rows k := by
  induction rows generalizing rules with
  | nil => simp [digestsOf]
  | cons row rows ih =>
    rw [List.foldl_cons, ih]
    by_cases active : row.isActive
    · by_cases same : ruleKey del row.username.text row.clientAddress.text row.schemaname.text
          row.flagIN.text = k
      · rw [putRule_eq strtoull del rules active same]
        simp [setEntry, digestsOf, active, same]
      · rw [putRule_eq strtoull del rules active rfl]
        simp [setEntry, digestsOf, same, Ne.symm same]
    · simp [putRule, digestsOf, active]

theorem loadMysqlFirewallRules_eq (k : String) : loadMysqlFirewallRules strtoull del rules rows k =
      if digestsOf strtoull del rows k = [] then none
      else some (qsort intCmp (digestsOf strtoull del rows k)) := by
  rw [loadMysqlFirewallRules]
  by_cases none : rows = []
  · simp [none, digestsOf]
  · rw [if_neg (by simpa using none)]
    have collected := foldl_putRule strtoull del rows
      (fun k => (rules k).map fun _ => ([] : List UInt64)) k
    have fresh : ((rules k).map fun _ => ([] : List UInt64)).getD [] = [] := by
      cases rules k <;> rfl
    rw [fresh, List.nil_append] at collected
    rw [← collected]
    cases rows.foldl (putRule strtoull del)
      (fun k => (rules k).map fun _ => ([] : List UInt64)) k <;>
      simp

theorem findFirewallWhitelistRule_iff {fw : Firewall} {rows : List FirewallRuleRow}
    {rules : String → Option (List UInt64)}
    (loaded : fw.rules = loadMysqlFirewallRules strtoull del rules rows) (u c s : String)
    (flagIN : Int) (digest : UInt64) : findFirewallWhitelistRule del fw u c s flagIN digest ↔
      ∃ row ∈ rows, row.isActive ∧ ruleKey del row.username.text row.clientAddress.text
        row.schemaname.text row.flagIN.text = ruleKey del u c s (toString flagIN) ∧
          strtoull row.digest.text = digest := by
  have found : findFirewallWhitelistRule del fw u c s flagIN digest ↔
      digest ∈ digestsOf strtoull del rows (ruleKey del u c s (toString flagIN)) := by
    rw [findFirewallWhitelistRule, loaded, loadMysqlFirewallRules_eq]
    by_cases empty : digestsOf strtoull del rows (ruleKey del u c s (toString flagIN)) = []
    · rw [empty]
      simp
    · rw [if_neg empty]
      exact bsearch_qsort_iff ranks_intCmp digest _
  rw [found]
  simp only [digestsOf, List.mem_map, List.mem_filter, Bool.and_eq_true, decide_eq_true_eq]
  constructor
  · rintro ⟨row, ⟨mem, active, key⟩, same⟩
    exact ⟨row, mem, active, key, same⟩
  · rintro ⟨row, mem, active, key, same⟩
    exact ⟨row, ⟨mem, active, key⟩, same⟩

end Rules

/-! ### Keys -/

section Keys

variable {del}

theorem userKey_inj {u c u' c' : String} (free : del.FreeFrom u) (free' : del.FreeFrom u')
    (same : userKey del u c = userKey del u' c') : u = u' ∧ c = c' := by
  have chars := congrArg String.toList same
  simp only [userKey, String.toList_append, del.toList_text, List.append_assoc] at chars
  obtain ⟨user, client⟩ := Delimited.join_inj del.spaced free free' chars
  exact ⟨String.toList_inj.mp user, String.toList_inj.mp client⟩

/-- Names that the keys of the rules can be told apart with. -/
structure FreeNames (del : RandDel) (username clientAddress schemaname : String) : Prop where
  username : del.FreeFrom username
  clientAddress : del.FreeFrom clientAddress
  schemaname : del.FreeFrom schemaname

theorem ruleKey_inj {u c s f u' c' s' f' : String} (free : FreeNames del u c s)
    (free' : FreeNames del u' c' s') (same : ruleKey del u c s f = ruleKey del u' c' s' f') :
    u = u' ∧ c = c' ∧ s = s' ∧ f = f' := by
  have chars := congrArg String.toList same
  simp only [ruleKey, String.toList_append, del.toList_text, List.append_assoc] at chars
  obtain ⟨user, rest⟩ := Delimited.join_inj del.spaced free.username free'.username chars
  obtain ⟨client, rest⟩ := Delimited.join_inj del.spaced free.clientAddress free'.clientAddress rest
  obtain ⟨schema, flag⟩ := Delimited.join_inj del.spaced free.schemaname free'.schemaname rest
  exact ⟨String.toList_inj.mp user, String.toList_inj.mp client, String.toList_inj.mp schema,
    String.toList_inj.mp flag⟩

end Keys

/-! ### Sequences of loads -/

def firewallAfter (loads : List FirewallLoad) : Firewall :=
  loads.foldl (loadMysqlFirewall strtoull del) Firewall.empty

def lastLoad (loads : List FirewallLoad) : FirewallLoad :=
  loads.getLast?.getD { users := [], rules := [] }

/-- The names in the rows of a load do not hold the random part of the delimiter. -/
structure FirewallLoad.Free (load : FirewallLoad) : Prop where
  users : ∀ row ∈ load.users, del.FreeFrom row.username.text
  rules : ∀ row ∈ load.rules,
    FreeNames del row.username.text row.clientAddress.text row.schemaname.text

theorem firewallAfter_eq (loads : List FirewallLoad) :
    ∃ fw : Firewall, (firewallAfter strtoull del loads).users =
        loadMysqlFirewallUsers del fw.users (lastLoad loads).users ∧
      (firewallAfter strtoull del loads).rules =
        loadMysqlFirewallRules strtoull del fw.rules (lastLoad loads).rules := by
  rcases loads.eq_nil_or_concat with rfl | ⟨earlier, last, rfl⟩
  · refine ⟨Firewall.empty, ?_, rfl⟩
    rfl
  · refine ⟨firewallAfter strtoull del earlier, ?_, ?_⟩
    · simp [firewallAfter, lastLoad, loadMysqlFirewall]
    · simp [firewallAfter, lastLoad, loadMysqlFirewall]

/-- After any sequence of loads the mode of a user is that of its last active row in the last load,
and a query is allowed exactly if the last load has an active row with its values. -/
theorem firewall_answers_last_load (strtoull : String → UInt64) (del : RandDel)
    (loads : List FirewallLoad) (u c s : String) (flagIN : Int) (digest : UInt64)
    (rows : (lastLoad loads).Free del) (names : FreeNames del u c s) :
    findFirewallWhitelistUser del (firewallAfter strtoull del loads) u c =
        ((lastRow (lastLoad loads).users fun row => row.isActive && (row.username.text = u &&
          row.clientAddress.text = c)).map FirewallUserRow.wusMode).getD .notFound ∧
      (findFirewallWhitelistRule del (firewallAfter strtoull del loads) u c s flagIN digest = true ↔
        ∃ row ∈ (lastLoad loads).rules, row.isActive = true ∧ row.username.text = u ∧
          row.clientAddress.text = c ∧ row.schemaname.text = s ∧
          row.flagIN.text = toString flagIN ∧ strtoull row.digest.text = digest) := by
  obtain ⟨fw, users, rules⟩ := firewallAfter_eq strtoull del loads
  constructor
  · rw [findFirewallWhitelistUser, users, loadMysqlFirewallUsers_eq]
    -- a key stands for one user and client
    have told : ∀ row ∈ (lastLoad loads).users.reverse,
        (row.isActive && decide (userKey del row.username.text row.clientAddress.text =
          userKey del u c)) =
        (row.isActive && (decide (row.username.text = u) &&
          decide (row.clientAddress.text = c))) := by
      intro row mem
      have free := rows.users row (List.mem_reverse.mp mem)
      congr 1
      rw [← Bool.decide_and, decide_eq_decide]
      constructor
      · exact userKey_inj free names.username
      · rintro ⟨rfl, rfl⟩
        rfl
    rw [lastRow, lastRow, List.find?_congr told]
  · rw [findFirewallWhitelistRule_iff strtoull del rules]
    constructor
    · rintro ⟨row, mem, active, key, same⟩
      obtain ⟨user, client, schema, flag⟩ := ruleKey_inj (rows.rules row mem) names key
      exact ⟨row, mem, active, user, client, schema, flag, same⟩
    · rintro ⟨row, mem, active, user, client, schema, flag, same⟩
      refine ⟨row, mem, active, ?_, same⟩
      rw [user, client, schema, flag]

theorem nul_notMem_app : nul ∉ "app".toList := by decide

theorem nul_notMem_shop : nul ∉ "shop".toList := by decide

/-- An active row of the user `app`. -/
def sampleUser : FirewallUserRow where
  active := ⟨"1", by decide⟩
  username := ⟨"app", nul_notMem_app⟩
  clientAddress := ⟨"10.0.0.1", by decide⟩
  mode := ⟨"PROTECTING", by decide⟩
  checked := by decide

def sampleRule : FirewallRuleRow where
  active := ⟨"1", by decide⟩
  username := ⟨"app", nul_notMem_app⟩
  clientAddress := ⟨"10.0.0.1", by decide⟩
  schemaname := ⟨"shop", nul_notMem_shop⟩
  flagIN := ⟨"0", by decide⟩
  digest := ⟨"7", by decide⟩

def sampleLoads : List FirewallLoad :=
  [{ users := [], rules := [] }, { users := [sampleUser], rules := [sampleRule] }]

theorem firewall_answers_sample :
    findFirewallWhitelistUser sampleDel (firewallAfter (fun _ => 7) sampleDel sampleLoads)
        "app" "10.0.0.1" = .protecting ∧
      findFirewallWhitelistRule sampleDel (firewallAfter (fun _ => 7) sampleDel sampleLoads)
        "app" "10.0.0.1" "shop" 0 7 = true := by
  have rows : (lastLoad sampleLoads).Free sampleDel := {
    users := by
      intro row mem
      obtain rfl : row = sampleUser := List.mem_singleton.mp mem
      unfold RandDel.FreeFrom
      decide
    rules := by
      intro row mem
      obtain rfl : row = sampleRule := List.mem_singleton.mp mem
      constructor <;> unfold RandDel.FreeFrom <;> decide }
  have names : FreeNames sampleDel "app" "10.0.0.1" "shop" := by
    constructor <;> unfold RandDel.FreeFrom <;> decide
  obtain ⟨user, rule⟩ := firewall_answers_last_load (fun _ => 7) sampleDel sampleLoads
    "app" "10.0.0.1" "shop" 0 7 rows names
  refine ⟨user.trans (by decide), rule.mpr ⟨sampleRule, List.mem_singleton_self _, by decide⟩⟩

/-- The delimiter occurs in no field, but it overlaps with a name that ends in its beginning. -/
def overlapLoad : FirewallLoad where
  users := [{
    active := ⟨"1", by decide⟩
    username := ⟨"---k3XpQ9aZ", by decide⟩
    clientAddress := ⟨"c", by decide⟩
    mode := ⟨"OFF", by decide⟩
    checked := by decide }]
  rules := []

theorem overlap_found :
    (∀ name ∈ ["---k3XpQ9aZ", "c", "", "k3XpQ9aZ---c"],
        ¬ sampleDel.chars <:+: name.toList) ∧
      findFirewallWhitelistUser sampleDel (firewallAfter (fun _ => 0) sampleDel [overlapLoad])
        "" "k3XpQ9aZ---c" = .off ∧
      (lastRow overlapLoad.users fun row => row.isActive && (row.username.text = "" &&
        row.clientAddress.text = "k3XpQ9aZ---c")) = none := by
  refine ⟨by decide, by decide +kernel, by decide⟩

end MockProxy.QueryProcessor
