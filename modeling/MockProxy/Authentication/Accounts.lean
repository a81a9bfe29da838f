import MockProxy.Lib.CString
import MockProxy.Lib.Machine
import MockProxy.Lib.PtrArray
import MockProxy.Lib.SortedMap

/-!
# The accounts of the users

The users that may connect to the proxy, and those it connects to the backends with, are kept in two
groups of accounts. A group has a map from the hashes of the names to the accounts and an array of
all accounts. A load of the users marks all accounts as inactive, adds the users one by one, which
marks them as active again, and removes what is still inactive.

`account` is the account a name leads to. `Kept` says that the map and the array lead to the same
accounts; every operation returns on such a group and keeps it, and its effect is told by what
`account` is for every name behind it.
-/

namespace MockProxy.Authentication

open Machine Function SortedMap List Option

abbrev Addr := Nat

/-- `account_details_t` -/
structure Account where
  username : String
  password : String
  sha1Pass : Option (List UInt8)
  clearTextPassword : Option String
  defaultSchema : String
  defaultHostgroup : Int
  useSsl : Bool
  schemaLocked : Bool
  transactionPersistent : Bool
  fastForward : Bool
  maxConnections : Int
  numConnectionsUsed : Int
  active : Bool
  attributes : String
  comment : String
  deriving DecidableEq, Repr

open Account

/-- The arguments of `add`. -/
structure Row where
  username : String
  password : String
  useSsl : Bool
  defaultHostgroup : Int
  defaultSchema : String
  schemaLocked : Bool
  transactionPersistent : Bool
  fastForward : Bool
  maxConnections : Int
  attributes : String
  comment : String
  deriving DecidableEq, Repr

/-- What `add` uses of the library for JSON. -/
structure Json where
  Value : Type
  -- nothing if the text is refused
  parse : String → Option Value
  -- the value of `default-transaction_isolation`, if there is one; reading it fails if it is not a
  -- string
  isolation : Value → Option (Option String)
  setIsolation : Value → String → Value
  eraseIsolation : Value → Value
  dump : Value → String

/-- `strcasecmp(s, t) == 0` -/
def sameFolded (s t : String) : Bool := CString.sameFolded s.toList t.toList

/-! ### The attributes -/

def isolationLevels : List String :=
  ["READ UNCOMMITTED", "READ COMMITTED", "REPEATABLE READ", "SERIALIZABLE"]

variable (json : Json)

def dumped (valid : json.Value) : String :=
  if (json.dump valid).length = 2 then "" else json.dump valid

/-- The attributes of an account that exists: the isolation level is written with spaces, and an
unknown one is taken out. -/
def checkAttributes (attributes : String) : String :=
  if attributes.isEmpty then attributes
  else
    match json.parse attributes with
    | none => ""
    | some valid =>
      match json.isolation valid with
      | none => attributes
      | some none => ""
      | some (some level) =>
        let dti := level.map fun c => if c = '-' then ' ' else c
        if isolationLevels.any (sameFolded dti) then
          if level.any (· = '-') then dumped json (json.setIsolation valid dti) else attributes
        else dumped json (json.eraseIsolation valid)

def checkNewAttributes (attributes : String) : String :=
  if attributes.isEmpty then attributes
  else
    match json.parse attributes with
    | none => ""
    | some _ => attributes

/-! ### One account -/

variable (row : Row) (ad : Account)

/-- What `add` sets in any case. -/
def Row.settings : Account :=
  { ad with
    useSsl := row.useSsl
    defaultHostgroup := row.defaultHostgroup
    schemaLocked := row.schemaLocked
    transactionPersistent := row.transactionPersistent
    fastForward := row.fastForward
    maxConnections := row.maxConnections
    active := true }

def Row.setPassword : Account :=
  if ad.password = row.password then ad
  else { ad with password := row.password, sha1Pass := none, clearTextPassword := none }

/-- `add` on an account that exists. -/
def Row.refresh : Account :=
  row.settings
    { row.setPassword ad with
      defaultSchema := row.defaultSchema
      comment := row.comment
      attributes :=
        if sameFolded ad.attributes row.attributes then ad.attributes
        else checkAttributes json row.attributes }

/-- `add` of a new account. -/
def Row.newAccount : Account where
  username := row.username
  password := row.password
  sha1Pass := none
  clearTextPassword := none
  defaultSchema := row.defaultSchema
  defaultHostgroup := row.defaultHostgroup
  useSsl := row.useSsl
  schemaLocked := row.schemaLocked
  transactionPersistent := row.transactionPersistent
  fastForward := row.fastForward
  maxConnections := row.maxConnections
  numConnectionsUsed := 0
  active := true
  attributes := checkNewAttributes json row.attributes
  comment := row.comment

/-- The account that `add` leaves, from the one that was there. -/
def Row.addTo : Option Account → Account
  | none => row.newAccount json
  | some ad => row.refresh json ad

/-- What `lookup` returns and writes to its arguments. -/
structure Found where
  password : String
  useSsl : Bool
  defaultHostgroup : Int
  defaultSchema : String
  schemaLocked : Bool
  transactionPersistent : Bool
  fastForward : Bool
  maxConnections : Int
  sha1Pass : Option (List UInt8)
  attributes : String
  deriving DecidableEq, Repr

/-- The best password that is known is returned. -/
def Account.found : Found where
  password := ad.clearTextPassword.getD ad.password
  useSsl := ad.useSsl
  defaultHostgroup := ad.defaultHostgroup
  defaultSchema := ad.defaultSchema
  schemaLocked := ad.schemaLocked
  transactionPersistent := ad.transactionPersistent
  fastForward := ad.fastForward
  maxConnections := ad.maxConnections
  sha1Pass := ad.sha1Pass
  attributes := ad.attributes

/-- One more connection, if the limit is not reached; the connections that were free and the limit
are returned. -/
def Account.increase : (Int × Option Int) × Account :=
  if ad.maxConnections > ad.numConnectionsUsed then
    ((ad.maxConnections - ad.numConnectionsUsed, some ad.maxConnections),
      { ad with numConnectionsUsed := ad.numConnectionsUsed + 1 })
  else ((0, some ad.maxConnections), ad)

def Account.decrease : Unit × Account :=
  ((), if ad.numConnectionsUsed > 0 then { ad with numConnectionsUsed := ad.numConnectionsUsed - 1 }
    else ad)

def Account.deactivate : Account := { ad with active := false }

/-! ### Groups of accounts -/

/-- `creds_group_t`, with the accounts it points to. -/
structure CredsGroup where
  btMap : UInt64 → Option Addr
  credArray : List Addr
  accounts : SortedMap Addr Account
  -- no account was allocated here or above
  brk : Addr

inductive Fault where
  -- a pointer to no account was followed
  | dangling
  -- a loop went on for more rounds than there were accounts
  | endless
  deriving DecidableEq, Repr

namespace CredsGroup

def empty : CredsGroup where
  btMap _ := none
  credArray := []
  accounts := .empty
  brk := 0

variable (g : CredsGroup)

def deref (a : Addr) : Except Fault Account :=
  match g.accounts.find? a with
  | some ad => .ok ad
  | none => .error .dangling

def modify (a : Addr) (f : Account → Account) : CredsGroup :=
  { g with accounts := g.accounts.modify a f }

def setInactive (a : Addr) : Except Fault CredsGroup := do
  let _ ← g.deref a
  .ok (g.modify a deactivate)

def setAllInactive : Except Fault CredsGroup := g.credArray.foldlM setInactive g

section

-- `SpookyHash` of the name.
variable (hash : String → UInt64)

def add (json : Json) (g : CredsGroup) (row : Row) : Except Fault CredsGroup :=
  match g.btMap (hash row.username) with
  | some a => do
    let _ ← g.deref a
    .ok (g.modify a (row.refresh json))
  | none =>
    .ok
      { btMap := update g.btMap (hash row.username) (some g.brk)
        credArray := g.credArray ++ [g.brk]
        accounts := g.accounts.insert g.brk (row.newAccount json)
        brk := g.brk + 1 }

def del (g : CredsGroup) (username : String) : Except Fault (Bool × CredsGroup) :=
  match g.btMap (hash username) with
  | none => .ok (false, g)
  | some a => do
    let _ ← g.deref a
    .ok (true,
      { g with
        btMap := update g.btMap (hash username) none
        credArray := PtrArray.removeFast a g.credArray
        accounts := g.accounts.erase a })

def firstInactive (g : CredsGroup) : List Addr → Except Fault (Option Account)
  | [] => .ok none
  | a :: rest => do
    let ado ← g.deref a
    if ado.active then g.firstInactive rest else .ok (some ado)

/-- The scan starts over after each account that is deleted. -/
def removeInactives : Nat → CredsGroup → Except Fault CredsGroup
  | 0, _ => .error .endless
  | fuel + 1, g => do
    match ← g.firstInactive g.credArray with
    | none => .ok g
    | some ado =>
      let (_, g) ← g.del hash ado.username
      removeInactives fuel g

/-- An operation on the account of a name; `missing` is returned if there is none. -/
def withAccount {α : Type} (g : CredsGroup) (username : String) (missing : α)
    (f : Account → α × Account) : Except Fault (α × CredsGroup) :=
  match g.btMap (hash username) with
  | none => .ok (missing, g)
  | some a => do
    let ad ← g.deref a
    .ok ((f ad).1, g.modify a fun ad => (f ad).2)

def setSHA1 (g : CredsGroup) (username : String) (shaPass : Option (List UInt8)) :
    Except Fault (Bool × CredsGroup) :=
  g.withAccount hash username false fun ad => (true, { ad with sha1Pass := shaPass })

def setClearTextPassword (g : CredsGroup) (username : String) (clearTextPassword : Option String) :
    Except Fault (Bool × CredsGroup) :=
  g.withAccount hash username false fun ad => (true, { ad with clearTextPassword })

def increaseFrontendUserConnections (g : CredsGroup) (username : String) :
    Except Fault ((Int × Option Int) × CredsGroup) :=
  g.withAccount hash username (0, none) increase

def decreaseFrontendUserConnections (g : CredsGroup) (username : String) :
    Except Fault (Unit × CredsGroup) :=
  g.withAccount hash username () decrease

def lookup (g : CredsGroup) (username : String) : Except Fault (Option Found) :=
  match g.btMap (hash username) with
  | none => .ok none
  | some a => do
    let ad ← g.deref a
    .ok (some ad.found)

/-! ### The invariant -/

def account (g : CredsGroup) (u : String) : Option Account :=
  (g.btMap (hash u)).bind g.accounts.find?

/-- The map and the array lead to the same accounts. -/
structure Kept (g : CredsGroup) : Prop where
  byName : ∀ h a, g.btMap h = some a ↔
    ∃ ad, g.accounts.find? a = some ad ∧ hash ad.username = h
  listed : ∀ a, a ∈ g.credArray ↔ ∃ ad, g.accounts.find? a = some ad
  nodup : g.credArray.Nodup
  allocated : ∀ a ∈ g.credArray, a < g.brk

end

theorem kept_empty (hash : String → UInt64) : Kept hash empty where
  byName h a := by simp [empty]
  listed a := by simp [empty]
  nodup := nodup_nil
  allocated a mem := by simp [empty] at mem

theorem deref_of_find {g : CredsGroup} {a : Addr} {ad : Account}
    (found : g.accounts.find? a = some ad) : g.deref a = .ok ad := by
  rw [deref, found]

section

variable {hash : String → UInt64} {g : CredsGroup} {a : Addr} {ad : Account} {u : String}

theorem Kept.account_of_map (inv : Kept hash g) (inMap : g.btMap (hash u) = some a) :
    ∃ ad, g.accounts.find? a = some ad ∧ account hash g u = some ad := by
  obtain ⟨ad, object, -⟩ := (inv.byName _ a).mp inMap
  exact ⟨ad, object, by rw [account, inMap, bind_some, object]⟩

theorem account_of_map_none (missing : g.btMap (hash u) = none) : account hash g u = none := by
  rw [account, missing, bind_none]

theorem Kept.account_of_find (inv : Kept hash g) (object : g.accounts.find? a = some ad) :
    account hash g ad.username = some ad := by
  rw [account, (inv.byName _ a).mpr ⟨ad, object, rfl⟩, bind_some, object]

theorem Kept.hash_of_account (inv : Kept hash g) (found : account hash g u = some ad) :
    hash ad.username = hash u := by
  obtain ⟨a, inMap, object⟩ := bind_eq_some_iff.mp found
  obtain ⟨ad', object', own⟩ := (inv.byName _ a).mp inMap
  rw [object] at object'
  cases object'
  exact own

/-- The map leads from different hashes to different accounts. -/
theorem Kept.hash_eq (inv : Kept hash g) {h h' : UInt64} (first : g.btMap h = some a)
    (second : g.btMap h' = some a) : h = h' := by
  obtain ⟨ad, object, rfl⟩ := (inv.byName h a).mp first
  obtain ⟨ad', object', rfl⟩ := (inv.byName h' a).mp second
  rw [object] at object'
  cases object'
  rfl

theorem Kept.lookup (inv : Kept hash g) (u : String) :
    g.lookup hash u = .ok ((account hash g u).map found) := by
  cases inMap : g.btMap (hash u) with
  | none => rw [CredsGroup.lookup, inMap, account_of_map_none inMap, map_none]
  | some a =>
    obtain ⟨ad, object, found⟩ := inv.account_of_map inMap
    rw [CredsGroup.lookup, inMap, found]
    simp only [deref_of_find object]
    rfl

/-! ### Changes of one account -/

theorem Kept.modify (inv : Kept hash g) (a : Addr) {f : Account → Account}
    (keeps : ∀ ad, (f ad).username = ad.username) : Kept hash (g.modify a f) where
  __ := inv
  byName h b := by
    show g.btMap h = some b ↔
      ∃ ad, (g.accounts.modify a f).find? b = some ad ∧ hash ad.username = h
    rw [inv.byName]
    exact (exists_find?_modify fun ad => by rw [keeps]).symm
  listed b := by
    show b ∈ g.credArray ↔ ∃ ad, (g.accounts.modify a f).find? b = some ad
    rw [inv.listed]
    have same : (∃ ad, (g.accounts.modify a f).find? b = some ad ∧ True) ↔
        ∃ ad, g.accounts.find? b = some ad ∧ True :=
      exists_find?_modify fun _ => .rfl
    simpa using same.symm

theorem Kept.account_modify (inv : Kept hash g) {v : String} (inMap : g.btMap (hash v) = some a)
    (f : Account → Account) (u : String) : account hash (g.modify a f) u =
      if hash u = hash v then (account hash g u).map f else account hash g u := by
  show (g.btMap (hash u)).bind (g.accounts.modify a f).find? = _
  split_ifs with same
  · rw [account, same, inMap, bind_some, bind_some, find?_modify, if_pos rfl]
  · cases other : g.btMap (hash u) with
    | none => rw [account_of_map_none other, bind_none]
    | some b =>
      rw [account, other, bind_some, bind_some, find?_modify, if_neg]
      rintro rfl
      exact same (inv.hash_eq other inMap)

theorem Kept.withAccount {α : Type} (inv : Kept hash g) (v : String) (missing : α)
    {f : Account → α × Account} (keeps : ∀ ad, (f ad).2.username = ad.username) :
    ∃ g', g.withAccount hash v missing f =
        .ok (((account hash g v).map fun ad => (f ad).1).getD missing, g') ∧ Kept hash g' ∧
      ∀ u, account hash g' u =
        if hash u = hash v then (account hash g u).map fun ad => (f ad).2
        else account hash g u := by
  cases inMap : g.btMap (hash v) with
  | none =>
    have none := account_of_map_none inMap
    refine ⟨g, by rw [CredsGroup.withAccount, inMap, none]; rfl, inv, fun u => ?_⟩
    split_ifs with same
    · rw [account, same, ← account, none, map_none]
    · rfl
  | some a =>
    obtain ⟨ad, object, found⟩ := inv.account_of_map inMap
    refine ⟨g.modify a fun ad => (f ad).2, ?_, inv.modify a keeps, inv.account_modify inMap _⟩
    rw [CredsGroup.withAccount, inMap, found]
    simp only [deref_of_find object]
    rfl

/-! ### A new account -/

theorem Kept.fresh (inv : Kept hash g) : g.accounts.find? g.brk = none := by
  cases found : g.accounts.find? g.brk with
  | none => rfl
  | some ad => exact absurd (inv.allocated _ ((inv.listed _).mpr ⟨ad, found⟩)) (lt_irrefl _)

theorem Kept.insert (inv : Kept hash g) (missing : g.btMap (hash ad.username) = none) : Kept hash
      { btMap := update g.btMap (hash ad.username) (some g.brk)
        credArray := g.credArray ++ [g.brk]
        accounts := g.accounts.insert g.brk ad
        brk := g.brk + 1 } where
  byName h a := by
    simp only [find?_insert_eq_some inv.fresh, or_and_right, exists_or, ← inv.byName]
    by_cases own : h = hash ad.username
    · subst own
      simp [missing, eq_comm]
    · simp [own, Ne.symm own]
  listed a := by
    rw [find?_insert ad inv.fresh, mem_append, inv.listed]
    by_cases new : a = g.brk
    · simp [new]
    · simp [new]
  nodup := by
    refine nodup_append.mpr ⟨inv.nodup, nodup_singleton _, ?_⟩
    rintro a mem b new rfl
    rw [mem_singleton.mp new] at mem
    exact absurd (inv.allocated _ mem) (lt_irrefl _)
  allocated := by
    rw [forall_mem_append, forall_mem_singleton]
    exact ⟨fun a old => Nat.lt_succ_of_lt (inv.allocated a old), lt_add_one _⟩

theorem username_refresh (json : Json) (row : Row) (ad : Account) :
    (row.refresh json ad).username = ad.username := by
  show (row.setPassword ad).username = ad.username
  rw [Row.setPassword]
  split_ifs <;> rfl

theorem Kept.add (inv : Kept hash g) (json : Json) (row : Row) :
    ∃ g', g.add hash json row = .ok g' ∧ Kept hash g' ∧
      ∀ u, account hash g' u =
        if hash u = hash row.username then some (row.addTo json (account hash g u))
        else account hash g u := by
  cases inMap : g.btMap (hash row.username) with
  | some a =>
    obtain ⟨ad, object, found⟩ := inv.account_of_map inMap
    refine ⟨g.modify a (row.refresh json), ?_,
      inv.modify a (username_refresh json row), fun u => ?_⟩
    · rw [CredsGroup.add, inMap]
      simp only [deref_of_find object]
      rfl
    · rw [inv.account_modify inMap]
      split_ifs with same
      · rw [account, same, ← account, found]
        rfl
      · rfl
  | none =>
    have fresh : g.btMap (hash (row.newAccount json).username) = none := inMap
    have inv' := inv.insert fresh
    refine ⟨_, by rw [CredsGroup.add, inMap]; rfl, inv', fun u => ?_⟩
    show (update g.btMap (hash row.username) (some g.brk) (hash u)).bind
      (g.accounts.insert g.brk (row.newAccount json)).find? = _
    split_ifs with same
    · rw [same, update_self, bind_some, find?_insert _ inv.fresh, if_pos rfl, account, same, inMap]
      rfl
    · rw [update_of_ne same, account]
      cases other : g.btMap (hash u) with
      | none => rfl
      | some b =>
        rw [bind_some, bind_some, find?_insert _ inv.fresh, if_neg]
        rintro rfl
        obtain ⟨ad, object, -⟩ := (inv.byName _ _).mp other
        rw [inv.fresh] at object
        cases object

/-! ### Removal -/

theorem Kept.del (inv : Kept hash g) (v : String) :
    ∃ g', g.del hash v = .ok ((account hash g v).isSome, g') ∧ Kept hash g' ∧
      (∀ u, account hash g' u = if hash u = hash v then none else account hash g u) ∧
      (account hash g v).toList.length + g'.credArray.length = g.credArray.length := by
  cases inMap : g.btMap (hash v) with
  | none =>
    have none := account_of_map_none inMap
    refine ⟨g, by rw [CredsGroup.del, inMap, none]; rfl, inv, fun u => ?_, by simp [none]⟩
    split_ifs with same
    · rw [account, same, ← account, none]
    · rfl
  | some a =>
    obtain ⟨ad, object, found⟩ := inv.account_of_map inMap
    have member : a ∈ g.credArray := (inv.listed a).mpr ⟨ad, object⟩
    have perm := PtrArray.removeFast_perm member
    obtain ⟨gone, nodup⟩ := nodup_cons.mp (perm.nodup_iff.mpr inv.nodup)
    have others : ∀ {b h}, h ≠ hash v → g.btMap h = some b → b ≠ a := by
      rintro b h other inMap' rfl
      exact other (inv.hash_eq inMap' inMap)
    refine ⟨_, by rw [CredsGroup.del, inMap, found]; simp only [deref_of_find object]; rfl, ?_, ?_,
      ?_⟩
    · exact {
        byName := by
          intro h b
          simp only [find?_erase_eq_some, and_assoc, exists_and_left, ← inv.byName]
          by_cases same : h = hash v
          · simp [same, inMap, eq_comm]
          · rw [update_of_ne same]
            exact (and_iff_right_of_imp (others same)).symm
        listed := by
          intro b
          rw [find?_erase]
          by_cases same : b = a
          · subst same
            simp [gone]
          · rw [if_neg same, ← inv.listed, ← perm.mem_iff, mem_cons, or_iff_right same]
        nodup := nodup
        allocated := fun b mem => inv.allocated b (perm.subset (mem_cons_of_mem _ mem)) }
    · intro u
      show (update g.btMap (hash v) none (hash u)).bind (g.accounts.erase a).find? = _
      split_ifs with same
      · rw [same, update_self, bind_none]
      · rw [update_of_ne same, account]
        cases other : g.btMap (hash u) with
        | none => rfl
        | some b =>
          rw [bind_some, bind_some, find?_erase,
            if_neg (others same other)]
    · rw [found, ← perm.length_eq]
      exact Nat.add_comm _ _

theorem Kept.firstInactive (inv : Kept hash g) {l : List Addr}
    (inArray : ∀ a ∈ l, a ∈ g.credArray) :
    (g.firstInactive l = .ok none ∧
        ∀ a ∈ l, ∀ ad, g.accounts.find? a = some ad → ad.active) ∨
      ∃ a ad, g.firstInactive l = .ok (some ad) ∧ g.accounts.find? a = some ad ∧
        ad.active = false := by
  induction l with
  | nil => exact .inl ⟨rfl, by simp⟩
  | cons a rest ih =>
    obtain ⟨ad, object⟩ := (inv.listed a).mp (inArray a mem_cons_self)
    rw [CredsGroup.firstInactive, deref_of_find object]
    dsimp only [ok_bind]
    cases active : ad.active with
    | false => exact .inr ⟨a, ad, rfl, object, active⟩
    | true =>
      rcases ih fun b mem => inArray b (mem_cons_of_mem _ mem) with ⟨none, all⟩ | some
      · refine .inl ⟨none, fun b mem ad' object' => ?_⟩
        rcases mem_cons.mp mem with rfl | mem
        · rw [object] at object'
          cases object'
          exact active
        · exact all b mem ad' object'
      · exact .inr some

/-- With a round for each account and one more, the loop ends, and the inactive accounts are
gone. -/
theorem Kept.removeInactives (inv : Kept hash g) {fuel : Nat} (enough : g.credArray.length < fuel) :
    ∃ g', CredsGroup.removeInactives hash fuel g = .ok g' ∧ Kept hash g' ∧
      ∀ u, account hash g' u = (account hash g u).filter (·.active) := by
  induction fuel generalizing g with
  | zero => exact absurd enough (Nat.not_lt_zero _)
  | succ fuel ih =>
    rw [CredsGroup.removeInactives]
    rcases inv.firstInactive fun a mem => mem with ⟨none, all⟩ | ⟨a, ado, some, object, inactive⟩
    · refine ⟨g, by rw [none]; rfl, inv, fun u => ?_⟩
      cases inMap : g.btMap (hash u) with
      | none => rw [account_of_map_none inMap, filter_none]
      | some a =>
        obtain ⟨ad, object, found⟩ := inv.account_of_map inMap
        rw [found, filter_some, if_pos]
        exact all a ((inv.listed a).mpr ⟨ad, object⟩) ad object
    · have found := inv.account_of_find object
      obtain ⟨g₁, deleted, inv₁, left, shorter⟩ := inv.del ado.username
      have enough₁ : g₁.credArray.length < fuel := by
        rw [found, toList_some, length_singleton] at shorter
        omega
      obtain ⟨g₂, ended, inv₂, kept⟩ := ih inv₁ enough₁
      refine ⟨g₂, ?_, inv₂, fun u => ?_⟩
      · rw [some]
        dsimp only [ok_bind]
        rw [deleted]
        exact ended
      · rw [kept, left]
        split_ifs with same
        · rw [account, same, ← account, found, filter_some, inactive]
          rfl
        · rfl

/-! ### All accounts become inactive -/

theorem Kept.foldlM_setInactive (inv : Kept hash g) {l : List Addr}
    (inArray : ∀ a ∈ l, a ∈ g.credArray) :
    ∃ g', l.foldlM setInactive g = .ok g' ∧ Kept hash g' ∧ g'.btMap = g.btMap ∧
      ∀ a, g'.accounts.find? a =
        if a ∈ l then (g.accounts.find? a).map deactivate else g.accounts.find? a := by
  induction l generalizing g with
  | nil => exact ⟨g, rfl, inv, rfl, by simp⟩
  | cons a rest ih =>
    obtain ⟨ad, object⟩ := (inv.listed a).mp (inArray a mem_cons_self)
    have inv₁ := inv.modify a (f := deactivate) fun _ => rfl
    obtain ⟨g', ended, inv', sameMap, found⟩ :=
      ih inv₁ fun b mem => inArray b (mem_cons_of_mem _ mem)
    refine ⟨g', ?_, inv', sameMap, fun b => ?_⟩
    · rw [foldlM_cons, setInactive, deref_of_find object]
      exact ended
    · have changed : (g.modify a deactivate).accounts.find? b =
          if b = a then (g.accounts.find? b).map deactivate else g.accounts.find? b :=
        find?_modify _ _ _ _
      rw [found, changed]
      -- the mark may be taken away more than once
      by_cases same : b = a
      · simp [same, object, deactivate]
      · simp [same]

theorem Kept.setAllInactive (inv : Kept hash g) :
    ∃ g', g.setAllInactive = .ok g' ∧ Kept hash g' ∧
      ∀ u, account hash g' u = (account hash g u).map deactivate := by
  obtain ⟨g', ended, inv', sameMap, found⟩ := inv.foldlM_setInactive fun a mem => mem
  refine ⟨g', ended, inv', fun u => ?_⟩
  rw [account, account, sameMap]
  cases inMap : g.btMap (hash u) with
  | none => rfl
  | some a =>
    obtain ⟨ad, object, -⟩ := (inv.byName _ a).mp inMap
    rw [bind_some, bind_some, found, if_pos ((inv.listed a).mpr ⟨ad, object⟩)]

end

end CredsGroup

end MockProxy.Authentication
