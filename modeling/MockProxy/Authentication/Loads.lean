import MockProxy.Authentication.Accounts

/-!
# Loads of the users

Between two loads of the users, sessions count their connections in the accounts and keep there what
they learned about a password. `loads_replace_users` says what a load makes of the accounts: whom
`lookup` finds, and which of that is still there. The rows of a load are added one after the other,
so an account may be changed several times by one load; `Carried` is what is left of the old
account behind some of its rows.
-/

namespace MockProxy.Authentication

open CredsGroup List

/-- `cred_username_type` -/
inductive UserType where
  | backend
  | frontend
  deriving DecidableEq, Repr

structure MySQLAuthentication where
  credsBackends : CredsGroup
  credsFrontends : CredsGroup

namespace MySQLAuthentication

def empty : MySQLAuthentication where
  credsBackends := .empty
  credsFrontends := .empty

variable (auth : MySQLAuthentication)

def cg : UserType → CredsGroup
  | .backend => auth.credsBackends
  | .frontend => auth.credsFrontends

def setCg (usertype : UserType) (g : CredsGroup) : MySQLAuthentication :=
  match usertype with
  | .backend => { auth with credsBackends := g }
  | .frontend => { auth with credsFrontends := g }

@[simp] theorem cg_setCg (t t' : UserType) (g : CredsGroup) :
    (auth.setCg t g).cg t' = if t' = t then g else auth.cg t' := by
  cases t <;> cases t' <;> rfl

end MySQLAuthentication

inductive Op where
  | setAllInactive (usertype : UserType)
  | add (usertype : UserType) (row : Row)
  | removeInactives (usertype : UserType)
  | del (usertype : UserType) (username : String)
  | setSHA1 (usertype : UserType) (username : String) (shaPass : Option (List UInt8))
  | setClearTextPassword (usertype : UserType) (username : String)
      (clearTextPassword : Option String)
  | increaseFrontendUserConnections (username : String)
  | decreaseFrontendUserConnections (username : String)

namespace Op

def usertype : Op → UserType
  | setAllInactive usertype => usertype
  | add usertype _ => usertype
  | removeInactives usertype => usertype
  | del usertype _ => usertype
  | setSHA1 usertype _ _ => usertype
  | setClearTextPassword usertype _ _ => usertype
  | increaseFrontendUserConnections _ => .frontend
  | decreaseFrontendUserConnections _ => .frontend

def load (usertype : UserType) (rows : List Row) : List Op :=
  setAllInactive usertype :: (rows.map (add usertype) ++ [removeInactives usertype])

end Op

section

variable (hash : String → UInt64) (json : Json)

/-- An operation on its group of accounts. -/
def groupStep (g : CredsGroup) : Op → Except Fault CredsGroup
  | .setAllInactive _ => g.setAllInactive
  | .add _ row => g.add hash json row
  -- each round but the last deletes an account
  | .removeInactives _ => CredsGroup.removeInactives hash (g.credArray.length + 1) g
  | .del _ username => (g.del hash username).map Prod.snd
  | .setSHA1 _ username shaPass => (g.setSHA1 hash username shaPass).map Prod.snd
  | .setClearTextPassword _ username clearTextPassword =>
    (g.setClearTextPassword hash username clearTextPassword).map Prod.snd
  | .increaseFrontendUserConnections username =>
    (g.increaseFrontendUserConnections hash username).map Prod.snd
  | .decreaseFrontendUserConnections username =>
    (g.decreaseFrontendUserConnections hash username).map Prod.snd

def step (auth : MySQLAuthentication) (op : Op) : Except Fault MySQLAuthentication :=
  (groupStep hash json (auth.cg op.usertype) op).map (auth.setCg op.usertype)

end

/-! ### One step and whole runs -/

section

variable {hash : String → UInt64} {json : Json} {g : CredsGroup}

/-- The names of the accounts are those of the rows that were added. -/
def Origin (hash : String → UInt64) (g g' : CredsGroup) (op : Op) : Prop :=
  ∀ u ad', account hash g' u = some ad' →
    (∃ ad, account hash g u = some ad ∧ ad'.username = ad.username) ∨
      ∃ t row, op = .add t row ∧ ad'.username = row.username

theorem origin_withAccount {g' : CredsGroup} {v : String} {f : Account → Account} (op : Op)
    (keeps : ∀ ad, (f ad).username = ad.username)
    (found : ∀ u, account hash g' u =
      if hash u = hash v then (account hash g u).map f else account hash g u) :
    Origin hash g g' op := by
  intro u ad' there
  rw [found] at there
  split_ifs at there
  · obtain ⟨ad, before, rfl⟩ := Option.map_eq_some_iff.mp there
    exact .inl ⟨ad, before, keeps ad⟩
  · exact .inl ⟨ad', there, rfl⟩

theorem CredsGroup.Kept.groupStep (inv : Kept hash g) (json : Json) (op : Op) :
    ∃ g', groupStep hash json g op = .ok g' ∧ Kept hash g' ∧ Origin hash g g' op := by
  -- the four operations on one account differ by what they do to it
  have one : ∀ {α : Type} {v : String} {missing : α} {f : Account → α × Account},
      (∀ ad, (f ad).2.username = ad.username) →
      ∃ g', (g.withAccount hash v missing f).map Prod.snd = .ok g' ∧ Kept hash g' ∧
        Origin hash g g' op := by
    intro α v missing f keeps
    obtain ⟨g', ran, inv', found⟩ := inv.withAccount v missing keeps
    exact ⟨g', by rw [ran]; rfl, inv', origin_withAccount op keeps found⟩
  cases op with
  | setAllInactive t =>
    obtain ⟨g', ran, inv', found⟩ := inv.setAllInactive
    refine ⟨g', ran, inv', fun u ad' there => ?_⟩
    rw [found] at there
    obtain ⟨ad, before, rfl⟩ := Option.map_eq_some_iff.mp there
    exact .inl ⟨ad, before, rfl⟩
  | add t row =>
    obtain ⟨g', ran, inv', found⟩ := inv.add json row
    refine ⟨g', ran, inv', fun u ad' there => ?_⟩
    rw [found] at there
    split_ifs at there
    · cases before : account hash g u with
      | none =>
        rw [before] at there
        cases there
        exact .inr ⟨t, row, rfl, rfl⟩
      | some ad =>
        rw [before] at there
        cases there
        exact .inl ⟨ad, rfl, username_refresh json row ad⟩
    · exact .inl ⟨ad', there, rfl⟩
  | removeInactives t =>
    obtain ⟨g', ran, inv', found⟩ := inv.removeInactives (lt_add_one _)
    refine ⟨g', ran, inv', fun u ad' there => ?_⟩
    rw [found] at there
    exact .inl ⟨ad', (Option.filter_eq_some_iff.mp there).1, rfl⟩
  | del t v =>
    obtain ⟨g', ran, inv', found, -⟩ := inv.del v
    refine ⟨g', by rw [Authentication.groupStep, ran]; rfl, inv', fun u ad' there => ?_⟩
    rw [found] at there
    split_ifs at there
    exact .inl ⟨ad', there, rfl⟩
  | setSHA1 t v shaPass => exact one fun _ => rfl
  | setClearTextPassword t v clearTextPassword => exact one fun _ => rfl
  | increaseFrontendUserConnections v =>
    refine one fun ad => ?_
    rw [Account.increase]
    split_ifs <;> rfl
  | decreaseFrontendUserConnections v =>
    refine one fun ad => ?_
    rw [Account.decrease]
    split_ifs <;> rfl

/-- All accounts have a name from `names`. -/
def Known (hash : String → UInt64) (names : Set String) (g : CredsGroup) : Prop :=
  ∀ u ad, account hash g u = some ad → ad.username ∈ names

theorem run_groups {names : Set String} {auth : MySQLAuthentication}
    (inv : ∀ t, Kept hash (auth.cg t) ∧ Known hash names (auth.cg t)) {ops : List Op}
    (named : ∀ t row, Op.add t row ∈ ops → row.username ∈ names) :
    ∃ auth', ops.foldlM (step hash json) auth = .ok auth' ∧ ∀ t,
      (ops.filter (·.usertype = t)).foldlM (groupStep hash json) (auth.cg t) = .ok (auth'.cg t) ∧
        Kept hash (auth'.cg t) ∧ Known hash names (auth'.cg t) := by
  induction ops generalizing auth with
  | nil => exact ⟨auth, rfl, fun t => ⟨rfl, inv t⟩⟩
  | cons op ops ih =>
    obtain ⟨kept, known⟩ := inv op.usertype
    obtain ⟨g, stepped, kept₁, origin⟩ := kept.groupStep json op
    have known₁ : Known hash names g := by
      intro u ad there
      rcases origin u ad there with ⟨old, before, same⟩ | ⟨t, row, rfl, same⟩
      · exact same ▸ known u old before
      · exact same ▸ named t row mem_cons_self
    have inv₁ : ∀ t, Kept hash ((auth.setCg op.usertype g).cg t) ∧
        Known hash names ((auth.setCg op.usertype g).cg t) := by
      intro t
      rw [MySQLAuthentication.cg_setCg]
      split_ifs
      · exact ⟨kept₁, known₁⟩
      · exact inv t
    obtain ⟨auth', ran, groups⟩ := ih inv₁ fun t row mem => named t row (mem_cons_of_mem _ mem)
    refine ⟨auth', ?_, fun t => ⟨?_, (groups t).2⟩⟩
    · rw [foldlM_cons, step, stepped]
      exact ran
    · have rest := (groups t).1
      rw [MySQLAuthentication.cg_setCg] at rest
      split_ifs at rest with same
      · rw [filter_cons_of_pos (by simp [same]), foldlM_cons, same, stepped]
        exact same ▸ rest
      · rwa [filter_cons_of_neg (by simpa using Ne.symm same)]

/-! ### The rows of one user -/

/-- The row is what the account shows. -/
structure Row.ShownBy (row : Row) (ad : Account) : Prop where
  password : ad.password = row.password
  useSsl : ad.useSsl = row.useSsl
  defaultHostgroup : ad.defaultHostgroup = row.defaultHostgroup
  defaultSchema : ad.defaultSchema = row.defaultSchema
  schemaLocked : ad.schemaLocked = row.schemaLocked
  transactionPersistent : ad.transactionPersistent = row.transactionPersistent
  fastForward : ad.fastForward = row.fastForward
  maxConnections : ad.maxConnections = row.maxConnections
  comment : ad.comment = row.comment
  active : ad.active = true

theorem Row.shownBy_addTo (json : Json) (row : Row) (old : Option Account) :
    row.ShownBy (row.addTo json old) := by
  cases old with
  | none => constructor <;> rfl
  | some ad =>
    constructor
    case password =>
      show (row.setPassword ad).password = row.password
      rw [Row.setPassword]
      split_ifs with same
      · exact same
      · rfl
    all_goals rfl

/-- What was learned about the password of the old account, if none of the rows changes it. -/
def survives {α : Type} (old : Option Account) (rows : List Row) (cached : Account → Option α) :
    Option α :=
  old.bind fun ad => if ∀ row ∈ rows, row.password = ad.password then cached ad else none

/-- What is left of the old account behind some rows of it. -/
structure Carried (old : Option Account) (rows : List Row) (ad : Account) : Prop where
  numConnectionsUsed : ad.numConnectionsUsed = (old.map Account.numConnectionsUsed).getD 0
  sha1Pass : ad.sha1Pass = survives old rows Account.sha1Pass
  clearTextPassword : ad.clearTextPassword = survives old rows Account.clearTextPassword

variable {old : Option Account} {rows : List Row} {ad : Account}

theorem survives_append {α : Type} {stored : String}
    (unchanged : ∀ ad ∈ old, (∀ row ∈ rows, row.password = ad.password) → stored = ad.password)
    (row : Row) (cached : Account → Option α) : survives old (rows ++ [row]) cached =
      if stored = row.password then survives old rows cached else none := by
  cases old with
  | none => simp [survives]
  | some ad =>
    rw [survives, survives, Option.bind_some, Option.bind_some]
    by_cases all : ∀ row ∈ rows, row.password = ad.password
    · obtain rfl := unchanged ad rfl all
      by_cases same : ad.password = row.password
      · rw [if_pos same, if_pos all, if_pos]
        rw [forall_mem_append, forall_mem_singleton]
        exact ⟨all, same.symm⟩
      · rw [if_neg same, if_neg]
        exact fun every => same (every row (by simp)).symm
    · have every : ¬ ∀ r ∈ rows ++ [row], r.password = ad.password :=
        fun every => all fun r mem => every r (mem_append_left _ mem)
      rw [if_neg every, if_neg all, ite_self]

theorem Carried.refresh (carried : Carried old rows ad)
    (unchanged : ∀ first ∈ old, (∀ row ∈ rows, row.password = first.password) →
      ad.password = first.password) (json : Json) (row : Row) :
    Carried old (rows ++ [row]) (row.refresh json ad) := by
  obtain ⟨used, sha1, clear⟩ := carried
  have fields : (row.refresh json ad).numConnectionsUsed = (row.setPassword ad).numConnectionsUsed ∧
      (row.refresh json ad).sha1Pass = (row.setPassword ad).sha1Pass ∧
      (row.refresh json ad).clearTextPassword = (row.setPassword ad).clearTextPassword :=
    ⟨rfl, rfl, rfl⟩
  constructor
  · rw [fields.1, Row.setPassword]
    split_ifs <;> exact used
  · rw [fields.2.1, Row.setPassword, survives_append unchanged]
    split_ifs
    · exact sha1
    · rfl
  · rw [fields.2.2, Row.setPassword, survives_append unchanged]
    split_ifs
    · exact clear
    · rfl

theorem foldl_addTo (json : Json) (old : Option Account) (rows : List Row) {row : Row}
    (last : rows.getLast? = some row) :
    ∃ ad, rows.foldl (fun ad row => some (row.addTo json ad)) old = some ad ∧ row.ShownBy ad ∧
      Carried old rows ad := by
  induction rows using reverseRecOn generalizing row with
  | nil => cases last
  | append_singleton front r ih =>
    rw [getLast?_concat] at last
    cases last
    rw [foldl_append]
    refine ⟨_, rfl, r.shownBy_addTo json _, ?_⟩
    cases before : front.getLast? with
    | none =>
      obtain rfl : front = [] := getLast?_eq_none_iff.mp before
      cases old with
      | none => exact ⟨rfl, rfl, rfl⟩
      | some ad =>
        have first : Carried (some ad) [] ad := ⟨rfl, by simp [survives], by simp [survives]⟩
        exact first.refresh (fun ad' same _ => by cases same; rfl) json r
    | some r₀ =>
      obtain ⟨ad, front', shown, carried⟩ := ih before
      rw [front']
      refine carried.refresh (fun first _ all => ?_) json r
      rw [shown.password]
      exact all r₀ (mem_of_getLast? before)

/-! ### Loads -/

theorem CredsGroup.Kept.foldlM_add (inv : Kept hash g) (json : Json) (rows : List Row) :
    ∃ g', rows.foldlM (CredsGroup.add hash json) g = .ok g' ∧ Kept hash g' ∧
      ∀ u, account hash g' u =
        (rows.filter (hash ·.username = hash u)).foldl (fun ad row => some (row.addTo json ad))
          (account hash g u) := by
  induction rows generalizing g with
  | nil => exact ⟨g, rfl, inv, fun _ => rfl⟩
  | cons row rows ih =>
    obtain ⟨g₁, added, inv₁, found₁⟩ := inv.add json row
    obtain ⟨g', ran, inv', found⟩ := ih inv₁
    refine ⟨g', by rw [foldlM_cons, added]; exact ran, inv', fun u => ?_⟩
    rw [found, found₁]
    by_cases same : hash u = hash row.username
    · rw [if_pos same, filter_cons_of_pos (by simpa using same.symm), foldl_cons]
    · rw [if_neg same, filter_cons_of_neg (by simpa using Ne.symm same)]

theorem CredsGroup.Kept.load (inv : Kept hash g) (json : Json) (t : UserType) (rows : List Row) :
    ∃ g', (Op.load t rows).foldlM (Authentication.groupStep hash json) g = .ok g' ∧
      ∀ u, account hash g' u =
        ((rows.filter (hash ·.username = hash u)).foldl (fun ad row => some (row.addTo json ad))
          ((account hash g u).map Account.deactivate)).filter (·.active) := by
  obtain ⟨g₁, inactive, inv₁, found₁⟩ := inv.setAllInactive
  obtain ⟨g₂, added, inv₂, found₂⟩ := inv₁.foldlM_add json rows
  obtain ⟨g₃, removed, -, found₃⟩ := inv₂.removeInactives (lt_add_one _)
  refine ⟨g₃, ?_, fun u => by rw [found₃, found₂, found₁]⟩
  rw [Op.load, foldlM_cons, Authentication.groupStep, inactive]
  show (rows.map (Op.add t) ++ [Op.removeInactives t]).foldlM _ g₁ = _
  rw [foldlM_append, foldlM_map]
  show (rows.foldlM (CredsGroup.add hash json) g₁ >>= _) = _
  rw [added]
  show (CredsGroup.removeInactives hash (g₂.credArray.length + 1) g₂ >>= _) = _
  rw [removed]
  rfl

/-- What a load of `rows` makes of the user `u`, whose old account is in `g`. -/
structure Loaded (hash : String → UInt64) (g g' : CredsGroup) (rows : List Row) (u : String) :
    Prop where
  gone : (∀ row ∈ rows, row.username ≠ u) → g'.lookup hash u = .ok none
  found : ∀ row, (rows.filter (·.username = u)).getLast? = some row →
    ∃ ad, account hash g' u = some ad ∧ g'.lookup hash u = .ok (some ad.found) ∧ ad.username = u ∧
      row.ShownBy ad ∧ Carried (account hash g u) (rows.filter (·.username = u)) ad

theorem carried_deactivate (carried : Carried (old.map Account.deactivate) rows ad) :
    Carried old rows ad := by
  obtain ⟨used, sha1, clear⟩ := carried
  cases old with
  | none => exact ⟨used, sha1, clear⟩
  | some first => exact ⟨used, sha1, clear⟩

/-- After any operations, a load leaves exactly the users of its rows. Each account shows its last
row and has the connections it had; what was learned about a password is kept exactly if no row
changes it, and `lookup` returns the clear text if it is known. -/
theorem loads_replace_users (json : Json) {names : Set String} (inj : Set.InjOn hash names)
    {t : UserType} {before load : List Op} {rows : List Row}
    (isLoad : load.filter (·.usertype = t) = Op.load t rows)
    (named : ∀ t row, Op.add t row ∈ before ++ load → row.username ∈ names) :
    ∃ auth auth', before.foldlM (step hash json) .empty = .ok auth ∧
      load.foldlM (step hash json) auth = .ok auth' ∧
      ∀ u ∈ names, Loaded hash (auth.cg t) (auth'.cg t) rows u := by
  have start : ∀ t, Kept hash (MySQLAuthentication.empty.cg t) ∧
      Known hash names (MySQLAuthentication.empty.cg t) := by
    intro t
    have none : ∀ u, account hash .empty u = none := fun _ => rfl
    cases t with
    | backend | frontend =>
      exact ⟨kept_empty hash, fun u ad there => by cases (none u).symm.trans there⟩
  obtain ⟨auth, runs, groups⟩ :=
    run_groups start fun t row mem => named t row (mem_append_left _ mem)
  obtain ⟨auth', runs', groups'⟩ := run_groups (fun t => (groups t).2) fun t row mem =>
    named t row (mem_append_right _ mem)
  refine ⟨auth, auth', runs, runs', fun u inNames => ?_⟩
  obtain ⟨ranGroup, kept', names'⟩ := groups' t
  -- the load of this group, with rows that are told apart by their names
  obtain ⟨g', ranLoad, accounts⟩ := (groups t).2.1.load json t rows
  rw [isLoad, ranLoad] at ranGroup
  obtain rfl := Except.ok.inj ranGroup
  have inLoad : ∀ row ∈ rows, row.username ∈ names := by
    intro row mem
    have inOps : Op.add t row ∈ load.filter (·.usertype = t) := by
      rw [isLoad]
      simp [Op.load, mem]
    exact named t row (mem_append_right _ (mem_of_mem_filter inOps))
  have own : rows.filter (hash ·.username = hash u) = rows.filter (·.username = u) :=
    filter_congr fun row mem => by
      have eq := inj.eq_iff (inLoad row mem) inNames
      simp [eq]
  have there := accounts u
  rw [own] at there
  constructor
  · intro absent
    have empty : rows.filter (·.username = u) = [] :=
      filter_eq_nil_iff.mpr fun row mem => by simpa using absent row mem
    rw [empty] at there
    rw [kept'.lookup, there]
    cases account hash (auth.cg t) u with
    | none => rfl
    | some ad => rfl
  · intro row last
    obtain ⟨ad, folded, shown, carried⟩ := foldl_addTo json _ _ last
    rw [folded, Option.filter_some, if_pos shown.active] at there
    have name : ad.username = u :=
      inj (names' u ad there) inNames (kept'.hash_of_account there)
    exact ⟨ad, there, by rw [kept'.lookup, there]; rfl, name, shown, carried_deactivate carried⟩

end

/-! ### A user that is loaded twice -/

def noJson : Json where
  Value := Empty
  parse _ := none
  isolation _ := none
  setIsolation v _ := v
  eraseIsolation v := v
  dump _ := ""

def lengthHash (username : String) : UInt64 := .ofNat username.length

/-- A user with a hashed password. -/
def sampleRow : Row where
  username := "app"
  password := "*2470C0C06DEE42FD1618BB99005ADCA2EC9D1E19"
  useSsl := false
  defaultHostgroup := 1
  defaultSchema := "main"
  schemaLocked := false
  transactionPersistent := true
  fastForward := false
  maxConnections := 10
  attributes := ""
  comment := ""

def sampleOps : List Op :=
  Op.load .frontend [sampleRow] ++
    [.increaseFrontendUserConnections "app", .setClearTextPassword .frontend "app"
      (some "password")]

theorem loads_keep_sample :
    Set.InjOn lengthHash {"app"} ∧
      ∃ auth auth', sampleOps.foldlM (step lengthHash noJson) .empty = .ok auth ∧
        (Op.load .frontend [sampleRow]).foldlM (step lengthHash noJson) auth = .ok auth' ∧
        ∀ u ∈ ({"app"} : Set String),
          Loaded lengthHash (auth.cg .frontend) (auth'.cg .frontend) [sampleRow] u := by
  have inj : Set.InjOn lengthHash {"app"} := Set.injOn_singleton _ _
  refine ⟨inj, loads_replace_users noJson inj rfl ?_⟩
  intro t row mem
  simp only [sampleOps, Op.load, map_cons, map_nil, mem_append, mem_cons, not_mem_nil, or_false,
    reduceCtorEq, false_or] at mem
  rcases mem with ⟨-, rfl⟩ | ⟨-, rfl⟩
  · rfl
  · rfl

/-- After the second load of the same row, the clear text is still found in place of the password of
the row. -/
theorem clear_text_found :
    ∃ auth, (sampleOps ++ Op.load .frontend [sampleRow]).foldlM (step lengthHash noJson) .empty =
        .ok auth ∧
      (auth.cg .frontend).lookup lengthHash "app" =
        .ok (some
          { password := "password"
            useSsl := false
            defaultHostgroup := 1
            defaultSchema := "main"
            schemaLocked := false
            transactionPersistent := true
            fastForward := false
            maxConnections := 10
            sha1Pass := none
            attributes := "" }) ∧
      "password" ≠ sampleRow.password :=
  ⟨_, rfl, rfl, by decide⟩

end MockProxy.Authentication
