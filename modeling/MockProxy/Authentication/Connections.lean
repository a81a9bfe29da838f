import MockProxy.Authentication.Loads

/-!
# The connections of the users

A session counts as a connection of its user from the handshake on. The handshake refuses a session
at the limit of the user; a change of the user takes the session from one count to another, but it
does not look whether the new user has a connection left. Such a session is not counted, and when it
ends it takes a connection from the count that belongs to another one.

`connections_counted_iff` says when the counts are those of the sessions. `CountedAs` relates the
accounts to any count of the sessions, so that a handler can be followed step by step while the
count of its session changes.
-/

namespace MockProxy.Authentication

open Machine CredsGroup SortedMap

/-- `proxysql_session_type` -/
inductive SessionType where
  | mysql
  | sqlite
  | admin
  | stats
  deriving DecidableEq, Repr

inductive SessionStatus where
  -- `CONNECTING_CLIENT`
  | connectingClient
  -- `WAITING_CLIENT_DATA`
  | waitingClientData
  -- the handler returned with `wrong_pass`
  | closing
  deriving DecidableEq, Repr

/-- What is read of `MySQL_Session` here. -/
structure Session where
  sessionType : SessionType
  status : SessionStatus
  clientAuthenticated : Bool
  maxConnectionsReached : Bool
  changeUserAuthSwitch : Bool
  -- `client_myds->myconn->userinfo->username`
  username : String
  deriving DecidableEq, Repr

/-- The answer to the credentials of a client. -/
inductive Outcome where
  | accepted
  -- the client has to send more
  | switched
  | refused
  deriving DecidableEq, Repr

namespace Session

/-- A session that was just accepted. -/
def new (sessionType : SessionType) (maxConnectionsReached : Bool) : Session where
  sessionType
  status := .connectingClient
  clientAuthenticated := false
  maxConnectionsReached
  changeUserAuthSwitch := false
  username := ""

variable (s : Session)

def handshakeName (username : String) : String :=
  if s.changeUserAuthSwitch then s.username else username

/-- The end of a handshake with good credentials, with the connections that are free for the user.
`admitted` is false if the client has to use SSL and does not. -/
def finishHandshake (freeUsers : Int) (admitted : Bool) : Session :=
  if s.maxConnectionsReached = true ∨ freeUsers ≤ 0 then
    { s with clientAuthenticated := false, status := .closing }
  else if admitted then { s with status := .waitingClientData, changeUserAuthSwitch := false }
  else { s with status := .closing, changeUserAuthSwitch := false }

section

variable (hash : String → UInt64)

/-- `handler___status_CONNECTING_CLIENT___STATE_SERVER_HANDSHAKE` -/
def handshake (g : CredsGroup) (s : Session) (username : String) (outcome : Outcome)
    (admitted : Bool) : Except Fault (CredsGroup × Session) :=
  let s := { s with username := s.handshakeName username }
  match outcome with
  | .refused => .ok (g, { s with status := .closing })
  | .switched => .ok (g, s)
  | .accepted =>
    if s.maxConnectionsReached = false ∧ s.sessionType = .sqlite then
      .ok (g, { s with clientAuthenticated := true }.finishHandshake 1 admitted)
    else if s.maxConnectionsReached = false ∧ s.sessionType = .mysql then do
      let ((freeUsers, _), g) ← g.increaseFrontendUserConnections hash s.username
      .ok (g, { s with clientAuthenticated := true }.finishHandshake freeUsers admitted)
    else .ok (g, s.finishHandshake 1 admitted)

def release (g : CredsGroup) (s : Session) : Except Fault CredsGroup :=
  if s.clientAuthenticated then
    (g.decreaseFrontendUserConnections hash s.username).map Prod.snd
  else .ok g

/-- `handler___status_WAITING_CLIENT_DATA___STATE_SLEEP___MYSQL_COM_CHANGE_USER` -/
def changeUser (g : CredsGroup) (s : Session) (username : String) (outcome : Outcome) :
    Except Fault (CredsGroup × Session) :=
  if s.sessionType = .mysql ∨ s.sessionType = .sqlite then do
    let g ← s.release hash g
    let s := { s with clientAuthenticated := false, username }
    match outcome with
    | .accepted => do
      -- the connections that were free are not looked at
      let (_, g) ← g.increaseFrontendUserConnections hash username
      .ok (g, { s with clientAuthenticated := true, status := .waitingClientData })
    | .switched => .ok (g, { s with changeUserAuthSwitch := true, status := .connectingClient })
    | .refused => .ok (g, { s with status := .closing })
  else .ok (g, s)

end

def weight (u : String) : Int :=
  if s.clientAuthenticated = true ∧ s.username = u then 1 else 0

theorem weight_nonneg (u : String) : 0 ≤ s.weight u := by
  rw [weight]
  split_ifs <;> omega

theorem weight_of_not_authenticated {s : Session} (not : s.clientAuthenticated = false)
    (u : String) : s.weight u = 0 := by
  simp [weight, not]

theorem weight_of_authenticated {s : Session} (authenticated : s.clientAuthenticated)
    (u : String) : s.weight u = if s.username = u then 1 else 0 := by
  simp [weight, authenticated]

end Session

/-- The sessions and the accounts of the frontends. -/
structure Connections where
  credsFrontends : CredsGroup
  sessions : SortedMap Nat Session

namespace Connections

inductive Op where
  | connect (sid : Nat) (sessionType : SessionType) (maxConnectionsReached : Bool)
  | handshake (sid : Nat) (username : String) (outcome : Outcome) (admitted : Bool)
  | changeUser (sid : Nat) (username : String) (outcome : Outcome)
  | disconnect (sid : Nat)
  deriving DecidableEq, Repr

def start (g : CredsGroup) : Connections where
  credsFrontends := g
  sessions := .empty

def put (p : Connections) (sid : Nat) (after : CredsGroup × Session) : Connections where
  credsFrontends := after.1
  sessions := p.sessions.modify sid fun _ => after.2

variable (hash : String → UInt64)

/-- A packet of the client goes to the handler of the session's state; a session ends at any
time. -/
def step (p : Connections) : Op → Except Fault Connections
  | .connect sid sessionType maxConnectionsReached =>
    .ok { p with sessions := p.sessions.insert sid (.new sessionType maxConnectionsReached) }
  | .handshake sid username outcome admitted =>
    match p.sessions.find? sid with
    | none => .ok p
    | some s =>
      if s.status = .connectingClient then
        (s.handshake hash p.credsFrontends username outcome admitted).map (p.put sid)
      else .ok p
  | .changeUser sid username outcome =>
    match p.sessions.find? sid with
    | none => .ok p
    | some s =>
      if s.status = .waitingClientData then
        (s.changeUser hash p.credsFrontends username outcome).map (p.put sid)
      else .ok p
  | .disconnect sid =>
    match p.sessions.find? sid with
    | none => .ok p
    | some s => do
      let g ← s.release hash p.credsFrontends
      .ok { credsFrontends := g, sessions := p.sessions.erase sid }

def live (p : Connections) (u : String) : Int := p.sessions.total (Session.weight · u)

/-! ### Counting -/

variable (names : Set String)

/-- The users' connections are as many as `count` says and within the limits. -/
def CountedAs (g : CredsGroup) (count : String → Int) : Prop :=
  ∀ u ∈ names, ∀ ad, account hash g u = some ad →
    ad.numConnectionsUsed = count u ∧ ad.numConnectionsUsed ≤ ad.maxConnections

section

variable {hash : String → UInt64} {names : Set String} {g : CredsGroup} {count : String → Int}

theorem CountedAs.congr (counted : CountedAs hash names g count) {count' : String → Int}
    (same : ∀ u ∈ names, count' u = count u) : CountedAs hash names g count' := by
  intro u mem ad found
  rw [same u mem]
  exact counted u mem ad found

theorem username_increase (ad : Account) : ad.increase.2.username = ad.username := by
  rw [Account.increase]
  split_ifs <;> rfl

theorem username_decrease (ad : Account) : ad.decrease.2.username = ad.username := by
  rw [Account.decrease]
  split_ifs <;> rfl

section

variable (inj : Set.InjOn hash names) (counted : CountedAs hash names g count)

include inj counted

variable {v : String}

/-- Behind a change of one account only the count of its user can be another one. -/
theorem CountedAs.changed_iff (mem : v ∈ names) {f : Account → Account} {g' : CredsGroup}
    (found : ∀ u, account hash g' u =
      if hash u = hash v then (account hash g u).map f else account hash g u)
    {count' : String → Int} (others : ∀ u, v ≠ u → count' u = count u) :
    CountedAs hash names g' count' ↔ ∀ ad, account hash g v = some ad →
      (f ad).numConnectionsUsed = count' v ∧ (f ad).numConnectionsUsed ≤ (f ad).maxConnections := by
  constructor
  · intro counted' ad before
    refine counted' v mem (f ad) ?_
    rw [found, if_pos rfl, before, Option.map_some]
  · intro own u mem' ad' there
    rw [found] at there
    by_cases same : v = u
    · subst same
      rw [if_pos rfl] at there
      obtain ⟨ad, before, rfl⟩ := Option.map_eq_some_iff.mp there
      exact own ad before
    · rw [if_neg fun eq => same (inj mem mem' eq.symm)] at there
      rw [others u same]
      exact counted u mem' ad' there

theorem CountedAs.more_iff (mem : v ∈ names) :
    CountedAs hash names g (fun u => count u + if v = u then 1 else 0) ↔
      account hash g v = none := by
  rw [counted.changed_iff inj mem (f := id) (by simp) fun u other => by simp [other],
    Option.eq_none_iff_forall_ne_some]
  refine forall_congr' fun ad => imp_congr_right fun before => iff_of_false ?_ id
  have right := (counted v mem ad before).1
  simp [right]

/-- The user has one connection more exactly if one was left, and then the call says so. -/
theorem CountedAs.increase (kept : Kept hash g) (mem : v ∈ names) :
    ∃ free limit g', g.increaseFrontendUserConnections hash v = .ok ((free, limit), g') ∧
      Kept hash g' ∧ (CountedAs hash names g' (fun u => count u + if v = u then 1 else 0) ↔
        ∀ ad, account hash g v = some ad → ad.numConnectionsUsed < ad.maxConnections) ∧
      (free ≤ 0 → CountedAs hash names g' count) ∧
      (0 < free → ∃ ad, account hash g v = some ad ∧
        ad.numConnectionsUsed < ad.maxConnections) := by
  obtain ⟨g', ran, kept', found⟩ := kept.withAccount v (0, none) username_increase
  refine ⟨_, _, g', ran, kept', ?_, fun none => ?_, fun some => ?_⟩
  · rw [counted.changed_iff inj mem found fun u other => by simp [other]]
    refine forall_congr' fun ad => imp_congr_right fun before => ?_
    have right := (counted v mem ad before).1
    rw [if_pos rfl, Account.increase]
    split_ifs with less <;> dsimp only <;> omega
  · refine (counted.changed_iff inj mem found fun _ _ => rfl).mpr fun ad before => ?_
    have full : ¬ ad.maxConnections > ad.numConnectionsUsed := by
      intro less
      simp only [before, Option.map_some, Account.increase, if_pos less] at none
      omega
    rw [Account.increase, if_neg full]
    exact counted v mem ad before
  · cases before : account hash g v with
    | none => simp [before] at some
    | some ad =>
      refine ⟨ad, rfl, ?_⟩
      by_contra full
      simp [before, Account.increase, full] at some

theorem CountedAs.release (kept : Kept hash g) {s : Session}
    (named : s.clientAuthenticated → s.username ∈ names)
    (inCount : ∀ u, s.weight u ≤ count u) : ∃ g', s.release hash g = .ok g' ∧ Kept hash g' ∧
      (∀ u ∈ names, account hash g' u = (account hash g u).map fun ad =>
        { ad with numConnectionsUsed := ad.numConnectionsUsed - s.weight u }) ∧
      CountedAs hash names g' fun u => count u - s.weight u := by
  suffices ∃ g', s.release hash g = .ok g' ∧ Kept hash g' ∧
      ∀ u ∈ names, account hash g' u = (account hash g u).map fun ad =>
        { ad with numConnectionsUsed := ad.numConnectionsUsed - s.weight u } by
    obtain ⟨g', released, kept', left⟩ := this
    refine ⟨g', released, kept', left, fun u mem ad' there => ?_⟩
    rw [left u mem] at there
    obtain ⟨ad, before, rfl⟩ := Option.map_eq_some_iff.mp there
    have right := counted u mem ad before
    have low := s.weight_nonneg u
    dsimp only
    omega
  cases authenticated : s.clientAuthenticated with
  | false =>
    refine ⟨g, by rw [Session.release, authenticated]; rfl, kept, fun u _ => ?_⟩
    simp [Session.weight_of_not_authenticated authenticated]
  | true =>
    have mem := named authenticated
    obtain ⟨g', ran, kept', found⟩ := kept.withAccount s.username () username_decrease
    refine ⟨g', ?_, kept', fun u mem' => ?_⟩
    · rw [Session.release, authenticated, decreaseFrontendUserConnections, ran]
      rfl
    · rw [found, Session.weight_of_authenticated authenticated]
      split_ifs with sameHash same same
      · refine Option.map_congr fun ad before => ?_
        -- the session itself is in the count, so that it is not zero
        have positive : ad.numConnectionsUsed > 0 := by
          have least := inCount u
          rw [Session.weight_of_authenticated authenticated, if_pos same] at least
          have right := (counted u mem' ad before).1
          omega
        rw [Account.decrease, if_pos positive]
      · exact absurd (inj mem' mem sameHash).symm same
      · exact absurd (same ▸ rfl) sameHash
      · simp

end

/-! ### Handlers -/

def Balanced (hash : String → UInt64) (names : Set String) (count : String → Int) (s : Session)
    (after : CredsGroup × Session) : Prop :=
  CountedAs hash names after.1 fun u => count u - s.weight u + after.2.weight u

/-- The condition on a handshake: a session of the SQLite server is not counted. -/
def HandshakeFits (hash : String → UInt64) (g : CredsGroup) (s : Session) (username : String) :
    Outcome → Prop
  | .accepted => s.sessionType = .sqlite → s.maxConnectionsReached = false →
      account hash g (s.handshakeName username) = none
  | _ => True

/-- The condition on a change of the user: the new one has a connection left. -/
def ChangeUserFits (hash : String → UInt64) (g : CredsGroup) (s : Session) (username : String) :
    Outcome → Prop
  | .accepted => s.sessionType = .mysql ∨ s.sessionType = .sqlite →
      ∀ ad, account hash g username = some ad →
        ad.numConnectionsUsed - s.weight username < ad.maxConnections
  | _ => True

/-- A session that connects is not authenticated, and a name that will be used is from `names`. -/
structure Tidy (names : Set String) (s : Session) : Prop where
  connecting : s.status = .connectingClient → s.clientAuthenticated = false
  named : s.clientAuthenticated = true ∨ s.changeUserAuthSwitch = true → s.username ∈ names

variable {username : String} {s s' : Session} {g' : CredsGroup}

theorem Tidy.handshakeName (tidy : Tidy names s) (mem : username ∈ names) :
    s.handshakeName username ∈ names := by
  rw [Session.handshakeName]
  split_ifs with switch
  · exact tidy.named (.inr switch)
  · exact mem

theorem balanced_iff (change : String → Int) (worth : ∀ u, s'.weight u - s.weight u = change u) :
    Balanced hash names count s (g', s') ↔
      CountedAs hash names g' fun u => count u + change u := by
  have same : (fun u => count u - s.weight u + s'.weight u) = fun u => count u + change u := by
    funext u
    have := worth u
    omega
  rw [Balanced, same]

/-- A session that is not authenticated is in no count. -/
theorem balanced_of_not_authenticated (not : s'.clientAuthenticated = false)
    (mem : s'.username ∈ names) (counted : CountedAs hash names g' fun u => count u - s.weight u) :
    Tidy names s' ∧ Balanced hash names count s (g', s') := by
  refine ⟨⟨fun _ => not, fun _ => mem⟩, counted.congr fun u _ => ?_⟩
  rw [Session.weight_of_not_authenticated not, add_zero]

theorem finishHandshake_cases (s : Session) (freeUsers : Int) (admitted : Bool) :
    (s.finishHandshake freeUsers admitted).username = s.username ∧
      (s.finishHandshake freeUsers admitted).status ≠ .connectingClient ∧
      (s.finishHandshake freeUsers admitted).clientAuthenticated =
        if s.maxConnectionsReached ∨ freeUsers ≤ 0 then false else s.clientAuthenticated := by
  rw [Session.finishHandshake]
  split_ifs <;> simp

variable (inj : Set.InjOn hash names) (kept : Kept hash g) (counted : CountedAs hash names g count)

include inj kept counted

/-- The counts after a handshake are right unless a session of the SQLite server was let in. -/
theorem handshake_balanced (outside : s.clientAuthenticated = false)
    (mem : s.handshakeName username ∈ names) (outcome : Outcome) (admitted : Bool) :
    ∃ after, s.handshake hash g username outcome admitted = .ok after ∧ Kept hash after.1 ∧
      Tidy names after.2 ∧
      (Balanced hash names count s after ↔ HandshakeFits hash g s username outcome) := by
  have zero := Session.weight_of_not_authenticated outside
  have others {g' : CredsGroup} (counted' : CountedAs hash names g' count) :
      CountedAs hash names g' fun u => count u - s.weight u :=
    counted'.congr fun u _ => by rw [zero, sub_zero]
  cases outcome with
  | refused | switched =>
    refine ⟨_, rfl, kept, And.imp_right (iff_of_true · trivial) ?_⟩
    exact balanced_of_not_authenticated outside mem (others counted)
  | accepted =>
    simp only [Session.handshake]
    have authenticated : ∀ {s' : Session}, s'.clientAuthenticated →
        s'.username = s.handshakeName username → ∀ u, s'.weight u - s.weight u =
          if s.handshakeName username = u then 1 else 0 := by
      intro s' yes name u
      rw [zero, sub_zero, Session.weight_of_authenticated yes, name]
    split_ifs with sqlite mysql
    · -- authenticated without a connection
      obtain ⟨name, status, auth⟩ := finishHandshake_cases
        { s with username := s.handshakeName username, clientAuthenticated := true } 1 admitted
      rw [if_neg (by simp [sqlite.1])] at auth
      refine ⟨_, rfl, kept, ⟨fun connecting => absurd connecting status, fun _ => name ▸ mem⟩, ?_⟩
      rw [balanced_iff _ (authenticated auth name), counted.more_iff inj mem]
      exact ⟨fun none _ _ => none, fun fits => fits sqlite.2 sqlite.1⟩
    · obtain ⟨free, limit, g', ran, kept', more, full, left⟩ := counted.increase inj kept mem
      have fits : s.sessionType = .sqlite → s.maxConnectionsReached = false →
          account hash g (s.handshakeName username) = none := by
        intro isSqlite
        rw [mysql.2] at isSqlite
        cases isSqlite
      rw [ran]
      obtain ⟨name, status, auth⟩ := finishHandshake_cases
        { s with username := s.handshakeName username, clientAuthenticated := true } free admitted
      rcases lt_or_ge 0 free with some | none
      · rw [if_neg (by simp [mysql.1, some])] at auth
        refine ⟨_, rfl, kept', ⟨fun connecting => absurd connecting status, fun _ => name ▸ mem⟩,
          ?_⟩
        rw [balanced_iff _ (authenticated auth name), more]
        obtain ⟨ad, before, less⟩ := left some
        refine iff_of_true (fun ad' before' => ?_) fits
        rwa [Option.some.inj (before'.symm.trans before)]
      · rw [if_pos (.inr none)] at auth
        obtain ⟨tidy, balanced⟩ :=
          balanced_of_not_authenticated auth (name ▸ mem) (others (full none))
        exact ⟨_, rfl, kept', tidy, iff_of_true balanced fits⟩
    · -- a session that the limits of the users do not concern
      obtain ⟨name, -, auth⟩ :=
        finishHandshake_cases { s with username := s.handshakeName username } 1 admitted
      have not := auth.trans (ite_eq_left_iff.mpr fun _ => outside)
      obtain ⟨tidy, balanced⟩ := balanced_of_not_authenticated not (name ▸ mem) (others counted)
      exact ⟨_, rfl, kept, tidy, iff_of_true balanced fun isSqlite reached =>
        absurd ⟨reached, isSqlite⟩ sqlite⟩

/-- The counts after a change of the user are right exactly if the new one had a connection left. -/
theorem changeUser_balanced (tidy : Tidy names s) (inCount : ∀ u, s.weight u ≤ count u)
    (mem : username ∈ names) (outcome : Outcome) :
    ∃ after, s.changeUser hash g username outcome = .ok after ∧ Kept hash after.1 ∧
      Tidy names after.2 ∧
      (Balanced hash names count s after ↔ ChangeUserFits hash g s username outcome) := by
  by_cases type : s.sessionType = .mysql ∨ s.sessionType = .sqlite
  · obtain ⟨g₁, released, kept₁, left₁, counted₁⟩ :=
      counted.release inj kept (fun yes => tidy.named (.inl yes)) inCount
    rw [Session.changeUser, if_pos type, released]
    dsimp only [ok_bind]
    cases outcome with
    | refused | switched =>
      refine ⟨_, rfl, kept₁, And.imp_right (iff_of_true · trivial) ?_⟩
      exact balanced_of_not_authenticated rfl mem counted₁
    | accepted =>
      obtain ⟨free, limit, g₂, ran, kept₂, more, -⟩ := counted₁.increase inj kept₁ mem
      rw [ran]
      refine ⟨_, rfl, kept₂, ⟨fun connecting => (by cases connecting), fun _ => mem⟩, ?_⟩
      have balanced : Balanced hash names count s (g₂,
          { s with clientAuthenticated := true, username, status := .waitingClientData }) ↔
          CountedAs hash names g₂ fun u => count u - s.weight u + if username =
            u then 1 else 0 := by
        simp [Balanced, Session.weight_of_authenticated]
      rw [balanced, more, left₁ username mem]
      simp [ChangeUserFits, type]
  · rw [Session.changeUser, if_neg type]
    refine ⟨_, rfl, kept, tidy, iff_of_true ?_ ?_⟩
    · rw [balanced_iff (fun _ => 0) fun u => sub_self _]
      exact counted.congr fun u _ => add_zero _
    · cases outcome with
      | accepted => exact fun isType => absurd isType type
      | switched => trivial
      | refused => trivial

end

/-! ### Runs -/

/-- The name in a packet is from `names`. -/
def Op.Named : Op → Prop
  | .handshake _ username _ _ => username ∈ names
  | .changeUser _ username _ => username ∈ names
  | _ => True

/-- The counts stay right: a session of the SQLite server is let in only for a name without an
account, and a user is changed only to one with a connection left. -/
def Fits (p : Connections) : Op → Prop
  | .handshake sid username outcome _ => ∀ s, p.sessions.find? sid = some s →
      s.status = .connectingClient → HandshakeFits hash p.credsFrontends s username outcome
  | .changeUser sid username outcome => ∀ s, p.sessions.find? sid = some s →
      s.status = .waitingClientData → ChangeUserFits hash p.credsFrontends s username outcome
  | _ => True

instance (hash : String → UInt64) (g : CredsGroup) (s : Session) (username : String)
    (outcome : Outcome) : Decidable (HandshakeFits hash g s username outcome) :=
  match outcome with
  | .accepted => inferInstanceAs (Decidable (_ → _ → _))
  | .switched => .isTrue trivial
  | .refused => .isTrue trivial

instance (hash : String → UInt64) (g : CredsGroup) (s : Session) (username : String)
    (outcome : Outcome) : Decidable (ChangeUserFits hash g s username outcome) :=
  match outcome with
  | .accepted =>
    inferInstanceAs (Decidable (_ → ∀ ad ∈ account hash g username,
      ad.numConnectionsUsed - s.weight username < ad.maxConnections))
  | .switched => .isTrue trivial
  | .refused => .isTrue trivial

instance (hash : String → UInt64) (p : Connections) (op : Op) : Decidable (p.Fits hash op) :=
  match op with
  | .connect _ _ _ => .isTrue trivial
  | .handshake sid username outcome _ =>
    inferInstanceAs (Decidable (∀ s ∈ p.sessions.find? sid, s.status = .connectingClient →
      HandshakeFits hash p.credsFrontends s username outcome))
  | .changeUser sid username outcome =>
    inferInstanceAs (Decidable (∀ s ∈ p.sessions.find? sid, s.status = .waitingClientData →
      ChangeUserFits hash p.credsFrontends s username outcome))
  | .disconnect _ => .isTrue trivial

def Right (p : Connections) : Prop :=
  CountedAs hash names p.credsFrontends p.live

structure Sound (hash : String → UInt64) (names : Set String) (p : Connections) : Prop where
  kept : Kept hash p.credsFrontends
  tidy : ∀ sid s, p.sessions.find? sid = some s → Tidy names s

section

variable {hash : String → UInt64} {names : Set String} {p : Connections} {sid : Nat} {s : Session}

theorem weight_le_live (found : p.sessions.find? sid = some s) (u : String) :
    s.weight u ≤ p.live u :=
  le_total found fun s => s.weight_nonneg u

theorem Sound.put (sound : Sound hash names p) (found : p.sessions.find? sid = some s)
    {after : CredsGroup × Session} (kept : Kept hash after.1) (tidy : Tidy names after.2) :
    Sound hash names (p.put sid after) ∧
      (Right hash names (p.put sid after) ↔ Balanced hash names p.live s after) := by
  refine ⟨⟨kept, forall_modify sound.tidy fun _ _ => tidy⟩, ?_⟩
  have live : (p.put sid after).live = fun u => p.live u - s.weight u + after.2.weight u := by
    funext u
    exact total_modify found (fun _ => after.2) (Session.weight · u)
  rw [Right, live]
  rfl

/-- A packet for the handler of a status, which the session may not have. -/
theorem Sound.packet (sound : Sound hash names p) (right : Right hash names p)
    {status : SessionStatus} {handler : Session → Except Fault (CredsGroup × Session)}
    {Fit : Session → Prop}
    (handled : ∀ s, p.sessions.find? sid = some s → s.status = status →
      ∃ after, handler s = .ok after ∧ Kept hash after.1 ∧ Tidy names after.2 ∧
        (Balanced hash names p.live s after ↔ Fit s)) :
    ∃ p', (match p.sessions.find? sid with
        | none => .ok p
        | some s => if s.status = status then (handler s).map (p.put sid) else .ok p :
          Except Fault Connections) = .ok p' ∧
      Sound hash names p' ∧ (Right hash names p' ↔
        ∀ s, p.sessions.find? sid = some s → s.status = status → Fit s) := by
  cases found : p.sessions.find? sid with
  | none => exact ⟨p, rfl, sound, iff_of_true right fun s there => by cases there⟩
  | some s =>
    simp only [Option.some.injEq, forall_eq']
    split_ifs with taken
    · obtain ⟨after, ran, kept, tidy, balanced⟩ := handled s found taken
      obtain ⟨sound', right'⟩ := sound.put found kept tidy
      refine ⟨p.put sid after, by rw [ran]; rfl, sound', right'.trans (balanced.trans ?_)⟩
      exact ⟨fun fits _ => fits, fun fits => fits taken⟩
    · exact ⟨p, rfl, sound, iff_of_true right fun same => absurd same taken⟩

/-- Every step returns, and from a state with the right counts it leads to one exactly if it
fits. -/
theorem Sound.step (inj : Set.InjOn hash names) (sound : Sound hash names p)
    (right : Right hash names p) {op : Op} (named : op.Named names) :
    ∃ p', p.step hash op = .ok p' ∧ Sound hash names p' ∧
      (Right hash names p' ↔ p.Fits hash op) := by
  cases op with
  | connect sid sessionType maxConnectionsReached =>
    cases found : p.sessions.find? sid with
    | some s =>
      rw [Connections.step, insert_of_find found]
      exact ⟨p, rfl, sound, iff_of_true right trivial⟩
    | none =>
      refine ⟨_, rfl, ⟨sound.kept, forall_insert sound.tidy found ?_⟩,
        iff_of_true ?_ trivial⟩
      · exact ⟨fun _ => rfl, fun used => by rcases used with used | used <;> cases used⟩
      · refine right.congr fun u _ => ?_
        show (p.sessions.insert sid _).total _ = _
        rw [total_insert _ found, Session.weight_of_not_authenticated rfl, add_zero]
        rfl
  | handshake sid username outcome admitted =>
    refine sound.packet right fun s found connecting => ?_
    have tidy := sound.tidy sid s found
    exact handshake_balanced inj sound.kept right (tidy.connecting connecting)
      (tidy.handshakeName named) outcome admitted
  | changeUser sid username outcome =>
    exact sound.packet right fun s found _ => changeUser_balanced inj sound.kept right
      (sound.tidy sid s found) (weight_le_live found) named outcome
  | disconnect sid =>
    rw [Connections.step]
    cases found : p.sessions.find? sid with
    | none => exact ⟨p, rfl, sound, iff_of_true right trivial⟩
    | some s =>
      obtain ⟨g', released, kept', -, counted⟩ := CountedAs.release inj right sound.kept
        (fun yes => (sound.tidy sid s found).named (.inl yes)) (weight_le_live found)
      dsimp only
      rw [released]
      refine ⟨_, rfl, ⟨kept', forall_erase sound.tidy sid⟩, iff_of_true ?_ trivial⟩
      exact counted.congr fun u _ => total_erase found _

/-- From users without connections, in every run whose steps all fit, the connections of every user
are those of the sessions and within the limit; and from each state of such a run, a step leaves it
so exactly if it fits. -/
theorem connections_counted_iff (inj : Set.InjOn hash names) {g : CredsGroup} (kept : Kept hash g)
    (unused : ∀ u ∈ names, ∀ ad, account hash g u = some ad →
      ad.numConnectionsUsed = 0 ∧ 0 ≤ ad.maxConnections)
    (run : Run (step hash) (fun p op => op.Named names ∧ p.Fits hash op) (start g) p) :
    Right hash names p ∧ ∀ op : Op, op.Named names →
      ∃ p', p.step hash op = .ok p' ∧ (Right hash names p' ↔ p.Fits hash op) := by
  have inv : Sound hash names p ∧ Right hash names p := by
    refine (run.goes_on (fun p => Sound hash names p ∧ Right hash names p) ?_ ?_).1
    · refine ⟨⟨kept, fun sid s there => by cases there⟩, fun u mem ad found => ?_⟩
      obtain ⟨none, limit⟩ := unused u mem ad found
      exact ⟨none, none ▸ limit⟩
    · rintro p op ⟨sound, right⟩ ⟨named, fits⟩
      obtain ⟨p', stepped, sound', right'⟩ := sound.step inj right named
      exact ⟨p', stepped, sound', right'.mpr fits⟩
  refine ⟨inv.2, fun op named => ?_⟩
  obtain ⟨p', stepped, -, right⟩ := inv.1.step inj inv.2 named
  exact ⟨p', stepped, right⟩

end

/-! ### A user with one connection -/

def userRow (username : String) (maxConnections : Int) : Row :=
  { sampleRow with username, maxConnections }

/-- The user `a` with ten connections and the user `bb` with one. -/
def twoUsers : CredsGroup :=
  match [userRow "a" 10, userRow "bb" 1].foldlM (CredsGroup.add lengthHash noJson) .empty with
  | .ok g => g
  | .error _ => .empty

def reached (ops : List Op) : Connections :=
  match ops.foldlM (step lengthHash) (start twoUsers) with
  | .ok p => p
  | .error _ => start twoUsers

theorem change_to_free_user_counted :
    (account lengthHash (reached [.connect 1 .mysql false, .handshake 1 "a" .accepted true,
        .changeUser 1 "bb" .accepted]).credsFrontends "bb").map
        Account.numConnectionsUsed = some 1 ∧
      Right lengthHash {"a", "bb"} (reached [.connect 1 .mysql false,
        .handshake 1 "a" .accepted true, .changeUser 1 "bb" .accepted]) := by
  have inj : Set.InjOn lengthHash {"a", "bb"} := by
    rintro u (rfl | rfl) v (rfl | rfl) same
    · rfl
    · exact absurd same (by decide)
    · exact absurd same (by decide)
    · rfl
  have kept : Kept lengthHash twoUsers := by
    obtain ⟨g, added, kept, -⟩ := (kept_empty lengthHash).foldlM_add noJson
      [userRow "a" 10, userRow "bb" 1]
    rwa [twoUsers, added]
  have unused : ∀ u ∈ ({"a", "bb"} : Set String), ∀ ad, account lengthHash twoUsers u = some ad →
      ad.numConnectionsUsed = 0 ∧ 0 ≤ ad.maxConnections := by
    have both : ∀ u ∈ ["a", "bb"], ∀ ad ∈ account lengthHash twoUsers u,
        ad.numConnectionsUsed = 0 ∧ 0 ≤ ad.maxConnections := by decide
    rintro u (rfl | rfl)
    · exact both "a" (by decide)
    · exact both "bb" (by decide)
  have connected : Run (step lengthHash)
      (fun p op => op.Named {"a", "bb"} ∧ p.Fits lengthHash op) (start twoUsers) _ :=
    .step (i := .connect 1 .mysql false) .start ⟨trivial, trivial⟩ rfl
  have accepted := connected.step (i := .handshake 1 "a" .accepted true)
    ⟨by exact .inl rfl, by decide⟩ rfl
  have changed := accepted.step (i := .changeUser 1 "bb" .accepted)
    ⟨by exact .inr rfl, by decide⟩ rfl
  exact ⟨rfl, (connections_counted_iff inj kept unused changed).1⟩

/-- With the only connection of `bb` in use, a session of `a` becomes one of `bb` and ends. Then no
connection of `bb` is counted, and a session of it is live. -/
theorem change_to_full_user_uncounted :
    ∃ p, [Op.connect 1 .mysql false, .handshake 1 "bb" .accepted true, .connect 2 .mysql false,
        .handshake 2 "a" .accepted true, .changeUser 2 "bb" .accepted, .disconnect 2].foldlM
          (step lengthHash) (start twoUsers) = .ok p ∧ p.live "bb" = 1 ∧
      (account lengthHash p.credsFrontends "bb").map Account.numConnectionsUsed = some 0 :=
  ⟨_, rfl, rfl, rfl⟩

end Connections

end MockProxy.Authentication
