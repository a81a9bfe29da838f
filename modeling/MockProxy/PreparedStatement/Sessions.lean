import MockProxy.PreparedStatement.Local

/-!
# Prepared statements of the sessions

The clients and backend connections of a proxy share one manager. `Counted p lost` relates the
references in the manager to the tables of the connections: the references of the clients are the
entries of their tables and those that are `lost`, which no table leads to.

A reset replaces the table of a client by one without the mark of a client. `client_counts_iff` says
that the references agree with the tables as long as no table without its mark is thrown away with
statements in it, and that they do not after such a step; `unmarked_table_leaks` is a run to one.
-/

namespace MockProxy.PreparedStatement

open Machine SortedMap Manager LocalStmts

/-- The connection of a client: what its statements depend on. -/
structure Client where
  username : String
  schemaname : String
  localStmts : LocalStmts

/-- The manager, the clients and the connections to the backends. -/
structure Proxy where
  manager : Manager
  clients : SortedMap Nat Client
  backends : SortedMap Nat LocalStmts

namespace Proxy

def init (time : Int) : Proxy where
  manager := .init time
  clients := .empty
  backends := .empty

def setLocalStmts (p : Proxy) (c : Nat) (t : LocalStmts) : SortedMap Nat Client :=
  p.clients.modify c fun client => { client with localStmts := t }

variable (computeHash : String → String → String → UInt64) (p : Proxy)

/-- `handler_rc0_PROCESSING_STMT_PREPARE`: the backend `b` has prepared `query` as `stmt` for the
client `c`. The client gets an id unless the session comes from an execution. -/
def handlerRc0ProcessingStmtPrepare (c b : Nat) (client : Client) (query : String) (stmt : Nat)
    (fromExecute : Bool) (clock : Clock) : Except Fault Proxy := do
  let (a, m) ← p.manager.addPreparedStatement computeHash client.username client.schemaname query
  let info ← m.deref a
  let backends := p.backends.modify b (·.backendInsert info.statementId stmt)
  if fromExecute then .ok { p with manager := m, backends }
  else
    let (_, t, m) ← client.localStmts.generateNewClientStmtId clock info.statementId m
    .ok { manager := m, clients := p.setLocalStmts c t, backends }

/-- `COM_STMT_PREPARE` of a statement that the manager has; otherwise a backend is asked. -/
def handlerStmtPrepare (c : Nat) (client : Client) (query : String) (clock : Clock) :
    Except Fault Proxy :=
  match p.manager.findPreparedStatementByHash
    (computeHash client.username client.schemaname query) with
  | none => .ok p
  | some a => do
    let info ← p.manager.deref a
    let (_, t, m) ← client.localStmts.generateNewClientStmtId clock info.statementId p.manager
    .ok { p with manager := m, clients := p.setLocalStmts c t }

/-- The execution of the statement `globalId` on the backend `b`: if it is not prepared there, the
backend is asked to, and the session comes back to the execution. -/
def processingStmtExecute (c b : Nat) (client : Client) (globalId stmt : Nat) (clock : Clock) :
    Except Fault Proxy :=
  match p.backends.find? b with
  | none => .ok p
  | some t =>
    if (t.findBackendStmtByGlobalId globalId).isSome then .ok p
    else
      match p.manager.findPreparedStatementByStmtId globalId with
      | none => .error .dangling
      | some a => do
        let info ← p.manager.deref a
        p.handlerRc0ProcessingStmtPrepare computeHash c b client info.query stmt true clock

/-- `COM_STMT_EXECUTE`: an unknown statement is answered with an error. -/
def handlerStmtExecute (c b : Nat) (client : Client) (clientId stmt : Nat) (clock : Clock) :
    Except Fault Proxy :=
  let globalId := client.localStmts.findGlobalStmtIdFromClient clientId
  if globalId = 0 then .ok p
  else
    match p.manager.findPreparedStatementByStmtId globalId with
    | none => .ok p
    | some _ => p.processingStmtExecute computeHash c b client globalId stmt clock

def handlerStmtClose (c : Nat) (client : Client) (clientId : Nat) (clock : Clock) :
    Except Fault Proxy := do
  let (t, m) ← client.localStmts.clientClose clock clientId p.manager
  .ok { p with manager := m, clients := p.setLocalStmts c t }

/-- `MySQL_Connection::reset` for the connection of a client. -/
def reset (p : Proxy) (c : Nat) (client : Client) (clock : Clock) : Except Fault Proxy := do
  let m ← client.localStmts.destroy clock p.manager
  .ok { p with manager := m, clients := p.setLocalStmts c (.new false) }

inductive Op where
  | connect (c : Nat) (username schemaname : String)
  | initDb (c : Nat) (schemaname : String)
  | prepare (c : Nat) (query : String) (clock : Clock)
  | prepared (c b : Nat) (query : String) (stmt : Nat) (clock : Clock)
  | execute (c b clientId stmt : Nat) (clock : Clock)
  | close (c clientId : Nat) (clock : Clock)
  | resetConnection (c : Nat) (clock : Clock)
  | changeUser (c : Nat) (username schemaname : String) (clock : Clock)
  | disconnect (c : Nat) (clock : Clock)
  | connectBackend (b : Nat)
  | dropBackend (b : Nat) (clock : Clock)

def withClient (c : Nat) (run : Client → Except Fault Proxy) : Except Fault Proxy :=
  match p.clients.find? c with
  | none => .ok p
  | some client => run client

def step : Op → Except Fault Proxy
  | .connect c username schemaname =>
    let t := (LocalStmts.new false).setIsClient
    .ok { p with clients := p.clients.insert c { username, schemaname, localStmts := t } }
  | .initDb c schemaname =>
    .ok { p with clients := p.clients.modify c fun client => { client with schemaname } }
  | .prepare c query clock =>
    p.withClient c fun client => p.handlerStmtPrepare computeHash c client query clock
  | .prepared c b query stmt clock =>
    p.withClient c fun client =>
      if (p.backends.find? b).isSome then
        p.handlerRc0ProcessingStmtPrepare computeHash c b client query stmt false clock
      else .ok p
  | .execute c b clientId stmt clock =>
    p.withClient c fun client => p.handlerStmtExecute computeHash c b client clientId stmt clock
  | .close c clientId clock =>
    p.withClient c fun client => p.handlerStmtClose c client clientId clock
  | .resetConnection c clock => p.withClient c fun client => p.reset c client clock
  | .changeUser c username schemaname clock =>
    p.withClient c fun client => do
      let p ← p.reset c client clock
      .ok { p with clients := p.clients.modify c fun client =>
        { client with username, schemaname } }
  | .disconnect c clock =>
    p.withClient c fun client => do
      let p ← p.reset c client clock
      -- the new table is destroyed with the connection
      let m ← (LocalStmts.new false).destroy clock p.manager
      .ok { p with manager := m, clients := p.clients.erase c }
  | .connectBackend b => .ok { p with backends := p.backends.insert b (.new false) }
  | .dropBackend b clock =>
    match p.backends.find? b with
    | none => .ok p
    | some t => do
      let m ← t.destroy clock p.manager
      .ok { p with manager := m, backends := p.backends.erase b }

/-! ### The proxy -/

/-- The client references are those of the tables and the lost ones, and the backend connections
have references for all they prepared. -/
structure Counted (hash : String → String → String → UInt64) (p : Proxy) (lost : Nat → Int) :
    Prop where
  kept : p.manager.Kept hash
  clients : ∀ id, p.manager.clientCount id =
    (p.clients.total fun client => client.localStmts.refs id) + lost id
  nonneg : ∀ id, 0 ≤ lost id
  servers : ∀ id, p.backends.total (·.backendRefs id) ≤ p.manager.serverCount id
  tables : ∀ c client, p.clients.find? c = some client → client.localStmts.Fresh
  backends : ∀ b t, p.backends.find? b = some t → t.isClient = false

theorem counted_init (hash : String → String → String → UInt64) (time : Int) :
    (init time).Counted hash 0 where
  kept := kept_init hash time
  clients id := rfl
  nonneg id := le_rfl
  servers id := le_rfl
  tables c client found := by simp [init] at found
  backends b t found := by simp [init] at found

variable {hash : String → String → String → UInt64} {p : Proxy} {lost : Nat → Int}

section

variable {c : Nat} {client : Client}

theorem Counted.refs_le (inv : p.Counted hash lost) (found : p.clients.find? c = some client)
    (id : Nat) : client.localStmts.refs id ≤ p.manager.clientCount id := by
  have bound : client.localStmts.refs id ≤ p.clients.total fun client =>
    client.localStmts.refs id :=
    le_total found fun client => client.localStmts.refs_nonneg id
  have nonneg := inv.nonneg id
  rw [inv.clients]
  omega

variable {b : Nat} {t : LocalStmts} {m : Manager}

section

variable (inv : p.Counted hash lost)

include inv

theorem Counted.backendRefs_le (found : p.backends.find? b = some t) (id : Nat) :
    t.backendRefs id ≤ p.manager.serverCount id :=
  (le_total found fun t => t.backendRefs_nonneg id).trans (inv.servers id)

theorem Counted.move (found : p.clients.find? c = some client)
    {left : Nat → Int} (nonneg : ∀ id, 0 ≤ left id)
    (moves : LocalStmts.Moves hash left p.manager client.localStmts m t) :
    Counted hash { p with manager := m, clients := p.setLocalStmts c t } (lost + left) where
  kept := moves.kept
  clients id := by
    rw [moves.counts, setLocalStmts, total_modify found, inv.clients, Pi.add_apply]
    dsimp only
    omega
  nonneg id := add_nonneg (inv.nonneg id) (nonneg id)
  servers id := by
    rw [moves.servers]
    exact inv.servers id
  tables := forall_modify inv.tables fun _ _ => moves.fresh
  backends := inv.backends

theorem Counted.move_all (found : p.clients.find? c = some client)
    (moves : LocalStmts.Moves hash 0 p.manager client.localStmts m t) :
    Counted hash { p with manager := m, clients := p.setLocalStmts c t } lost := by
  have moved : Counted hash _ (lost + 0) := inv.move found (fun _ => le_rfl) moves
  rwa [add_zero] at moved

theorem Counted.rename (c : Nat) {f : Client → Client}
    (keeps : ∀ client, (f client).localStmts = client.localStmts) :
    Counted hash { p with clients := p.clients.modify c f } lost where
  __ := inv
  clients id := by
    simp only [inv.clients, SortedMap.total, SortedMap.modify, List.map_map]
    refine congrArg (List.sum · + _) (List.map_congr_left fun entry _ => ?_)
    dsimp only [Function.comp]
    split
    · rw [keeps]
    · rfl
  tables := by
    refine forall_modify inv.tables fun client found => ?_
    rw [keeps]
    exact inv.tables c client found

theorem Counted.backendInsert (found : p.backends.find? b = some t)
    (kept : m.Kept hash) {globalId : Nat}
    (clients : ∀ id, m.clientCount id = p.manager.clientCount id)
    (servers : ∀ id, m.serverCount id = p.manager.serverCount id + if id = globalId then 1 else 0)
    (stmt : Nat) :
    Counted hash
      { p with manager := m, backends := p.backends.modify b (·.backendInsert globalId stmt) }
      lost where
  __ := inv
  kept := kept
  clients id := by rw [clients, inv.clients]
  servers id := by
    have before := inv.servers id
    rw [total_modify found, servers]
    have grows : (t.backendInsert globalId stmt).backendRefs id ≤
        t.backendRefs id + if id = globalId then 1 else 0 := by
      unfold LocalStmts.backendRefs LocalStmts.backendInsert
      cases there : t.globalStmtToBackendStmt.find? globalId with
      | some old =>
        rw [insert_of_find there]
        split_ifs <;> omega
      | none =>
        rw [find?_insert stmt there]
        by_cases same : id = globalId
        · rw [same, there]
          simp
        · simp [same]
    omega
  backends := forall_modify inv.backends (inv.backends b)

section

variable (found : p.clients.find? c = some client)

include found

theorem Counted.handlerRc0 (backend : p.backends.find? b = some t)
    (query : String) (stmt : Nat) (fromExecute : Bool) (clock : Clock) :
    ∃ p', p.handlerRc0ProcessingStmtPrepare hash c b client query stmt fromExecute clock =
      .ok p' ∧ p'.Counted hash lost := by
  obtain ⟨a, m, info, added, kept, object, -, clients, servers⟩ :=
    inv.kept.addPreparedStatement_counts client.username client.schemaname query
  have counted := inv.backendInsert backend kept clients servers stmt
  rw [handlerRc0ProcessingStmtPrepare, added]
  dsimp only [bind, Except.bind]
  rw [deref_of_find object]
  cases fromExecute with
  | true => exact ⟨_, rfl, counted⟩
  | false =>
    have there := kept.statement_iff.mpr ⟨a, object, rfl⟩
    obtain ⟨id, t', m', generated, moves⟩ :=
      generateNewClientStmtId_moves kept (inv.tables c client found) there clock
    refine ⟨_, ?_, counted.move_all found moves⟩
    dsimp only
    rw [generated]
    rfl

theorem Counted.handlerStmtPrepare (query : String) (clock : Clock) :
    ∃ p', p.handlerStmtPrepare hash c client query clock = .ok p' ∧ p'.Counted hash lost := by
  unfold Proxy.handlerStmtPrepare findPreparedStatementByHash
  cases hashed : p.manager.mapStmtHashToInfo
      (hash client.username client.schemaname query) with
  | none => exact ⟨p, rfl, inv⟩
  | some a =>
    obtain ⟨info, object, -⟩ := (inv.kept.byHash _ a).mp hashed
    have there := inv.kept.statement_iff.mpr ⟨a, object, rfl⟩
    obtain ⟨id, t, m, generated, moves⟩ :=
      generateNewClientStmtId_moves inv.kept (inv.tables c client found) there clock
    refine ⟨_, ?_, inv.move_all found moves⟩
    dsimp only
    rw [deref_of_find object]
    dsimp only [bind, Except.bind]
    rw [generated]

theorem Counted.handlerStmtExecute (b clientId stmt : Nat) (clock : Clock) :
    ∃ p', p.handlerStmtExecute hash c b client clientId stmt clock = .ok p' ∧
      p'.Counted hash lost := by
  unfold Proxy.handlerStmtExecute
  dsimp only
  generalize client.localStmts.findGlobalStmtIdFromClient clientId = globalId
  split_ifs with unknown
  · exact ⟨p, rfl, inv⟩
  · cases there : p.manager.findPreparedStatementByStmtId globalId with
    | none => exact ⟨p, rfl, inv⟩
    | some a =>
      obtain ⟨info, object, -⟩ := inv.kept.find_addr there
      rw [processingStmtExecute]
      cases backend : p.backends.find? b with
      | none => exact ⟨p, rfl, inv⟩
      | some t =>
        dsimp only
        split_ifs
        · exact ⟨p, rfl, inv⟩
        · rw [there]
          dsimp only
          rw [deref_of_find object]
          exact inv.handlerRc0 found backend info.query stmt true clock

end

section

variable (found : p.clients.find? c = some client)

include found

theorem Counted.handlerStmtClose (clientId : Nat) (clock : Clock) :
    ∃ p', p.handlerStmtClose c client clientId clock = .ok p' ∧ p'.Counted hash lost := by
  obtain ⟨t, m, closed, moves⟩ := clientClose_moves inv.kept (inv.tables c client found)
    (inv.refs_le found) clock clientId
  refine ⟨_, ?_, inv.move_all found moves⟩
  rw [Proxy.handlerStmtClose, closed]
  rfl

theorem Counted.reset (clock : Clock) :
    ∃ p', p.reset c client clock = .ok p' ∧ p'.Counted hash (lost + client.localStmts.unreturned) ∧
      p'.clients.find? c = some { client with localStmts := .new false } := by
  obtain ⟨m, destroyed, moves⟩ := destroy_moves inv.kept (inv.tables c client found)
    (inv.refs_le found) clock
  refine ⟨_, ?_, inv.move found client.localStmts.unreturned_nonneg moves, ?_⟩
  · rw [Proxy.reset, destroyed]
    rfl
  · show (p.clients.modify c _).find? c = _
    rw [find?_modify, if_pos rfl, found]
    rfl

theorem Counted.leave (empty : ∀ id, client.localStmts.refs id = 0) :
    Counted hash { p with clients := p.clients.erase c } lost where
  __ := inv
  clients id := by rw [total_erase found, empty, sub_zero, inv.clients]
  tables := forall_erase inv.tables c

end

theorem Counted.connect (c : Nat) (username schemaname : String) : Counted hash { p with
      clients := p.clients.insert c (Client.mk username schemaname
      (LocalStmts.new false).setIsClient)
    } lost := by
  cases found : p.clients.find? c with
  | some client =>
    rw [insert_of_find found]
    exact inv
  | none =>
    exact
      { __ := inv
        clients := by
          intro id
          rw [total_insert _ found, inv.clients]
          exact congrArg (· + _) (add_zero _).symm
        tables := forall_insert inv.tables found
          (fresh_setIsClient (fresh_new false)) }

theorem Counted.connectBackend (b : Nat) :
    Counted hash { p with backends := p.backends.insert b (.new false) } lost := by
  cases found : p.backends.find? b with
  | some t =>
    rw [insert_of_find found]
    exact inv
  | none =>
    exact
      { __ := inv
        servers := by
          intro id
          rw [total_insert _ found, backendRefs_new, add_zero]
          exact inv.servers id
        backends := forall_insert inv.backends found rfl }

theorem Counted.dropBackend (found : p.backends.find? b = some t) (clock : Clock) :
    ∃ m, t.destroy clock p.manager = .ok m ∧
      Counted hash { p with manager := m, backends := p.backends.erase b } lost := by
  obtain ⟨m, destroyed, kept, clients, servers⟩ := destroy_backend inv.kept
    (inv.backends b t found) (inv.backendRefs_le found) clock
  refine ⟨m, destroyed, ?_⟩
  exact
    { kept := kept
      clients := fun id => by rw [clients, inv.clients]
      nonneg := inv.nonneg
      servers := by
        intro id
        have before := inv.servers id
        rw [total_erase found, servers]
        omega
      tables := inv.tables
      backends := forall_erase inv.backends b }

end

end

/-! ### Steps and runs -/

def Marked (p : Proxy) : Op → Prop
  | .resetConnection c _ | .changeUser c _ _ _ | .disconnect c _ =>
    ∀ client ∈ p.clients.find? c, client.localStmts.GivesBack
  | _ => True

def leaves (p : Proxy) : Op → Nat → Int
  | .resetConnection c _ | .changeUser c _ _ _ | .disconnect c _ => fun id =>
    ((p.clients.find? c).map fun client => client.localStmts.unreturned id).getD 0
  | _ => 0

theorem leaves_eq_zero_iff {op : Op} : (∀ id, p.leaves op id = 0) ↔ p.Marked op := by
  have resets : ∀ c, (∀ id, ((p.clients.find? c).map fun client =>
      client.localStmts.unreturned id).getD 0 = 0) ↔
      ∀ client ∈ p.clients.find? c, client.localStmts.GivesBack := by
    intro c
    cases p.clients.find? c with
    | none => simp
    | some client => simp [unreturned_eq_zero_iff]
  cases op with
  | resetConnection c _ | changeUser c _ _ _ | disconnect c _ => exact resets c
  | _ => exact iff_of_true (fun _ => rfl) trivial

theorem Counted.withClient (inv : p.Counted hash lost) {c : Nat} {run : Client → Except Fault Proxy}
    (each : ∀ client, p.clients.find? c = some client → ∃ p', run client = .ok p' ∧
      p'.Counted hash lost) :
    ∃ p', p.withClient c run = .ok p' ∧ p'.Counted hash lost := by
  unfold Proxy.withClient
  cases found : p.clients.find? c with
  | none => exact ⟨p, rfl, inv⟩
  | some client => exact each client found

theorem Counted.withReset (inv : p.Counted hash lost) {c : Nat} (clock : Clock)
    {finish : Proxy → Except Fault Proxy}
    (ends : ∀ (p₁ : Proxy) (lost₁ : Nat → Int) (client : Client), p₁.Counted hash lost₁ →
      p₁.clients.find? c = some { client with localStmts := .new false } →
        ∃ p', finish p₁ = .ok p' ∧ p'.Counted hash lost₁) :
    ∃ p', (p.withClient c fun client => p.reset c client clock >>= finish) = .ok p' ∧
      p'.Counted hash (lost + fun id =>
        ((p.clients.find? c).map fun client => client.localStmts.unreturned id).getD 0) := by
  unfold Proxy.withClient
  cases found : p.clients.find? c with
  | none =>
    refine ⟨p, rfl, ?_⟩
    show p.Counted hash (lost + 0)
    rwa [add_zero]
  | some client =>
    obtain ⟨p₁, reset, counted, found₁⟩ := inv.reset found clock
    obtain ⟨p', finished, counted'⟩ := ends p₁ _ client counted found₁
    refine ⟨p', ?_, counted'⟩
    dsimp only
    rw [reset]
    exact finished

theorem Counted.step (inv : p.Counted hash lost) (op : Op) :
    ∃ p', p.step hash op = .ok p' ∧ p'.Counted hash (lost + p.leaves op) := by
  -- all but three of the operations leave nothing behind
  have all : p.leaves op = 0 → (∃ p', p.step hash op = .ok p' ∧ p'.Counted hash lost) →
      ∃ p', p.step hash op = .ok p' ∧ p'.Counted hash (lost + p.leaves op) := by
    intro nothing keeps
    rwa [nothing, add_zero]
  cases op with
  | connect c username schemaname => exact all rfl ⟨_, rfl, inv.connect c username schemaname⟩
  | initDb c schemaname => exact all rfl ⟨_, rfl, inv.rename c fun _ => rfl⟩
  | prepare c query clock =>
    exact all rfl (inv.withClient fun client found =>
      inv.handlerStmtPrepare found query clock)
  | prepared c b query stmt clock =>
    refine all rfl (inv.withClient fun client found => ?_)
    split_ifs with backend
    · obtain ⟨t, backend⟩ := Option.isSome_iff_exists.mp backend
      exact inv.handlerRc0 found backend query stmt false clock
    · exact ⟨p, rfl, inv⟩
  | execute c b clientId stmt clock =>
    exact all rfl (inv.withClient fun client found =>
      inv.handlerStmtExecute found b clientId stmt clock)
  | close c clientId clock =>
    exact all rfl (inv.withClient fun client found => inv.handlerStmtClose found clientId clock)
  | resetConnection c clock =>
    have reset := inv.withReset (c := c) clock fun p₁ lost₁ client counted _ =>
      ⟨p₁, (rfl : pure p₁ = _), counted⟩
    simp only [bind_pure] at reset
    exact reset
  | changeUser c username schemaname clock =>
    exact inv.withReset clock fun p₁ lost₁ client counted _ =>
      ⟨_, rfl, counted.rename c fun _ => rfl⟩
  | disconnect c clock =>
    exact inv.withReset clock fun p₁ lost₁ client counted found =>
      ⟨_, rfl, counted.leave found fun id => rfl⟩
  | connectBackend b => exact all rfl ⟨_, rfl, inv.connectBackend b⟩
  | dropBackend b clock =>
    refine all rfl ?_
    rw [Proxy.step]
    cases found : p.backends.find? b with
    | none => exact ⟨p, rfl, inv⟩
    | some t =>
      obtain ⟨m, destroyed, counted⟩ := inv.dropBackend found clock
      refine ⟨_, ?_, counted⟩
      dsimp only
      rw [destroyed]
      rfl

theorem counted_of_marked {time : Int}
    (run : Run (step hash) Marked (init time) p) : p.Counted hash 0 := by
  refine (run.goes_on (·.Counted hash 0) (counted_init hash time) fun {p op} inv marked => ?_).1
  obtain ⟨p', stepped, counted⟩ := inv.step op
  have nothing : p.leaves op = 0 := funext (leaves_eq_zero_iff.mpr marked)
  rw [nothing] at counted
  exact ⟨p', stepped, counted⟩

/-! ### Clients and their references -/

/-- The clients, with those of their statement ids that lead to a statement. -/
def pairs (p : Proxy) (id : Nat) : List (Nat × Nat) :=
  p.clients.entries.flatMap fun entry =>
    (entry.2.localStmts.clientStmtToGlobalIds.entries.filter fun link => link.2 = id).map
      fun link => (entry.1, link.1)

def ClientsCounted (p : Proxy) : Prop :=
  ∀ id info, p.manager.statement id = some info → info.refCountClient = (p.pairs id).length

theorem length_pairs (p : Proxy) (id : Nat) :
    ((p.pairs id).length : Int) = p.clients.total fun client => client.localStmts.refs id := by
  unfold pairs SortedMap.total
  induction p.clients.entries with
  | nil => rfl
  | cons entry entries ih =>
    rw [List.flatMap_cons, List.length_append, List.map_cons, List.sum_cons, ← ih, List.length_map]
    push_cast
    rw [refs, SortedMap.total, sum_indicator, List.countP_eq_length_filter]

theorem Counted.clientsCounted_iff (inv : p.Counted hash lost) :
    p.ClientsCounted ↔ ∀ id, lost id = 0 := by
  constructor
  · intro counted id
    by_contra some
    have positive := lt_of_le_of_ne (inv.nonneg id) (Ne.symm some)
    have references := inv.clients id
    rw [← length_pairs] at references
    have referred : 0 < p.manager.clientCount id := by omega
    obtain ⟨info, there, -⟩ := statement_of_countOf referred
    rw [clientCount_of there, counted id info there] at references
    omega
  · intro none id info there
    rw [length_pairs, ← clientCount_of there, inv.clients, none, add_zero]

/-- In every run in which no table without its mark is thrown away with statements in it, the
client references of every statement are the pairs that lead to it, and the next step keeps this
exactly if it meets the same condition. -/
theorem client_counts_iff {computeHash : String → String → String → UInt64} {time : Int}
    {p : Proxy} (run : Run (step computeHash) Marked (init time) p) : p.ClientsCounted ∧
      ∀ op, ∃ p', p.step computeHash op = .ok p' ∧ (p'.ClientsCounted ↔ p.Marked op) := by
  have inv := counted_of_marked run
  refine ⟨inv.clientsCounted_iff.mpr fun _ => rfl, fun op => ?_⟩
  obtain ⟨p', stepped, counted⟩ := inv.step op
  rw [zero_add] at counted
  exact ⟨p', stepped, counted.clientsCounted_iff.trans leaves_eq_zero_iff⟩

def sampleClock : Clock where
  maxStmtsCache := 100
  time _ := 0

/-- A client prepares a statement and resets its connection: the mark is there when it counts. -/
theorem client_counts_reset : ∃ p, Run (step fun _ _ _ => 5) Marked (init 0) p ∧
      (p.manager.statement 1).map GlobalInfo.refCountClient = some 1 ∧ (p.pairs 1).length = 1 ∧
      ∃ p', p.step (fun _ _ _ => 5) (.resetConnection 7 sampleClock) = .ok p' ∧
        p'.ClientsCounted := by
  have connected : Run (step fun _ _ _ => 5) Marked (init 0) _ :=
    .step (i := .connect 7 "app" "shop") .start trivial rfl
  have backend := connected.step (i := .connectBackend 9) (by exact trivial) rfl
  have prepared := backend.step (i := .prepared 7 9 "SELECT 1" 1 sampleClock) (by exact trivial) rfl
  obtain ⟨-, next⟩ := client_counts_iff prepared
  obtain ⟨p', stepped, counted⟩ := next (.resetConnection 7 sampleClock)
  refine ⟨_, prepared, rfl, rfl, p', stepped, counted.mpr fun client found => ?_⟩
  cases found
  exact .inl rfl

/-- The client resets its connection first. When it is gone, its reference is still there. -/
theorem unmarked_table_leaks :
    ∃ p, [.connect 7 "app" "shop", .connectBackend 9, .resetConnection 7 sampleClock,
        .prepare 7 "SELECT 1" sampleClock, .prepared 7 9 "SELECT 1" 1 sampleClock,
        .disconnect 7 sampleClock].foldlM (step fun _ _ _ => 5) (init 0) = .ok p ∧
      p.clients.entries = [] ∧ (p.manager.statement 1).map GlobalInfo.refCountClient = some 1 ∧
      ¬ p.ClientsCounted := by
  refine ⟨_, rfl, rfl, rfl, fun counted => ?_⟩
  exact absurd (counted 1 _ rfl) (by decide)

end Proxy

end MockProxy.PreparedStatement
