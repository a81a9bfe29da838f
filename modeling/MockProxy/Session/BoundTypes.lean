import MockProxy.Session.Dispatch

/-!
# The types of the parameters of a statement

A client sends the types of the parameters with an execution, or leaves them out if they are those
it sent before. The session keeps them for the later executions under the global id of the
statement. A client can have several ids for one statement, which then share the types that are
kept.

`History` records next to the session what was last sent for each id of the client.
`bound_types_iff` says which commands keep the types apart: those that do not replace the types
another id has bound by different ones, and that do not send a type with the mark for unsigned
values, which is not kept.
-/

namespace MockProxy.Session

open Machine DataStream Function

variable (pkt : List Byte)

def sentTypes (numParams : Nat) : List ParamType :=
  typesIn numParams (pkt.drop (15 + nullBitmapLength numParams))

/-- `new_params_bound_flag` -/
def sendsTypes (numParams : Nat) : Bool :=
  numParams ≠ 0 && pkt.getD (14 + nullBitmapLength numParams) 0 ≠ 0

theorem sendsTypes_iff {pkt : List Byte} {numParams : Nat} : sendsTypes pkt numParams ↔
      numParams ≠ 0 ∧ pkt.getD (14 + nullBitmapLength numParams) 0 ≠ 0 := by
  simp [sendsTypes]

theorem signed_signed (types : List ParamType) : signed (signed types) = signed types := by
  rw [signed, signed, List.map_map]
  rfl

namespace StmtSession

variable {s : StmtSession} {stmt : Statement}

/-- The types an execution that sends none works with. -/
def keptTypes (s : StmtSession) (clientId : Nat) : List ParamType :=
  match s.statement? clientId with
  | none => []
  | some stmt => signed (stmt.metadata []).types

/-- The types an execution works with. -/
def usedTypes (s : StmtSession) (pkt : List Byte) : List ParamType :=
  match s.statement? (stmtIdAt pkt) with
  | none => []
  | some stmt =>
    if sendsTypes pkt stmt.numParams then sentTypes pkt stmt.numParams
    else s.keptTypes (stmtIdAt pkt)

theorem types_metadata (stmt : Statement) (pkt pkt' : List Byte) :
    (stmt.metadata pkt).types = (stmt.metadata pkt').types := by
  unfold Statement.metadata
  cases stmt.kept <;> rfl

theorem keptTypes_of {clientId : Nat}
    (known : s.statement? clientId = some stmt) (pkt : List Byte) :
    s.keptTypes clientId = signed (stmt.metadata pkt).types := by
  rw [keptTypes, known, types_metadata stmt pkt []]

variable {pkt : List Byte} {s' : StmtSession} {answer : Answer}

/-- The types `get_binds_from_pkt` keeps are those it read the values with. -/
theorem getBinds_types {longData : LongDataHandler} {numParams : Nat}
    {old : Option (Metadata numParams)} {result : BindResult numParams}
    (whole : executeFixed numParams ≤ (payload pkt).length)
    (ran : getBindsFromPkt pkt longData numParams old = .ok result) :
    ∃ metadata binds, result = .bound metadata binds ∧ metadata.types =
      if sendsTypes pkt numParams then sentTypes pkt numParams
      else signed (old.getD (zeroedMetadata pkt numParams)).types := by
  rw [length_payload] at whole
  have enough := executeFixed_ge numParams
  rw [getBindsFromPkt, if_neg (by omega)] at ran
  by_cases none : numParams = 0
  · rw [if_pos none] at ran
    cases ran
    refine ⟨_, _, rfl, ?_⟩
    have nothing := (old.getD (zeroedMetadata pkt numParams)).length_types.trans none
    simp [sendsTypes, none, signed, List.eq_nil_of_length_eq_zero nothing]
  · rw [executeFixed, if_neg none] at whole
    rw [if_neg none, if_neg (by omega), bindTypes_eq] at ran
    split_ifs at ran
    obtain ⟨binds, -, rfl⟩ := return_eq_ok.mp ran
    refine ⟨_, _, rfl, ?_⟩
    simp [Metadata.used, sendsTypes_iff, none, sentTypes]

/-- An execution of a known statement with a whole fixed part keeps the types it works with. -/
theorem stmtExecute_known (mysql : s.sessionType = .mysql)
    (known : s.statement? (stmtIdAt pkt) = some stmt)
    (whole : executeFixed stmt.numParams ≤ (payload pkt).length)
    (ran : s.stmtExecute pkt = .ok (answer, s')) : ∃ binds metadata, answer = .execute binds ∧
      s' = s.setKept (stmtIdAt pkt) ⟨stmt.numParams, some metadata⟩ ∧
      metadata.types = s.usedTypes pkt := by
  have there : 9 ≤ pkt.length := by
    have enough := executeFixed_ge stmt.numParams
    rw [length_payload] at whole
    omega
  simp only [stmtExecute, mysql, readStmtId_eq, there, if_true, known, ok_bind] at ran
  obtain ⟨taken, bound, ran⟩ := bind_eq_ok.mp ran
  obtain ⟨result, bound, took⟩ := bind_eq_ok.mp bound
  obtain ⟨metadata, binds, rfl, types⟩ := getBinds_types whole bound
  cases took
  cases ran
  refine ⟨binds, metadata, rfl, rfl, ?_⟩
  rw [types, usedTypes, known]
  rw [keptTypes_of known pkt]
  rfl

theorem stmtExecute_unknown (mysql : s.sessionType = .mysql)
    (unknown : s.statement? (stmtIdAt pkt) = none) (ran : s.stmtExecute pkt = .ok (answer, s')) :
    s' = s := by
  simp only [stmtExecute, mysql] at ran
  obtain ⟨id, read, ran⟩ := bind_eq_ok.mp ran
  rw [readStmtId_eq] at read
  split_ifs at read
  cases read
  rw [unknown] at ran
  cases ran
  rfl

end StmtSession

/-! ### Histories -/

/-- A session, and for each id of its client the types that were last sent for it. -/
structure History where
  session : StmtSession
  bound : Nat → Option (List ParamType)

namespace History

open StmtSession

inductive Op where
  -- `COM_STMT_PREPARE`: the client gets a new id for a statement
  | prepare (clientId globalId numParams : Nat)
  | execute (pkt : List Byte)
  | close (pkt : List Byte)

def init : History where
  session :=
    { sessionType := .mysql
      globalId := fun _ => 0
      statements := fun _ => none
      longData := .empty }
  bound _ := none

variable (h : History)

/-- The types an execution sends for its id. -/
def rebinds (pkt : List Byte) : Option (List ParamType) :=
  match h.session.statement? (stmtIdAt pkt) with
  | none => none
  | some stmt => if sendsTypes pkt stmt.numParams then some (sentTypes pkt stmt.numParams) else none

def step : Op → Except Fault History
  | .prepare clientId globalId numParams =>
    .ok
      { session := { h.session with
          globalId := update h.session.globalId clientId globalId
          statements := update h.session.statements globalId
            (some ((h.session.statements globalId).getD ⟨numParams, none⟩)) }
        bound := update h.bound clientId none }
  | .execute pkt => do
    let (_, s) ← h.session.stmtExecute pkt
    .ok
      { session := s
        bound := update h.bound (stmtIdAt pkt)
          ((h.rebinds pkt).or (h.bound (stmtIdAt pkt))) }
  | .close pkt => do
    let (_, s) ← h.session.stmtClose pkt
    .ok { session := s, bound := update h.bound (stmtIdAt pkt) none }

/-- An execution works with the types it sends, or else with those that are kept. -/
theorem usedTypes_eq (pkt : List Byte) :
    h.session.usedTypes pkt = (h.rebinds pkt).getD (h.session.keptTypes (stmtIdAt pkt)) := by
  unfold usedTypes rebinds
  split
  next unknown =>
    simp [keptTypes, unknown]
  · split_ifs <;> rfl

/-- A new id is not in use, and an execution has its fixed part. -/
def WellFormed : Op → Prop
  | .prepare clientId globalId _ => h.session.globalId clientId = 0 ∧ globalId ≠ 0
  | .execute pkt => ∀ stmt ∈ h.session.statement? (stmtIdAt pkt),
      executeFixed stmt.numParams ≤ (payload pkt).length
  | .close _ => True

/-- What holds whatever the types are. -/
structure Sound (h : History) : Prop where
  mysql : h.session.sessionType = .mysql
  known : ∀ id, h.session.globalId id ≠ 0 →
    ∃ stmt, h.session.statements (h.session.globalId id) = some stmt
  opened : ∀ id types, h.bound id = some types → h.session.globalId id ≠ 0

theorem sound_init : init.Sound where
  mysql := rfl
  known id known := absurd rfl known
  opened id types found := by cases found

section

variable {h h' : History} {id g : Nat} {stmt : Statement} {pkt : List Byte}

theorem update_none_eq_some {α : Type} {f : Nat → Option α} {k : Nat} {a : α} :
    update f k none id = some a ↔ id ≠ k ∧ f id = some a := by
  by_cases own : id = k
  · simp [own]
  · simp [own]

theorem Sound.statement_of_opened (sound : h.Sound) (opened : h.session.globalId id ≠ 0) :
    ∃ stmt, h.session.statement? id = some stmt ∧
      h.session.statements (h.session.globalId id) = some stmt := by
  obtain ⟨stmt, found⟩ := sound.known id opened
  exact ⟨stmt, by rw [StmtSession.statement?, if_neg opened, found], found⟩

theorem opened_of_statement? {s : StmtSession} (known : s.statement? id = some stmt) :
    s.globalId id ≠ 0 := by
  intro closed
  rw [statement?, if_pos closed] at known
  cases known

theorem Sound.execute (sound : h.Sound) (known : h.session.statement? (stmtIdAt pkt) = some stmt)
    (whole : executeFixed stmt.numParams ≤ (payload pkt).length)
    (ran : h.step (.execute pkt) = .ok h') : ∃ metadata : Metadata stmt.numParams,
      metadata.types = h.session.usedTypes pkt ∧
      h' = { session := h.session.setKept (stmtIdAt pkt) ⟨stmt.numParams, some metadata⟩
             bound := update h.bound (stmtIdAt pkt)
               ((h.rebinds pkt).or (h.bound (stmtIdAt pkt))) } := by
  obtain ⟨⟨answer, s'⟩, executed, rfl⟩ := return_eq_ok.mp ran
  obtain ⟨binds, metadata, -, rfl, types⟩ :=
    StmtSession.stmtExecute_known sound.mysql known whole executed
  exact ⟨metadata, types, rfl⟩

theorem Sound.execute_unknown (sound : h.Sound)
    (unknown : h.session.statement? (stmtIdAt pkt) = none) (ran : h.step (.execute pkt) = .ok h') :
    h' = h := by
  obtain ⟨⟨answer, s'⟩, executed, ran⟩ := bind_eq_ok.mp ran
  obtain rfl := StmtSession.stmtExecute_unknown sound.mysql unknown executed
  cases ran
  have same : (h.rebinds pkt).or (h.bound (stmtIdAt pkt)) = h.bound (stmtIdAt pkt) := by
    rw [rebinds, unknown]
    rfl
  rw [same, update_eq_self]

theorem close_eq (ran : h.step (.close pkt) = .ok h') :
    h'.bound = update h.bound (stmtIdAt pkt) none ∧
      h'.session.sessionType = h.session.sessionType ∧
      h'.session.globalId = update h.session.globalId (stmtIdAt pkt) 0 ∧
      h'.session.statements =
        match h.session.statement? (stmtIdAt pkt) with
        | none => h.session.statements
        | some stmt => update h.session.statements (h.session.globalId (stmtIdAt pkt))
            (some ⟨stmt.numParams, none⟩) := by
  obtain ⟨⟨answer, s'⟩, closed, rfl⟩ := return_eq_ok.mp ran
  obtain ⟨id, read, closed⟩ := bind_eq_ok.mp closed
  rw [readStmtId_eq] at read
  split_ifs at read
  cases read
  cases found : h.session.statement? (stmtIdAt pkt) with
  | none =>
    rw [found] at closed
    cases closed
    exact ⟨rfl, rfl, rfl, rfl⟩
  | some stmt =>
    rw [found] at closed
    cases closed
    exact ⟨rfl, rfl, rfl, rfl⟩

theorem keptTypes_update {s s' : StmtSession} (ids : s'.globalId id = s.globalId id)
    (statements : s'.statements = update s.statements g (some stmt)) : s'.keptTypes id =
      if s.globalId id = g ∧ g ≠ 0 then signed (stmt.metadata []).types
      else s.keptTypes id := by
  unfold keptTypes statement?
  rw [ids, statements]
  by_cases closed : s.globalId id = 0
  · have other : ¬ (s.globalId id = g ∧ g ≠ 0) := by
      rintro ⟨same, nonzero⟩
      exact nonzero (same ▸ closed)
    rw [if_pos closed, if_pos closed, if_neg other]
  · rw [if_neg closed, if_neg closed]
    by_cases same : s.globalId id = g
    · rw [same, update_self, if_pos ⟨rfl, same ▸ closed⟩]
    · rw [update_of_ne same, if_neg fun both => same both.1]

/-! ### Steps -/

theorem Sound.of_update (sound : h.Sound)
    (type : h'.session.sessionType = h.session.sessionType)
    (statements : h'.session.statements = update h.session.statements g (some stmt))
    (ids : ∀ id, h'.session.globalId id ≠ 0 →
      h'.session.globalId id = g ∨ h'.session.globalId id = h.session.globalId id)
    (opened : ∀ id types, h'.bound id = some types → h'.session.globalId id ≠ 0) : h'.Sound where
  mysql := type.trans sound.mysql
  known id isOpen := by
    rw [statements]
    by_cases same : h'.session.globalId id = g
    · rw [same, update_self]
      exact ⟨_, rfl⟩
    · have old := (ids id isOpen).resolve_left same
      rw [update_of_ne same, old]
      exact sound.known id (old ▸ isOpen)
  opened := opened

theorem Sound.step (sound : h.Sound) {op : Op} (well : h.WellFormed op) (ran : h.step op = .ok h') :
    h'.Sound := by
  cases op with
  | prepare clientId globalId numParams =>
    cases ran
    refine sound.of_update rfl rfl (fun id _ => ?_) fun id types found => ?_
    · dsimp only
      by_cases own : id = clientId
      · rw [own, update_self]
        exact .inl rfl
      · rw [update_of_ne own]
        exact .inr rfl
    · obtain ⟨other, found⟩ := update_none_eq_some.mp found
      dsimp only
      rw [update_of_ne other]
      exact sound.opened id types found
  | execute pkt =>
    cases known : h.session.statement? (stmtIdAt pkt) with
    | none =>
      rw [sound.execute_unknown known ran]
      exact sound
    | some stmt =>
      have isOpen := opened_of_statement? known
      obtain ⟨metadata, -, rfl⟩ := sound.execute known (well stmt known) ran
      refine sound.of_update rfl rfl (fun id _ => .inr rfl) fun id types found => ?_
      by_cases own : id = stmtIdAt pkt
      · rw [own]
        exact isOpen
      · dsimp only at found
        rw [update_of_ne own] at found
        exact sound.opened id types found
  | close pkt =>
    obtain ⟨bound, type, ids, statements⟩ := close_eq ran
    have stays : ∀ id, h'.session.globalId id ≠ 0 →
        h'.session.globalId id = h.session.globalId id := by
      intro id isOpen
      rw [ids] at isOpen ⊢
      by_cases own : id = stmtIdAt pkt
      · rw [own, update_self] at isOpen
        exact absurd rfl isOpen
      · rw [update_of_ne own]
    have opened : ∀ id types, h'.bound id = some types → h'.session.globalId id ≠ 0 := by
      intro id types found
      rw [bound] at found
      obtain ⟨other, found⟩ := update_none_eq_some.mp found
      rw [ids, update_of_ne other]
      exact sound.opened id types found
    cases known : h.session.statement? (stmtIdAt pkt) with
    | none =>
      rw [known] at statements
      exact
        { mysql := type.trans sound.mysql
          known := by
            intro id isOpen
            rw [statements, stays id isOpen]
            exact sound.known id (stays id isOpen ▸ isOpen)
          opened := opened }
    | some stmt =>
      rw [known] at statements
      exact sound.of_update type statements (fun id isOpen => .inr (stays id isOpen)) opened

def Independent (h : History) : Prop :=
  ∀ id types, h.bound id = some types → h.session.keptTypes id = types

/-- A command does not send types with the mark for unsigned values, and leaves the ids that share a
statement with its own the types they have. -/
def Keeps (h : History) : Op → Prop
  | .prepare .. => True
  | .execute pkt => ∀ types ∈ h.rebinds pkt, signed types = types ∧
      ∀ id ≠ stmtIdAt pkt, h.session.globalId id = h.session.globalId (stmtIdAt pkt) →
        ∀ other ∈ h.bound id, other = types
  | .close pkt => ∀ stmt ∈ h.session.statement? (stmtIdAt pkt),
      ∀ id ≠ stmtIdAt pkt, h.session.globalId id = h.session.globalId (stmtIdAt pkt) →
        ∀ other ∈ h.bound id, other = List.replicate stmt.numParams (.decimal, false)

theorem independent_prepare (sound : h.Sound) (independent : h.Independent)
    {clientId globalId numParams : Nat}
    (ran : h.step (.prepare clientId globalId numParams) = .ok h') : h'.Independent := by
  cases ran
  intro id types found
  obtain ⟨other, found⟩ := update_none_eq_some.mp found
  rw [keptTypes_update (update_of_ne other ..) rfl]
  split_ifs with same
  · -- the statement was there, and stays as it was
    obtain ⟨stmt, known, there⟩ := sound.statement_of_opened (sound.opened id types found)
    rw [same.1] at there
    rw [there, ← independent id types found, keptTypes, known]
    rfl
  · exact independent id types found

/-- The statement of `own` gets other types: each other id that shares it must have bound those. -/
theorem independent_replaced (independent : h.Independent) {own : Nat} (types : List ParamType)
    (kept : ∀ id ≠ own, h'.session.keptTypes id =
      if h.session.globalId id = h.session.globalId own then types else h.session.keptTypes id)
    (bound : ∀ id ≠ own, h'.bound id = h.bound id) :
    h'.Independent ↔ (∀ types, h'.bound own = some types → h'.session.keptTypes own = types) ∧
      ∀ id ≠ own, h.session.globalId id = h.session.globalId own →
        ∀ other ∈ h.bound id, other = types := by
  constructor
  · intro after
    refine ⟨after own, fun id other same types' found => ?_⟩
    have theirs := after id types' ((bound id other).trans found)
    rw [kept id other, if_pos same] at theirs
    exact theirs.symm
  · rintro ⟨first, others⟩ id types' found
    by_cases self : id = own
    · exact self ▸ first types' (self ▸ found)
    · rw [bound id self] at found
      rw [kept id self]
      split_ifs with same
      · exact (others id self same types' found).symm
      · exact independent id types' found

theorem independent_execute (sound : h.Sound) (independent : h.Independent)
    (well : h.WellFormed (.execute pkt)) (ran : h.step (.execute pkt) = .ok h') :
    h'.Independent ↔ h.Keeps (.execute pkt) := by
  cases known : h.session.statement? (stmtIdAt pkt) with
  | none =>
    rw [sound.execute_unknown known ran]
    refine iff_of_true independent fun types rebound => ?_
    rw [rebinds, known] at rebound
    cases rebound
  | some stmt =>
    have opened := opened_of_statement? known
    obtain ⟨metadata, types, after⟩ := sound.execute known (well stmt known) ran
    have bound : h'.bound = update h.bound (stmtIdAt pkt)
        ((h.rebinds pkt).or (h.bound (stmtIdAt pkt))) := by rw [after]
    have kept : ∀ id, h'.session.keptTypes id =
        if h.session.globalId id = h.session.globalId (stmtIdAt pkt) then
          signed (h.session.usedTypes pkt)
        else h.session.keptTypes id := by
      intro id
      rw [after]
      refine Eq.trans (keptTypes_update (s := h.session) rfl rfl) ?_
      refine if_congr (and_iff_left opened) ?_ rfl
      exact congrArg signed types
    rw [usedTypes_eq] at kept
    cases rebound : h.rebinds pkt with
    | none =>
      -- the types in use are those that were kept
      refine iff_of_true ?_ fun types found => by rw [rebound] at found; cases found
      have alike : ∀ id, h.session.globalId id = h.session.globalId (stmtIdAt pkt) →
          signed (h.session.keptTypes (stmtIdAt pkt)) = h.session.keptTypes id := by
        intro id same
        have known' : h.session.statement? id = some stmt := by
          rw [← known, statement?, statement?, same]
        rw [keptTypes_of known [], keptTypes_of known' [], signed_signed]
      intro id types' found
      rw [bound, rebound, Option.none_or, update_eq_self] at found
      rw [kept, rebound, Option.getD_none]
      split_ifs with same
      · rw [alike id same]
        exact independent id types' found
      · exact independent id types' found
    | some sent =>
      rw [rebound, Option.getD_some] at kept
      rw [rebound, Option.some_or] at bound
      rw [independent_replaced independent (signed sent) (fun id _ => kept id)
        fun id other => by rw [bound, update_of_ne other], bound, update_self, kept,
        if_pos rfl, Keeps, rebound]
      simp only [Option.some.injEq, Option.mem_def, forall_eq']
      exact and_congr_right fun own => by rw [own]

theorem independent_close (independent : h.Independent) (ran : h.step (.close pkt) = .ok h') :
    h'.Independent ↔ h.Keeps (.close pkt) := by
  obtain ⟨bound, -, ids, statements⟩ := close_eq ran
  have sameIds : ∀ id ≠ stmtIdAt pkt, h'.session.globalId id = h.session.globalId id := by
    intro id other
    rw [ids, update_of_ne other]
  cases known : h.session.statement? (stmtIdAt pkt) with
  | none =>
    rw [known] at statements
    refine iff_of_true ?_ fun stmt found => by rw [known] at found; cases found
    intro id types found
    rw [bound] at found
    obtain ⟨other, found⟩ := update_none_eq_some.mp found
    rw [← independent id types found, keptTypes, keptTypes, statement?, statement?,
      sameIds id other, statements]
  | some stmt =>
    rw [known] at statements
    have opened := opened_of_statement? known
    have kept : ∀ id ≠ stmtIdAt pkt, h'.session.keptTypes id =
        if h.session.globalId id = h.session.globalId (stmtIdAt pkt) then
          List.replicate stmt.numParams (.decimal, false)
        else h.session.keptTypes id := by
      intro id other
      rw [keptTypes_update (sameIds id other) statements]
      exact if_congr (and_iff_left opened) List.map_replicate rfl
    rw [independent_replaced independent _ kept
      fun id other => by rw [bound, update_of_ne other], bound, Keeps, known]
    simp

theorem independent_iff (sound : h.Sound) (independent : h.Independent) {op : Op}
    (well : h.WellFormed op) (ran : h.step op = .ok h') : h'.Independent ↔ h.Keeps op := by
  cases op with
  | prepare clientId globalId numParams =>
    exact iff_of_true (independent_prepare sound independent ran) trivial
  | execute pkt => exact independent_execute sound independent well ran
  | close pkt => exact independent_close independent ran

theorem sound_of_run (run : Run step (fun h op => h.WellFormed op ∧ h.Keeps op) init h) :
    h.Sound ∧ h.Independent := by
  refine run.invariant (fun h => h.Sound ∧ h.Independent) ⟨sound_init, fun _ _ found => ?_⟩ ?_
  · cases found
  · rintro h op h' ⟨sound, independent⟩ ⟨well, keeps⟩ ran
    exact ⟨sound.step well ran, (independent_iff sound independent well ran).mpr keeps⟩

/-- In every run of commands that keep the types apart, an execution without types works with the
types last sent for its own id, and the next command leaves this so exactly if it keeps them apart
too. -/
theorem bound_types_iff (run : Run step (fun h op => h.WellFormed op ∧ h.Keeps op) init h) :
    (∀ pkt types, h.bound (stmtIdAt pkt) = some types → h.rebinds pkt = none →
        h.session.usedTypes pkt = types) ∧
      ∀ op h', h.WellFormed op → h.step op = .ok h' → (h'.Independent ↔ h.Keeps op) := by
  obtain ⟨sound, independent⟩ := sound_of_run run
  refine ⟨fun pkt types found none => ?_, fun op h' => independent_iff sound independent⟩
  rw [usedTypes_eq, none]
  exact independent _ types found

end

/-- `COM_STMT_EXECUTE` of a statement with one parameter. -/
def executePkt (id flag : Byte) (params : List Byte) : List Byte :=
  [0, 0, 0, 0, 0x17, id, 0, 0, 0, 0, 1, 0, 0, 0, 0, flag] ++ params

def closePkt (id : Byte) : List Byte := [5, 0, 0, 0, 0x19, id, 0, 0, 0]

/-- A statement is executed twice, once with the type `MYSQL_TYPE_LONG` and once without types. -/
theorem bound_types_twice : ∃ h, Run step (fun h op => h.WellFormed op ∧ h.Keeps op) init h ∧
      h.rebinds (executePkt 1 0 [8, 0, 0, 0]) = none ∧
      h.session.usedTypes (executePkt 1 0 [8, 0, 0, 0]) = [(.long, false)] := by
  have first : Run step (fun h op => h.WellFormed op ∧ h.Keeps op) init _ :=
    .step (i := .prepare 1 5 1) .start ⟨⟨rfl, by decide⟩, trivial⟩ rfl
  have second := first.step (i := .execute (executePkt 1 1 [3, 0, 7, 0, 0, 0])) ⟨by
    rintro stmt ⟨⟩
    decide, by
    rintro types ⟨⟩
    refine ⟨rfl, fun id _ _ other found => ?_⟩
    have unbound := congrFun (update_eq_self 1 init.bound) id
    cases unbound.symm.trans found⟩ rfl
  exact ⟨_, second, rfl, (bound_types_iff second).1 _ _ rfl rfl⟩

/-- Two ids of one statement: the types sent for the second replace those of the first, and the
close of the second takes them away. -/
theorem shared_statement_mixes_types :
    (∃ h, [.prepare 1 5 1, .prepare 2 5 1, .execute (executePkt 1 1 [3, 0, 7, 0, 0, 0]),
        .execute (executePkt 2 1 [1, 0, 7])].foldlM step init = .ok h ∧
      h.bound 1 = some [(.long, false)] ∧ h.rebinds (executePkt 1 0 [8, 0, 0, 0]) = none ∧
      h.session.usedTypes (executePkt 1 0 [8, 0, 0, 0]) = [(.tiny, false)]) ∧
    ∃ h, [.prepare 1 5 1, .prepare 2 5 1, .execute (executePkt 1 1 [3, 0, 7, 0, 0, 0]),
        .close (closePkt 2)].foldlM step init = .ok h ∧
      h.bound 1 = some [(.long, false)] ∧ h.rebinds (executePkt 1 0 [8, 0, 0, 0]) = none ∧
      h.session.usedTypes (executePkt 1 0 [8, 0, 0, 0]) = [(.decimal, false)] :=
  ⟨⟨_, rfl, rfl, rfl, rfl⟩, ⟨_, rfl, rfl, rfl, rfl⟩⟩

end History

end MockProxy.Session
