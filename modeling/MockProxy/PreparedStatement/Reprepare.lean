import MockProxy.PreparedStatement.Sessions

/-!
# Statements that are not prepared on a connection yet

An execution on a backend connection without the statement asks the backend to prepare it, enters it
into the table of the connection and looks it up again. The lookup uses the id that the client's
statement has since it was prepared; the entry is made for the hash of the user and schema the
client has now. `reprepare_registers_iff` says when the two agree, from every state a proxy can
reach.
-/

namespace MockProxy.PreparedStatement

open Machine

namespace Proxy

variable {hash : String → String → String → UInt64} {p : Proxy} {lost : Nat → Int}
    {c globalId : Nat}
  {client : Client}

theorem counted_of_run {time : Int} {ok : Proxy → Op → Prop}
    (run : Run (step hash) ok (init time) p) : ∃ lost, p.Counted hash lost := by
  refine (run.goes_on (fun p => ∃ lost, p.Counted hash lost) ⟨0, counted_init hash time⟩ ?_).1
  rintro p op ⟨lost, inv⟩ -
  obtain ⟨p', stepped, counted⟩ := inv.step op
  exact ⟨p', stepped, _, counted⟩

theorem Counted.statement_of_link (inv : p.Counted hash lost)
    (found : p.clients.find? c = some client) {clientId : Nat}
    (link : client.localStmts.clientStmtToGlobalIds.find? clientId = some globalId) :
    ∃ info, p.manager.statement globalId = some info := by
  have referred : 0 < p.manager.clientCount globalId :=
    lt_of_lt_of_le one_pos ((LocalStmts.one_le_refs link).trans (inv.refs_le found globalId))
  obtain ⟨info, there, -⟩ := Manager.statement_of_countOf referred
  exact ⟨info, there⟩

/-- The entry is found under an id exactly if it was made for this id, which has 32 bits. -/
theorem backendInsert_found_iff {t : LocalStmts}
    (missing : t.findBackendStmtByGlobalId globalId = none) (newId stmt : Nat) :
    t.backendInsert newId stmt = t.backendInsert globalId stmt ∧
        (t.backendInsert newId stmt).findBackendStmtByGlobalId globalId = some stmt ↔
      newId = globalId ∧ globalId < 2 ^ 32 := by
  -- what is new in the table has the id that was entered
  have only : ∀ id k, t.globalStmtToBackendStmt.find? k = none →
      (t.backendInsert id stmt).globalStmtToBackendStmt.find? k = some stmt → k = id := by
    intro id k absent found
    by_contra other
    rw [LocalStmts.backendInsert] at found
    cases there : t.globalStmtToBackendStmt.find? id with
    | some old =>
      rw [SortedMap.insert_of_find there, absent] at found
      cases found
    | none =>
      rw [SortedMap.find?_insert stmt there, if_neg other, absent] at found
      cases found
  unfold LocalStmts.findBackendStmtByGlobalId at missing ⊢
  constructor
  · rintro ⟨same, lookup⟩
    have fits := only globalId _ missing (same ▸ lookup)
    rw [fits] at missing lookup
    exact ⟨(only newId globalId missing lookup).symm, by omega⟩
  · rintro ⟨rfl, fits⟩
    rw [Nat.mod_eq_of_lt fits] at missing ⊢
    exact ⟨rfl, (SortedMap.find?_insert stmt missing newId).trans (if_pos rfl)⟩

/-- In every reachable state: an execution that finds the statement missing on the connection enters
it under the id that is executed and then finds it there, so that it is prepared only once, exactly
if its text has the same hash under the user and schema of the client as under those it was prepared
with, and the id fits into 32 bits. -/
theorem reprepare_registers_iff {computeHash : String → String → String → UInt64}
    {time : Int} {p : Proxy}
    (run : Run (step computeHash) (fun _ _ => True) (init time) p) {c b clientId globalId : Nat}
    {client : Client} {t : LocalStmts} (found : p.clients.find? c = some client)
    (link : client.localStmts.clientStmtToGlobalIds.find? clientId = some globalId)
    (backend : p.backends.find? b = some t)
    (missing : t.findBackendStmtByGlobalId globalId = none) (stmt : Nat) (clock : Clock) :
    ∃ info p' t', p.manager.statement globalId = some info ∧
      p.handlerStmtExecute computeHash c b client clientId stmt clock = .ok p' ∧
      p'.backends.find? b = some t' ∧
      (t' = t.backendInsert globalId stmt ∧ t'.findBackendStmtByGlobalId globalId = some stmt ∧
          (∀ stmt', p'.processingStmtExecute computeHash c b client globalId stmt' clock = .ok p') ↔
        computeHash client.username client.schemaname info.query =
          computeHash info.username info.schemaname info.query ∧ globalId < 2 ^ 32) := by
  obtain ⟨lost, inv⟩ := counted_of_run run
  obtain ⟨info, there⟩ := inv.statement_of_link found link
  obtain ⟨a, object, own⟩ := inv.kept.statement_iff.mp there
  have byId := (inv.kept.byId globalId a).mpr ⟨info, object, own⟩
  have known : globalId ≠ 0 := Nat.ne_of_gt (inv.kept.pool.usedBounds globalId a byId).1
  obtain ⟨a', m, new, added, kept, object', same, -⟩ := inv.kept.addPreparedStatement_counts
    client.username client.schemaname info.query
  have ran : p.handlerStmtExecute computeHash c b client clientId stmt clock =
      .ok { p with
        manager := m
        backends := p.backends.modify b (·.backendInsert new.statementId stmt) } := by
    unfold handlerStmtExecute LocalStmts.findGlobalStmtIdFromClient
    rw [link]
    dsimp only [Option.getD_some]
    rw [if_neg known]
    rw [processingStmtExecute, backend]
    dsimp only
    rw [missing, Manager.findPreparedStatementByStmtId, byId]
    dsimp only [Option.isSome_none]
    rw [Manager.deref_of_find object]
    dsimp only [ok_bind]
    rw [handlerRc0ProcessingStmtPrepare, added]
    dsimp only [ok_bind]
    rw [Manager.deref_of_find object']
    rfl
  have table : (p.backends.modify b (·.backendInsert new.statementId stmt)).find? b =
      some (t.backendInsert new.statementId stmt) := by
    rw [SortedMap.find?_modify, if_pos rfl, backend]
    rfl
  refine ⟨info, _, _, there, ran, table, ?_⟩
  have again : (t.backendInsert new.statementId stmt).findBackendStmtByGlobalId
    globalId = some stmt →
      ∀ stmt', processingStmtExecute computeHash { p with
        manager := m
        backends := p.backends.modify b (·.backendInsert new.statementId stmt) }
          c b client globalId stmt' clock =
        .ok { p with
          manager := m
          backends := p.backends.modify b (·.backendInsert new.statementId stmt) } := by
    intro lookup stmt'
    rw [processingStmtExecute]
    rw [table]
    dsimp only
    rw [lookup]
    rfl
  have ids := same globalId info there
  rw [inv.kept.hashed a info object] at ids
  rw [eq_comm (a := computeHash client.username client.schemaname info.query), ← ids,
    ← backendInsert_found_iff missing new.statementId stmt]
  constructor
  · rintro ⟨entry, lookup, -⟩
    exact ⟨entry, lookup⟩
  · rintro ⟨entry, lookup⟩
    exact ⟨entry, lookup, again lookup⟩

def schemaHash (_ schemaname _ : String) : UInt64 := if schemaname = "shop" then 1 else 2

/-- The client 7 prepared its statement 1 on the backend connection 9; the connection 10 is new. -/
def preparedOps : List Op :=
  [.connect 7 "app" "shop", .connectBackend 9, .prepared 7 9 "SELECT 1" 1 sampleClock,
    .connectBackend 10]

theorem reprepare_same_schema :
    ∃ p p' t' client, preparedOps.foldlM (step schemaHash) (init 0) = .ok p ∧
      p.handlerStmtExecute schemaHash 7 10 client 1 3 sampleClock = .ok p' ∧
      p'.backends.find? 10 = some t' ∧ t'.findBackendStmtByGlobalId 1 = some 3 := by
  obtain ⟨p, ran, client, found, link, schema, t, backend, missing, prepared⟩ :
      ∃ p, preparedOps.foldlM (step schemaHash) (init 0) = .ok p ∧
        ∃ client, p.clients.find? 7 = some client ∧
          client.localStmts.clientStmtToGlobalIds.find? 1 = some 1 ∧ client.schemaname = "shop" ∧
        ∃ t, p.backends.find? 10 = some t ∧ t.findBackendStmtByGlobalId 1 = none ∧
          (p.manager.statement 1).map GlobalInfo.schemaname = some "shop" :=
    ⟨_, rfl, _, rfl, rfl, rfl, _, rfl, rfl, rfl⟩
  obtain ⟨info, p', t', there, ran', table, registers⟩ :=
    reprepare_registers_iff (run_of_foldlM ran) found link backend missing 3 sampleClock
  rw [there] at prepared
  have schema' : info.schemaname = "shop" := Option.some.inj prepared
  have same : schemaHash client.username client.schemaname info.query =
      schemaHash info.username info.schemaname info.query := by
    rw [schemaHash, schemaHash, schema, schema']
  exact ⟨p, p', t', client, ran, ran', table, (registers.mpr ⟨same, by decide⟩).2.1⟩

/-- The client has changed its schema: the statement is entered under another id, and every further
round of the execution asks the backend again. -/
theorem reprepare_other_schema : ∃ (p : Proxy) (client : Client) (p₁ p₂ : Proxy),
      (preparedOps ++ [Op.initDb 7 "other"]).foldlM (step schemaHash) (init 0) = .ok p ∧
      p.clients.find? 7 = some client ∧
      p.handlerStmtExecute schemaHash 7 10 client 1 3 sampleClock = .ok p₁ ∧
      (p₁.backends.find? 10).map (·.globalStmtToBackendStmt.entries) = some [(2, 3)] ∧
      (p₁.backends.find? 10).map (·.findBackendStmtByGlobalId 1) = some none ∧
      p₁.processingStmtExecute schemaHash 7 10 client 1 4 sampleClock = .ok p₂ ∧
      (p₂.backends.find? 10).map (·.findBackendStmtByGlobalId 1) = some none ∧
      (p₂.manager.statement 2).map GlobalInfo.refCountServer = some 2 :=
  ⟨_, _, _, _, rfl, rfl, rfl, rfl, rfl, rfl, rfl, rfl⟩

end Proxy

end MockProxy.PreparedStatement
