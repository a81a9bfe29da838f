import MockProxy.QueryProcessor.Digests

/-!
# Texts of query digests

With `query_digests_normalize_digest_text` an entry of `digest_umap` has no text of its own: the
text is kept once in `digest_text_umap`, and `get_digest_text` asserts that it is there. The two
maps are always taken away, merged and emptied together under `digest_rwlock`, so the assertion
holds whenever a row is formatted, whatever updates, purges and reads happen in between.
-/

namespace MockProxy.QueryProcessor

open MapMerge List DigestStats

/-! ### The end of a query -/

/-- What `query_parser_update_counters` reads when a query ends. -/
structure FinishedQuery where
  -- `c < MYSQL_COM_QUERY___NONE`
  known : Bool
  -- `qp->digest` and `qp->digest_text`
  digest : Nat
  digestText : Option String
  -- digest and text of `CurrentQuery.stmt_info`
  stmtInfo : Option (Nat × Option String)
  -- the hash of user, digest, schema, hostgroup and client address
  digestTotal : Nat → Nat
  username : String
  schemaname : String
  hid : Int
  clientAddress : String
  t : Nat
  n : Nat
  rowsAffected : Nat
  rowsSent : Nat
  normalize : Bool
  maxDigestLength : Nat

/-- The call of `update_query_digest` for a digest and its text. -/
def FinishedQuery.toUpdate (q : FinishedQuery) (digest : Nat) (digestText : String) : Update where
  key := q.digestTotal digest
  digest := digest
  digestText := digestText
  username := q.username
  schemaname := q.schemaname
  hid := q.hid
  clientAddress := q.clientAddress
  t := q.t
  n := q.n
  rowsAffected := q.rowsAffected
  rowsSent := q.rowsSent
  normalize := q.normalize
  maxDigestLength := q.maxDigestLength

variable (m : Maps)

/-- `Query_Processor::query_parser_update_counters`: no digest is updated without a text. -/
def queryParserUpdateCounters (q : FinishedQuery) : Maps :=
  if q.known then
    match q.stmtInfo, q.digestText with
    | none, some text => updateQueryDigest m (q.toUpdate q.digest text)
    | some (digest, some text), _ => updateQueryDigest m (q.toUpdate digest text)
    | _, _ => m
  else m

/-! ### Rows -/

inductive DigestFault
  -- `assert(0)` in `get_digest_text`
  | assertion
  -- the call the event belongs to is not at that point
  | notThere
  deriving DecidableEq

def DigestStats.getDigestText (d : DigestStats) (textUmap : Map Nat String) :
    Except DigestFault String :=
  match d.info.digestText with
  | some text => .ok text
  | none =>
    match textUmap.lookup d.info.digest with
    | some text => .ok text
    | none => .error .assertion

/-- A row of the resultset. -/
structure DigestRow where
  info : DigestInfo
  digestText : String
  stats : Stats
  deriving DecidableEq

def DigestStats.getRow (d : DigestStats) (textUmap : Map Nat String) :
    Except DigestFault DigestRow := do
  let text ← d.getDigestText textUmap
  return ⟨d.info, text, d.stats⟩

def Maps.rows : Except DigestFault (List DigestRow) :=
  m.umap.entries.mapM fun entry => entry.2.getRow m.textUmap

/-! ### Purges and resets -/

/-- `purge_query_digests_async`: the maps are swapped with empty ones and freed without the lock. It
returns the number of entries of both. -/
def purgeQueryDigestsAsync : Maps × Nat :=
  (.empty, m.umap.entries.length + m.textUmap.entries.length)

/-- `purge_query_digests_sync`, which returns the number of digests; with `parallel` the entries are
shared out among threads while the lock is held. -/
def purgeQueryDigestsSync : Maps × Nat :=
  (.empty, m.umap.entries.length)

/-- The query processor with the calls of `get_query_digests_reset_v2` that have taken the maps and
not yet written their rows. -/
structure Service where
  processor : Processor
  resets : List Maps

inductive ServiceEvent
  -- an update, or one of the three locked sections of `get_query_digests_v2`
  | digest (e : DigestEvent)
  | finish (q : FinishedQuery)
  -- `get_query_digests_v2` writes its rows, between its first two sections
  | writeRows (i : Nat)
  -- the locked section of `get_query_digests_reset_v2`
  | swapReset
  -- its rows, after which it frees the maps
  | writeReset (i : Nat)
  -- `get_query_digests` and `get_query_digests_reset`, which hold the lock all the time
  | getQueryDigests
  | getQueryDigestsReset
  | purgeAsync
  | purgeSync

namespace Service

def start : Service := ⟨⟨.empty, []⟩, []⟩

def setMaps (s : Service) (m : Maps) : Service :=
    { s with processor := { s.processor with maps := m } }

def step (s : Service) : ServiceEvent → Except DigestFault Service
  | .digest e =>
    match s.processor.step e with
    | .ok p => .ok { s with processor := p }
    | .error () => .error .notThere
  | .finish q => .ok (s.setMaps (queryParserUpdateCounters s.processor.maps q))
  | .writeRows i =>
    match s.processor.readers[i]? with
    | some ⟨aux, false⟩ => do
      let _ ← aux.rows
      return s
    | _ => .error .notThere
  | .swapReset => .ok { s.setMaps .empty with resets := s.resets ++ [s.processor.maps] }
  | .writeReset i =>
    match s.resets[i]? with
    | some aux => do
      let _ ← aux.rows
      return { s with resets := s.resets.eraseIdx i }
    | none => .error .notThere
  | .getQueryDigests => do
    let _ ← s.processor.maps.rows
    return s
  | .getQueryDigestsReset => do
    let _ ← s.processor.maps.rows
    return s.setMaps .empty
  | .purgeAsync => .ok (s.setMaps (purgeQueryDigestsAsync s.processor.maps).1)
  | .purgeSync => .ok (s.setMaps (purgeQueryDigestsSync s.processor.maps).1)

end Service

/-! ### The invariant of a pair of maps -/

def Maps.Closed : Prop :=
  ∀ k d, m.umap.lookup k = some d → d.info.digestText = none → d.info.digest ∈ m.textUmap

theorem closed_empty : Maps.empty.Closed := by
  intro k d found
  simp [Maps.empty] at found

variable {m : Maps} {u : Update}

theorem mem_textUmap_update {digest : Nat} (present : digest ∈ m.textUmap) :
    digest ∈ (updateQueryDigest m u).textUmap := by
  simp only [updateQueryDigest]
  split
  · exact (AList.mem_insert _).mpr (.inr present)
  · exact present

theorem mem_textUmap_new (new : m.umap.lookup u.key = none) (normalized : u.normalize) :
    u.digest ∈ (updateQueryDigest m u).textUmap := by
  simp only [updateQueryDigest, new, Option.isNone_none, normalized, true_and]
  split
  · exact (AList.mem_insert _).mpr (.inl rfl)
  next present =>
    rw [Option.isNone_iff_eq_none, AList.lookup_eq_none] at present
    exact not_not.mp present

theorem Maps.Closed.update (closed : m.Closed) (u : Update) : (updateQueryDigest m u).Closed := by
  intro k d found noText
  rw [lookup_updateQueryDigest] at found
  split at found
  · cases old : m.umap.lookup u.key with
    | some d' =>
      rw [old] at found
      obtain rfl := Option.some.inj found
      exact mem_textUmap_update (closed _ d' old noText)
    | none =>
      rw [old] at found
      obtain rfl := Option.some.inj found
      have normalized : u.normalize := by
        by_contra off
        simp [updated, addTime, Update.newInfo, off] at noText
      exact mem_textUmap_new old normalized
  · exact mem_textUmap_update (closed k d found noText)

theorem Maps.Closed.finish (closed : m.Closed) (q : FinishedQuery) :
    (queryParserUpdateCounters m q).Closed := by
  unfold queryParserUpdateCounters
  split
  · split
    · exact closed.update _
    · exact closed.update _
    · exact closed
  · exact closed

theorem info_mergeUmap {later earlier : Map Nat DigestStats} {k : Nat} {d : DigestStats}
    (found : (mergeUmap later earlier).lookup k = some d) :
    ∃ d', (earlier.lookup k = some d' ∨ later.lookup k = some d') ∧ d.info = d'.info := by
  rw [mergeUmap, lookup_mergeInto] at found
  rcases both_eq_some.mp found with ⟨a, b, first, -, rfl⟩ | ⟨first, -⟩ | ⟨-, second⟩
  · exact ⟨a, .inl first, rfl⟩
  · exact ⟨d, .inl first, rfl⟩
  · exact ⟨d, .inr second, rfl⟩

/-- The merge of two pairs, in whatever order the texts are joined. -/
theorem Maps.Closed.merge {later earlier : Maps} (closedLater : later.Closed)
    (closedEarlier : earlier.Closed) {texts : Map Nat String}
    (joined : ∀ digest, digest ∈ texts ↔ digest ∈ earlier.textUmap ∨ digest ∈ later.textUmap) :
    Maps.Closed ⟨mergeUmap later.umap earlier.umap, texts⟩ := by
  intro k d found noText
  obtain ⟨d', origin, same⟩ := info_mergeUmap found
  rw [same] at noText ⊢
  refine (joined _).mpr (origin.imp ?_ ?_)
  · exact fun inEarlier => closedEarlier k d' inEarlier noText
  · exact fun inLater => closedLater k d' inLater noText

theorem Maps.Closed.rows (closed : m.Closed) : ∃ rows, m.rows = .ok rows := by
  have each : ∀ entry ∈ m.umap.entries, ∃ row, entry.2.getRow m.textUmap = .ok row := by
    intro entry member
    cases text : entry.2.info.digestText with
    | some own => exact ⟨_, by simp [getRow, getDigestText, text]; rfl⟩
    | none =>
      have present := closed entry.1 entry.2 (AList.mem_lookup_iff.mpr member) text
      obtain ⟨shared, found⟩ := Option.isSome_iff_exists.mp (AList.lookup_isSome.mpr present)
      exact ⟨_, by simp [getRow, getDigestText, text, found]; rfl⟩
  unfold Maps.rows
  generalize m.umap.entries = entries at each
  induction entries with
  | nil => exact ⟨[], rfl⟩
  | cons entry entries ih =>
    rw [forall_mem_cons] at each
    obtain ⟨row, here⟩ := each.1
    obtain ⟨rows, later⟩ := ih each.2
    exact ⟨row :: rows, by rw [mapM_cons, here, later]; rfl⟩

/-! ### Whole runs -/

namespace Service

/-- All pairs of maps are closed: the current one and those that calls in progress have taken. -/
structure Inv (s : Service) : Prop where
  maps : s.processor.maps.Closed
  readers : ∀ r ∈ s.processor.readers, r.aux.Closed
  resets : ∀ aux ∈ s.resets, aux.Closed

theorem inv_start : Inv start :=
  ⟨closed_empty, by simp [start], by simp [start]⟩

variable {s : Service}

theorem Inv.setMaps (inv : s.Inv) {m : Maps} (closed : m.Closed) : (s.setMaps m).Inv :=
  ⟨closed, inv.readers, inv.resets⟩

theorem Inv.digest (inv : s.Inv) {e : DigestEvent} {p : Processor}
    (stepped : s.processor.step e = .ok p) : Inv { s with processor := p } := by
  cases e with
  | update u =>
    cases stepped
    exact ⟨inv.maps.update u, inv.readers, inv.resets⟩
  | swapOut =>
    cases stepped
    refine ⟨closed_empty, ?_, inv.resets⟩
    rw [forall_mem_append, forall_mem_singleton]
    exact ⟨inv.readers, inv.maps⟩
  | collect i =>
    simp only [Processor.step] at stepped
    split at stepped
    next aux found =>
      cases stepped
      have closedAux : aux.Closed := inv.readers _ (mem_of_getElem? found)
      refine ⟨closed_empty, ?_, inv.resets⟩
      intro r member
      rcases mem_or_eq_of_mem_set member with old | new
      · exact inv.readers r old
      · rw [new]
        exact inv.maps.merge closedAux fun digest => AList.mem_union
    · cases stepped
  | mergeBack i =>
    simp only [Processor.step] at stepped
    split at stepped
    next aux found =>
      cases stepped
      have closedAux : aux.Closed := inv.readers _ (mem_of_getElem? found)
      refine ⟨inv.maps.merge closedAux fun digest => ?_, ?_, inv.resets⟩
      · rw [AList.mem_union, or_comm]
      · exact fun r member => inv.readers r (eraseIdx_subset member)
    · cases stepped

theorem Inv.step (inv : s.Inv) (e : ServiceEvent) :
    s.step e = .error .notThere ∨ ∃ s', s.step e = .ok s' ∧ s'.Inv := by
  cases e with
  | digest e =>
    simp only [Service.step]
    cases stepped : s.processor.step e with
    | ok p => exact .inr ⟨_, rfl, inv.digest stepped⟩
    | error _ => exact .inl rfl
  | finish q => exact .inr ⟨_, rfl, inv.setMaps (inv.maps.finish q)⟩
  | writeRows i =>
    simp only [Service.step]
    split
    next aux found =>
      obtain ⟨rows, written⟩ := (inv.readers _ (mem_of_getElem? found)).rows
      rw [written]
      exact .inr ⟨s, rfl, inv⟩
    · exact .inl rfl
  | swapReset =>
    refine .inr ⟨_, rfl, closed_empty, inv.readers, ?_⟩
    rw [forall_mem_append, forall_mem_singleton]
    exact ⟨inv.resets, inv.maps⟩
  | writeReset i =>
    simp only [Service.step]
    split
    next aux found =>
      obtain ⟨rows, written⟩ := (inv.resets _ (mem_of_getElem? found)).rows
      rw [written]
      exact .inr ⟨_, rfl, inv.maps, inv.readers,
        fun m member => inv.resets m (eraseIdx_subset member)⟩
    · exact .inl rfl
  | getQueryDigests =>
    obtain ⟨rows, written⟩ := inv.maps.rows
    simp only [Service.step, written]
    exact .inr ⟨s, rfl, inv⟩
  | getQueryDigestsReset =>
    obtain ⟨rows, written⟩ := inv.maps.rows
    simp only [Service.step, written]
    exact .inr ⟨_, rfl, inv.setMaps closed_empty⟩
  | purgeAsync | purgeSync => exact .inr ⟨_, rfl, inv.setMaps closed_empty⟩

/-- In every state that updates, purges and reads lead to, in any order, the maps a reader formats
have a text for every entry, so that no next step fails the assertion of `get_digest_text`. -/
theorem digest_texts_present {s : Service} (run : Machine.Run step (fun _ _ => True) start s) :
    (s.processor.maps.Closed ∧ (∀ r ∈ s.processor.readers, r.aux.Closed) ∧
      ∀ aux ∈ s.resets, aux.Closed) ∧ ∀ e, s.step e ≠ .error .assertion := by
  have inv : s.Inv := by
    refine run.invariant Inv inv_start ?_
    intro s e s' inv _ stepped
    rcases inv.step e with notThere | ⟨next, here, nextInv⟩
    · rw [notThere] at stepped
      cases stepped
    · rw [here] at stepped
      cases stepped
      exact nextInv
  refine ⟨⟨inv.maps, inv.readers, inv.resets⟩, ?_⟩
  intro e
  rcases inv.step e with notThere | ⟨next, here, -⟩
  · simp [notThere]
  · simp [here]

/-- A query with a normalized digest text. -/
def normalizedQuery (digest : Nat) : FinishedQuery where
  known := true
  digest := digest
  digestText := some "SELECT ?"
  stmtInfo := none
  digestTotal := id
  username := "user"
  schemaname := "db"
  hid := 0
  clientAddress := ""
  t := 5
  n := 10
  rowsAffected := 0
  rowsSent := 1
  normalize := true
  maxDigestLength := 2048

/-- A read that formats its rows while the maps are purged and filled again. -/
theorem digest_texts_present_read : ∃ s : Service,
    Machine.Run step (fun _ _ => True) start s ∧ s.processor.readers.length = 1 ∧
    s.step (.writeRows 0) ≠ .error .assertion := by
  have ran : [ServiceEvent.finish (normalizedQuery 7), .digest .swapOut, .purgeAsync,
      .finish (normalizedQuery 8)].foldlM step start = .ok _ := rfl
  exact ⟨_, Machine.run_of_foldlM ran, rfl, (digest_texts_present (Machine.run_of_foldlM ran)).2 _⟩

end Service

end MockProxy.QueryProcessor
