import MockProxy.PreparedStatement.Local

/-!
# The statement ids of a client

What a client has seen of its statements, the ids it got and the ids it closed, says which of them
are open. The table has to agree with this after any calls, whatever the other connections do to the
manager in the meantime: then an id is never given out while it is open, and an id that was given
back is given out once before it is given back again (`client_ids_distinct`).

Two maps, a stack of ids that were given back and a counter change together; what holds between them
is `Linked`.
-/

namespace MockProxy.PreparedStatement.LocalStmts

open SortedMap

/-! ### The maps and the stack -/

/-- The two maps hold the same pairs, and the ids outside of them can be given out. -/
structure Linked (t : LocalStmts) : Prop where
  fresh : t.Fresh
  pairs : ∀ c g, t.clientStmtToGlobalIds.find? c = some g ↔ (g, c) ∈ t.globalStmtToClientIds
  nodup : t.globalStmtToClientIds.Nodup

theorem linked_new (isClient : Bool) : (new isClient).Linked :=
  ⟨fresh_new isClient, by simp [new], List.nodup_nil⟩

variable {t t' : LocalStmts} {m m' : Manager} {clock : Clock} {id clientId globalId : Nat}

theorem Linked.link (globalId : Nat) (linked : t.Linked) :
    (t.takeClientId.2.link t.takeClientId.1 globalId).Linked := by
  obtain ⟨id, free, max, take, unused, positive, pool⟩ := takeClientId_spec linked.fresh
  rw [take]
  refine ⟨⟨pool globalId, linked.fresh.noBackend⟩, fun c g => ?_, ?_⟩
  · rw [LocalStmts.link, find?_insert_eq_some unused, linked.pairs, List.mem_cons, Prod.mk.injEq,
      and_comm]
  · refine List.nodup_cons.mpr ⟨fun member => ?_, linked.nodup⟩
    rw [(linked.pairs id globalId).mpr member] at unused
    cases unused

theorem generateNewClientStmtId_eq_ok
    (done : t.generateNewClientStmtId clock globalId m = .ok (id, t', m')) :
    id = t.takeClientId.1 ∧ t' = t.takeClientId.2.link id globalId := by
  rw [generateNewClientStmtId] at done
  dsimp only at done
  split at done
  · cases done
  · obtain ⟨m₁, -, ⟨⟩⟩ := Machine.return_eq_ok.mp done
    exact ⟨rfl, rfl⟩

/-- The id that a client gets is new, and the table knows its statement. -/
structure Gives (t : LocalStmts) (id globalId : Nat) (t' : LocalStmts) : Prop where
  linked : t'.Linked
  positive : 0 < id
  unused : t.clientStmtToGlobalIds.find? id = none
  within : id ≤ t.localMaxStmtId + 1 ∧ t'.localMaxStmtId ≤ t.localMaxStmtId + 1
  finds : ∀ c, t'.clientStmtToGlobalIds.find? c =
    if c = id then some globalId else t.clientStmtToGlobalIds.find? c

theorem Linked.generateNewClientStmtId (linked : t.Linked)
    (done : t.generateNewClientStmtId clock globalId m = .ok (id, t', m')) :
    t.Gives id globalId t' := by
  obtain ⟨rfl, rfl⟩ := generateNewClientStmtId_eq_ok done
  have still := linked.link globalId
  obtain ⟨id, free, max, take, unused, positive, -⟩ := takeClientId_spec linked.fresh
  refine ⟨still, ?_, ?_, ?_, ?_⟩
  · rwa [take]
  · rwa [take]
  · unfold takeClientId
    split
    next id rest stack =>
      have bounds := linked.fresh.pool.freeBounds id (stack ▸ List.mem_cons_self)
      exact ⟨bounds.2.le, Nat.le_succ _⟩
    next => exact ⟨le_rfl, le_rfl⟩
  · rw [take]
    exact find?_insert globalId unused

/-- The id that a client has closed is unknown to the table. -/
structure Takes (t : LocalStmts) (clientId : Nat) (t' : LocalStmts) : Prop where
  linked : t'.Linked
  within : t'.localMaxStmtId = t.localMaxStmtId
  finds : ∀ c, t'.clientStmtToGlobalIds.find? c =
    if c = clientId then none else t.clientStmtToGlobalIds.find? c

theorem Linked.clientClose (linked : t.Linked)
    (done : t.clientClose clock clientId m = .ok (t', m')) : t.Takes clientId t' := by
  rw [LocalStmts.clientClose] at done
  cases found : t.clientStmtToGlobalIds.find? clientId with
  | none =>
    rw [found] at done
    cases done
    refine ⟨linked, rfl, fun c => ?_⟩
    split_ifs with same
    · rw [same, found]
    · rfl
  | some globalId =>
    rw [found] at done
    obtain ⟨m₁, -, done⟩ := Machine.bind_eq_ok.mp done
    have both := (linked.pairs clientId globalId).mp found
    rw [if_pos both] at done
    cases done
    refine ⟨⟨⟨linked.fresh.pool.release found, linked.fresh.noBackend⟩, fun c g => ?_, ?_⟩, rfl, ?_⟩
    · rw [find?_erase_eq_some, linked.nodup.mem_erase_iff, ← linked.pairs]
      simp only [ne_eq, Prod.mk.injEq]
      refine and_congr_left fun open' => not_congr ⟨fun same => ⟨?_, same⟩, And.right⟩
      rw [same, found] at open'
      exact (Option.some.inj open').symm
    · exact linked.nodup.erase _
    · exact find?_erase _ _

/-! ### What the client sees -/

inductive Seen where
  -- the client got the id for a statement
  | prepared (id globalId : Nat)
  -- it closed an id, whether there was such a statement or not
  | closed (id : Nat)
  deriving DecidableEq

def Seen.isPrepared : Seen → Bool
  | .prepared _ _ => true
  | .closed _ => false

/-- The statement that an id stands for; what was seen last comes first. -/
def opened : List Seen → Nat → Option Nat
  | [], _ => none
  | .prepared id globalId :: before, c => if c = id then some globalId else opened before c
  | .closed id :: before, c => if c = id then none else opened before c

/-- The calls of one client. Other connections may have changed the manager before each of them. -/
inductive History (isClient : Bool) : List Seen → LocalStmts → Prop
  | start : History isClient [] (new isClient)
  | prepared {seen : List Seen} {t t' : LocalStmts} {m m' : Manager} {clock : Clock}
      {id globalId : Nat} (before : History isClient seen t)
      (done : t.generateNewClientStmtId clock globalId m = .ok (id, t', m')) :
      History isClient (.prepared id globalId :: seen) t'
  | closed {seen : List Seen} {t t' : LocalStmts} {m m' : Manager} {clock : Clock} {id : Nat}
      (before : History isClient seen t) (done : t.clientClose clock id m = .ok (t', m')) :
      History isClient (.closed id :: seen) t'

variable {isClient : Bool} {seen : List Seen}

/-- The table knows what the client has seen, and the counter has not gone beyond the number of
statements it has prepared. -/
structure Agrees (seen : List Seen) (t : LocalStmts) : Prop where
  linked : t.Linked
  finds : ∀ c, t.clientStmtToGlobalIds.find? c = opened seen c
  within : t.localMaxStmtId ≤ seen.countP Seen.isPrepared

theorem History.agrees (history : History isClient seen t) : Agrees seen t := by
  induction history with
  | start => exact ⟨linked_new isClient, fun _ => rfl, le_rfl⟩
  | prepared before done ih =>
    have gives := ih.linked.generateNewClientStmtId done
    refine ⟨gives.linked, fun c => ?_, ?_⟩
    · rw [gives.finds, ih.finds]
      rfl
    · rw [List.countP_cons_of_pos rfl]
      exact gives.within.2.trans (Nat.succ_le_succ ih.within)
  | closed before done ih =>
    have takes := ih.linked.clientClose done
    refine ⟨takes.linked, fun c => ?_, ?_⟩
    · rw [takes.finds, ih.finds]
      rfl
    · rw [List.countP_cons_of_neg Bool.false_ne_true, takes.within]
      exact ih.within

theorem History.of_append {later : List Seen} (history : History isClient (later ++ seen) t) :
    ∃ t, History isClient seen t := by
  induction later generalizing t with
  | nil => exact ⟨t, history⟩
  | cons last later ih =>
    cases history with
    | prepared before done => exact ih before
    | closed before done => exact ih before

/-- An id that was given out stays open until it is closed. -/
theorem opened_of_not_closed {between earlier : List Seen} (kept : .closed id ∉ between) :
    opened (between ++ .prepared id globalId :: earlier) id ≠ none := by
  induction between with
  | nil => simp [opened]
  | cons last between ih =>
    obtain ⟨other, still⟩ := not_or.mp (mt List.mem_cons.mpr kept)
    cases last with
    | prepared other g =>
      rw [List.cons_append, opened]
      split_ifs
      · exact Option.some_ne_none g
      · exact ih still
    | closed closedId =>
      have differ : id ≠ closedId := fun same => other (same ▸ rfl)
      rw [List.cons_append, opened, if_neg differ]
      exact ih still

/-- After any calls of a client, the map of the open ids and the multimap hold what the client has
seen. A further id is not 0 and not open, and there is one if the manager can be told of it. Between
two times that an id is given out it was closed. The ids do not go beyond the number of statements
prepared. -/
theorem client_ids_distinct (history : History isClient seen t) :
    (∀ c g, t.clientStmtToGlobalIds.find? c = some g ↔ opened seen c = some g) ∧
      (∀ c g, (g, c) ∈ t.globalStmtToClientIds ↔ opened seen c = some g) ∧
      t.globalStmtToClientIds.Nodup ∧
      (∀ clock globalId m id t' m', t.generateNewClientStmtId clock globalId m = .ok (id, t', m') →
        id ≠ 0 ∧ opened seen id = none ∧ id ≤ seen.countP Seen.isPrepared + 1) ∧
      (∀ (clock : Clock) globalId (m : Manager),
        (∀ time, ∃ m', m.refCountClient clock.maxStmtsCache time globalId 1 = .ok m') →
          ∃ id t' m', t.generateNewClientStmtId clock globalId m = .ok (id, t', m')) ∧
      ∀ later id globalId between globalId' earlier,
        seen = later ++ .prepared id globalId :: (between ++ .prepared id globalId' :: earlier) →
          .closed id ∈ between := by
  obtain ⟨linked, finds, within⟩ := history.agrees
  refine ⟨fun c g => by rw [finds], fun c g => by rw [← linked.pairs, finds],
    linked.nodup, ?_, ?_, ?_⟩
  · intro clock globalId m id t' m' done
    have gives := linked.generateNewClientStmtId done
    exact ⟨gives.positive.ne', finds id ▸ gives.unused,
      gives.within.1.trans (Nat.succ_le_succ within)⟩
  · intro clock globalId m told
    obtain ⟨id, free, max, take, -, positive, -⟩ := takeClientId_spec linked.fresh
    obtain ⟨m', counted⟩ := told (clock.time id)
    refine ⟨id, t.takeClientId.2.link id globalId, m', ?_⟩
    rw [LocalStmts.generateNewClientStmtId, take]
    dsimp only
    rw [if_neg positive.ne', counted]
    rfl
  · rintro later id globalId between globalId' earlier rfl
    by_contra kept
    obtain ⟨t', until'⟩ := history.of_append
    -- the id was open when it was given out for the second time
    cases until' with
    | prepared before done =>
      have agrees := before.agrees
      have unused := (agrees.linked.generateNewClientStmtId done).unused
      rw [agrees.finds] at unused
      exact opened_of_not_closed kept unused

def steady : Clock := ⟨1000, fun _ => 0⟩

/-- The first id is closed, closed again and given out once more. -/
theorem client_ids_distinct_reused :
    ∃ t, History true
        [.prepared 1 7, .closed 1, .closed 1, .prepared 2 6, .prepared 1 5] t ∧
      t.clientStmtToGlobalIds.find? 1 = some 7 ∧ (6, 2) ∈ t.globalStmtToClientIds := by
  have first : History true [.prepared 1 5] _ := .prepared .start
    (show (new true).generateNewClientStmtId steady 5 (.init 0) = .ok (1, _, _) from rfl)
  have second : History true [.prepared 2 6, _] _ := .prepared first
    (show LocalStmts.generateNewClientStmtId _ steady 6 (.init 0) = .ok (2, _, _) from rfl)
  have closed : History true [.closed 1, _, _] _ := .closed second
    (show LocalStmts.clientClose _ steady 1 (.init 0) = .ok (_, _) from rfl)
  have again : History true [.closed 1, _, _, _] _ := .closed closed
    (show LocalStmts.clientClose _ steady 1 (.init 0) = .ok (_, _) from rfl)
  have reused : History true [.prepared 1 7, _, _, _, _] _ := .prepared again
    (show LocalStmts.generateNewClientStmtId _ steady 7 (.init 0) = .ok (1, _, _) from rfl)
  obtain ⟨finds, pairs, -⟩ := client_ids_distinct reused
  exact ⟨_, reused, (finds 1 7).mpr (by decide), (pairs 2 6).mpr (by decide)⟩

end MockProxy.PreparedStatement.LocalStmts
