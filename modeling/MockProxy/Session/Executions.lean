import MockProxy.Session.BoundTypes

/-!
# The executions of one statement

`get_binds_from_pkt` is called with the packet of an execution and the metadata an earlier execution
of the same statement left. `bindsInside_iff` says for which packets each value it binds is in the
packet or in long data, and a packet it refuses leaves the metadata as it was: the types and lengths
in a packet are not compared with its end, and the metadata is deleted with a packet that is too
short.

`Executions` is the statement over a sequence of its executions, with the types the client sent last
next to what is kept of them. The type codes are kept over any packets and long data
(`Executions.Remembers`), the marks for unsigned values are not. `Executions.Handles` says which
packets the session gets over.
-/

namespace MockProxy.Session

open Machine DataStream StmtSession List

/-! ### Values inside the packet -/

/-- Where the value of a bind is. -/
def Bound.From (longData : Option (List Byte)) (pkt : List Byte) : Bound → Prop
  | .longData data => longData = some data
  | .null => True
  | .bytes data => data <:+: pkt
  -- the fields are copied one by one
  | .time fields =>
    ∃ parts : List (List Byte), fields = parts.flatten ∧ ∀ part ∈ parts, part <:+: pkt

/-- The packet is refused and no metadata is lost, or its values are in the packet or in long
data. -/
def BindsInside (pkt : List Byte) (longData : LongDataHandler) {numParams : Nat}
    (metadata : Option (Metadata numParams)) : Prop :=
  match getBindsFromPkt pkt longData numParams metadata with
  | .error _ => False
  | .ok .refused => True
  | .ok (.deleted kept) => kept = false
  | .ok (.bound metadata binds) =>
    ∀ (i : Nat) (bound : Bound), binds[i]? = some bound →
      bound.From (longData.get metadata.stmtId i) pkt

def Param.Supported (q : Param) : Prop := q.Skipped ∨ q.type.layout ≠ .unsupported

/-- No value of the packet has a type the walk does not support. -/
def ParamsSupported (pkt : List Byte) (longData : LongDataHandler) {numParams : Nat}
    (old : Metadata numParams) : Prop :=
  ∀ q ∈ paramsOf longData old.stmtId ((pkt.drop 14).take (nullBitmapLength numParams))
    (old.used pkt).types, q.Supported

section

variable {rest pkt : List Byte} {longData : LongDataHandler} {bound : Bound × List Byte}
  {qs : List Param}

theorem take_drop_infix (rest : List Byte) (offset n : Nat) : (rest.drop offset).take n <:+: rest :=
  ( take_prefix _ _).isInfix.trans (drop_suffix _ _).isInfix

theorem readWhen_inside {wanted : Bool} {offset n : Nat} {value : List Byte}
    (read : readWhen wanted rest offset n = .ok value) : value <:+: rest := by
  cases wanted with
  | false =>
    cases read
    exact nil_infix
  | true =>
    obtain ⟨-, rfl⟩ := readAt_eq_ok.mp read
    exact take_drop_infix rest offset n

theorem from_of_bindValue {layout : Layout} (data : Option (List Byte))
    (done : bindValue layout rest = .ok bound) : bound.1.From data rest := by
  cases layout with
  | unsupported => cases done
  | fixed width =>
    obtain ⟨value, read, done⟩ := bind_eq_ok.mp done
    obtain ⟨-, rfl⟩ := readAt_eq_ok.mp read
    cases done
    exact take_drop_infix rest 0 width
  | time =>
    obtain ⟨l, -, done⟩ := bind_eq_ok.mp done
    obtain ⟨day, readDay, done⟩ := bind_eq_ok.mp done
    obtain ⟨fraction, readFraction, rfl⟩ := return_eq_ok.mp done
    refine ⟨[day, fraction], by simp, ?_⟩
    simp [readWhen_inside readDay, readWhen_inside readFraction]
  | date =>
    obtain ⟨l, -, done⟩ := bind_eq_ok.mp done
    obtain ⟨day, readDay, done⟩ := bind_eq_ok.mp done
    obtain ⟨time, readTime, done⟩ := bind_eq_ok.mp done
    obtain ⟨fraction, readFraction, rfl⟩ := return_eq_ok.mp done
    refine ⟨[day, time, fraction], by simp, ?_⟩
    simp [readWhen_inside readDay, readWhen_inside readTime, readWhen_inside readFraction]
  | string =>
    obtain ⟨header, -, done⟩ := bind_eq_ok.mp done
    obtain ⟨value, read, done⟩ := bind_eq_ok.mp done
    obtain ⟨-, rfl⟩ := readAt_eq_ok.mp read
    cases done
    exact take_drop_infix rest _ _

theorem Bound.From.of_suffix {data : Option (List Byte)} {bound : Bound}
    (inside : bound.From data rest)
    (suffix : rest <:+ pkt) : bound.From data pkt := by
  cases bound with
  | longData data => exact inside
  | null => trivial
  | bytes data => exact List.IsInfix.trans inside suffix.isInfix
  | time fields =>
    obtain ⟨parts, joined, inside⟩ := inside
    exact ⟨parts, joined, fun part mem => (inside part mem).trans suffix.isInfix⟩

theorem from_of_bindParam {q : Param} (done : bindParam q rest = .ok bound) :
    q.Supported ∧ bound.1.From q.longData rest ∧ bound.2 <:+ rest := by
  unfold bindParam at done
  split at done
  next data long =>
    cases done
    exact ⟨.inl (.inl (by rw [long]; rfl)), long, suffix_rfl⟩
  · split_ifs at done with null
    · cases done
      exact ⟨.inl (.inr null), trivial, suffix_rfl⟩
    · obtain ⟨n, value, moved⟩ := value_of_bindValue done
      refine ⟨.inr ?_, from_of_bindValue _ done, moved ▸ drop_suffix n rest⟩
      intro unsupported
      rw [unsupported] at value
      cases value

theorem from_of_bindParams {binds : List Bound} (done : bindParams qs rest = .ok binds) :
    (∀ q ∈ qs, q.Supported) ∧ ∀ (i : Nat) (bound : Bound), binds[i]? = some bound →
      ∃ q, qs[i]? = some q ∧ bound.From q.longData rest := by
  induction qs generalizing rest binds with
  | nil =>
    cases done
    simp
  | cons q qs ih =>
    obtain ⟨bound, first, done⟩ := bind_eq_ok.mp done
    obtain ⟨bounds, later, rfl⟩ := return_eq_ok.mp done
    obtain ⟨supported, inside, suffix⟩ := from_of_bindParam first
    obtain ⟨others, behind⟩ := ih later
    refine ⟨forall_mem_cons.mpr ⟨supported, others⟩, fun i bound' found => ?_⟩
    cases i with
    | zero =>
      cases found
      exact ⟨q, rfl, inside⟩
    | succ i =>
      obtain ⟨q', there, inside'⟩ := behind i bound' found
      exact ⟨q', there, inside'.of_suffix suffix⟩

theorem neverAsserts_bindParams (supported : ∀ q ∈ qs, q.Supported) :
    NeverAsserts (bindParams qs rest) := by
  induction qs generalizing rest with
  | nil => exact failsOnly_ok _
  | cons q qs ih =>
    obtain ⟨first, others⟩ := forall_mem_cons.mp supported
    have one : NeverAsserts (bindParam q rest) := by
      by_cases skipped : q.Skipped
      · obtain ⟨bound, done⟩ := bindParam_skipped skipped rest
        rw [done]
        exact failsOnly_ok _
      · rw [bindParam_present skipped]
        exact bindValue_neverAsserts (first.resolve_left skipped) rest
    refine failsOnly_bind.mpr ⟨one, fun _ _ => failsOnly_bind.mpr ⟨ih others, fun _ _ => ?_⟩⟩
    exact failsOnly_ok _

variable {numParams : Nat} {old : Metadata numParams}

theorem from_of_bindTypes {result : BindResult numParams}
    (done : bindTypes pkt longData old = .ok result) :
    ParamsSupported pkt longData old ∧ ∃ metadata binds, result = .bound metadata binds ∧
      ∀ (i : Nat) (bound : Bound), binds[i]? = some bound →
        bound.From (longData.get metadata.stmtId i) pkt := by
  rw [bindTypes_eq] at done
  split_ifs at done
  obtain ⟨binds, walked, rfl⟩ := return_eq_ok.mp done
  obtain ⟨supported, inside⟩ := from_of_bindParams walked
  refine ⟨supported, _, _, rfl, fun i bound found => ?_⟩
  obtain ⟨q, there, inPacket⟩ := inside i bound found
  rw [paramsOf, getElem?_mapIdx] at there
  obtain ⟨type, -, rfl⟩ := Option.map_eq_some_iff.mp there
  exact inPacket.of_suffix ((drop_suffix _ _).trans (drop_suffix _ _))

theorem neverAsserts_bindTypes (supported : ParamsSupported pkt longData old) :
    NeverAsserts (bindTypes pkt longData old) := by
  rw [bindTypes_eq]
  split_ifs
  · simp
  · exact failsOnly_bind.mpr ⟨neverAsserts_bindParams supported, fun _ _ => failsOnly_ok _⟩

theorem bindTypes_returns : (∃ result, bindTypes pkt longData old = .ok result) ↔
      ParamsInside pkt longData old ∧ ParamsSupported pkt longData old := by
  constructor
  · rintro ⟨result, ran⟩
    refine ⟨staysInside_bindTypes.mp ?_, (from_of_bindTypes ran).1⟩
    rw [ran]
    exact failsOnly_ok _
  · rintro ⟨inside, supported⟩
    exact (staysInside_bindTypes.mpr inside).returns (neverAsserts_bindTypes supported)

/-- Every packet for a statement is refused without a loss, or bound to values inside it, exactly if
it ends before its fixed part while nothing is kept of the statement, or it has the types and values
it declares and none of an unsupported type. -/
theorem bindsInside_iff (pkt : List Byte) (longData : LongDataHandler) {numParams : Nat}
    (metadata : Option (Metadata numParams)) : BindsInside pkt longData metadata ↔
      pkt.length < 14 ∨ numParams = 0 ∨
        if pkt.length < 15 + nullBitmapLength numParams then metadata = none else
          ParamsInside pkt longData (metadata.getD (zeroedMetadata pkt numParams)) ∧
            ParamsSupported pkt longData (metadata.getD (zeroedMetadata pkt numParams)) := by
  unfold BindsInside getBindsFromPkt
  by_cases tiny : pkt.length < 14
  · simp [tiny]
  by_cases none : numParams = 0
  · simp [tiny, none]
  rw [if_neg tiny, if_neg none]
  simp only [tiny, none, false_or]
  split_ifs with short
  · cases metadata <;> simp
  · rw [← bindTypes_returns]
    constructor
    · intro inside
      cases ran : bindTypes pkt longData (metadata.getD (zeroedMetadata pkt numParams)) with
      | error f =>
        rw [ran] at inside
        exact inside.elim
      | ok result => exact ⟨result, rfl⟩
    · rintro ⟨result, ran⟩
      obtain ⟨-, metadata, binds, rfl, values⟩ := from_of_bindTypes ran
      rw [ran]
      exact values

end

/-- A packet without its flag for types, and one with a string of 250 bytes that has none of
them. -/
theorem execute_binds_outside : ¬ BindsInside ((History.executePkt 1 0 []).take 15) .empty
        (some ⟨1, [(.long, false)], rfl⟩ : Option (Metadata 1)) ∧
      ¬ BindsInside (History.executePkt 1 1 [0xfe, 0, 250]) .empty
        (none : Option (Metadata 1)) := by
  constructor
  · show ¬ true = false
    decide
  · exact fun inside => inside

/-! ### Types over a sequence of executions -/

/-- What a session keeps of a statement, and the types the client sent last. -/
structure Executions (numParams : Nat) where
  kept : Option (Metadata numParams)
  sent : Option (List ParamType)

/-- A packet, with the long data there is when it comes. -/
structure Execution where
  pkt : List Byte
  longData : LongDataHandler

namespace Executions

variable {numParams : Nat} {e e' : Executions numParams} {x : Execution}

def init (numParams : Nat) : Executions numParams := ⟨none, none⟩

def getBinds (e : Executions numParams) (x : Execution) :
    Except Fault (Option (Metadata numParams × List Bound)) :=
  bindsOrFree x.pkt x.longData e.kept

def step (e : Executions numParams) (x : Execution) : Except Fault (Executions numParams) := do
  match ← e.getBinds x with
  | none => return e
  | some (metadata, _) =>
    return {
      kept := some metadata
      sent := if sendsTypes x.pkt numParams then some (sentTypes x.pkt numParams) else e.sent }

/-- A packet ends before the first check of the size, or it has its fixed part, the types it
announces and the values, none of an unsupported type. -/
def Handles (e : Executions numParams) (x : Execution) : Prop :=
  x.pkt.length < 14 ∨ numParams = 0 ∨ 15 + nullBitmapLength numParams ≤ x.pkt.length ∧
    ParamsInside x.pkt x.longData (e.kept.getD (zeroedMetadata x.pkt numParams)) ∧
    ParamsSupported x.pkt x.longData (e.kept.getD (zeroedMetadata x.pkt numParams))

/-- The types that were sent last are those that are kept, up to their marks. -/
def Remembers (e : Executions numParams) : Prop :=
  ∀ sent, e.sent = some sent → ∃ metadata, e.kept = some metadata ∧
    signed metadata.types = signed sent

theorem getBinds_returns : (∃ taken, e.getBinds x = .ok taken) ↔ e.Handles x := by
  rw [getBinds, bindsOrFree_eq, Handles]
  split_ifs with tiny none short
  · simp [tiny]
  · simp [none]
  · simp [tiny, none, Nat.not_le.mpr short]
  · simp only [tiny, none, Nat.not_lt.mp short, false_or, true_and, ← bindTypes_returns]
    constructor
    · rintro ⟨taken, ran⟩
      obtain ⟨result, bound, -⟩ := bind_eq_ok.mp ran
      exact ⟨result, bound⟩
    · rintro ⟨result, bound⟩
      obtain ⟨-, metadata, binds, rfl, -⟩ := from_of_bindTypes bound
      rw [bound]
      exact ⟨_, rfl⟩

/-- A packet with its fixed part is bound with its types or with those that were kept. -/
theorem getBinds_bound {taken : Option (Metadata numParams × List Bound)}
    (whole : executeFixed numParams ≤ (payload x.pkt).length) (ran : e.getBinds x = .ok taken) :
    ∃ metadata binds, taken = some (metadata, binds) ∧ metadata.types =
      if sendsTypes x.pkt numParams then sentTypes x.pkt numParams
      else signed (e.kept.getD (zeroedMetadata x.pkt numParams)).types := by
  obtain ⟨result, bound, ran⟩ := bind_eq_ok.mp ran
  obtain ⟨metadata, binds, rfl, types⟩ := getBinds_types whole bound
  cases ran
  exact ⟨metadata, binds, rfl, types⟩

theorem whole_of_getBinds {taken : Metadata numParams × List Bound}
    (ran : e.getBinds x = .ok (some taken)) : executeFixed numParams ≤ (payload x.pkt).length := by
  rw [getBinds, bindsOrFree_eq] at ran
  rw [length_payload, executeFixed]
  split_ifs at ran ⊢ <;> first | omega | cases ran

theorem Remembers.step (remembers : e.Remembers) (ran : e.step x = .ok e') : e'.Remembers := by
  obtain ⟨taken, bound, ran⟩ := bind_eq_ok.mp ran
  cases taken with
  | none =>
    cases ran
    exact remembers
  | some taken =>
    cases ran
    obtain ⟨metadata, binds, ⟨⟩, types⟩ := getBinds_bound (whole_of_getBinds bound) bound
    intro sent last
    refine ⟨metadata, rfl, ?_⟩
    rw [types]
    split_ifs at last ⊢
    · cases last
      rfl
    · obtain ⟨old, kept, same⟩ := remembers sent last
      rw [kept, Option.getD_some, signed_signed, same]

theorem remembers_of_run (run : Run step Handles (init numParams) e) : e.Remembers := by
  refine run.invariant Remembers (fun sent none => by cases none) ?_
  intro e x e' remembers _ ran
  exact remembers.step ran

/-- After packets the session gets over, an execution that leaves the types out binds every
parameter with the type that was sent last, and as signed. It binds what was sent exactly if the
session gets over it too and no type was unsigned. -/
theorem types_rebound_iff (run : Run step Handles (init numParams) e)
    {sent : List ParamType} (last : e.sent = some sent)
    (whole : executeFixed numParams ≤ (payload x.pkt).length)
    (without : sendsTypes x.pkt numParams = false) :
    (∀ metadata binds, e.getBinds x = .ok (some (metadata, binds)) →
        metadata.types.map Prod.fst = sent.map Prod.fst) ∧
      ((∃ metadata binds, e.getBinds x = .ok (some (metadata, binds)) ∧ metadata.types = sent) ↔
        e.Handles x ∧ ∀ type ∈ sent, type.2 = false) := by
  have types {metadata binds} (ran : e.getBinds x = .ok (some (metadata, binds))) :
      metadata.types = signed sent := by
    obtain ⟨_, _, ⟨⟩, types⟩ := getBinds_bound whole ran
    obtain ⟨old, kept, same⟩ := remembers_of_run run sent last
    rw [types, without, kept]
    exact same
  have unmarked : signed sent = sent ↔ ∀ type ∈ sent, type.2 = false := by
    rw [signed]
    nth_rewrite 2 [← map_id sent]
    rw [map_inj_left]
    refine forall₂_congr fun type _ => ?_
    rw [id, Prod.ext_iff, eq_self, true_and, eq_comm]
  refine ⟨fun metadata binds ran => by rw [types ran]; exact map_map, ?_⟩
  rw [← getBinds_returns, ← unmarked]
  constructor
  · rintro ⟨metadata, binds, ran, same⟩
    exact ⟨⟨_, ran⟩, (types ran).symm.trans same⟩
  · rintro ⟨⟨taken, ran⟩, same⟩
    obtain ⟨metadata, binds, rfl, -⟩ := getBinds_bound whole ran
    exact ⟨metadata, binds, ran, (types ran).trans same⟩

/-- A parameter of the type `MYSQL_TYPE_LONG`, sent with its type and then without. -/
theorem types_rebound_long :
    ∃ e metadata binds, Run step Handles (init 1) e ∧ e.sent = some [(.long, false)] ∧
      e.getBinds ⟨History.executePkt 1 0 [8, 0, 0, 0], .empty⟩ = .ok (some (metadata, binds)) ∧
      metadata.types = [(.long, false)] := by
  have run : Run step Handles (init 1) _ :=
    .step (i := ⟨History.executePkt 1 1 [3, 0, 7, 0, 0, 0], .empty⟩) .start
      (getBinds_returns.mp ⟨_, rfl⟩) rfl
  obtain ⟨metadata, binds, ran, types⟩ :=
    (types_rebound_iff (x := ⟨History.executePkt 1 0 [8, 0, 0, 0], .empty⟩) run rfl
      (by decide) rfl).2.mpr ⟨getBinds_returns.mp ⟨_, rfl⟩, by decide⟩
  exact ⟨_, metadata, binds, run, rfl, ran, types⟩

/-- The mark of an unsigned type is lost with the next packet. A packet that ends before its fixed
part is freed twice. -/
theorem unsigned_forgotten :
    (∃ e metadata binds,
      [⟨History.executePkt 1 1 [3, 0x80, 7, 0, 0, 0], .empty⟩].foldlM step (init 1) = .ok e ∧
      e.sent = some [(.long, true)] ∧
      e.getBinds ⟨History.executePkt 1 0 [8, 0, 0, 0], .empty⟩ = .ok (some (metadata, binds)) ∧
      metadata.types = [(.long, false)]) ∧
    [⟨History.executePkt 1 1 [3, 0, 7, 0, 0, 0], .empty⟩,
      ⟨(History.executePkt 1 0 []).take 15, .empty⟩].foldlM step (init 1) = .error .doubleFree :=
  ⟨⟨_, _, _, rfl, rfl, rfl, rfl⟩, rfl⟩

end Executions

end MockProxy.Session
