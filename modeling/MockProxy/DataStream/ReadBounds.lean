import MockProxy.DataStream.Connection

/-!
# How much `read_from_net` asks for

Every `recv` and every `SSL_read` of a call is given a place behind `head` and a number of bytes.
All of them ask for the free space of the queue, except the two reads of the very first packet: 4
bytes, which always fit (`AtRead`), and then the length the header announces, which is not compared
with the free space.

## Main result

`asksWithinQueue_iff`: in every state a connection reaches, in any mode and after any reads, a call
stays within the queue exactly when the first packet it announces does.
-/

namespace MockProxy.DataStream

open Machine

namespace DataStreamIn

def Untouched (ds : DataStreamIn) : Prop := ds.pktsRecv = 0 ∧ ds.partialLen = 0

/-- The loop invariant of `read_pkts`: before the first header nothing was taken from the queue. -/
structure Opening (ds : DataStreamIn) : Prop where
  size : ds.queueIN.size = QUEUE_T_DEFAULT_SIZE
  idle : ds.Untouched → ds.pkt.size = 0 ∧ ds.queueIN.tail = 0

/-- What a call of `read_from_net` finds. -/
structure AtRead (ds : DataStreamIn) : Prop extends Opening ds where
  short : ds.Untouched → ds.healthy = true → ds.queueIN.head < 7

variable {ds ds' : DataStreamIn} {z : Zlib}

section

variable (opening : Opening ds)

include opening

/-- A header step that takes a header fills the packet with it. -/
theorem start_untouched {started : Nat × DataStreamIn} {n : Nat} (small : n ≤ 7)
    (filled : started.2.partialLen ≠ 0)
    (still : (if ds.pkt.size = 0 ∧ n ≤ ds.queueIN.data then started else (0, ds)).2.Untouched) :
    (if ds.pkt.size = 0 ∧ n ≤ ds.queueIN.data then started else (0, ds)).2 = ds ∧
      ds.Untouched ∧ ds.queueIN.data < 7 := by
  split at still
  next => exact absurd still.2 filled
  next not =>
    have idle := opening.idle still
    rw [if_neg not]
    exact ⟨rfl, still, by omega⟩

theorem collectAndDeliver_opening {step : Nat × DataStreamIn} {r : Nat}
    (taken : Takes ds step.1 step.2)
    (start : step.2.Untouched → step.2 = ds ∧ ds.Untouched ∧ ds.queueIN.data < 7)
    (done : collectAndDeliver z step = .ok (r, ds')) : AtRead ds' := by
  have took := collectAndDeliver_takes taken done
  have size : ds'.queueIN.size = QUEUE_T_DEFAULT_SIZE := took.size.trans opening.size
  suffices key : ds'.Untouched →
      ds'.pkt.size = 0 ∧ ds'.queueIN.tail = 0 ∧ ds'.queueIN.head < 7 from
    ⟨⟨size, fun still => ⟨(key still).1, (key still).2.1⟩⟩, fun still _ => (key still).2.2⟩
  intro still
  obtain ⟨mid, delivered, returned⟩ := bind_eq_ok.mp done
  obtain ⟨rfl, rfl⟩ := Prod.mk.inj (Except.ok.inj returned)
  have same := deliver_eq_ok delivered
  have count : step.2.collect.2.pktsRecv = step.2.pktsRecv := by
    unfold collect
    split <;> rfl
  have filled : step.2.partialLen ≤ step.2.collect.2.partialLen := by
    unfold collect
    split
    · exact Nat.le_add_right _ _
    · exact le_rfl
  have before : step.2.Untouched := by
    have := same.pktsRecv
    have := same.partialLen
    have := still.1
    have := still.2
    exact ⟨by omega, by omega⟩
  obtain ⟨unchanged, untouched, short⟩ := start before
  have idle := opening.idle untouched
  -- without a packet there is nothing to collect and nothing to deliver
  have nothing : step.2.collect.2 = ds := by
    rw [unchanged, collect, if_neg (by omega)]
  rw [nothing] at same
  have head := LinearQueue.head_eq ds.queueIN
  have noPkt : mid.pkt.size = 0 := by
    rcases same.size with size | more
    · omega
    · have := still.1
      omega
  rw [same.queue]
  exact ⟨noPkt, idle.2, by omega⟩

/-- After every call the stream is ready for the next read. -/
theorem buffer2array_opening {r : Nat} (done : ds.buffer2array z = .ok (r, ds')) :
    AtRead ds' := by
  unfold buffer2array at done
  split at done
  next empty =>
    cases done
    refine ⟨opening, fun still _ => ?_⟩
    have head := LinearQueue.head_eq ds.queueIN
    have idle := opening.idle still
    omega
  next =>
    generalize front : ds.compactQueue = ds₀ at done
    have opening₀ : Opening ds₀ := by
      subst front
      unfold compactQueue
      split
      · exact ⟨opening.size, fun still => ⟨(opening.idle still).1, rfl⟩⟩
      · exact opening
    simp only at done
    split at done
    · -- fast forward counts a packet
      obtain ⟨blocks, _, ⟨⟩⟩ := return_eq_ok.mp done
      have counted : (if ds₀.pktsRecv = 0 then 1 else ds₀.pktsRecv) ≠ 0 := by
        split <;> omega
      exact ⟨⟨(LinearQueue.size_read _ _).trans opening₀.size, fun still => absurd still.1 counted⟩,
        fun still => absurd still.1 counted⟩
    · split at done
      · exact collectAndDeliver_opening opening₀ ds₀.startFrame_takes
          (start_untouched opening₀ (by decide) (Nat.succ_ne_zero _)) done
      · split at done
        next proxy =>
          have size := (skipProxyHeader_takes proxy.2.2).size.trans opening₀.size
          rw [Except.ok.inj done] at size
          have skipped : ds'.Untouched → ds'.pkt.size = 0 ∧ ds'.queueIN.tail = 0 ∧
              ds'.healthy = false := by
            unfold skipProxyHeader at done
            split at done
            · cases done
              exact fun still => absurd still.1 (Nat.succ_ne_zero _)
            · cases done
              exact fun still => ⟨(opening₀.idle still).1, (opening₀.idle still).2, rfl⟩
          refine ⟨⟨size, fun still => ⟨(skipped still).1, (skipped still).2.1⟩⟩,
            fun still well => ?_⟩
          exact absurd well (by simp [(skipped still).2.2])
        next =>
          exact collectAndDeliver_opening opening₀ ds₀.startPacket_takes
            (start_untouched opening₀ (by decide) (Nat.succ_ne_zero _)) done

theorem readPkts_atRead {rc : Nat} (ran : ds.readPkts z = .ok (rc, ds')) : AtRead ds' :=
  readPkts_post (fun _ _ _ held called => (buffer2array_opening held called).toOpening)
    (fun _ _ held called => buffer2array_opening held called) opening ran

end

/-! ### What a call asks for -/

def ReadsFirstPacket (ds : DataStreamIn) (io : NetInput) : Prop :=
  io.pollin = true ∧ ds.encrypted = false ∧ ds.Untouched ∧ io.first.ret hdrSize = 4

def FirstPacketFits (ds : DataStreamIn) (io : NetInput) : Prop :=
  ds.ReadsFirstPacket io →
    hdrSize + pktLength (ds.firstHdr (io.first.stored hdrSize)) ≤ ds.queueIN.available

def AsksWithinQueue (ds : DataStreamIn) (io : NetInput) : Prop :=
  ∀ store ∈ (ds.readFromNet io).asked, store.offset + store.length ≤ ds.queueIN.available

/-- A call that is not the two-step read of the first packet asks for nothing, for the free space
of the queue, or for the four bytes of the first header. -/
theorem asked_eq (ds : DataStreamIn) (io : NetInput) : (ds.readFromNet io).asked = [] ∨
    (ds.readFromNet io).asked = [⟨0, ds.queueIN.available⟩] ∨
    (ds.Untouched ∧ (ds.readFromNet io).asked = [⟨0, hdrSize⟩]) ∨
    (ds.ReadsFirstPacket io ∧ (ds.readFromNet io).asked =
      [⟨0, hdrSize⟩, ⟨hdrSize, pktLength (ds.firstHdr (io.first.stored hdrSize))⟩]) := by
  unfold readFromNet
  split
  · exact .inl rfl
  · split
    · exact .inl rfl
    next hup pollin =>
      split
      · simp only [readEncrypted]
        split
        · exact .inl rfl
        · split
          · split
            · exact .inl rfl
            · split
              · exact .inl rfl
              · exact .inr (.inl rfl)
          · split <;> exact .inl rfl
      next plain =>
        simp only [readPlain]
        split
        next untouched =>
          split
          next four => exact .inr (.inr (.inr ⟨⟨not_not.mp pollin, by simpa using plain, untouched,
            four⟩, rfl⟩))
          next => exact .inr (.inr (.inl ⟨untouched, rfl⟩))
        next => exact .inr (.inl rfl)

/-- In a state that `read_from_net` can find, the first packet is the only danger. -/
theorem AtRead.asks_iff (atRead : AtRead ds) (well : ds.healthy) (io : NetInput) :
    ds.AsksWithinQueue io ↔ ds.FirstPacketFits io := by
  have room : ds.Untouched → hdrSize ≤ ds.queueIN.available := by
    intro untouched
    have := atRead.short untouched well
    have size := atRead.size
    simp only [LinearQueue.available, size, hdrSize, QUEUE_T_DEFAULT_SIZE]
    omega
  have first : ds.ReadsFirstPacket io → (ds.readFromNet io).asked =
      [⟨0, hdrSize⟩, ⟨hdrSize, pktLength (ds.firstHdr (io.first.stored hdrSize))⟩] := by
    rintro ⟨pollin, plain, untouched, four⟩
    simp [readFromNet, pollin, plain, readPlain, untouched.1, untouched.2, four]
  constructor
  · intro asks reads
    have := asks ⟨hdrSize, pktLength (ds.firstHdr (io.first.stored hdrSize))⟩
      (by simp [first reads])
    simpa using this
  · intro fits store asked
    rcases ds.asked_eq io with none | all | ⟨untouched, four⟩ | ⟨reads, two⟩
    · simp [none] at asked
    · simp only [all, List.mem_singleton] at asked
      subst asked
      simp
    · simp only [four, List.mem_singleton] at asked
      subst asked
      simpa using room untouched
    · simp only [two, List.mem_cons, List.not_mem_nil, or_false] at asked
      rcases asked with rfl | rfl
      · simpa using room reads.2.2.1
      · exact fits reads

end DataStreamIn

/-! ### Every reachable state -/

namespace Connection

open DataStreamIn

theorem init_atRead : AtRead Connection.init.ds :=
  ⟨⟨rfl, fun _ => ⟨rfl, rfl⟩⟩, fun _ _ => by decide⟩

theorem stores_opening {ds ds' : DataStreamIn} {bytes : List Byte} (opening : Opening ds)
    (stores : Stores ds bytes ds') : Opening ds' := by
  obtain ⟨a, f, n, same⟩ := stores.others
  refine ⟨stores.size.trans opening.size, fun untouched => ?_⟩
  rw [same] at untouched
  have idle := opening.idle untouched
  exact ⟨by rw [same]; exact idle.1, stores.tail.trans idle.2⟩

theorem step_atRead {z : Zlib} {c c' : Connection} {e : Event} (atRead : AtRead c.ds)
    (stepped : c.step z e = .ok c') : AtRead c'.ds := by
  cases e with
  | read io =>
    by_cases live : c.ds.active ∧ c.ds.healthy
    · obtain ⟨r, ds, rc, ds', called, drained, rfl⟩ := step_read_eq_ok live stepped
      obtain ⟨bytes, stores⟩ := readFromNet_stores called
      exact readPkts_atRead (stores_opening atRead.toOpening stores) drained
    · rw [step, if_neg live] at stepped
      cases stepped
      exact atRead
  | take =>
    obtain ⟨-, -, blocks, same⟩ := handed_take stepped
    rw [same]
    exact ⟨{ __ := atRead }, atRead.short⟩
  | setEncrypted on | setCompression on | setFastForward on =>
    cases stepped
    exact ⟨{ __ := atRead }, atRead.short⟩

/-- Every state of every connection is one that `read_from_net` can handle, the length of the
first packet apart. -/
theorem run_atRead {z : Zlib} {c : Connection}
    (run : Run (Connection.step z) (fun _ _ => True) Connection.init c) : AtRead c.ds :=
  run.invariant (fun c => AtRead c.ds) init_atRead fun _ _ _ held _ => step_atRead held

/-- A call stays within the free space of the queue exactly when the very first packet does. -/
theorem asksWithinQueue_iff {z : Zlib} {c : Connection}
    (run : Run (Connection.step z) (fun _ _ => True) Connection.init c)
    (live : c.ds.healthy = true) (io : NetInput) :
    c.ds.AsksWithinQueue io ↔ c.ds.FirstPacketFits io :=
  (run_atRead run).asks_iff live io

/-- A first packet of one byte. -/
theorem asksWithinQueue_one_byte :
    Connection.init.ds.AsksWithinQueue (NetInput.plain (.ready [1, 0, 0, 0]) (.ready [1])) :=
  (asksWithinQueue_iff (z := Zlib.storing) Run.start rfl _).mpr fun _ => by decide

/-- A client that opens with the header of its longest packet makes the call ask for 16777215
bytes, in a queue of 32768. -/
theorem longest_header_leaves_queue :
    ¬ Connection.init.ds.AsksWithinQueue
      (NetInput.plain (.ready [255, 255, 255, 0]) .wouldBlock) := by
  intro asks
  have := asks ⟨4, 16777215⟩ (by decide)
  revert this
  decide

end Connection

end MockProxy.DataStream
