import MockProxy.DataStream.Collecting
import MockProxy.DataStream.Frame

/-!
# Packets out of compressed frames

With compression two streams are cut one inside the other: the received bytes into frames, and the
payloads of the frames, put one behind the other, into packets. A packet may begin in one frame and
end in another; `CompPktIN` holds it meanwhile. The code insists that a frame that begins a packet
has its whole 4-byte header, so a sender must not end a frame inside a header.

## Proof strategy

`unpack_eq_cut` is the inner level: the loop over one payload computes the cut of what `CompPktIN`
holds followed by the payload. The outer level is `Collecting frameFormat`; the invariant
`Unpacking` says how far both have come in the list of frames the sender sends.
-/

namespace MockProxy.DataStream

open Framing Machine List

namespace DataStreamIn

/-! ### The payload of one frame -/

/-- `CompPktIN` holds no packet, or one that is not yet full. -/
def CompFramed (pkt : Pkt) (filled : Nat) : Prop :=
  (filled = 0 ∧ pkt.bytes = []) ∨
    (Collecting packetFormat pkt filled ∧ pkt.bytes.length < pkt.size)

def StopsOutsideHeader (s : List Byte) : Prop :=
  (packetFormat.cut s).2 = [] ∨ hdrSize ≤ (packetFormat.cut s).2.length

instance (s : List Byte) : Decidable (StopsOutsideHeader s) := inferInstanceAs (Decidable (_ ∨ _))

/-- What `unpack` does to a stream, in terms of the cut of `s`. -/
def unpacked (ds : DataStreamIn) (s : List Byte) (pkt : Pkt) (filled : Nat) : DataStreamIn :=
  { ds with
    compPkt := pkt
    compPartialLen := filled
    psArrayIN := ds.psArrayIN ++ (packetFormat.cut s).1.map Block.exact }

theorem CompFramed.unfinished {pkt : Pkt} {n : Nat} (framed : CompFramed pkt n) :
    packetFormat.Unfinished pkt.bytes := by
  rcases framed with ⟨-, none⟩ | ⟨collecting, room⟩
  · rw [none]
    exact unfinished_nil
  · right
    rwa [← collecting.size]

theorem StopsOutsideHeader.tail {p t : List Byte} (whole : packetFormat.Whole p)
    (stops : StopsOutsideHeader (p ++ t)) : StopsOutsideHeader t := by
  rwa [StopsOutsideHeader, cut_whole_append whole] at stops

theorem unpacked_whole (ds : DataStreamIn) {p t : List Byte} (whole : packetFormat.Whole p)
    (pkt pkt' : Pkt) (n n' : Nat) :
    unpacked ({ ds with compPkt := pkt, compPartialLen := n }.addBlock (Block.exact p)) t pkt' n' =
      unpacked ds (p ++ t) pkt' n' := by
  simp [unpacked, addBlock, cut_whole_append whole]

theorem unpack_fresh (fuel : Nat) (ds : DataStreamIn) (rest : List Byte)
    (enough : rest.length < fuel) (zero : ds.compPartialLen = 0) (empty : ds.compPkt.bytes = [])
    (stops : StopsOutsideHeader rest) :
    ∃ pkt n, unpack fuel ds rest = .ok (ds.unpacked rest pkt n) ∧ CompFramed pkt n ∧
      pkt.bytes = (packetFormat.cut rest).2 := by
  induction fuel generalizing ds rest with
  | zero => omega
  | succ fuel ih =>
    simp only [unpack]
    by_cases done : rest = []
    · have none : packetFormat.cut rest = ([], []) := by
        rw [done]
        exact cut_of_unfinished unfinished_nil
      refine ⟨ds.compPkt, ds.compPartialLen, ?_, .inl ⟨zero, empty⟩, by rw [none, empty]⟩
      rw [if_pos done]
      simp [unpacked, none]
    rw [if_neg done, if_pos zero]
    have header : hdrSize ≤ rest.length := by
      by_contra short
      rw [StopsOutsideHeader, cut_of_unfinished (.inl (Nat.not_le.mp short))] at stops
      exact stops.elim done short
    rw [if_neg (Nat.not_lt.mpr header), ← announced_packet]
    by_cases whole : packetFormat.announced rest ≤ rest.length
    · -- a whole packet, and the loop goes on behind it
      have isWhole := whole_take_announced header whole
      have split := take_append_drop (packetFormat.announced rest) rest
      have shorter : (rest.drop (packetFormat.announced rest)).length < fuel := by
        have := announced_packet rest
        rw [length_drop]
        simp only [hdrSize] at this header
        omega
      rw [if_pos whole]
      obtain ⟨pkt, n, ran, framed, held⟩ := ih
        ({ ds with compPkt := ⟨packetFormat.announced rest, []⟩ }.addBlock
          (Block.exact (rest.take (packetFormat.announced rest))))
        (rest.drop (packetFormat.announced rest)) shorter zero rfl
        (StopsOutsideHeader.tail isWhole (by rwa [split]))
      refine ⟨pkt, n, ?_, framed, ?_⟩
      · have joined := unpacked_whole ds (t := rest.drop (packetFormat.announced rest)) isWhole
          ⟨packetFormat.announced rest, []⟩ pkt ds.compPartialLen n
        rw [split] at joined
        rw [ran, ← joined]
      · rw [held, ← split, cut_whole_append isWhole, split]
    · -- the packet goes on in a later frame
      have ends : packetFormat.Unfinished rest := .inr (Nat.not_le.mp whole)
      refine ⟨⟨packetFormat.announced rest, rest⟩, rest.length, ?_,
        .inr ⟨⟨header, rfl, rfl, ?_⟩, ?_⟩, ?_⟩
      · rw [if_neg whole]
        simp [unpacked, cut_of_unfinished ends]
      · exact Nat.le_of_lt (Nat.not_le.mp whole)
      · exact Nat.not_le.mp whole
      · rw [cut_of_unfinished ends]

/-- The loop over a payload cuts it, together with what `CompPktIN` already holds. -/
theorem unpackFrame_eq_cut {ds : DataStreamIn} {payload : List Byte}
    (framed : CompFramed ds.compPkt ds.compPartialLen)
    (stops : StopsOutsideHeader (ds.compPkt.bytes ++ payload)) :
    ∃ pkt n, ds.unpackFrame payload = .ok (ds.unpacked (ds.compPkt.bytes ++ payload) pkt n) ∧
      CompFramed pkt n ∧ pkt.bytes = (packetFormat.cut (ds.compPkt.bytes ++ payload)).2 := by
  rcases framed with ⟨zero, empty⟩ | ⟨collecting, room⟩
  · rw [empty] at stops ⊢
    exact unpack_fresh _ ds payload (lt_add_one _) zero empty stops
  have notZero : ds.compPartialLen ≠ 0 := by
    have := collecting.header
    have := collecting.filled
    have := packetFormat.header_pos
    omega
  simp only [unpackFrame, unpack, if_neg notZero]
  simp only [memcpyAt, collecting.filled, take_length]
  by_cases done : payload = []
  · have none : packetFormat.cut (ds.compPkt.bytes ++ payload) = ([], ds.compPkt.bytes) := by
      rw [done, append_nil]
      exact cut_of_unfinished (CompFramed.unfinished (.inr ⟨collecting, room⟩))
    refine ⟨ds.compPkt, ds.compPartialLen, ?_, .inr ⟨collecting, room⟩, by rw [none]⟩
    rw [if_pos done]
    simp [unpacked, none]
  rw [if_neg done]
  generalize gap : ds.compPkt.size - ds.compPkt.bytes.length = missing
  by_cases enough : missing ≤ payload.length
  · -- the packet begun earlier is completed; what follows begins with a packet
    have isWhole : packetFormat.Whole (ds.compPkt.bytes ++ payload.take missing) := by
      apply whole_of_fill collecting.header
      rw [← collecting.size, length_take]
      omega
    have split : (ds.compPkt.bytes ++ payload.take missing) ++ payload.drop missing =
        ds.compPkt.bytes ++ payload := by
      rw [append_assoc, take_append_drop]
    rw [if_pos enough]
    obtain ⟨pkt, n, ran, framed, held⟩ := unpack_fresh payload.length
      ({ ds with compPkt := ⟨ds.compPkt.size, []⟩, compPartialLen := 0 }.addBlock
        (Block.exact (ds.compPkt.bytes ++ payload.take missing)))
      (payload.drop missing) (by rw [length_drop]; omega) rfl rfl
      (StopsOutsideHeader.tail isWhole (by rwa [split]))
    refine ⟨pkt, n, ?_, framed, ?_⟩
    · rw [ran, unpacked_whole ds isWhole, split]
    · rw [held, ← split, cut_whole_append isWhole]
  · have short : ds.compPkt.bytes.length + payload.length < ds.compPkt.size := by omega
    have ends : packetFormat.Unfinished (ds.compPkt.bytes ++ payload) :=
      unfinished_of_short collecting.header (by rwa [← collecting.size])
    have more := collecting.append payload (Nat.le_of_lt short)
    rw [collecting.filled] at more
    refine ⟨_, _, ?_, .inr ⟨more, by simpa using short⟩, by rw [cut_of_unfinished ends]⟩
    rw [if_neg enough]
    simp [unpacked, cut_of_unfinished ends]

/-! ### One call -/

/-- A stream that reads compressed frames; the packets of the login came before. -/
structure Compressed (ds : DataStreamIn) : Prop where
  encrypted : ds.encrypted = false
  compression : ds.compression = true
  fastForward : ds.fastForward = false
  active : ds.active = true
  healthy : ds.healthy = true
  started : ds.pktsRecv ≠ 0

/-- The stream has unpacked the first `k` of the frames; `future` is still to arrive. -/
structure Unpacking (z : Zlib) (frames : List SentFrame) (future : List Byte)
    (taken : List (List Byte)) (ds : DataStreamIn) (k : Nat) : Prop where
  mode : Compressed ds
  comp : CompFramed ds.compPkt ds.compPartialLen
  ahead : ds.unfinished ++ future = sentBytes z (frames.drop k)
  behind : Cuts packetFormat (sentPieces (frames.take k)) (taken ++ ds.packets) ds.compPkt.bytes

section

variable {z : Zlib} {frames : List SentFrame} {future : List Byte} {taken : List (List Byte)}
  {ds : DataStreamIn} {k : Nat}

section

variable (unpacking : Unpacking z frames future taken ds k)

include unpacking

theorem Unpacking.move {ds' : DataStreamIn}
    (same : ds'.unfinished = ds.unfinished) (others : ∃ q p n i j, ds' = { ds with
      queueIN := q, pkt := p, partialLen := n, pktSid := i, compressionPktId := j }) :
    Unpacking z frames future taken ds' k := by
  have ahead := unpacking.ahead
  rw [← same] at ahead
  obtain ⟨q, p, n, i, j, rfl⟩ := others
  exact ⟨{ __ := unpacking.mode }, unpacking.comp, ahead, unpacking.behind⟩

theorem Unpacking.next (valid : ∀ f ∈ frames, f.Fits z)
    (whole : frameFormat.Whole ds.pkt.bytes) : ∃ f, f ∈ frames ∧ ds.pkt.bytes = f.bytes z ∧
      ds.queueIN.contents ++ future = sentBytes z (frames.drop (k + 1)) ∧
      sentPieces (frames.take (k + 1)) = sentPieces (frames.take k) ++ f.piece := by
  have ahead := unpacking.ahead
  rw [unfinished, append_assoc] at ahead
  cases rest : frames.drop k with
  | nil =>
    rw [rest] at ahead
    have none : ds.pkt.bytes = [] := (append_eq_nil_iff.mp ahead).1
    have := whole.length_pos
    rw [none] at this
    exact absurd this (Nat.lt_irrefl 0)
  | cons f later =>
    have member : f ∈ frames := mem_of_mem_drop (rest ▸ mem_cons_self)
    have later_eq : frames.drop (k + 1) = later := by
      rw [← drop_drop, rest]
      rfl
    have taken_eq : frames.take (k + 1) = frames.take k ++ [f] := by
      have found : frames[k]? = some f := by
        rw [← head?_drop, rest]
        rfl
      rw [take_add_one, found]
      rfl
    rw [rest] at ahead
    obtain ⟨this, others⟩ := whole_append_inj whole (SentFrame.whole (valid f member)) ahead
    refine ⟨f, member, this, ?_, ?_⟩
    · rw [others, later_eq, sentBytes]
    · simp [taken_eq, sentPieces]

theorem startFrame_compressed (idle : ds.pkt = Pkt.none) (enough : 7 ≤ ds.queueIN.data) :
    ∃ ds', ds.startFrame = (7, ds') ∧ Unpacking z frames future taken ds' k ∧
      Collecting frameFormat ds'.pkt ds'.partialLen := by
  refine ⟨_, if_pos ⟨by rw [idle]; rfl, enough⟩, unpacking.move ?_ ⟨_, _, _, _, _, rfl⟩, ?_⟩
  · simp [unfinished, idle, Pkt.none, take_append_drop]
  · exact collecting_of_header
      (by rw [length_take, LinearQueue.length_contents]; exact Nat.min_eq_left enough)

end

variable (lawful : z.Lawful) (valid : ∀ f ∈ frames, f.Fits z)
  (clear : ∀ k, StopsOutsideHeader (sentPieces (frames.take k)))
include lawful valid clear

variable (unpacking : Unpacking z frames future taken ds k)

include unpacking

/-- The frame step: what is there of the frame is collected, and a whole frame is unpacked. -/
theorem collectAndDeliver_compressed {r : Nat}
    (collecting : Collecting frameFormat ds.pkt ds.partialLen) :
    ∃ ds' k', collectAndDeliver z (r, ds) = .ok (r + ds.collect.1, ds') ∧
      Unpacking z frames future taken ds' k' ∧ Framed frameFormat ds' := by
  obtain ⟨full, same, stops, q, p, n, others⟩ := collecting.collect
  have moved := unpacking.move same ⟨q, p, n, ds.pktSid, ds.compressionPktId, others⟩
  generalize gathered : ds.collect.2 = d at *
  by_cases ready : d.pkt.bytes.length = d.pkt.size
  · obtain ⟨f, member, frame, ahead, pieces⟩ := moved.next valid (full.whole ready)
    have payload : framePayload z d.pkt.bytes = .ok (some f.piece) := by
      rw [frame]
      exact framePayload_of_decodeFrame (SentFrame.decode lawful (valid f member))
    have resumed := moved.behind.cut_append (t := f.piece)
    have stops : StopsOutsideHeader (d.compPkt.bytes ++ f.piece) := by
      have := clear (k + 1)
      rwa [StopsOutsideHeader, pieces, resumed] at this
    obtain ⟨pkt, filled, unpacked, comp, held⟩ := unpackFrame_eq_cut moved.comp stops
    refine ⟨{ d.unpacked (d.compPkt.bytes ++ f.piece) pkt filled with
        pktsRecv := d.pktsRecv + 1, pkt := Pkt.none }, k + 1, ?_, ⟨?_, comp, ?_, ?_⟩, .inl rfl⟩
    · have delivers : 0 < d.pkt.size ∧ d.pkt.size = d.partialLen :=
        ⟨full.size_pos, by rw [full.filled, ready]⟩
      simp only [collectAndDeliver, gathered, deliver, if_pos delivers, moved.mode.compression,
        payload, unpacked, ok_bind]
      rfl
    · exact { __ := moved.mode, started := Nat.succ_ne_zero _ }
    · exact ahead
    · have cuts := moved.behind.append (cut_cuts (d.compPkt.bytes ++ f.piece))
      rw [← pieces, ← held] at cuts
      simpa [DataStreamIn.packets, DataStreamIn.unpacked, Function.comp_def] using cuts
  · have room : d.pkt.bytes.length < d.pkt.size := Nat.lt_of_le_of_ne full.le ready
    subst gathered
    exact ⟨_, k, deliver_waits full room, moved, .inr ⟨full, room⟩⟩

/-- One call keeps the invariant, and returns 0 only when it has to wait for more of a frame. -/
theorem buffer2array_compressed (framed : Framed frameFormat ds) :
    ∃ r ds' k', ds.buffer2array z = .ok (r, ds') ∧ Unpacking z frames future taken ds' k' ∧
      Framed frameFormat ds' ∧ (r = 0 → frameFormat.Unfinished ds'.unfinished) := by
  by_cases empty : ds.queueIN.data = 0
  · exact ⟨0, ds, k, by rw [buffer2array, if_pos empty], unpacking, framed,
      fun _ => framed.unfinished_of_empty empty⟩
  obtain ⟨q, same, contents, -, data⟩ := ds.compactQueue_same
  have moved : Unpacking z frames future taken ds.compactQueue k :=
    unpacking.move (by rw [unfinished, unfinished, same, contents]) ⟨q, _, _, _, _, same⟩
  have call : ds.buffer2array z = collectAndDeliver z ds.compactQueue.startFrame := by
    rw [buffer2array, if_neg empty]
    simp [moved.mode.fastForward, moved.mode.compression]
  obtain ⟨pkt, filled, held⟩ := ds.compactQueue_pkt
  obtain ⟨r, ds', called, ⟨k', unpacking'⟩, framed', waits⟩ :=
    collectAndDeliver_start (F := frameFormat)
      (P := fun d => ∃ k, Unpacking z frames future taken d k) startFrame ds.compactQueue
      (fun _ idle => if_neg idle)
      (by
        rintro d ⟨k, unpacking⟩ idle enough
        obtain ⟨d', started, unpacking', collecting⟩ := startFrame_compressed unpacking idle enough
        exact ⟨d', started, ⟨k, unpacking'⟩, collecting⟩)
      (by
        rintro d r ⟨k, unpacking⟩ collecting
        obtain ⟨d', k', done, unpacking', framed⟩ :=
          collectAndDeliver_compressed lawful valid clear unpacking collecting
        exact ⟨d', done, ⟨k', unpacking'⟩, framed⟩)
      ⟨k, moved⟩ (framed.congr pkt filled) (by rwa [held])
  refine ⟨r, ds', k', by rw [call, called], unpacking', framed', fun zero => ?_⟩
  obtain ⟨rfl, idle, short⟩ := waits zero
  exact .inl (by simpa [unfinished, idle, Pkt.none] using short)

theorem readPkts_compressed (framed : Framed frameFormat ds) :
    ∃ rc ds', ds.readPkts z = .ok (rc, ds') ∧ ∃ k', Unpacking z frames future taken ds' k' ∧
      Framed frameFormat ds' ∧ frameFormat.Unfinished ds'.unfinished := by
  apply readPkts_ok (P := fun d => ∃ k', Unpacking z frames future taken d k' ∧
    Framed frameFormat d)
  · rintro d ⟨k', unpacking, framed⟩
    obtain ⟨r, d', k'', called, unpacking', framed', waits⟩ :=
      buffer2array_compressed lawful valid clear unpacking framed
    exact ⟨r, d', called, fun zero => ⟨k'', unpacking', framed', waits zero⟩,
      fun _ => ⟨k'', unpacking', framed'⟩⟩
  · exact ⟨k, unpacking, framed⟩

end

/-! ### One read -/

def Flowing (io : NetInput) : Prop :=
  io.pollhup = false ∧ (io.first = .wouldBlock ∨ ∃ b bytes, io.first = .ready (b :: bytes))

/-- With room in the queue, a read stores what the socket delivers and keeps the stream open. -/
theorem readFromNet_compressed {ds : DataStreamIn} {io : NetInput} (mode : Compressed ds)
    (room : 0 < ds.queueIN.available) (flowing : Flowing io) :
    ∃ r ds', (ds.readFromNet io).result = .ok (r, ds') ∧
      Stores ds (ds.readFromNet io).delivered ds' ∧ ds'.active := by
  unfold readFromNet
  split
  next hup => simp [flowing.1] at hup
  split
  · exact ⟨_, _, rfl, Stores.none ds, mode.active⟩
  next =>
    rw [if_neg (by simp [mode.encrypted]), readPlain, if_neg (fun first => mode.started first.1)]
    obtain ⟨returned, short⟩ := recv_returns io.first ds.queueIN.available
    obtain ⟨ds', done, stores, active⟩ := readDone_all ds io returned short
    refine ⟨_, ds', done, stores, ?_⟩
    rcases flowing.2 with blocked | ⟨b, bytes, ready⟩
    · -- would-block leaves the stream as it is
      have same : ds' = ds := by
        simp only [readDone, readNothing, blocked, mode.encrypted, flowing.1] at done
        exact (Prod.mk.inj (Except.ok.inj done)).2.symm
      rw [same]
      exact mode.active
    · rw [active, mode.active]
      rw [ready]
      simp only [Kernel.ret, length_take, length_cons]
      omega

end DataStreamIn

/-! ### Every run -/

namespace Connection

open DataStreamIn

/-- Compression was just switched on: nothing has arrived since. -/
structure CompressedStart (c : Connection) : Prop where
  mode : Compressed c.ds
  idle : c.ds.pkt = Pkt.none
  empty : c.ds.queueIN.contents = []
  comp : c.ds.compPartialLen = 0 ∧ c.ds.compPkt.bytes = []
  handed : c.handed = []
  received : c.received = []

/-- The steps of a connection that stays compressed: the socket delivers `stream`, and no read is
made while the queue has no room. -/
def CompressedStep (stream : List Byte) (c : Connection) : Event → Prop
  | .read io => c.received ++ (c.ds.readFromNet io).delivered <+: stream ∧ Flowing io ∧
      0 < c.ds.queueIN.available
  | .take => True
  | .setEncrypted _ | .setCompression _ | .setFastForward _ => False

/-- The invariant of a compressed connection between two events. -/
structure CompressedConnection (z : Zlib) (frames : List SentFrame) (c : Connection) : Prop where
  unpacking : ∃ future k, c.received ++ future = sentBytes z frames ∧
    Unpacking z frames future c.taken c.ds k
  framed : Framed frameFormat c.ds
  ends : frameFormat.Unfinished c.ds.unfinished

section

variable {z : Zlib} {frames : List SentFrame} {c c₀ : Connection}

theorem CompressedStart.inv (start : CompressedStart c) :
    CompressedConnection z frames c := by
  have held : c.ds.unfinished = [] := by simp [unfinished, start.idle, Pkt.none, start.empty]
  refine ⟨⟨sentBytes z frames, 0, by rw [start.received, nil_append], start.mode,
    .inl start.comp, by rw [held, nil_append, drop_zero], ?_⟩, .inl start.idle,
    held ▸ unfinished_nil⟩
  have handed := start.handed
  rw [Connection.handed] at handed
  rw [handed, start.comp.2]
  exact cuts_nil _

section

variable (lawful : z.Lawful) (valid : ∀ f ∈ frames, f.Fits z)
  (clear : ∀ k, StopsOutsideHeader (sentPieces (frames.take k)))
include lawful valid clear

theorem step_read_compressed {io : NetInput} (inv : CompressedConnection z frames c)
    (meets : CompressedStep (sentBytes z frames) c (.read io)) :
    ∃ c', c.step z (.read io) = .ok c' ∧ CompressedConnection z frames c' := by
  obtain ⟨⟨later, arrived⟩, flowing, room⟩ := meets
  obtain ⟨future, k, sofar, unpacking⟩ := inv.unpacking
  obtain ⟨r, ds₁, called, stores, active⟩ := readFromNet_compressed unpacking.mode room flowing
  have split : future = (c.ds.readFromNet io).delivered ++ later := by
    rw [← sofar, append_assoc] at arrived
    exact (append_cancel_left arrived).symm
  obtain ⟨a, f, n, same⟩ := stores.others
  -- the delivered bytes move from the future to the queue
  have unpacking₁ : Unpacking z frames later c.taken ds₁ k := by
    have ahead := unpacking.ahead
    rw [split, ← append_assoc, ← stores.unfinished] at ahead
    have mode := unpacking.mode
    have comp := unpacking.comp
    have behind := unpacking.behind
    rw [same] at active ahead ⊢
    exact ⟨{ __ := mode, active }, comp, ahead, behind⟩
  obtain ⟨rc, ds₂, drained, k', unpacking₂, framed₂, ends₂⟩ :=
    readPkts_compressed lawful valid clear
    unpacking₁ (inv.framed.congr (by rw [same]) (by rw [same]))
  refine ⟨⟨ds₂, c.taken, c.received ++ (c.ds.readFromNet io).delivered⟩, ?_,
    ⟨later, k', arrived, unpacking₂⟩, framed₂, ends₂⟩
  have live : c.ds.active ∧ c.ds.healthy :=
    ⟨unpacking.mode.active, unpacking.mode.healthy⟩
  simp [step, live, called, drained]

theorem step_compressed {e : Event} (inv : CompressedConnection z frames c)
    (meets : CompressedStep (sentBytes z frames) c e) :
    ∃ c', c.step z e = .ok c' ∧ CompressedConnection z frames c' := by
  cases e with
  | read io => exact step_read_compressed lawful valid clear inv meets
  | take =>
    obtain ⟨c', stepped⟩ := step_take_returns z c
    obtain ⟨handed, received, blocks, same⟩ := handed_take stepped
    obtain ⟨future, k, sofar, unpacking⟩ := inv.unpacking
    refine ⟨c', stepped, ⟨future, k, by rw [received]; exact sofar, ?_⟩,
      inv.framed.congr (by rw [same]) (by rw [same]), by rw [same]; exact inv.ends⟩
    have behind := unpacking.behind
    rw [Connection.handed, Connection.handed] at handed
    rw [← handed] at behind
    refine ⟨?_, by rw [same]; exact unpacking.comp, by rw [same]; exact unpacking.ahead, ?_⟩
    · rw [same]
      exact { __ := unpacking.mode }
    · rw [same] at behind ⊢
      exact behind
  | setEncrypted on | setCompression on | setFastForward on => exact absurd meets id

end

/-- What has been handed over is the beginning of what was sent, and in the end all of it. -/
theorem CompressedConnection.handed {packets : List (List Byte)}
    (inv : CompressedConnection z frames c) (valid : ∀ f ∈ frames, f.Fits z)
    (whole : ∀ p ∈ packets, packetFormat.Whole p) (cutting : sentPieces frames = packets.flatten) :
    c.handed <+: packets ∧ (c.received = sentBytes z frames → c.handed = packets) := by
  obtain ⟨future, k, sofar, unpacking⟩ := inv.unpacking
  have sent : packetFormat.cut (sentPieces frames) = (packets, []) :=
    cut_eq_of_cuts ⟨by rw [cutting, append_nil], whole⟩ unfinished_nil
  constructor
  · have parts : sentPieces frames = sentPieces (frames.take k) ++ sentPieces (frames.drop k) := by
      rw [sentPieces, sentPieces, sentPieces, ← flatten_append, ← map_append,
        take_append_drop]
    rw [parts, unpacking.behind.cut_append] at sent
    exact ⟨_, (Prod.mk.inj sent).1⟩
  · intro all
    have ended : future = [] := by
      rw [all] at sofar
      exact append_right_eq_self.mp sofar
    have ahead := unpacking.ahead
    rw [ended, append_nil] at ahead
    have last : frames.drop k = [] := by
      cases rest : frames.drop k with
      | nil => rfl
      | cons f later =>
        have ends := inv.ends
        rw [ahead, rest] at ends
        have fits := valid f (mem_of_mem_drop (rest ▸ mem_cons_self))
        exact absurd ends ((SentFrame.whole fits).not_unfinished_append _)
    have behind := unpacking.behind
    have every : frames.take k = frames := by
      have := take_append_drop k frames
      rwa [last, append_nil] at this
    rw [every] at behind
    have done := cut_eq_of_cuts behind unpacking.comp.unfinished
    rw [sent] at done
    exact (Prod.mk.inj done).1.symm

/-- The packets handed over are the packets sent. The sender cuts packets into frames,
compressed or not, none of which ends inside a packet header; the socket delivers the frames in any
pieces, and no read is made on a full queue. Then no step faults, the stream stays open, and once
everything has arrived the packets handed to the session are those the sender started from. -/
theorem handed_eq_packets {packets : List (List Byte)} (lawful : z.Lawful)
    (whole : ∀ p ∈ packets, packetFormat.Whole p) (cutting : sentPieces frames = packets.flatten)
    (valid : ∀ f ∈ frames, f.Fits z)
    (clear : ∀ k, StopsOutsideHeader (sentPieces (frames.take k))) (start : CompressedStart c₀)
    (run : Run (step z) (CompressedStep (sentBytes z frames)) c₀ c) :
    c.handed <+: packets ∧ (c.received = sentBytes z frames → c.handed = packets) ∧
      c.ds.active = true ∧
      ∀ e, CompressedStep (sentBytes z frames) c e → ∃ c', c.step z e = .ok c' := by
  obtain ⟨inv, goesOn⟩ := run.goes_on (CompressedConnection z frames) start.inv
    fun inv meets => step_compressed lawful valid clear inv meets
  obtain ⟨soFar, atEnd⟩ := inv.handed valid whole cutting
  obtain ⟨_, _, _, unpacking⟩ := inv.unpacking
  exact ⟨soFar, atEnd, unpacking.mode.active, goesOn⟩

end

def compressedInit : Connection :=
  ⟨{ DataStreamIn.init with compression := true, pktsRecv := 1 }, [], []⟩

/-- One packet in two frames, the second one compressed, cut behind the packet's header. -/
def pingFrames : List SentFrame := [⟨0, false, [1, 0, 0, 0]⟩, ⟨1, true, [14]⟩]

theorem handed_eq_packets_ping : ∃ c, compressedInit.step Zlib.storing
        (.read (.plain (.ready (sentBytes Zlib.storing pingFrames)) .wouldBlock)) = .ok c ∧
      c.received = sentBytes Zlib.storing pingFrames ∧ c.handed = [[1, 0, 0, 0, 14]] := by
  have start : CompressedStart compressedInit :=
    ⟨⟨rfl, rfl, rfl, rfl, rfl, by decide⟩, rfl, rfl, ⟨rfl, rfl⟩, rfl, rfl⟩
  have clear : ∀ k, StopsOutsideHeader (sentPieces (pingFrames.take k))
    | 0 => by decide
    | 1 => by decide
    | k + 2 => by
      rw [take_of_length_le (by simp [pingFrames])]
      decide
  have valid : ∀ f ∈ pingFrames, f.Fits Zlib.storing := by
    simp [pingFrames, SentFrame.Fits, Zlib.storing]
  have meets : CompressedStep (sentBytes Zlib.storing pingFrames) compressedInit
      (.read (.plain (.ready (sentBytes Zlib.storing pingFrames)) .wouldBlock)) :=
    ⟨by decide, ⟨rfl, .inr ⟨_, _, rfl⟩⟩, by decide⟩
  refine ⟨_, rfl, by decide, ?_⟩
  exact (handed_eq_packets Zlib.storing_lawful (by decide) (by decide) valid clear start
    (Run.step Run.start meets rfl)).2.1 (by decide)

/-- A frame that ends inside the 4-byte header of a packet aborts the process. -/
theorem split_header_aborts :
    sentPieces [⟨0, false, [1, 0]⟩, ⟨1, false, [0, 0, 14]⟩] = [[1, 0, 0, 0, 14]].flatten ∧
    compressedInit.step Zlib.storing (.read (.plain (.ready
      (sentBytes Zlib.storing [⟨0, false, [1, 0]⟩, ⟨1, false, [0, 0, 14]⟩])) .wouldBlock)) =
      .error .assertion :=
  ⟨rfl, rfl⟩

end Connection

end MockProxy.DataStream
