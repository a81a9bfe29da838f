import MockProxy.DataStream.Collecting
import MockProxy.DataStream.ReadBounds

/-!
# Plain packets out of arbitrary reads

On a stream without TLS, compression and fast forward the packets handed over are the received bytes
cut at their headers, however the socket delivers them. The one exception is the first packet, read
by two `recv` calls whose return values are added: if the second one fails, its -1 takes a byte off
the header already stored.

## Proof strategy

One call of `buffer2array` hands over `out` and leaves `ds'` such that `out` followed by the
unfinished bytes of `ds'` are the unfinished bytes before (`HandsOver`). This composes over the loop
of `read_pkts` and over the reads of a run, by `Framing.Cuts.append`.
-/

namespace MockProxy.DataStream

open Framing Machine LinearQueue List

namespace DataStreamIn

/-- The text `PROXY`. -/
def proxyText : List Byte := proxySignature.take 5

/-- The invariant of a plain stream, also inside the loop of `read_pkts`. -/
structure Plain (ds : DataStreamIn) : Prop where
  encrypted : ds.encrypted = false
  compression : ds.compression = false
  fastForward : ds.fastForward = false
  size : ds.queueIN.size = QUEUE_T_DEFAULT_SIZE
  -- A queue read to its end starts again at the front.
  rewound : ds.queueIN.data = 0 → ds.queueIN.head = 0

/-- Nothing more can be handed over, and the queue is almost empty. -/
structure Settled (ds : DataStreamIn) : Prop where
  ends : packetFormat.Unfinished ds.unfinished
  head : ds.queueIN.head < hdrSize

def NoProxy (ds : DataStreamIn) : Prop := ds.pktsRecv = 0 → ¬ proxyText <+: ds.unfinished

/-- `out` was handed over between `ds` and `ds'`, and no byte was lost. -/
structure HandsOver (ds : DataStreamIn) (out : List (List Byte)) (ds' : DataStreamIn) : Prop where
  cuts : Cuts packetFormat ds.unfinished out ds'.unfinished
  others : ∃ q p n i, ds' = { ds with
    queueIN := q, pkt := p, partialLen := n, pktSid := i
    psArrayIN := ds.psArrayIN ++ out.map Block.exact
    pktsRecv := ds.pktsRecv + out.length }

variable {ds ds' ds'' : DataStreamIn} {z : Zlib} {out out' : List (List Byte)}

theorem HandsOver.of_unfinished_eq (same : ds'.unfinished = ds.unfinished)
    (others : ∃ q p n i, ds' = { ds with queueIN := q, pkt := p, partialLen := n, pktSid := i }) :
    HandsOver ds [] ds' := by
  obtain ⟨q, p, n, i, rfl⟩ := others
  exact ⟨by rw [same]; exact cuts_nil _, q, p, n, i, by simp⟩

theorem HandsOver.none (ds : DataStreamIn) : HandsOver ds [] ds :=
  .of_unfinished_eq rfl ⟨_, _, _, _, rfl⟩

theorem HandsOver.trans (first : HandsOver ds out ds') (second : HandsOver ds' out' ds'') :
    HandsOver ds (out ++ out') ds'' := by
  refine ⟨?_, ?_⟩
  · have joined := first.cuts.append (t := []) (by simpa using second.cuts)
    simpa using joined
  · obtain ⟨q, p, n, i, rfl⟩ := first.others
    obtain ⟨q', p', n', i', rfl⟩ := second.others
    exact ⟨q', p', n', i', by simp [Nat.add_assoc]⟩

theorem HandsOver.packets (hands : HandsOver ds out ds') : ds'.packets = ds.packets ++ out := by
  obtain ⟨q, p, n, i, rfl⟩ := hands.others
  simp [DataStreamIn.packets, Function.comp_def]

theorem HandsOver.noProxy (hands : HandsOver ds out ds') (quiet : NoProxy ds) : NoProxy ds' := by
  intro none
  have counted : ds'.pktsRecv = ds.pktsRecv + out.length := by
    obtain ⟨q, p, n, i, rfl⟩ := hands.others
    rfl
  have empty : out = [] := length_eq_zero_iff.mp (by omega)
  have same := hands.cuts.join
  rw [empty] at same
  have start := quiet (by omega)
  rwa [same] at start

/-! ### One call -/

theorem isProxyHeader_false (quiet : NoProxy ds) (idle : ds.pkt = Pkt.none) :
    ds.isProxyHeader = false := by
  rw [Bool.eq_false_iff]
  intro proxy
  simp only [isProxyHeader, decide_eq_true_eq] at proxy
  obtain ⟨first, front, -, text⟩ := proxy
  apply quiet first
  have contents : ds.unfinished = ds.queueIN.stored := by
    simp [unfinished, idle, Pkt.none, contents, front]
  rw [contents, proxyText, ← text, take_take]
  exact take_prefix _ _

/-- The packet step of a plain stream: collect, and hand the packet over if it is whole. -/
theorem collectAndDeliver_plain {r : Nat} (plain : ds.compression = false)
    (collecting : Collecting packetFormat ds.pkt ds.partialLen) :
    ∃ ds' out, collectAndDeliver z (r, ds) = .ok (r + ds.collect.1, ds') ∧ HandsOver ds out ds' ∧
      Framed packetFormat ds' ∧ ds'.queueIN = ds.collect.2.queueIN := by
  obtain ⟨full, same, stops, q, p, n, others⟩ := collecting.collect
  have mode : ds.collect.2.compression = false := by rw [others]; exact plain
  by_cases whole : ds.collect.2.pkt.bytes.length = ds.collect.2.pkt.size
  · -- the packet is complete
    refine ⟨{ ds.collect.2.addBlock (Block.exact ds.collect.2.pkt.bytes) with
        pktsRecv := ds.collect.2.pktsRecv + 1, pkt := Pkt.none },
      [ds.collect.2.pkt.bytes], ?_, ⟨?_, ?_⟩, .inl rfl, rfl⟩
    · have ready : 0 < ds.collect.2.pkt.size ∧ ds.collect.2.pkt.size = ds.collect.2.partialLen :=
        ⟨full.size_pos, by rw [full.filled, whole]⟩
      simp [collectAndDeliver, deliver, ready.1, ← ready.2, mode]
    · rw [← same]
      refine ⟨by simp [unfinished, Pkt.none, addBlock], ?_⟩
      simpa using full.whole whole
    · rw [others]
      exact ⟨_, _, _, _, rfl⟩
  · -- the queue has run empty first
    have room : ds.collect.2.pkt.bytes.length < ds.collect.2.pkt.size :=
      Nat.lt_of_le_of_ne full.le whole
    exact ⟨ds.collect.2, [], deliver_waits full room,
      .of_unfinished_eq same ⟨q, p, n, ds.pktSid, others⟩, .inr ⟨full, room⟩, rfl⟩

theorem compactQueue_plain (plain : Plain ds) :
    Plain ds.compactQueue ∧ HandsOver ds [] ds.compactQueue := by
  unfold compactQueue
  split
  next short =>
    refine ⟨{ __ := plain, rewound := fun empty => ?_ },
      .of_unfinished_eq rfl ⟨_, _, _, _, rfl⟩⟩
    rw [head_zero]
    simpa using empty
  next => exact ⟨plain, HandsOver.none ds⟩

theorem buffer2array_plain_eq (plain : Plain ds) (framed : Framed packetFormat ds)
    (quiet : NoProxy ds) (some : ds.queueIN.data ≠ 0) :
    ds.buffer2array z = collectAndDeliver z ds.compactQueue.startPacket := by
  obtain ⟨plain', hands⟩ := compactQueue_plain plain
  obtain ⟨pkt', filled', -⟩ := ds.compactQueue_pkt
  rw [buffer2array, if_neg some]
  simp only [plain'.fastForward, plain'.compression, Bool.false_eq_true, if_false]
  rw [if_neg]
  rintro ⟨idle, -, proxy⟩
  rcases framed.congr pkt' filled' with none | ⟨collecting, -⟩
  · simp [isProxyHeader_false (hands.noProxy quiet) none] at proxy
  · have := collecting.size_pos
    omega

theorem startPacket_plain (plain : Plain ds) (idle : ds.pkt = Pkt.none)
    (enough : hdrSize ≤ ds.queueIN.data) : ∃ ds', ds.startPacket = (hdrSize, ds') ∧ Plain ds' ∧
      Collecting packetFormat ds'.pkt ds'.partialLen ∧ HandsOver ds [] ds' := by
  refine ⟨_, if_pos ⟨by rw [idle]; rfl, enough⟩,
    { __ := plain, size := ?_, rewound := head_read_of_data }, ?_,
    .of_unfinished_eq ?_ ⟨_, _, _, _, rfl⟩⟩
  · exact (size_read _ _).trans plain.size
  · exact collecting_of_header
      (by rw [length_take, length_contents]; exact Nat.min_eq_left enough)
  · simp [unfinished, idle, Pkt.none, take_append_drop]

theorem collect_rewound (rewound : ds.queueIN.data = 0 → ds.queueIN.head = 0)
    (empty : ds.collect.2.queueIN.data = 0) : ds.collect.2.queueIN.head = 0 := by
  unfold collect at empty ⊢
  split
  next some =>
    rw [if_pos some] at empty
    exact head_read_of_data empty
  next none =>
    rw [if_neg none] at empty
    exact rewound empty

theorem collectAndDeliver_keeps {r : Nat} (plain : Plain ds)
    (collecting : Collecting packetFormat ds.pkt ds.partialLen) :
    ∃ ds' out, collectAndDeliver z (r, ds) = .ok (r + ds.collect.1, ds') ∧ HandsOver ds out ds' ∧
      Plain ds' ∧ Framed packetFormat ds' := by
  obtain ⟨ds', out, done, hands, framed, queue⟩ :=
    collectAndDeliver_plain plain.compression collecting
  have size : ds'.queueIN.size = QUEUE_T_DEFAULT_SIZE := by
    rw [queue, ds.collect_takes.size, plain.size]
  have rewound : ds'.queueIN.data = 0 → ds'.queueIN.head = 0 := by
    rw [queue]; exact collect_rewound plain.rewound
  obtain ⟨q, p, n, i, rfl⟩ := hands.others
  exact ⟨_, out, done, hands, { __ := plain, size, rewound }, framed⟩

theorem settled_of_empty (plain : Plain ds) (framed : Framed packetFormat ds)
    (empty : ds.queueIN.data = 0) : Settled ds :=
  ⟨framed.unfinished_of_empty empty, by rw [plain.rewound empty]; decide⟩

theorem settled_of_short (idle : ds.pkt = Pkt.none) (short : ds.queueIN.data < hdrSize) :
    Settled ds.compactQueue := by
  have front : ds.compactQueue = { ds with queueIN := ds.queueIN.zero } :=
    if_pos ⟨by rw [idle]; rfl, short⟩
  rw [front]
  refine ⟨.inl ?_, ?_⟩
  · simp only [unfinished, idle, Pkt.none, contents_zero, nil_append,
      length_contents]
    exact short
  · rw [head_zero]
    exact short

section

variable (plain : Plain ds) (framed : Framed packetFormat ds) (quiet : NoProxy ds)

include plain framed quiet

/-- One call hands over whole packets, loses nothing, and returns 0 only when it has to wait. -/
theorem buffer2array_plain :
    ∃ r ds' out, ds.buffer2array z = .ok (r, ds') ∧ HandsOver ds out ds' ∧ Plain ds' ∧
      Framed packetFormat ds' ∧ (r = 0 → Settled ds') := by
  by_cases empty : ds.queueIN.data = 0
  · exact ⟨0, ds, [], by rw [buffer2array, if_pos empty], HandsOver.none ds, plain, framed,
      fun _ => settled_of_empty plain framed empty⟩
  obtain ⟨pkt₀, filled₀, data₀⟩ := ds.compactQueue_pkt
  obtain ⟨plain₀, hands₀⟩ := compactQueue_plain plain
  obtain ⟨r, ds', called, ⟨out, hands, plain'⟩, framed', waits⟩ :=
    collectAndDeliver_start (z := z) (F := packetFormat)
      (P := fun d => ∃ out, HandsOver ds out d ∧ Plain d) startPacket ds.compactQueue
      (fun _ idle => if_neg idle)
      (by
        rintro d ⟨out, hands, plain⟩ idle enough
        obtain ⟨d', started, plain', collecting, hands'⟩ := startPacket_plain plain idle enough
        exact ⟨d', started, ⟨_, hands.trans hands', plain'⟩, collecting⟩)
      (by
        rintro d r ⟨out, hands, plain⟩ collecting
        obtain ⟨d', more, done, hands', plain', framed⟩ :=
          collectAndDeliver_keeps plain collecting
        exact ⟨d', done, ⟨_, hands.trans hands', plain'⟩, framed⟩)
      ⟨[], hands₀, plain₀⟩ (framed.congr pkt₀ filled₀) (by rwa [data₀])
  refine ⟨r, ds', out, ?_, hands, plain', framed', fun zero => ?_⟩
  · rw [buffer2array_plain_eq plain framed quiet empty, called]
  · obtain ⟨rfl, idle, short⟩ := waits zero
    exact settled_of_short (pkt₀ ▸ idle) (data₀ ▸ short)

/-- `read_pkts` returns, with everything that can be handed over handed over. -/
theorem readPkts_plain : ∃ rc ds', ds.readPkts z = .ok (rc, ds') ∧
      ∃ out, HandsOver ds out ds' ∧ Plain ds' ∧ Framed packetFormat ds' ∧ Settled ds' := by
  apply readPkts_ok (P := fun d => ∃ out, HandsOver ds out d ∧ Plain d ∧ Framed packetFormat d)
  · rintro d ⟨out, hands, plain, framed⟩
    obtain ⟨r, d', more, called, hands', plain', framed', waits⟩ :=
      buffer2array_plain plain framed (hands.noProxy quiet)
    exact ⟨r, d', called, fun zero => ⟨_, hands.trans hands', plain', framed', waits zero⟩,
      fun _ => ⟨_, hands.trans hands', plain', framed'⟩⟩
  · exact ⟨[], HandsOver.none ds, plain, framed⟩

end

/-! ### One read -/

/-- The two-step read of the first packet goes well: its second `recv` does not fail, and what that
delivers fits the queue behind the header. -/
def FirstPacketArrives (ds : DataStreamIn) (io : NetInput) : Prop :=
  ds.ReadsFirstPacket io → ∃ bytes, io.second = .ready bytes ∧
    hdrSize + (bytes.take (pktLength (ds.firstHdr (io.first.stored hdrSize)))).length ≤
      ds.queueIN.available

theorem readFromNet_plain {io : NetInput} (plain : Plain ds) (head : ds.queueIN.head < hdrSize)
    (arrives : ds.FirstPacketArrives io) : ∃ r ds', (ds.readFromNet io).result = .ok (r, ds') ∧
      Stores ds (ds.readFromNet io).delivered ds' := by
  have size := plain.size
  have room : hdrSize ≤ ds.queueIN.available := by
    simp only [available, size, hdrSize, QUEUE_T_DEFAULT_SIZE] at head ⊢
    omega
  unfold readFromNet
  split
  · exact ⟨_, _, rfl, stores_shutSoft ds⟩
  split
  · exact ⟨_, _, rfl, Stores.none ds⟩
  next hup pollin =>
    rw [if_neg (by simp [plain.encrypted]), readPlain]
    split
    next untouched =>
      dsimp only
      split
      next four =>
        obtain ⟨bytes, second, fits⟩ :=
          arrives ⟨not_not.mp pollin, plain.encrypted, untouched, four⟩
        obtain ⟨returned, -⟩ := recv_returns io.first hdrSize
        have length : (io.first.stored hdrSize).length = hdrSize := by
          simp only [hdrSize] at four returned ⊢
          omega
        generalize pktLength (ds.firstHdr (io.first.stored hdrSize)) = asked at fits ⊢
        have both : io.first.ret hdrSize + io.second.ret asked =
            (io.first.stored hdrSize ++ io.second.stored asked).length := by
          rw [second, four, length_append, length]
          simp [Kernel.ret, Kernel.stored, hdrSize]
        obtain ⟨ds', done, stores, -⟩ := readDone_all ds io (.inl both)
          (by rw [second, length_append, length]; exact fits)
        exact ⟨_, ds', done, stores⟩
      next =>
        obtain ⟨returned, short⟩ := recv_returns io.first hdrSize
        obtain ⟨ds', done, stores, -⟩ := readDone_all ds io returned (by omega)
        exact ⟨_, ds', done, stores⟩
    next =>
      obtain ⟨returned, short⟩ := recv_returns io.first ds.queueIN.available
      obtain ⟨ds', done, stores, -⟩ := readDone_all ds io returned short
      exact ⟨_, ds', done, stores⟩

end DataStreamIn

/-! ### Every run -/

namespace Connection

open DataStreamIn

def PlainStep (c : Connection) : Event → Prop
  | .read io => c.ds.active = true ∧ c.ds.healthy = true → c.ds.FirstPacketArrives io
  | .take => True
  | .setEncrypted _ | .setCompression _ | .setFastForward _ => False

/-- The invariant of a plain connection between two events. -/
structure PlainConnection (c : Connection) : Prop where
  plain : Plain c.ds
  framed : Framed packetFormat c.ds
  settled : Settled c.ds
  cuts : Cuts packetFormat c.received c.handed c.ds.unfinished
  counted : c.ds.pktsRecv = c.handed.length

theorem init_plain : PlainConnection init where
  plain := ⟨rfl, rfl, rfl, rfl, fun _ => rfl⟩
  framed := .inl rfl
  settled := ⟨unfinished_nil, by decide⟩
  cuts := cuts_nil _
  counted := rfl

theorem stores_plain {ds ds' : DataStreamIn} {bytes : List Byte} (plain : Plain ds)
    (framed : Framed packetFormat ds) (stores : Stores ds bytes ds') :
    Plain ds' ∧ Framed packetFormat ds' ∧ ds'.unfinished = ds.unfinished ++ bytes ∧
      ds'.pktsRecv = ds.pktsRecv ∧ ds'.packets = ds.packets := by
  obtain ⟨a, f, n, same⟩ := stores.others
  have data : ds'.queueIN.data = ds.queueIN.data + bytes.length := by
    rw [← length_contents, stores.contents, length_append,
      length_contents]
  refine ⟨⟨?_, ?_, ?_, stores.size.trans plain.size, fun empty => ?_⟩, ?_, ?_, ?_, ?_⟩
  · rw [same]; exact plain.encrypted
  · rw [same]; exact plain.compression
  · rw [same]; exact plain.fastForward
  · have head := plain.rewound (by omega)
    have := head_eq ds.queueIN
    have := head_eq ds'.queueIN
    have := stores.tail
    omega
  · exact framed.congr (by rw [same]) (by rw [same])
  · exact stores.unfinished
  · rw [same]
  · rw [same]; rfl

theorem step_read_plain {z : Zlib} {c : Connection} {io : NetInput}
    (inv : PlainConnection c) (live : c.ds.active ∧ c.ds.healthy)
    (arrives : c.ds.FirstPacketArrives io)
    (quiet : ¬ proxyText <+: c.received ++ (c.ds.readFromNet io).delivered) :
    ∃ c', c.step z (.read io) = .ok c' ∧ PlainConnection c' := by
  obtain ⟨r, ds₁, called, stores⟩ := readFromNet_plain inv.plain inv.settled.head arrives
  obtain ⟨plain₁, framed₁, joined, count, packets⟩ := stores_plain inv.plain inv.framed stores
  have noProxy : NoProxy ds₁ := by
    intro first
    have none : c.handed = [] := length_eq_zero_iff.mp (by rw [← inv.counted, ← count, first])
    have all := inv.cuts.join
    rw [none] at all
    rw [joined]
    simpa [all] using quiet
  obtain ⟨rc, ds₂, drained, out, hands, plain₂, framed₂, settled₂⟩ :=
    readPkts_plain (z := z) plain₁ framed₁ noProxy
  have handed : c.taken ++ ds₂.packets = c.handed ++ out := by
    rw [hands.packets, packets, Connection.handed, append_assoc]
  refine ⟨⟨ds₂, c.taken, c.received ++ (c.ds.readFromNet io).delivered⟩, ?_, plain₂, framed₂,
    settled₂, ?_, ?_⟩
  · simp [step, live, called, drained]
  · rw [Connection.handed, handed]
    exact inv.cuts.append (joined ▸ hands.cuts)
  · rw [Connection.handed, handed, length_append, ← inv.counted, ← count]
    obtain ⟨q, p, n, i, rfl⟩ := hands.others
    rfl

theorem step_take_plain {z : Zlib} {c c' : Connection} (inv : PlainConnection c)
    (stepped : c.step z .take = .ok c') : PlainConnection c' ∧ c'.received = c.received := by
  obtain ⟨handed, received, blocks, same⟩ := handed_take stepped
  refine ⟨⟨?_, ?_, ?_, ?_, ?_⟩, received⟩
  · rw [same]
    exact { __ := inv.plain }
  · exact inv.framed.congr (by rw [same]) (by rw [same])
  · rw [same]
    exact { __ := inv.settled }
  · rw [handed, received, same]
    exact inv.cuts
  · rw [handed, same]
    exact inv.counted

/-- The socket delivers `stream`: what has arrived after the event is the beginning of it. -/
def Delivers (stream : List Byte) (c : Connection) : Event → Prop
  | .read io => c.received ++ (c.ds.readFromNet io).delivered <+: stream
  | _ => True

variable {z : Zlib} {stream : List Byte} {c : Connection}

theorem step_plain {e : Event} (noProxy : ¬ proxyText <+: stream)
    (inv : PlainConnection c ∧ c.received <+: stream) (delivers : Delivers stream c e)
    (meets : PlainStep c e) :
    ∃ c', c.step z e = .ok c' ∧ PlainConnection c' ∧ c'.received <+: stream := by
  cases e with
  | read io =>
    by_cases live : c.ds.active ∧ c.ds.healthy
    · obtain ⟨c', stepped, inv'⟩ := step_read_plain inv.1 live (meets live)
        fun start => noProxy (start.trans delivers)
      refine ⟨c', stepped, inv', ?_⟩
      obtain ⟨r, ds, rc, ds', -, -, rfl⟩ := step_read_eq_ok live stepped
      exact delivers
    · exact ⟨c, by rw [step, if_neg live], inv⟩
  | take =>
    obtain ⟨c', stepped⟩ := step_take_returns z c
    obtain ⟨inv', received⟩ := step_take_plain inv.1 stepped
    exact ⟨c', stepped, inv', received ▸ inv.2⟩
  | setEncrypted on | setCompression on | setFastForward on => exact absurd meets id

/-- The packets handed over are the stream cut at its headers. However the socket delivers the
stream, in every state the packets handed to the session and the bytes held back are the cut of what
has arrived, and the next event does not fault. -/
theorem handed_eq_cut (noProxy : ¬ proxyText <+: stream)
    (run : Run (step z) (fun c e => Delivers stream c e ∧ PlainStep c e) init c) :
    packetFormat.cut c.received = (c.handed, c.ds.unfinished) ∧ c.received <+: stream ∧
      ∀ e, Delivers stream c e ∧ PlainStep c e → ∃ c', c.step z e = .ok c' := by
  obtain ⟨inv, goesOn⟩ := run.goes_on (fun c => PlainConnection c ∧ c.received <+: stream)
    ⟨init_plain, nil_prefix⟩ fun inv meets => step_plain noProxy inv meets.1 meets.2
  exact ⟨cut_eq_of_cuts inv.1.cuts inv.1.settled.ends, inv.2, goesOn⟩

/-- A header and its one byte of payload, in the two reads of the first packet. -/
theorem handed_eq_cut_ping :
    ∃ c, init.step Zlib.storing (.read (.plain (.ready [1, 0, 0, 0]) (.ready [14]))) = .ok c ∧
      c.handed = [[1, 0, 0, 0, 14]] ∧
      packetFormat.cut c.received = (c.handed, c.ds.unfinished) := by
  refine ⟨_, rfl, by decide, ?_⟩
  have noProxy : ¬ proxyText <+: [1, 0, 0, 0, 14] := by decide
  have meets : Delivers [1, 0, 0, 0, 14] init (.read (.plain (.ready [1, 0, 0, 0]) (.ready [14]))) ∧
      PlainStep init (.read (.plain (.ready [1, 0, 0, 0]) (.ready [14]))) :=
    ⟨prefix_rfl, fun _ _ => ⟨[14], rfl, by decide⟩⟩
  exact (handed_eq_cut (z := Zlib.storing) noProxy (Run.step Run.start meets rfl)).1

/-- The events of the next theorem: the header of a packet of three bytes, after which the second
`recv` would block; the three bytes; and a second packet. -/
def lostByteEvents : List Event :=
  [.read (.plain (.ready [3, 0, 0, 0]) .wouldBlock), .read (.plain (.ready [1, 2, 3]) .wouldBlock),
    .read (.plain (.ready [1, 0, 0, 1, 14]) .wouldBlock)]

/-- When the second `recv` of the first packet would block, the last byte of the header is lost and
everything after it is cut in the wrong places. -/
theorem second_recv_blocks_loses_byte :
    ∃ c, lostByteEvents.foldlM (step Zlib.storing) init = .ok c ∧
      c.received = [3, 0, 0, 0, 1, 2, 3, 1, 0, 0, 1, 14] ∧ c.handed = [[3, 0, 0, 1, 2, 3, 1]] ∧
      (packetFormat.cut c.received).1 = [[3, 0, 0, 0, 1, 2, 3], [1, 0, 0, 1, 14]] :=
  ⟨_, rfl, by decide, by decide, by decide⟩

end Connection

end MockProxy.DataStream
