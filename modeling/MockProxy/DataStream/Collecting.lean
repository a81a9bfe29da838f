import MockProxy.DataStream.Connection

/-!
# Collecting one packet

Plain packets and compressed frames are collected by the same code: a header of fixed size is taken
from the queue, it announces the size of the whole, and the rest is copied as it arrives. For a
format `F` this file has the invariant of the packet being collected (`Collecting F`) and what the
copying step does to it. The bytes received and not yet handed over, `unfinished`, stay the same.
-/

namespace MockProxy.DataStream

open Framing

namespace DataStreamIn

variable (ds : DataStreamIn)

def unfinished : List Byte := ds.pkt.bytes ++ ds.queueIN.contents

/-- A packet whose header was read, `filled` bytes of which are there; `le` is strict except inside
a call. -/
structure Collecting (F : Format Byte) (pkt : Pkt) (filled : Nat) : Prop where
  header : F.header ≤ pkt.bytes.length
  size : pkt.size = F.announced pkt.bytes
  filled : filled = pkt.bytes.length
  le : pkt.bytes.length ≤ pkt.size

def Framed (F : Format Byte) (ds : DataStreamIn) : Prop :=
  ds.pkt = Pkt.none ∨ (Collecting F ds.pkt ds.partialLen ∧ ds.pkt.bytes.length < ds.pkt.size)

variable {F : Format Byte} {ds ds' : DataStreamIn} {pkt : Pkt} {n : Nat}

theorem Framed.congr (framed : Framed F ds) (same : ds'.pkt = ds.pkt)
    (filled : ds'.partialLen = ds.partialLen) : Framed F ds' := by
  rwa [Framed, same, filled]

theorem Collecting.size_pos (collecting : Collecting F pkt n) : 0 < pkt.size := by
  have := F.header_pos
  have := collecting.header
  have := collecting.le
  omega

theorem Collecting.whole (collecting : Collecting F pkt n)
    (full : pkt.bytes.length = pkt.size) : F.Whole pkt.bytes :=
  ⟨collecting.header, full.trans collecting.size⟩

theorem collecting_of_header {hdr : List Byte} (length : hdr.length = F.header) :
    Collecting F ⟨F.total hdr, hdr⟩ F.header where
  header := Nat.le_of_eq length.symm
  size := by rw [Format.announced, ← length, List.take_length]
  filled := length.symm
  le := by
    simp only [length]
    exact F.header_le_total _

theorem Collecting.append (collecting : Collecting F pkt n) (bytes : List Byte)
    (fits : pkt.bytes.length + bytes.length ≤ pkt.size) :
    Collecting F ⟨pkt.size, pkt.bytes ++ bytes⟩ (n + bytes.length) where
  header := Nat.le_trans collecting.header (by simp)
  size := collecting.size.trans (announced_append collecting.header _).symm
  filled := by rw [collecting.filled, List.length_append]
  le := by simpa using fits

theorem collect_idle (idle : ds.pkt.size = 0) : ds.collect = (0, ds) := by
  rw [collect, if_neg (by omega)]

section

variable (collecting : Collecting F ds.pkt ds.partialLen)

include collecting

theorem collect_copies (some : 0 < ds.queueIN.data) :
    ds.collect = (min ds.queueIN.data (ds.pkt.size - ds.partialLen), { ds with
      queueIN := ds.queueIN.read (min ds.queueIN.data (ds.pkt.size - ds.partialLen))
      pkt := ⟨ds.pkt.size, ds.pkt.bytes ++
        ds.queueIN.contents.take (min ds.queueIN.data (ds.pkt.size - ds.partialLen))⟩
      partialLen := ds.partialLen + min ds.queueIN.data (ds.pkt.size - ds.partialLen) }) := by
  rw [collect, if_pos ⟨collecting.size_pos, some⟩]
  simp [memcpyAt, collecting.filled]

/-- What copying into the packet comes to: the packet is full, or the queue is empty. -/
theorem Collecting.collect :
    Collecting F ds.collect.2.pkt ds.collect.2.partialLen ∧
      ds.collect.2.unfinished = ds.unfinished ∧
    (ds.collect.2.pkt.bytes.length = ds.collect.2.pkt.size ∨ ds.collect.2.queueIN.data = 0) ∧
    ∃ q p n, ds.collect.2 = { ds with queueIN := q, pkt := p, partialLen := n } := by
  by_cases some : 0 < ds.queueIN.data
  · rw [collect_copies collecting some]
    generalize amount : min ds.queueIN.data (ds.pkt.size - ds.partialLen) = b
    have filled := collecting.filled
    have le := collecting.le
    have copied : (ds.queueIN.contents.take b).length = b := by
      rw [List.length_take, LinearQueue.length_contents]
      omega
    refine ⟨?_, ?_, ?_, _, _, _, rfl⟩
    · have more := collecting.append (ds.queueIN.contents.take b) (by omega)
      rwa [copied] at more
    · simp [unfinished, List.take_append_drop]
    · simp only [List.length_append, LinearQueue.data_read]
      omega
  · have empty : ds.queueIN.data = 0 := by omega
    have same : ds.collect = (0, ds) := by
      rw [DataStreamIn.collect, if_neg (by omega)]
    rw [same]
    exact ⟨collecting, rfl, .inr empty, _, _, _, rfl⟩

theorem Collecting.collect_pos (room : ds.pkt.bytes.length < ds.pkt.size)
    (some : 0 < ds.queueIN.data) : 0 < ds.collect.1 := by
  rw [collect_copies collecting some, collecting.filled]
  exact Nat.lt_min.mpr ⟨some, by omega⟩

end

theorem Framed.unfinished_of_empty (framed : Framed F ds) (empty : ds.queueIN.data = 0) :
    F.Unfinished ds.unfinished := by
  rw [unfinished, LinearQueue.contents_eq_nil.mpr empty]
  rcases framed with none | ⟨collecting, room⟩
  · rw [none]
    exact unfinished_nil
  · exact unfinished_of_short collecting.header (by simpa [← collecting.size] using room)

theorem compactQueue_same :
    ∃ q, ds.compactQueue = { ds with queueIN := q } ∧ q.contents = ds.queueIN.contents ∧
      q.size = ds.queueIN.size ∧ q.data = ds.queueIN.data := by
  unfold compactQueue
  split
  · exact ⟨_, rfl, rfl, rfl, ds.queueIN.data_zero⟩
  · exact ⟨_, rfl, rfl, rfl, rfl⟩

theorem compactQueue_pkt :
    ds.compactQueue.pkt = ds.pkt ∧ ds.compactQueue.partialLen = ds.partialLen ∧
      ds.compactQueue.queueIN.data = ds.queueIN.data := by
  obtain ⟨q, same, -, -, data⟩ := ds.compactQueue_same
  rw [same]
  exact ⟨rfl, rfl, data⟩

theorem Stores.unfinished {bytes : List Byte} (stores : Stores ds bytes ds') :
    ds'.unfinished = ds.unfinished ++ bytes := by
  obtain ⟨a, f, n, same⟩ := stores.others
  rw [DataStreamIn.unfinished, DataStreamIn.unfinished, stores.contents, same, List.append_assoc]

/-! ### The packet step -/

variable {z : Zlib} {r : Nat}

theorem deliver_waits (full : Collecting F ds.collect.2.pkt ds.collect.2.partialLen)
    (room : ds.collect.2.pkt.bytes.length < ds.collect.2.pkt.size) :
    collectAndDeliver z (r, ds) = .ok (r + ds.collect.1, ds.collect.2) := by
  have notReady : ¬ (0 < ds.collect.2.pkt.size ∧
      ds.collect.2.pkt.size = ds.collect.2.partialLen) := by
    rw [full.filled]
    omega
  simp [collectAndDeliver, deliver, if_neg notReady]

/-- The header step `start` and the packet step behind it keep `P`, and return 0 only when they
leave the stream as it is because it has no header to start with. -/
theorem collectAndDeliver_start {P : DataStreamIn → Prop}
    (start : DataStreamIn → Nat × DataStreamIn)
    (ds : DataStreamIn)
    (waits : ∀ d, ¬ (d.pkt.size = 0 ∧ F.header ≤ d.queueIN.data) → start d = (0, d))
    (starts : ∀ {d}, P d → d.pkt = Pkt.none → F.header ≤ d.queueIN.data →
      ∃ d', start d = (F.header, d') ∧ P d' ∧ Collecting F d'.pkt d'.partialLen)
    (delivers : ∀ {d r}, P d → Collecting F d.pkt d.partialLen →
      ∃ d', collectAndDeliver z (r, d) = .ok (r + d.collect.1, d') ∧ P d' ∧ Framed F d')
    (inv : P ds) (framed : Framed F ds) (some : ds.queueIN.data ≠ 0) :
    ∃ r d', collectAndDeliver z (start ds) = .ok (r, d') ∧ P d' ∧ Framed F d' ∧
      (r = 0 → d' = ds ∧ ds.pkt = Pkt.none ∧ ds.queueIN.data < F.header) := by
  rcases framed with idle | ⟨collecting, room⟩
  · by_cases short : ds.queueIN.data < F.header
    · -- not even a header: nothing is taken
      refine ⟨0, ds, ?_, inv, .inl idle, fun _ => ⟨rfl, idle, short⟩⟩
      rw [waits ds (by omega), collectAndDeliver, collect_idle (by rw [idle]; rfl), deliver,
        if_neg (by simp [idle, Pkt.none])]
      rfl
    · obtain ⟨d, started, inv', collecting⟩ := starts inv idle (Nat.not_lt.mp short)
      obtain ⟨d', done, inv'', framed'⟩ := delivers inv' collecting
      have := F.header_pos
      rw [started]
      exact ⟨_, d', done, inv'', framed', by omega⟩
  · -- a packet is under way, so a byte is copied
    have := collecting.collect_pos room (by omega)
    obtain ⟨d', done, inv', framed'⟩ := delivers inv collecting
    rw [waits ds (by omega)]
    exact ⟨_, d', done, inv', framed', by omega⟩

end DataStreamIn

end MockProxy.DataStream
