import MockProxy.DataStream.Basic

/-!
# Streams of numbered packets

A server's reply is a sequence of packets whose sequence ids count up modulo 256. `stream` writes
such a sequence, `Numbered` says of any bytes that they are one: cut at their length headers they
leave no rest, the ids count up, and the lengths in the headers add up to the size.
-/

namespace MockProxy.DataStream

open Framing LittleEndian List

/-- A `mysql_hdr` as it is stored. -/
def hdrBytes (length : Nat) (id : Byte) : List Byte := toBytes 3 length ++ [id]

def packet (id : Byte) (payload : List Byte) : List Byte := hdrBytes payload.length id ++ payload

/-- The payloads as packets, numbered from `id` on. -/
def packets : Byte → List (List Byte) → List (List Byte)
  | _, [] => []
  | id, p :: ps => packet id p :: packets (id + 1) ps

def stream (id : Byte) (payloads : List (List Byte)) : List Byte := (packets id payloads).flatten

def Short (payload : List Byte) : Prop := payload.length < 2 ^ 24

@[simp] theorem length_hdrBytes (length : Nat) (id : Byte) : (hdrBytes length id).length = 4 := by
  simp [hdrBytes]

variable (id : Byte)

@[simp] theorem length_packet (p : List Byte) : (packet id p).length = 4 + p.length := by
  simp [packet]

@[simp] theorem stream_nil : stream id [] = [] := rfl

@[simp] theorem stream_cons (p : List Byte) (ps : List (List Byte)) :
    stream id (p :: ps) = packet id p ++ stream (id + 1) ps := rfl

theorem stream_append (ps qs : List (List Byte)) :
    stream id (ps ++ qs) = stream id ps ++ stream (id + UInt8.ofNat ps.length) qs := by
  induction ps generalizing id with
  | nil => simp
  | cons p ps ih =>
    have next : id + UInt8.ofNat (ps.length + 1) = id + 1 + UInt8.ofNat ps.length := by
      rw [UInt8.ofNat_add, UInt8.add_comm (UInt8.ofNat ps.length), ← UInt8.add_assoc]
      rfl
    rw [cons_append, stream_cons, stream_cons, ih, append_assoc, length_cons, next]

variable (ps : List (List Byte))

theorem length_stream : (stream id ps).length = (ps.map fun p => 4 + p.length).sum := by
  induction ps generalizing id with
  | nil => rfl
  | cons p ps ih => rw [stream_cons, length_append, length_packet, ih, map_cons, sum_cons]

theorem length_le_stream : ps.length ≤ (stream id ps).length := by
  induction ps generalizing id with
  | nil => exact le_rfl
  | cons p ps ih =>
    have rest := ih (id + 1)
    rw [stream_cons, length_append, length_packet, length_cons]
    omega

theorem pktLength_hdrBytes {length : Nat} (short : length < 2 ^ 24) (id : Byte) (rest : List Byte) :
    pktLength (hdrBytes length id ++ rest) = length := by
  have field : (hdrBytes length id ++ rest).take 3 = toBytes 3 length := by
    simp [hdrBytes, append_assoc]
  rw [pktLength, field, ofBytes_toBytes]
  exact Nat.mod_eq_of_lt short

theorem pktId_hdrBytes (length : Nat) (id : Byte) (rest : List Byte) :
    pktId (hdrBytes length id ++ rest) = id := by
  simp [pktId, hdrBytes, toBytes]

theorem whole_packet {p : List Byte} (short : Short p) : packetFormat.Whole (packet id p) := by
  constructor
  · simp [packetFormat, hdrSize]
  · rw [announced_packet, packet, pktLength_hdrBytes short, ← packet, length_packet, hdrSize]
    omega

/-! ### Streams are numbered -/

/-- The bytes are whole packets with consecutive ids, which declare `size` bytes altogether. -/
structure Numbered (bytes : List Byte) (size : Nat) : Prop where
  whole : (packetFormat.cut bytes).2 = []
  consecutive : (packetFormat.cut bytes).1.IsChain fun p q => pktId q = pktId p + 1
  sizes : ((packetFormat.cut bytes).1.map fun p => hdrSize + pktLength p).sum = size

theorem cut_stream {ps : List (List Byte)} (short : ∀ p ∈ ps, Short p) :
    packetFormat.cut (stream id ps) = (packets id ps, []) := by
  refine cut_eq_of_cuts ⟨(append_nil _).symm, ?_⟩ unfinished_nil
  induction ps generalizing id with
  | nil => simp [packets]
  | cons p ps ih =>
    rw [packets, forall_mem_cons]
    rw [forall_mem_cons] at short
    exact ⟨whole_packet id short.1, ih (id + 1) short.2⟩

theorem consecutive_packets : (packets id ps).IsChain fun p q => pktId q = pktId p + 1 := by
  induction ps generalizing id with
  | nil => exact .nil
  | cons p ps ih =>
    cases ps with
    | nil => exact .singleton _
    | cons q ps =>
      refine isChain_cons_cons.mpr ⟨?_, ih (id + 1)⟩
      rw [packet, packet, pktId_hdrBytes, pktId_hdrBytes]

theorem sizes_packets {ps : List (List Byte)} (short : ∀ p ∈ ps, Short p) :
    ((packets id ps).map fun p => hdrSize + pktLength p).sum = (stream id ps).length := by
  induction ps generalizing id with
  | nil => rfl
  | cons p ps ih =>
    rw [forall_mem_cons] at short
    rw [packets, map_cons, sum_cons, ih (id + 1) short.2, stream_cons,
      length_append, length_packet, packet, pktLength_hdrBytes short.1, hdrSize]

theorem numbered_stream {ps : List (List Byte)} (short : ∀ p ∈ ps, Short p) :
    Numbered (stream id ps) (stream id ps).length := by
  have cut := cut_stream id short
  constructor
  · rw [cut]
  · rw [cut]
    exact consecutive_packets id ps
  · rw [cut]
    exact sizes_packets id short

end MockProxy.DataStream
