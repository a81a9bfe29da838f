import MockProxy.DataStream.Buffer2Array

/-!
# Frames of the compressed protocol

A frame is the length of its body, a sequence number, the length of the body before compression
(0 for a body that is not compressed) and the body. `decodeFrame` is what the protocol says a frame
means; `DataStreamIn.framePayload` is what the proxy makes of it.
-/

namespace MockProxy.DataStream

open Framing LittleEndian

theorem header_le_frame (hdr : List Byte) : 7 ≤ pktLength hdr + hdrSize + 3 := by
  simp only [hdrSize]
  omega

def frameFormat : Format Byte where
  header := 7
  total hdr := pktLength hdr + hdrSize + 3
  header_pos := by decide
  header_le_total := header_le_frame

def frameBytes (id : Byte) (plainLength : Nat) (body : List Byte) : List Byte :=
  toBytes 3 body.length ++ [id] ++ toBytes 3 plainLength ++ body

/-- The payload a frame stands for. -/
def decodeFrame (z : Zlib) (frame : List Byte) : Option (List Byte) :=
  let plainLength := ofBytes ((frame.drop 4).take 3)
  if plainLength = 0 then some (frame.drop 7)
  else (z.uncompress plainLength (frame.drop 7)).filter (·.length = plainLength)

def decodeStream (z : Zlib) (stream : List Byte) : Option (List Byte) :=
  let (frames, rest) := frameFormat.cut stream
  if rest = [] then (frames.mapM (decodeFrame z)).map List.flatten else none

/-! ### Reading a frame back -/

section

variable (id : Byte) (n : Nat) (body : List Byte)

theorem length_frameBytes : (frameBytes id n body).length = 7 + body.length := by
  simp [frameBytes]
  omega

theorem drop_frameBytes : (frameBytes id n body).drop 7 = body := by
  rw [frameBytes, List.drop_append_of_le_length (by simp)]
  simp

theorem plainLength_frameBytes : ofBytes (((frameBytes id n body).drop 4).take 3) = n % 2 ^ 24 := by
  have field : ((frameBytes id n body).drop 4).take 3 = toBytes 3 n := by
    simp [frameBytes, List.append_assoc, List.drop_append, List.take_append]
  rw [field, ofBytes_toBytes, show 256 ^ 3 = 2 ^ 24 from rfl]

theorem pktLength_frameBytes : pktLength (frameBytes id n body) = body.length % 2 ^ 24 := by
  have field : (frameBytes id n body).take 3 = toBytes 3 body.length := by
    simp [frameBytes, List.append_assoc]
  rw [pktLength, field, ofBytes_toBytes, show 256 ^ 3 = 2 ^ 24 from rfl]

theorem whole_frameBytes : frameFormat.Whole (frameBytes id n body) ↔ body.length < 2 ^ 24 := by
  have announced : frameFormat.announced (frameBytes id n body) = 7 + body.length % 2 ^ 24 := by
    simp only [Format.announced, frameFormat, hdrSize]
    rw [pktLength_take (by decide), pktLength_frameBytes]
    omega
  rw [Format.Whole, announced, length_frameBytes]
  simp only [frameFormat]
  omega

end

theorem DataStreamIn.framePayload_of_decodeFrame {z : Zlib} {frame payload : List Byte}
    (decoded : decodeFrame z frame = some payload) : framePayload z frame = .ok (some payload) := by
  simp only [decodeFrame] at decoded
  simp only [framePayload]
  split at decoded
  next raw => rw [if_pos raw, Option.some.inj decoded]
  next packed =>
    rw [Option.filter_eq_some_iff] at decoded
    rw [if_neg packed, decoded.1]
    simpa using decoded.2

/-! ### The frames a sender sends -/

/-- A piece of the stream of packets, sent as one frame. -/
structure SentFrame where
  id : Byte
  packed : Bool
  piece : List Byte
  deriving DecidableEq

namespace SentFrame

variable {z : Zlib} {f : SentFrame}

def bytes (z : Zlib) (f : SentFrame) : List Byte :=
  if f.packed then frameBytes f.id f.piece.length (z.compress f.piece)
    else frameBytes f.id 0 f.piece

/-- The lengths of the frame fit their fields, and a compressed frame is not empty: length 0 stands
for a frame that is not compressed. -/
def Fits (z : Zlib) (f : SentFrame) : Prop :=
  f.piece.length < 2 ^ 24 ∧
    (f.packed = true → f.piece ≠ [] ∧ (z.compress f.piece).length < 2 ^ 24)

theorem whole (fits : f.Fits z) : frameFormat.Whole (f.bytes z) := by
  unfold bytes
  split
  next packed => exact (whole_frameBytes _ _ _).mpr (fits.2 packed).2
  next => exact (whole_frameBytes _ _ _).mpr fits.1

theorem decode (lawful : z.Lawful) (fits : f.Fits z) :
    decodeFrame z (f.bytes z) = some f.piece := by
  unfold bytes
  split
  next packed =>
    have some : f.piece.length ≠ 0 := by simpa using (fits.2 packed).1
    have back := lawful.uncompress_compress f.piece.length f.piece le_rfl
    simp only [decodeFrame, plainLength_frameBytes, drop_frameBytes, Nat.mod_eq_of_lt fits.1,
      if_neg some, back]
    simp
  next => simp [decodeFrame, plainLength_frameBytes, drop_frameBytes]

end SentFrame

def sentBytes (z : Zlib) (frames : List SentFrame) : List Byte :=
  (frames.map (SentFrame.bytes z)).flatten

def sentPieces (frames : List SentFrame) : List Byte := (frames.map SentFrame.piece).flatten

theorem decodeStream_sentBytes {z : Zlib} {frames : List SentFrame} (lawful : z.Lawful)
    (fit : ∀ f ∈ frames, f.Fits z) : decodeStream z (sentBytes z frames) =
      some (sentPieces frames) := by
  have cut : frameFormat.cut (sentBytes z frames) = (frames.map (SentFrame.bytes z), []) := by
    refine cut_eq_of_cuts ⟨by rw [sentBytes, List.append_nil], ?_⟩ unfinished_nil
    intro bytes member
    obtain ⟨f, sent, rfl⟩ := List.mem_map.mp member
    exact SentFrame.whole (fit f sent)
  have decoded : (frames.map (SentFrame.bytes z)).mapM (decodeFrame z) =
      some (frames.map SentFrame.piece) := by
    clear cut
    induction frames with
    | nil => rfl
    | cons f later ih =>
      rw [List.map_cons, List.mapM_cons, SentFrame.decode lawful (fit f (by simp)),
        ih fun g member => fit g (by simp [member])]
      rfl
  simp [decodeStream, cut, decoded, sentPieces]

end MockProxy.DataStream
