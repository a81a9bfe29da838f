import MockProxy.DataStream.Frame
import MockProxy.Lib.Machine

/-!
# `generate_compressed_packet`

The blocks waiting in `PSarrayOUT` are put into frames: as many blocks as fit 10 MB make one frame,
and a block above 10 MB is split in two, the first 5 MB and the rest. Sizes are 32-bit unsigned
integers; the two lengths of a frame have 24 bits.

## Main result

`emits_iff`: the frames fit, decode to the blocks and use every block up exactly when each block
above 10 MB has a second part that fits, and no empty block stands last or before such a block. The
code has no limit on the size of a block.
-/

namespace MockProxy.DataStream

open Machine List

/-- An entry of `PSarrayOUT`; its size is an `unsigned int`. -/
structure PtrSize where
  data : List Byte
  size_lt : data.length < 2 ^ 32

def PtrSize.size (b : PtrSize) : Nat := b.data.length

def blockBytes (blocks : List PtrSize) : List Byte := (blocks.map PtrSize.data).flatten

def MAX_COMPRESSED_PACKET_SIZE : Nat := 10 * 1024 * 1024

/-- The result of an `unsigned int` operation. -/
def uint (n : Nat) : Nat := n % 2 ^ 32

/-- The first loop: `total_size`, `i` and the size of the last block looked at. -/
def scan : List PtrSize → (total i last : Nat) → Nat × Nat × Nat
  | [], total, i, last => (total, i, last)
  | b :: blocks, total, i, last =>
    if total < MAX_COMPRESSED_PACKET_SIZE then scan blocks (uint (total + b.size)) (i + 1) b.size
    else (total, i, last)

/-- `total_size` after the last block was taken out again if it is one too many. -/
def groupSize (blocks : List PtrSize) : Nat :=
  let (total, i, last) := scan blocks 0 0 0
  if 2 ≤ i ∧ MAX_COMPRESSED_PACKET_SIZE < total then uint (total + 2 ^ 32 - last) else total

/-- The second loop: blocks are removed and copied until `sourceLen` bytes are there. -/
def takeGroup (sourceLen : Nat) : List PtrSize → (source : List Byte) →
    Except Fault (List Byte × List PtrSize)
  | [], source => if sourceLen ≤ source.length then .ok (source, []) else .error .outOfBounds
  | b :: blocks, source =>
    if sourceLen ≤ source.length then .ok (source, b :: blocks)
    else if sourceLen < source.length + b.size then .error .blockOverflow
    else takeGroup sourceLen blocks (source ++ b.data)

/-- The size of the buffer given to `compress`. -/
def destLen (sourceLen : Nat) : Nat := uint (sourceLen * 120) / 100 + 12

variable (z : Zlib)

/-- `compress` into a buffer of `destLen`, and `assert(rc == Z_OK)`. -/
def compressPiece (id : Byte) (piece : List Byte) : Except Fault SentFrame :=
  if (z.compress piece).length ≤ destLen piece.length then .ok ⟨id, true, piece⟩
  else .error .assertion

/-- The frames that make up `queueOUT.pkt`, the blocks left and the sequence number reached. -/
def generateCompressedPacket (blocks : List PtrSize) (id : Byte) :
    Except Fault (List SentFrame × List PtrSize × Byte) :=
  if groupSize blocks ≤ MAX_COMPRESSED_PACKET_SIZE then do
    let (source, rest) ← takeGroup (groupSize blocks) blocks []
    let frame ← compressPiece z (id + 1) source
    return ([frame], rest, id + 1)
  else
    match blocks with
    | [] => .error .outOfBounds
    | b :: rest => do
      let len1 := MAX_COMPRESSED_PACKET_SIZE / 2
      let frame1 ← compressPiece z (id + 1) (b.data.take len1)
      let frame2 ← compressPiece z (id + 1 + 1) (b.data.drop len1)
      return ([frame1, frame2], rest, id + 1 + 1)

/-- Calls until no block is left emit `frames`. -/
inductive Drains (z : Zlib) : List PtrSize → Byte → List SentFrame → Prop where
  | done (id : Byte) : Drains z [] id []
  | call {blocks rest : List PtrSize} {id id' : Byte} {frames more : List SentFrame} :
      blocks ≠ [] → generateCompressedPacket z blocks id = .ok (frames, rest, id') →
      Drains z rest id' more → Drains z blocks id (frames ++ more)

/-! ### What is wanted, and when it is there -/

def LengthsFit (f : SentFrame) : Prop :=
  f.piece.length < 2 ^ 24 ∧ (z.compress f.piece).length < 2 ^ 24

def Emits (blocks : List PtrSize) (id : Byte) : Prop :=
  ∃ frames, Drains z blocks id frames ∧ (∀ f ∈ frames, LengthsFit z f) ∧
    decodeStream z (sentBytes z frames) = some (blockBytes blocks)

def SecondPartFits (b : PtrSize) : Prop :=
  (b.data.drop (MAX_COMPRESSED_PACKET_SIZE / 2)).length < 2 ^ 24 ∧
    (z.compress (b.data.drop (MAX_COMPRESSED_PACKET_SIZE / 2))).length < 2 ^ 24

/-- An empty block is followed by one of at most 10 MB, and larger blocks fit in two frames. -/
def Sendable (z : Zlib) : List PtrSize → Prop
  | [] => True
  | b :: blocks =>
    (b.size = 0 → ∃ next, blocks.head? = some next ∧ next.size ≤ MAX_COMPRESSED_PACKET_SIZE) ∧
    (MAX_COMPRESSED_PACKET_SIZE < b.size → SecondPartFits z b) ∧ Sendable z blocks

/-- zlib's worst case: five bytes for each 16 KB block it cannot compress, and six for the
stream. -/
def Zlib.Bounded : Prop :=
  ∀ src, (z.compress src).length ≤ src.length + 5 * (src.length / 16383 + 1) + 6

theorem Zlib.storing_bounded : Zlib.storing.Bounded := by
  intro src
  simp only [storing]
  omega

variable {z : Zlib} {blocks rest front : List PtrSize} {id : Byte}

@[simp] theorem blockBytes_nil : blockBytes [] = [] := rfl

@[simp] theorem blockBytes_cons (b : PtrSize) (blocks : List PtrSize) :
    blockBytes (b :: blocks) = b.data ++ blockBytes blocks := rfl

@[simp] theorem blockBytes_append (front back : List PtrSize) :
    blockBytes (front ++ back) = blockBytes front ++ blockBytes back := by
  simp [blockBytes]

theorem Sendable.append_right {back : List PtrSize} (sendable : Sendable z (front ++ back)) :
    Sendable z back := by
  induction front with
  | nil => exact sendable
  | cons b front ih => exact ih sendable.2.2

/-! ### How much goes into a frame -/

private def lastSize (blocks : List PtrSize) : Nat := (blocks.getLast?.map PtrSize.size).getD 0

/-- What the first loop knows of its counters, also when a sum wraps around: the total without the
last block was below the limit. -/
theorem scan_wraps (blocks : List PtrSize) : ∀ (total i last : Nat), 1 ≤ i →
    (∃ before < MAX_COMPRESSED_PACKET_SIZE, total = uint (before + last)) → last < 2 ^ 32 →
    ∃ total' i' last', scan blocks total i last = (total', i', last') ∧
      (∃ before < MAX_COMPRESSED_PACKET_SIZE, total' = uint (before + last')) ∧ last' < 2 ^ 32 ∧
      (i' = i ∧ total' = total ∨ 2 ≤ i') := by
  induction blocks with
  | nil => intro total i last _ before small; exact ⟨_, _, _, rfl, before, small, .inl ⟨rfl, rfl⟩⟩
  | cons b blocks ih =>
    intro total i last positive before small
    simp only [scan]
    split
    next below =>
      obtain ⟨total', i', last', ran, before', small', counts⟩ :=
        ih (uint (total + b.size)) (i + 1) b.size (by omega) ⟨total, below, rfl⟩ b.size_lt
      exact ⟨total', i', last', ran, before', small', .inr (by omega)⟩
    next => exact ⟨_, _, _, rfl, before, small, .inl ⟨rfl, rfl⟩⟩

theorem groupSize_le_or_single (blocks : List PtrSize) :
    groupSize blocks ≤ MAX_COMPRESSED_PACKET_SIZE ∨
      ∃ b rest, blocks = b :: rest ∧ groupSize blocks = b.size := by
  cases blocks with
  | nil => exact .inl (by decide)
  | cons b rest =>
    have small := b.size_lt
    have first : uint (0 + b.size) = b.size := by
      simp only [uint, PtrSize.size]
      omega
    have start : scan (b :: rest) 0 0 0 = scan rest b.size 1 b.size := by
      rw [scan, if_pos (by decide), first]
    obtain ⟨total, i, last, ran, ⟨before, below, sum⟩, small', counts⟩ :=
      scan_wraps rest b.size 1 b.size le_rfl ⟨0, by decide, first.symm⟩ small
    simp only [groupSize, start, ran]
    split
    next removed =>
      left
      simp only [uint] at sum below ⊢
      omega
    next kept =>
      rcases counts with ⟨one, same⟩ | two
      · exact .inr ⟨b, rest, rfl, same⟩
      · omega

/-! ### The condition is needed -/

/-- Blocks the second loop can copy are small, and it does not stop behind an empty one. -/
theorem takeGroup_sendable {sourceLen : Nat} {source copied : List Byte}
    (small : sourceLen ≤ MAX_COMPRESSED_PACKET_SIZE)
    (took : takeGroup sourceLen blocks source = .ok (copied, rest)) (sendable : Sendable z rest) :
    Sendable z blocks := by
  induction blocks generalizing source with
  | nil => trivial
  | cons b blocks ih =>
    simp only [takeGroup] at took
    split at took
    next =>
      cases took
      exact sendable
    next more =>
      split at took
      next => cases took
      next fits =>
        refine ⟨fun empty => ?_, fun big => absurd big (by omega), ih took⟩
        -- an empty block adds nothing, so the loop goes on to the next block
        have length : (source ++ b.data).length = source.length := by
          rw [length_append]
          exact Nat.add_eq_left.mpr empty
        cases blocks with
        | nil =>
          rw [takeGroup, length, if_neg more] at took
          cases took
        | cons next blocks =>
          rw [takeGroup, length, if_neg more] at took
          split at took
          next => cases took
          next fits' => exact ⟨next, rfl, by omega⟩

theorem compressPiece_eq_ok {piece : List Byte} {frame : SentFrame}
    (done : compressPiece z id piece = .ok frame) :
    frame = ⟨id, true, piece⟩ ∧ (z.compress piece).length ≤ destLen piece.length := by
  unfold compressPiece at done
  split at done
  next room => exact ⟨(Except.ok.inj done).symm, room⟩
  next => cases done

variable {frames : List SentFrame}

theorem generateCompressedPacket_cases {id' : Byte}
    (done : generateCompressedPacket z blocks id = .ok (frames, rest, id')) :
    (groupSize blocks ≤ MAX_COMPRESSED_PACKET_SIZE ∧ ∃ source,
      takeGroup (groupSize blocks) blocks [] = .ok (source, rest) ∧
      frames = [⟨id + 1, true, source⟩]) ∨
    (∃ b, blocks = b :: rest ∧ MAX_COMPRESSED_PACKET_SIZE < b.size ∧
      frames = [⟨id + 1, true, b.data.take (MAX_COMPRESSED_PACKET_SIZE / 2)⟩,
        ⟨id + 1 + 1, true, b.data.drop (MAX_COMPRESSED_PACKET_SIZE / 2)⟩]) := by
  unfold generateCompressedPacket at done
  split at done
  next small =>
    obtain ⟨⟨source, left⟩, took, done⟩ := bind_eq_ok.mp done
    obtain ⟨frame, packed, done⟩ := bind_eq_ok.mp done
    obtain ⟨rfl, -⟩ := compressPiece_eq_ok packed
    obtain ⟨rfl, rfl, -⟩ := done
    exact .inl ⟨small, source, took, rfl⟩
  next big =>
    obtain ⟨b, others, rfl, single⟩ := (groupSize_le_or_single blocks).resolve_left big
    obtain ⟨frame1, packed1, done⟩ := bind_eq_ok.mp done
    obtain ⟨frame2, packed2, done⟩ := bind_eq_ok.mp done
    obtain ⟨rfl, -⟩ := compressPiece_eq_ok packed1
    obtain ⟨rfl, -⟩ := compressPiece_eq_ok packed2
    obtain ⟨rfl, rfl, -⟩ := done
    exact .inr ⟨b, rfl, by omega, rfl⟩

theorem sendable_of_drains (drains : Drains z blocks id frames)
    (fit : ∀ f ∈ frames, LengthsFit z f) : Sendable z blocks := by
  induction drains with
  | done id => trivial
  | @call _ _ id _ _ _ some called _ ih =>
    have later := ih fun f member => fit f (mem_append_right _ member)
    rcases generateCompressedPacket_cases called with ⟨small, source, took, -⟩ | ⟨b, rfl, big, rfl⟩
    · exact takeGroup_sendable small took later
    · refine ⟨fun empty => by omega, fun _ => ?_, later⟩
      exact fit ⟨id + 1 + 1, true, b.data.drop (MAX_COMPRESSED_PACKET_SIZE / 2)⟩ (by simp)

/-! ### The condition is enough -/

theorem Sendable.bytes_pos (sendable : Sendable z blocks) (some : blocks ≠ []) :
    0 < (blockBytes blocks).length := by
  induction blocks with
  | nil => exact absurd rfl some
  | cons b blocks ih =>
    rw [blockBytes_cons, length_append]
    by_cases empty : b.size = 0
    · obtain ⟨next, head, -⟩ := sendable.1 empty
      have later := ih sendable.2.2 (by rintro rfl; cases head)
      omega
    · have : b.size = b.data.length := rfl
      omega

theorem Sendable.after_empty {next : PtrSize}
    (sendable : Sendable z (front ++ next :: rest)) (some : front ≠ [])
    (empty : (blockBytes front).length = 0) : next.size ≤ MAX_COMPRESSED_PACKET_SIZE := by
  induction front with
  | nil => exact absurd rfl some
  | cons b front ih =>
    rw [blockBytes_cons, length_append] at empty
    cases front with
    | nil =>
      have zero : b.size = 0 := by simp only [PtrSize.size]; omega
      obtain ⟨found, head, small⟩ := sendable.1 zero
      obtain rfl : next = found := by simpa using head
      exact small
    | cons c front => exact ih sendable.2.2 (by simp) (by omega)

theorem Sendable.size_small (sendable : Sendable z blocks) {b : PtrSize}
    (member : b ∈ blocks) : b.size < 22020096 := by
  induction blocks with
  | nil => cases member
  | cons c blocks ih =>
    rcases mem_cons.mp member with rfl | later
    · by_contra large
      have fits := (sendable.2.1 (by simp only [MAX_COMPRESSED_PACKET_SIZE]; omega)).1
      rw [length_drop] at fits
      simp only [PtrSize.size, MAX_COMPRESSED_PACKET_SIZE] at large fits
      omega
    · exact ih sendable.2.2 later

/-- Without wrapping around, the first loop adds up the blocks in front until the limit. -/
theorem scan_front (blocks : List PtrSize) : ∀ front : List PtrSize,
    (∀ b ∈ blocks, b.size < 22020096) → ∃ pre post, blocks = pre ++ post ∧
      scan blocks (blockBytes front).length front.length (lastSize front) =
        ((blockBytes (front ++ pre)).length, (front ++ pre).length, lastSize (front ++ pre)) ∧
      (post = [] ∨ MAX_COMPRESSED_PACKET_SIZE ≤ (blockBytes (front ++ pre)).length) ∧
      (pre ≠ [] → (blockBytes (front ++ pre).dropLast).length < MAX_COMPRESSED_PACKET_SIZE) := by
  induction blocks with
  | nil =>
    intro front _
    exact ⟨[], [], rfl, by simp [scan], .inl rfl, fun none => absurd rfl none⟩
  | cons b blocks ih =>
    intro front small
    simp only [scan]
    split
    next below =>
      have size := small b (by simp)
      obtain ⟨pre, post, split, ran, stops, before⟩ :=
        ih (front ++ [b]) fun c member => small c (by simp [member])
      have total : uint ((blockBytes front).length + b.size) =
          (blockBytes (front ++ [b])).length := by
        simp only [blockBytes_append, blockBytes_cons, blockBytes_nil, append_nil,
          length_append, uint, PtrSize.size, MAX_COMPRESSED_PACKET_SIZE] at below size ⊢
        omega
      have last : lastSize (front ++ [b]) = b.size := by simp [lastSize]
      have assoc : front ++ [b] ++ pre = front ++ (b :: pre) := by simp
      rw [← total, last, length_append, assoc] at ran
      rw [assoc] at stops before
      refine ⟨b :: pre, post, by rw [split, cons_append], ran, stops, fun _ => ?_⟩
      cases pre with
      | nil => simpa using below
      | cons c pre => exact before (by simp)
    next above =>
      exact ⟨[], b :: blocks, rfl, by simp, .inr (by simpa using Nat.not_lt.mp above),
        fun none => absurd rfl none⟩

theorem length_dropLast_lastSize {blocks : List PtrSize} (some : blocks ≠ []) :
    (blockBytes blocks).length = (blockBytes blocks.dropLast).length + lastSize blocks := by
  have split := dropLast_concat_getLast some
  have last : lastSize blocks = (blocks.getLast some).size := by
    simp [lastSize, getLast?_eq_some_getLast some]
  conv => lhs; rw [← split]
  simp [last, PtrSize.size]

theorem groupSize_front (sendable : Sendable z blocks) (some : blocks ≠ []) :
    ∃ front back, blocks = front ++ back ∧ groupSize blocks = (blockBytes front).length ∧
      0 < groupSize blocks := by
  obtain ⟨pre, post, split, ran, stops, before⟩ :=
    scan_front blocks [] fun b member => sendable.size_small member
  simp only [nil_append, blockBytes_nil, length_nil] at ran stops before
  have first : lastSize [] = 0 := rfl
  rw [first] at ran
  have none : pre ≠ [] := by
    rintro rfl
    rcases stops with rfl | zero
    · exact some split
    · exact absurd zero (by decide)
  have sum := length_dropLast_lastSize none
  have below := before none
  by_cases removed : 2 ≤ pre.length ∧ MAX_COMPRESSED_PACKET_SIZE < (blockBytes pre).length
  · -- the last block looked at is left for the next frame
    have parts : blocks = pre.dropLast ++ pre.getLast none :: post := by
      rw [append_cons, dropLast_concat_getLast, split]
    have last : lastSize pre = (pre.getLast none).size := by
      simp [lastSize, getLast?_eq_some_getLast none]
    have group : groupSize blocks = (blockBytes pre.dropLast).length := by
      simp only [groupSize, ran, if_pos removed, uint]
      simp only [MAX_COMPRESSED_PACKET_SIZE] at below
      omega
    refine ⟨pre.dropLast, pre.getLast none :: post, parts, group, ?_⟩
    by_contra zero
    have front : pre.dropLast ≠ [] :=
      ne_nil_of_length_pos (by rw [length_dropLast]; omega)
    have limit := Sendable.after_empty (parts ▸ sendable) front (by omega)
    omega
  · have group : groupSize blocks = (blockBytes pre).length := by
      simp [groupSize, ran, if_neg removed]
    refine ⟨pre, post, split, group, ?_⟩
    rw [group]
    by_contra zero
    rcases stops with rfl | limit
    · rw [append_nil] at split
      have := sendable.bytes_pos some
      rw [split] at this
      exact zero this
    · omega

theorem takeGroup_front (front back : List PtrSize) : ∀ (source : List Byte) (sourceLen : Nat),
    sourceLen = (source ++ blockBytes front).length →
    ∃ group left, front = group ++ left ∧ blockBytes left = [] ∧
      takeGroup sourceLen (front ++ back) source =
        .ok (source ++ blockBytes front, left ++ back) := by
  induction front with
  | nil =>
    rintro source sourceLen rfl
    cases back with
    | nil => simp [takeGroup]
    | cons b back => simp [takeGroup]
  | cons b front ih =>
    intro source sourceLen total
    by_cases done : sourceLen ≤ source.length
    · -- only empty blocks are left of the group
      have empty : blockBytes (b :: front) = [] := by
        rw [length_append] at total
        exact length_eq_zero_iff.mp (by omega)
      refine ⟨[], b :: front, rfl, empty, ?_⟩
      rw [cons_append, takeGroup, if_pos done, empty, append_nil]
    · rw [blockBytes_cons, ← append_assoc] at total
      obtain ⟨group, left, split, empty, took⟩ := ih (source ++ b.data) sourceLen total
      refine ⟨b :: group, left, by rw [split, cons_append], empty, ?_⟩
      have fits : ¬ sourceLen < source.length + b.size := by
        simp only [length_append, PtrSize.size] at total ⊢
        omega
      rw [cons_append, takeGroup, if_neg done, if_neg fits, took, blockBytes_cons,
        append_assoc]

theorem compressPiece_ok (bounded : z.Bounded) (id : Byte) {piece : List Byte}
    (small : piece.length < 2 ^ 24) : compressPiece z id piece = .ok ⟨id, true, piece⟩ := by
  have worst := bounded piece
  have noWrap : uint (piece.length * 120) = piece.length * 120 := Nat.mod_eq_of_lt (by omega)
  rw [compressPiece, if_pos]
  rw [destLen]
  omega

/-- A call on blocks that meet the condition emits frames that fit, carries some of the blocks in
front in them, and leaves fewer blocks. -/
theorem generateCompressedPacket_ok (bounded : z.Bounded) (id : Byte)
    (sendable : Sendable z blocks) (some : blocks ≠ []) :
    ∃ frames rest id', generateCompressedPacket z blocks id = .ok (frames, rest, id') ∧
      (∀ f ∈ frames, f.Fits z ∧ LengthsFit z f) ∧ Sendable z rest ∧ rest.length < blocks.length ∧
      sentPieces frames ++ blockBytes rest = blockBytes blocks := by
  by_cases small : groupSize blocks ≤ MAX_COMPRESSED_PACKET_SIZE
  · obtain ⟨front, back, split, group, pos⟩ := groupSize_front sendable some
    obtain ⟨taken, left, parts, empty, took⟩ :=
      takeGroup_front front back [] (groupSize blocks) (by rw [group, nil_append])
    rw [← split] at took
    have length : (blockBytes front).length ≤ MAX_COMPRESSED_PACKET_SIZE := group ▸ small
    have worst := bounded (blockBytes front)
    have fit : LengthsFit z ⟨id + 1, true, blockBytes front⟩ := by
      simp only [LengthsFit, MAX_COMPRESSED_PACKET_SIZE] at length ⊢
      exact ⟨by omega, by omega⟩
    have packed := compressPiece_ok bounded (id + 1) fit.1
    refine ⟨[⟨id + 1, true, blockBytes front⟩], left ++ back, id + 1, ?_, ?_, ?_, ?_, ?_⟩
    · simp [generateCompressedPacket, small, took, packed]
    · simp only [mem_singleton, forall_eq]
      refine ⟨⟨fit.1, fun _ => ⟨?_, fit.2⟩⟩, fit⟩
      exact ne_nil_of_length_pos (group ▸ pos)
    · rw [split, parts, append_assoc] at sendable
      exact sendable.append_right
    · have nonempty : taken ≠ [] := by
        rintro rfl
        rw [parts, nil_append, empty] at group
        simp only [length_nil] at group
        omega
      have := length_pos_of_ne_nil nonempty
      rw [split, parts]
      simp only [length_append]
      omega
    · rw [split]
      simp [sentPieces, empty]
  · obtain ⟨b, rest, rfl, single⟩ := (groupSize_le_or_single blocks).resolve_left small
    have big : MAX_COMPRESSED_PACKET_SIZE < b.size := by omega
    have second := sendable.2.1 big
    have first : LengthsFit z ⟨id + 1, true, b.data.take (MAX_COMPRESSED_PACKET_SIZE / 2)⟩ := by
      have worst := bounded (b.data.take (MAX_COMPRESSED_PACKET_SIZE / 2))
      have half : (b.data.take (MAX_COMPRESSED_PACKET_SIZE / 2)).length ≤ 5242880 :=
        length_take_le _ _
      exact ⟨by simp only; omega, by simp only; omega⟩
    have packed1 := compressPiece_ok bounded (id + 1) first.1
    have packed2 := compressPiece_ok bounded (id + 1 + 1) second.1
    refine ⟨[⟨id + 1, true, b.data.take (MAX_COMPRESSED_PACKET_SIZE / 2)⟩,
        ⟨id + 1 + 1, true, b.data.drop (MAX_COMPRESSED_PACKET_SIZE / 2)⟩], rest, id + 1 + 1, ?_, ?_,
      sendable.2.2, by simp, ?_⟩
    · simp [generateCompressedPacket, small, packed1, packed2]
    · have long : MAX_COMPRESSED_PACKET_SIZE < b.data.length := big
      simp only [MAX_COMPRESSED_PACKET_SIZE] at long
      simp only [mem_cons, not_mem_nil, or_false, forall_eq_or_imp, forall_eq]
      refine ⟨⟨⟨first.1, fun _ => ⟨?_, first.2⟩⟩, first⟩,
        ⟨second.1, fun _ => ⟨?_, second.2⟩⟩, second⟩
      all_goals
        apply ne_nil_of_length_pos
        simp only [length_take, length_drop, MAX_COMPRESSED_PACKET_SIZE]
        omega
    · simp [sentPieces]

theorem drains_of_sendable (bounded : z.Bounded) (id : Byte) (sendable : Sendable z blocks) :
    ∃ frames, Drains z blocks id frames ∧ (∀ f ∈ frames, f.Fits z ∧ LengthsFit z f) ∧
      sentPieces frames = blockBytes blocks := by
  induction length : blocks.length using Nat.strongRecOn generalizing blocks id with
  | ind n ih =>
    by_cases none : blocks = []
    · subst none
      exact ⟨[], .done id, by simp, rfl⟩
    obtain ⟨frames, rest, id', called, fit, sendable', less, carried⟩ :=
      generateCompressedPacket_ok bounded id sendable none
    obtain ⟨more, drains, fit', carried'⟩ := ih _ (length ▸ less) id' sendable' rfl
    refine ⟨frames ++ more, .call none called drains, forall_mem_append.mpr ⟨fit, fit'⟩, ?_⟩
    rw [← carried, ← carried']
    simp [sentPieces]

/-- The frames fit, decode to the blocks and use every block up exactly when the blocks above
10 MB fit in two frames and no empty block is in the way. -/
theorem emits_iff (lawful : z.Lawful) (bounded : z.Bounded) (blocks : List PtrSize) (id : Byte) :
    Emits z blocks id ↔ Sendable z blocks := by
  constructor
  · rintro ⟨frames, drains, fit, -⟩
    exact sendable_of_drains drains fit
  · intro sendable
    obtain ⟨frames, drains, fit, carried⟩ := drains_of_sendable bounded id sendable
    refine ⟨frames, drains, fun f member => (fit f member).2, ?_⟩
    rw [decodeStream_sentBytes lawful fun f member => (fit f member).1, carried]

/-- Two small blocks, the first one empty, go out in one frame. -/
theorem emits_small_blocks :
    Emits Zlib.storing [⟨[], by decide⟩, ⟨[1, 0, 0, 0, 14], by decide⟩] 0 := by
  refine (emits_iff Zlib.storing_lawful Zlib.storing_bounded _ 0).mpr ⟨fun _ => ?_, ?_, ?_, ?_, ?_⟩
  · exact ⟨_, rfl, by decide⟩
  · exact fun big => absurd big (by decide)
  · exact fun empty => absurd empty (by decide)
  · exact fun big => absurd big (by decide)
  · trivial

/-- One block of 21 MB, such as a row of that size: its second part has 2 ^ 24 bytes, one more than
a frame can announce. -/
def largeBlock : PtrSize := ⟨replicate 22020096 0, by rw [length_replicate]; decide⟩

theorem large_block_not_emitted : ¬ Emits Zlib.storing [largeBlock] 0 := by
  rintro ⟨frames, drains, fit, -⟩
  have length : largeBlock.data.length = 22020096 := length_replicate
  have second := (sendable_of_drains drains fit).2.1
    (by rw [PtrSize.size, length]; decide)
  have short := second.1
  rw [length_drop, length] at short
  exact absurd short (by decide)

end MockProxy.DataStream
