import MockProxy.DataStream.Basic

/-!
# `read_from_net`

One call reads the socket once, or twice for the very first packet of an unencrypted stream: its
4-byte header and then as many bytes as the header announces. What the operating system and the TLS
library answer is input (`NetInput`).

The call asks for bytes to be stored behind `head` before it knows how many arrive. `NetRead.asked`
lists those requests, whether or not the call then completes, and `NetRead.delivered` the bytes the
peer sees as received: those the kernel (or the TLS library) has handed over.
-/

namespace MockProxy.DataStream

/-! ### The environment -/

/-- What the kernel has for one `recv`: bytes (none of them: end of the stream), or an error. -/
inductive Kernel where
  | ready (bytes : List Byte)
  -- -1 with `EINTR` or `EAGAIN`
  | wouldBlock
  -- -1 with another `errno`
  | failed
  deriving DecidableEq

namespace Kernel

/-- The bytes a `recv` of at most `asked` bytes stores. -/
def stored (asked : Nat) : Kernel → List Byte
  | ready bytes => bytes.take asked
  | wouldBlock | failed => []

/-- The value a `recv` of at most `asked` bytes returns. -/
def ret (asked : Nat) : Kernel → Int
  | ready bytes => (bytes.take asked).length
  | wouldBlock | failed => -1

def retryable (k : Kernel) : Bool := k = wouldBlock

end Kernel

/-- How the loop that hands the received bytes to the TLS library ends. -/
inductive BioLoop where
  | bioFailed
  | handshakeFailed
  | handshakePending
  | written
  deriving DecidableEq

/-- `enum sslstatus` -/
inductive SslStatus where
  | ok
  | wantIo
  | fail
  deriving DecidableEq

/-- The answers of the TLS library during one call. -/
structure TlsInput where
  -- `rbio_ssl->num_write > rbio_ssl->num_read`
  pending : Bool
  bioLoop : BioLoop
  -- What `SSL_read` has; no bytes for a return value below 1.
  plaintext : List Byte
  -- The return value of `SSL_read` when it has no bytes.
  sslReadRet : Int
  status : SslStatus
  -- `BIO_read` stops with `BIO_should_retry`.
  wbioRetry : Bool
  -- `SSL_ERROR_SYSCALL` with `EINTR`, with `EAGAIN` or with an empty error queue.
  interrupted : Bool
  -- `SSL_ERROR_WANT_READ` or `SSL_ERROR_WANT_WRITE`
  wantsMore : Bool

/-- The answers to one call of `read_from_net`. -/
structure NetInput where
  pollin : Bool
  pollhup : Bool
  first : Kernel
  -- Only consulted after the header of the very first packet.
  second : Kernel
  tls : TlsInput

def NetInput.plain (first second : Kernel) : NetInput where
  pollin := true
  pollhup := false
  first := first
  second := second
  tls := ⟨false, .bioFailed, [], -1, .fail, false, false, false⟩

/-! ### The call -/

/-- A request to store `length` bytes at `queue_w_ptr + offset`. -/
structure Store where
  offset : Nat
  length : Nat
  deriving DecidableEq, Repr

structure NetRead where
  asked : List Store
  delivered : List Byte
  result : Except Fault (Int × DataStreamIn)

def MY_SSL_BUFFER : Nat := 8192

namespace DataStreamIn

variable (ds : DataStreamIn) (io : NetInput)

/-- The end of the call when less than one byte was read. -/
def readNothing (r : Int) : DataStreamIn :=
  let ds :=
    if ds.encrypted then
      if io.tls.interrupted then ds
      else
        let ds := if r = 0 then ds.shutSoft else ds
        if io.tls.wantsMore then ds else ds.shutSoft
    else if r = 0 ∨ (r = -1 ∧ ¬ io.first.retryable) then ds.shutSoft
    else ds
  if io.pollhup then ds.shutSoft else ds

/-- The end of the call: `bytes` were stored at `queue_w_ptr` and `head` moves by `r`. -/
def readDone (r : Int) (bytes : List Byte) : Except Fault (Int × DataStreamIn) :=
  if r < 1 then .ok (r, ds.readNothing io r)
  else if room : bytes.length ≤ ds.queueIN.available then
    .ok (r, { ds with
      queueIN := ds.queueIN.write (bytes.take r.toNat)
        (Nat.le_trans (List.length_take_le' ..) room)
      bytesRecv := ds.bytesRecv + r.toNat })
  else .error .queueOverflow

/-- The header the call looks at after `bytes` were stored: the first four of the buffer. -/
def firstHdr (bytes : List Byte) : List Byte :=
  (ds.queueIN.stored ++ bytes).take hdrSize

/-- The unencrypted branch. -/
def readPlain : NetRead :=
  if ds.pktsRecv = 0 ∧ ds.partialLen = 0 then
    let r := io.first.ret hdrSize
    let bytes := io.first.stored hdrSize
    if r = 4 then
      let asked := pktLength (ds.firstHdr bytes)
      -- the two return values are added before either is compared with -1
      ⟨[⟨0, hdrSize⟩, ⟨hdrSize, asked⟩], bytes ++ io.second.stored asked,
        ds.readDone io (r + io.second.ret asked) (bytes ++ io.second.stored asked)⟩
    else ⟨[⟨0, hdrSize⟩], bytes, ds.readDone io r bytes⟩
  else
    let s := ds.queueIN.available
    ⟨[⟨0, s⟩], io.first.stored s, ds.readDone io (io.first.ret s) (io.first.stored s)⟩

/-- The encrypted branch, after the received bytes went to the TLS library: `SSL_read`. -/
def readSsl : NetRead :=
  let s := ds.queueIN.available
  let bytes := io.tls.plaintext.take s
  let r : Int := if bytes = [] then min io.tls.sslReadRet 0 else bytes.length
  ⟨[⟨0, s⟩], bytes,
    if io.tls.status = .wantIo ∧ io.tls.wbioRetry = false then .ok (-1, ds.shutSoft)
    else if io.tls.status = .fail then .ok (-1, ds.shutSoft)
    else ds.readDone io r bytes⟩

/-- The encrypted branch. -/
def readEncrypted : NetRead :=
  if ds.queueIN.available < MY_SSL_BUFFER then ⟨[], [], .ok (0, ds)⟩
  else
    let r := io.first.ret MY_SSL_BUFFER
    if r > 0 ∨ io.tls.pending then
      -- the loop over the received bytes is not entered when there are none
      if r > 0 ∧ (io.tls.bioLoop = .bioFailed ∨ io.tls.bioLoop = .handshakeFailed) then
        ⟨[], [], .ok (-1, ds.shutSoft)⟩
      else if r > 0 ∧ io.tls.bioLoop = .handshakePending then ⟨[], [], .ok (0, ds)⟩
      else ds.readSsl io
    else if r = 0 ∨ (r = -1 ∧ ¬ io.first.retryable) then ⟨[], [], .ok (-1, ds.shutSoft)⟩
    else ⟨[], [], ds.readDone io r []⟩

def readFromNet : NetRead :=
  if io.pollhup ∧ ¬ io.pollin then ⟨[], [], .ok (-1, ds.shutSoft)⟩
  else if ¬ io.pollin then ⟨[], [], .ok (0, ds)⟩
  else if ds.encrypted then ds.readEncrypted io
  else ds.readPlain io

/-! ### What a call changes -/

/-- `ds'` is `ds` with `bytes` behind its queue; the stream may have been shut. -/
structure Stores (ds : DataStreamIn) (bytes : List Byte) (ds' : DataStreamIn) : Prop where
  others : ∃ a f n, ds' = { ds with
    queueIN := ds'.queueIN, active := a, netFailure := f, bytesRecv := n }
  contents : ds'.queueIN.contents = ds.queueIN.contents ++ bytes
  tail : ds'.queueIN.tail = ds.queueIN.tail
  size : ds'.queueIN.size = ds.queueIN.size

variable (ds : DataStreamIn)

theorem Stores.none : Stores ds [] ds :=
  ⟨⟨_, _, _, rfl⟩, by simp, rfl, rfl⟩

theorem stores_shutSoft : Stores ds [] ds.shutSoft :=
  ⟨⟨_, _, _, rfl⟩, by simp [shutSoft], rfl, rfl⟩

theorem readNothing_eq (io : NetInput) (r : Int) :
    ds.readNothing io r = ds ∨ ds.readNothing io r = ds.shutSoft := by
  have twice : ds.shutSoft.shutSoft = ds.shutSoft := rfl
  unfold readNothing
  grind

theorem readDone_stores {ds ds' : DataStreamIn} {io : NetInput} {r r' : Int} {bytes : List Byte}
    (done : ds.readDone io r bytes = .ok (r', ds')) : Stores ds (bytes.take r.toNat) ds' := by
  unfold readDone at done
  split at done
  next nothing =>
    cases done
    rw [Int.toNat_of_nonpos (by omega)]
    rcases ds.readNothing_eq io r with same | shut
    · rw [same]; exact Stores.none ds
    · rw [shut]; exact stores_shutSoft ds
  next =>
    split at done
    next room =>
      cases done
      exact ⟨⟨_, _, _, rfl⟩, by simp, rfl, rfl⟩
    next => cases done

theorem readFromNet_stores {ds ds' : DataStreamIn} {io : NetInput} {r : Int}
    (done : (ds.readFromNet io).result = .ok (r, ds')) : ∃ bytes, Stores ds bytes ds' := by
  have returns {v : Int} {d : DataStreamIn} (stores : ∃ bytes, Stores ds bytes d)
      (returned : Except.ok (v, d) = (.ok (r, ds') : Except Fault _)) :
      ∃ bytes, Stores ds bytes ds' := by
    cases returned
    exact stores
  unfold readFromNet at done
  split at done
  · exact returns ⟨_, stores_shutSoft ds⟩ done
  · split at done
    · exact returns ⟨_, Stores.none ds⟩ done
    · split at done
      · simp only [readEncrypted, readSsl] at done
        split at done
        · exact returns ⟨_, Stores.none ds⟩ done
        · split at done
          · split at done
            · exact returns ⟨_, stores_shutSoft ds⟩ done
            · split at done
              · exact returns ⟨_, Stores.none ds⟩ done
              · split at done
                · exact returns ⟨_, stores_shutSoft ds⟩ done
                · split at done
                  · exact returns ⟨_, stores_shutSoft ds⟩ done
                  · exact ⟨_, readDone_stores done⟩
          · split at done
            · exact returns ⟨_, stores_shutSoft ds⟩ done
            · exact ⟨_, readDone_stores done⟩
      · simp only [readPlain] at done
        split at done
        · split at done <;> exact ⟨_, readDone_stores done⟩
        · exact ⟨_, readDone_stores done⟩

/-- A `recv` whose return value is the number of bytes it stored, with room for them. -/
theorem readDone_all (io : NetInput) {r : Int} {bytes : List Byte}
    (returned : r = bytes.length ∨ (r = -1 ∧ bytes = []))
    (room : bytes.length ≤ ds.queueIN.available) :
    ∃ ds', ds.readDone io r bytes = .ok (r, ds') ∧ Stores ds bytes ds' ∧
      (1 ≤ r → ds'.active = ds.active) := by
  have ok : ∃ ds', ds.readDone io r bytes = .ok (r, ds') ∧ (1 ≤ r → ds'.active = ds.active) := by
    unfold readDone
    split
    next none => exact ⟨_, rfl, by omega⟩
    next => exact ⟨_, rfl, fun _ => rfl⟩
  obtain ⟨ds', done, active⟩ := ok
  have stores := readDone_stores done
  rw [List.take_of_length_le] at stores
  · exact ⟨ds', done, stores, active⟩
  · rcases returned with rfl | ⟨-, rfl⟩
    · simp
    · simp

/-- A `recv` stores at most what was asked for and returns the number, or stores nothing. -/
theorem recv_returns (k : Kernel) (asked : Nat) :
    (k.ret asked = (k.stored asked).length ∨ (k.ret asked = -1 ∧ k.stored asked = [])) ∧
      (k.stored asked).length ≤ asked := by
  cases k with
  | ready bytes => exact ⟨.inl rfl, List.length_take_le _ _⟩
  | wouldBlock | failed => exact ⟨.inr ⟨rfl, rfl⟩, Nat.zero_le _⟩

end DataStreamIn

end MockProxy.DataStream
