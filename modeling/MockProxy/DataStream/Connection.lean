import MockProxy.DataStream.Buffer2Array
import MockProxy.Lib.Machine

/-!
# A client connection over time

The thread calls `read_from_net` and then `read_pkts` each time the socket has something; in between
the session takes packets from `PSarrayIN` and may switch the stream to TLS, to compression or to
fast forward. `Connection` adds to the state of the stream what went in and out of it so far.

The second half of the file has what holds of a call in every mode: `buffer2array` returns the
number of bytes it takes out of the queue, and `read_pkts` runs until it returns 0.
-/

namespace MockProxy.DataStream

open Machine LinearQueue

inductive Event where
  -- `process_data_on_data_stream`: `read_from_net` and `read_pkts`
  | read (io : NetInput)
  -- The session removes the first packet of `PSarrayIN`.
  | take
  | setEncrypted (on : Bool)
  | setCompression (on : Bool)
  | setFastForward (on : Bool)

structure Connection where
  ds : DataStreamIn
  -- The packets the session has taken.
  taken : List (List Byte)
  -- The bytes the socket has delivered.
  received : List Byte

namespace Connection

def init : Connection := ⟨DataStreamIn.init, [], []⟩

def handed (c : Connection) : List (List Byte) := c.taken ++ c.ds.packets

def step (z : Zlib) (c : Connection) : Event → Except Fault Connection
  | .read io =>
    -- an inactive stream makes the thread mark the session unhealthy and destroy it
    if c.ds.active ∧ c.ds.healthy then do
      let call := c.ds.readFromNet io
      let (_, ds) ← call.result
      let (_, ds) ← ds.readPkts z
      return ⟨ds, c.taken, c.received ++ call.delivered⟩
    else .ok c
  | .take =>
    match c.ds.psArrayIN with
    | [] => .ok c
    | b :: rest => .ok ⟨{ c.ds with psArrayIN := rest }, c.taken ++ [b.data], c.received⟩
  | .setEncrypted on => .ok { c with ds := { c.ds with encrypted := on } }
  | .setCompression on => .ok { c with ds := { c.ds with compression := on } }
  | .setFastForward on => .ok { c with ds := { c.ds with fastForward := on } }

theorem step_read_eq_ok {z : Zlib} {c c' : Connection} {io : NetInput}
    (open' : c.ds.active ∧ c.ds.healthy) (stepped : c.step z (.read io) = .ok c') :
    ∃ r ds rc ds', (c.ds.readFromNet io).result = .ok (r, ds) ∧ ds.readPkts z = .ok (rc, ds') ∧
      c' = ⟨ds', c.taken, c.received ++ (c.ds.readFromNet io).delivered⟩ := by
  simp only [step, if_pos open'] at stepped
  obtain ⟨⟨r, ds⟩, called, stepped⟩ := bind_eq_ok.mp stepped
  obtain ⟨⟨rc, ds'⟩, drained, stepped⟩ := bind_eq_ok.mp stepped
  exact ⟨r, ds, rc, ds', called, drained, (Except.ok.inj stepped).symm⟩

theorem step_take_returns (z : Zlib) (c : Connection) : ∃ c', c.step z .take = .ok c' := by
  simp only [step]
  split <;> exact ⟨_, rfl⟩

theorem handed_take {z : Zlib} {c c' : Connection} (stepped : c.step z .take = .ok c') :
    c'.handed = c.handed ∧ c'.received = c.received ∧
      ∃ blocks, c'.ds = { c.ds with psArrayIN := blocks } := by
  simp only [step] at stepped
  split at stepped
  next empty =>
    cases stepped
    exact ⟨rfl, rfl, c.ds.psArrayIN, rfl⟩
  next b rest found =>
    cases stepped
    simp [handed, DataStreamIn.packets, found]

end Connection

namespace DataStreamIn

/-! ### What a call takes from the queue -/

/-- `ds'` is left in the same mode after `r` bytes were taken from the queue of `ds`. -/
structure Takes (ds : DataStreamIn) (r : Nat) (ds' : DataStreamIn) : Prop where
  contents : ds'.queueIN.contents = ds.queueIN.contents.drop r
  size : ds'.queueIN.size = ds.queueIN.size
  le : r ≤ ds.queueIN.data
  fastForward : ds'.fastForward = ds.fastForward

variable (ds : DataStreamIn)

theorem Takes.none : Takes ds 0 ds := ⟨rfl, rfl, Nat.zero_le _, rfl⟩

variable {ds ds' : DataStreamIn} {r : Nat} {z : Zlib} {P Q : DataStreamIn → Prop}

theorem Takes.trans {ds'' : DataStreamIn} {r' : Nat} (first : Takes ds r ds')
    (second : Takes ds' r' ds'') : Takes ds (r + r') ds'' := by
  have left : ds'.queueIN.data = ds.queueIN.data - r := by
    rw [← length_contents, first.contents, List.length_drop,
      length_contents]
  have := first.le
  have := second.le
  refine ⟨?_, second.size.trans first.size, by omega, second.fastForward.trans first.fastForward⟩
  rw [second.contents, first.contents, List.drop_drop]

/-- Taking `n` bytes with `queue_r`. -/
theorem Takes.read {n : Nat} (le : n ≤ ds.queueIN.data) (queue : ds'.queueIN = ds.queueIN.read n)
    (mode : ds'.fastForward = ds.fastForward) : Takes ds n ds' :=
  ⟨by rw [queue, contents_read], by rw [queue, size_read], le, mode⟩

theorem findDelimiter_le {i b : Nat} {bytes : List Byte} (found : findDelimiter i bytes = some b) :
    b ≤ i + bytes.length := by
  induction bytes generalizing i with
  | nil => simp [findDelimiter] at found
  | cons c rest ih =>
    cases rest with
    | nil => simp [findDelimiter] at found
    | cons d rest =>
      simp only [findDelimiter] at found
      split at found
      next here =>
        obtain rfl := Option.some.inj found
        simp
      next later =>
        have bound := ih found
        simp only [List.length_cons] at bound ⊢
        omega

theorem unpack_eq_ok {fuel : Nat} {rest : List Byte} (unpacked : unpack fuel ds rest = .ok ds') :
    ∃ p n blocks, ds' = { ds with compPkt := p, compPartialLen := n, psArrayIN := blocks } := by
  induction fuel generalizing ds rest with
  | zero =>
    cases unpacked
    exact ⟨_, _, _, rfl⟩
  | succ fuel ih =>
    simp only [unpack] at unpacked
    split at unpacked
    · cases unpacked
      exact ⟨_, _, _, rfl⟩
    · split at unpacked
      · split at unpacked
        · cases unpacked
        · split at unpacked
          · obtain ⟨p, n, blocks, rfl⟩ := ih unpacked
            exact ⟨p, n, blocks, rfl⟩
          · cases unpacked
            exact ⟨_, _, _, rfl⟩
      · split at unpacked
        · obtain ⟨p, n, blocks, rfl⟩ := ih unpacked
          exact ⟨p, n, blocks, rfl⟩
        · cases unpacked
          exact ⟨_, _, _, rfl⟩

/-- What `deliver` leaves alone. -/
structure Delivered (ds ds' : DataStreamIn) : Prop where
  queue : ds'.queueIN = ds.queueIN
  partialLen : ds'.partialLen = ds.partialLen
  pktsRecv : ds.pktsRecv ≤ ds'.pktsRecv
  healthy : ds'.healthy = ds.healthy
  fastForward : ds'.fastForward = ds.fastForward
  size : ds'.pkt.size = ds.pkt.size ∨ ds.pktsRecv < ds'.pktsRecv

theorem deliver_eq_ok (done : ds.deliver z = .ok ds') : Delivered ds ds' := by
  unfold deliver at done
  split at done
  · split at done
    · obtain ⟨payload, _, done⟩ := bind_eq_ok.mp done
      cases payload with
      | none =>
        cases done
        exact ⟨rfl, rfl, le_rfl, rfl, rfl, .inl rfl⟩
      | some payload =>
        obtain ⟨mid, unpacked, done⟩ := bind_eq_ok.mp done
        obtain ⟨p, n, blocks, rfl⟩ := unpack_eq_ok unpacked
        cases done
        exact ⟨rfl, rfl, Nat.le_succ _, rfl, rfl, .inr (lt_add_one _)⟩
    · cases done
      exact ⟨rfl, rfl, Nat.le_succ _, rfl, rfl, .inr (lt_add_one _)⟩
  · cases done
    exact ⟨rfl, rfl, le_rfl, rfl, rfl, .inl rfl⟩

theorem compactQueue_takes : Takes ds 0 ds.compactQueue := by
  unfold compactQueue
  split
  · exact ⟨by simp, rfl, Nat.zero_le _, rfl⟩
  · exact Takes.none ds

theorem collect_takes : Takes ds ds.collect.1 ds.collect.2 := by
  unfold collect
  split
  · exact Takes.read (Nat.min_le_left _ _) rfl rfl
  · exact Takes.none ds

theorem startFrame_takes : Takes ds ds.startFrame.1 ds.startFrame.2 := by
  unfold startFrame
  split
  next there => exact Takes.read there.2 rfl rfl
  next => exact Takes.none ds

theorem startPacket_takes : Takes ds ds.startPacket.1 ds.startPacket.2 := by
  unfold startPacket
  split
  next there => exact Takes.read there.2 rfl rfl
  next => exact Takes.none ds

theorem skipProxyHeader_takes (proxy : ds.isProxyHeader) :
    Takes ds ds.skipProxyHeader.1 ds.skipProxyHeader.2 := by
  simp only [isProxyHeader, decide_eq_true_eq] at proxy
  unfold skipProxyHeader
  split
  next b found =>
    have bound := findDelimiter_le found
    have room := head_eq ds.queueIN
    refine Takes.read ?_ rfl rfl
    rw [List.length_drop, ← head] at bound
    omega
  next => exact ⟨rfl, rfl, Nat.zero_le _, rfl⟩

theorem collectAndDeliver_takes {step : Nat × DataStreamIn} (started : Takes ds step.1 step.2)
    (done : collectAndDeliver z step = .ok (r, ds')) : Takes ds r ds' := by
  obtain ⟨mid, delivered, ⟨⟩⟩ := return_eq_ok.mp done
  have collected := started.trans step.2.collect_takes
  obtain ⟨same, -, -, -, mode, -⟩ := deliver_eq_ok delivered
  exact ⟨by rw [same, collected.contents], by rw [same, collected.size], collected.le,
    mode.trans collected.fastForward⟩

/-- A call of `buffer2array` returns the number of bytes it takes out of the queue. -/
theorem buffer2array_takes (done : ds.buffer2array z = .ok (r, ds')) : Takes ds r ds' := by
  unfold buffer2array at done
  split at done
  · cases done
    exact Takes.none ds
  · suffices rest : Takes ds.compactQueue r ds' by simpa using ds.compactQueue_takes.trans rest
    simp only at done
    split at done
    · obtain ⟨blocks, _, ⟨⟩⟩ := return_eq_ok.mp done
      exact Takes.read (by simp) rfl rfl
    · split at done
      · exact collectAndDeliver_takes ds.compactQueue.startFrame_takes done
      · split at done
        next proxy =>
          have skipped := skipProxyHeader_takes proxy.2.2
          rwa [Except.ok.inj done] at skipped
        next => exact collectAndDeliver_takes ds.compactQueue.startPacket_takes done

/-! ### Rules for the loop -/

section

variable (call : ∀ ds, P ds → ∃ r ds', ds.buffer2array z = .ok (r, ds') ∧ (r = 0 → Q ds') ∧
    (r ≠ 0 → P ds'))

include call

theorem readPktsFuel_ok : ∀ fuel ds, ds.queueIN.data < fuel → P ds →
      ∃ rc ds', readPktsFuel z fuel ds = .ok (rc, ds') ∧ Q ds' := by
  intro fuel
  induction fuel with
  | zero => intro ds enough; omega
  | succ fuel ih =>
    intro ds enough holds
    obtain ⟨r, mid, called, exits, goesOn⟩ := call ds holds
    by_cases last : r = 0
    · refine ⟨0, mid, ?_, exits last⟩
      simp [readPktsFuel, called, last]
    · have took := buffer2array_takes called
      have less : mid.queueIN.data < fuel := by
        have := took.le
        rw [← length_contents, took.contents, List.length_drop,
          length_contents]
        omega
      obtain ⟨rc, ds', ran, post⟩ := ih mid less (goesOn last)
      refine ⟨r + rc, ds', ?_, post⟩
      simp [readPktsFuel, called, last, ran]

/-- To show that `read_pkts` returns with `Q`: a call in a state with `P` returns, with `Q` if it
returns 0 and with `P` again if not. -/
theorem readPkts_ok (start : P ds) : ∃ rc ds', ds.readPkts z = .ok (rc, ds') ∧ Q ds' :=
  readPktsFuel_ok call _ ds (lt_add_one _) start

end

variable (keeps : ∀ ds r ds', P ds → ds.buffer2array z = .ok (r, ds') → P ds')
    (exits : ∀ ds ds', P ds → ds.buffer2array z = .ok (0, ds') → Q ds')

include keeps exits

theorem readPktsFuel_post : ∀ fuel ds rc ds', ds.queueIN.data < fuel → P ds →
      readPktsFuel z fuel ds = .ok (rc, ds') → Q ds' := by
  intro fuel
  induction fuel with
  | zero => intro ds rc ds' enough; omega
  | succ fuel ih =>
    intro ds rc ds' enough holds ran
    obtain ⟨⟨r, mid⟩, called, ran⟩ := bind_eq_ok.mp ran
    by_cases last : r = 0
    · subst last
      cases ran
      exact exits ds _ holds called
    · simp only [last] at ran
      obtain ⟨⟨rc', ds''⟩, more, ⟨⟩⟩ := return_eq_ok.mp ran
      have took := buffer2array_takes called
      refine ih mid _ _ ?_ (keeps ds r mid holds called) more
      have := took.le
      rw [← length_contents, took.contents, List.length_drop,
        length_contents]
      omega

/-- When `read_pkts` returns, its last call returned 0; `P` is a loop invariant. -/
theorem readPkts_post {rc : Nat} (start : P ds) (ran : ds.readPkts z = .ok (rc, ds')) : Q ds' :=
  readPktsFuel_post keeps exits _ ds rc ds' (lt_add_one _) start ran

end DataStreamIn

end MockProxy.DataStream
