import MockProxy.Protocol.TextRows
import MockProxy.Session.FastForward

/-!
# Payloads of more than one packet

A payload of 0xFFFFFF bytes or more comes as full packets and a shorter one. `get_pkts_from_client`
keeps in `multi_pkt` what has come so far, over as many calls as it takes, and hands the whole to
the command when the shorter packet is there. The size of what is kept is an `unsigned int`, so this
works as long as the header and the payload have less than 2 ^ 32 bytes: beyond that the block is
allocated too small and the copy runs over its end (`foldlM_receive_pieces`).
-/

namespace MockProxy.Session.ClientSession

open DataStream Protocol List

/-- What a turn in `WAITING_CLIENT_DATA` does before the command is looked at: the packet for the
command, if there is one yet. -/
def arrived (pkt : Block) (s : ClientSession) : Except Fault (Option Block × ClientSession) := do
  let s ← if pkt.data.length = multiPacketSize then s.detectedMultiPacket else .ok s
  if s.dss = .sleepMultiPacket then
    let joined ← joinPkt s.multiPkt pkt
    if pkt.data.length = multiPacketSize then return (none, { s with multiPkt := some joined })
    else return (some joined, { s with multiPkt := none, dss := .sleep })
  else return (some pkt, s)

theorem onPkt_eq_arrived {s : ClientSession} (waiting : s.status = .waitingClientData)
    (asleep : s.dss = .sleep ∨ s.dss = .sleepMultiPacket) (i : PktInput) (pkt : Block) :
    onPkt i pkt s = (arrived pkt s >>= fun (pkt, s) =>
      match pkt with
      | some pkt => sleepPkt i pkt s
      | none => .ok (none, s)) := by
  rw [onPkt, if_pos waiting, arrived]
  rcases asleep with asleep | asleep
  all_goals
    split <;> simp only [detectedMultiPacket, asleep, waitingPkt, multiPacket, bind, Except.bind,
      pure, Except.pure, reduceCtorEq, if_true, if_false]
  all_goals cases joinPkt s.multiPkt pkt <;> simp [*]

/-- One more packet; the second component has what went to the commands. -/
def receive (st : ClientSession × List Block) (pkt : List Byte) :
    Except Fault (ClientSession × List Block) := do
  let (handed, s) ← arrived (.exact pkt) st.1
  return (s, st.2 ++ handed.toList)

/-- No packet is waiting for the rest of its payload. -/
def idle (s : ClientSession) : ClientSession := { s with dss := .sleep, multiPkt := none }

def holding (before : List Byte) (s : ClientSession) : ClientSession :=
  { s with dss := .sleepMultiPacket, multiPkt := some (.exact before) }

variable (s : ClientSession) (id : Byte) (out : List Block)

theorem joinPkt_exact (before p : List Byte) :
    joinPkt (some (.exact before)) (.exact (packet id p)) =
      if before.length + p.length < 2 ^ 32 then .ok (.exact (before ++ p))
      else .error .blockOverflow := by
  have rest : (packet id p).drop hdrSize = p := drop_left' (length_hdrBytes _ _)
  have size : (packet id p).length + before.length - hdrSize = before.length + p.length := by
    rw [length_packet, hdrSize]
    omega
  simp only [joinPkt, Block.data_exact, rest, size, DataStreamIn.Block.extend, nil_append]
  by_cases short : before.length + p.length < 2 ^ 32
  · have fits : before.length ≤ before.length + p.length := by omega
    simp only [if_pos short, Nat.mod_eq_of_lt short, dif_pos fits]
    refine Eq.trans (dif_pos (Nat.le_of_eq length_append)) ?_
    simp [Block.exact]
  · have wraps : ¬(before ++ p).length ≤ (before.length + p.length) % 2 ^ 32 := by
      rw [length_append]
      omega
    rw [if_neg short]
    split_ifs
    · exact dif_neg wraps
    · rfl

theorem packet_full (p : List Byte) :
    (packet id p).length = multiPacketSize ↔ p.length = maxPayload := by
  rw [length_packet, multiPacketSize, hdrSize, maxPayload]
  omega

theorem receive_idle (p : List Byte) :
    receive (idle s, out) (packet id p) =
      .ok (if p.length = maxPayload then (holding (packet id p) s, out)
        else (idle s, out ++ [.exact (packet id p)])) := by
  simp only [receive, arrived, Block.data_exact, packet_full, idle, detectedMultiPacket]
  split_ifs <;> simp [bind, Except.bind, pure, Except.pure, joinPkt, holding, *]

theorem receive_holding (before p : List Byte) :
    receive (holding before s, out) (packet id p) =
      if before.length + p.length < 2 ^ 32 then
        .ok (if p.length = maxPayload then (holding (before ++ p) s, out)
          else (idle s, out ++ [.exact (before ++ p)]))
      else .error .blockOverflow := by
  have joined := joinPkt_exact id before p
  simp only [receive, arrived, Block.data_exact, packet_full, holding, detectedMultiPacket]
  split_ifs at joined ⊢ <;> simp [bind, Except.bind, pure, Except.pure, idle, joined]

theorem foldlM_receive_holding (before payload : List Byte) :
    (packets id (pieces payload)).foldlM receive (holding before s, out) =
      if before.length + payload.length < 2 ^ 32 then
        .ok (idle s, out ++ [.exact (before ++ payload)])
      else .error .blockOverflow := by
  fun_induction pieces payload generalizing id before with
  | case1 payload long ih =>
    have cut := length_take_of_le long
    rw [packets, foldlM_cons, receive_holding, cut]
    by_cases first : before.length + maxPayload < 2 ^ 32
    · have sum : before.length + maxPayload + (payload.length - maxPayload) =
          before.length + payload.length := by omega
      rw [if_pos first, if_pos rfl, Machine.ok_bind, ih, length_append, cut, length_drop,
        sum, append_assoc, take_append_drop]
    · rw [if_neg first, if_neg (by omega)]
      rfl
  | case2 payload short =>
    have notFull : payload.length ≠ maxPayload := by omega
    rw [packets, packets, foldlM_cons, receive_holding, if_neg notFull]
    split_ifs <;> rfl

/-- The packets of a payload, from a session that waits for no rest. -/
theorem foldlM_receive_pieces (payload : List Byte) :
    (packets id (pieces payload)).foldlM receive (idle s, []) =
      if hdrSize + payload.length < 2 ^ 32 then
        .ok (idle s, [.exact (hdrBytes (min payload.length maxPayload) id ++ payload)])
      else .error .blockOverflow := by
  by_cases long : maxPayload ≤ payload.length
  · have cut := length_take_of_le long
    have sum : hdrSize + maxPayload + (payload.length - maxPayload) = hdrSize + payload.length := by
      omega
    rw [pieces, if_pos long, packets, foldlM_cons, receive_idle, if_pos cut, Machine.ok_bind,
      foldlM_receive_holding, length_packet, cut, length_drop, ← hdrSize, sum,
      Nat.min_eq_right long, packet, cut, append_assoc, take_append_drop]
    rfl
  · rw [pieces, if_neg long, packets, packets, foldlM_cons, receive_idle, if_neg (by omega),
      if_pos (by rw [hdrSize]; rw [maxPayload] at long; omega), Nat.min_eq_left (by omega)]
    rfl

theorem foldlM_calls (calls : List (List (List Byte))) (st : ClientSession × List Block) :
    calls.foldlM (fun st call => call.foldlM receive st) st = calls.flatten.foldlM receive st := by
  induction calls generalizing st with
  | nil => rfl
  | cons call calls ih =>
    rw [flatten_cons, foldlM_append, foldlM_cons]
    exact bind_congr ih

/-- Whatever calls of `get_pkts_from_client` the packets of a payload come in, the command gets the
first header and the payload, and nothing is left waiting, as long as the size fits its type. -/
theorem handed_whole_iff (payload : List Byte) :
    (∀ calls : List (List (List Byte)), calls.flatten = packets id (pieces payload) →
      calls.foldlM (fun st call => call.foldlM receive st) (idle s, []) =
        .ok (idle s, [.exact (hdrBytes (min payload.length maxPayload) id ++ payload)])) ↔
      hdrSize + payload.length < 2 ^ 32 := by
  have whole := foldlM_receive_pieces s id payload
  constructor
  · intro handed
    have run := handed [packets id (pieces payload)] (append_nil _)
    by_contra long
    rw [foldlM_cons, whole, if_neg long] at run
    cases run
  · intro short calls cut
    rw [foldlM_calls, cut, whole, if_pos short]

theorem payload_of_four_gigabytes_overruns :
    ∃ payload : List Byte, payload.length = 2 ^ 32 - hdrSize ∧
      (packets 0 (pieces payload)).foldlM receive (init, []) = .error .blockOverflow := by
  refine ⟨.replicate (2 ^ 32 - hdrSize) 0, length_replicate, ?_⟩
  refine Eq.trans (foldlM_receive_pieces init 0 _) (if_neg ?_)
  rw [length_replicate, hdrSize]
  omega

end MockProxy.Session.ClientSession
