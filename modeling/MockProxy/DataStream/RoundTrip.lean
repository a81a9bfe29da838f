import MockProxy.DataStream.PlainReassembly
import MockProxy.DataStream.Send

/-!
# From one end of a connection to the other

Both ends are data streams: one queues packets and sends them in pieces, the other cuts what arrives
into packets again. Neither the pieces nor the order in which the two ends take their turns make a
difference, since what has arrived is always a beginning of what was sent.
-/

namespace MockProxy.DataStream

open Machine Framing List DataStreamIn

variable {z : Zlib} {c₀ sent : OutConnection} {c : Connection}

/-- The packets handed over are the packets queued. They come whole, unchanged and in their
order, none of them twice; when every byte has arrived none is missing. -/
theorem handed_prefix_queued (start : c₀.SendStart)
    (sends : Run (OutConnection.step z) (fun _ _ => True) c₀ sent)
    (whole : ∀ p ∈ sent.queued, packetFormat.Whole p.data)
    (noProxy : ¬ proxyText <+: blockBytes sent.queued)
    (receives : Run (Connection.step z)
      (fun c e => c.Delivers sent.written e ∧ c.PlainStep e) .init c) :
    c.handed <+: sent.queued.map PtrSize.data ∧
      (c.received = blockBytes sent.queued → c.handed = sent.queued.map PtrSize.data) := by
  obtain ⟨sender, -⟩ := sends.goes_on OutConnection.Conserves start.conserves
    fun {_ e} inv _ => OutConnection.step_conserves inv e
  have passed : sent.written <+: blockBytes sent.queued := ⟨_, sender.bytes⟩
  obtain ⟨⟨receiver, arrived⟩, -⟩ := receives.goes_on
    (fun c => c.PlainConnection ∧ c.received <+: sent.written) ⟨Connection.init_plain, nil_prefix⟩
    fun inv meets =>
      Connection.step_plain (fun proxy => noProxy (proxy.trans passed)) inv meets.1 meets.2
  have cut : packetFormat.cut (blockBytes sent.queued) = (sent.queued.map PtrSize.data, []) := by
    apply cut_eq_of_cuts _ unfinished_nil
    exact ⟨by simp [blockBytes], by simpa using whole⟩
  constructor
  · -- the packets are cut off one by one, so more bytes only add to them
    obtain ⟨rest, all⟩ := arrived.trans passed
    have more := receiver.cuts.cut_append (t := rest)
    rw [all, cut] at more
    exact ⟨_, (congrArg Prod.fst more).symm⟩
  · intro all
    have same := cut_eq_of_cuts receiver.cuts receiver.settled.ends
    rw [all, cut] at same
    exact (congrArg Prod.fst same).symm

/-- A packet that is sent at once and read in two pieces. -/
theorem handed_prefix_queued_ping : ∃ (sent : OutConnection) (c : Connection),
    c.handed = [[1, 0, 0, 0, 14]] ∧ c.handed = sent.queued.map PtrSize.data := by
  have sends : [.queue ⟨[1, 0, 0, 0, 14], by decide⟩, .fill,
    .write (OutConnection.accepts 5)].foldlM
    (OutConnection.step Zlib.storing) .init = .ok _ := rfl
  refine ⟨_, _, ?_, (handed_prefix_queued ⟨⟨rfl, .inl rfl, rfl⟩, rfl, rfl, ⟨rfl, rfl⟩, rfl, rfl⟩
    (run_of_foldlM sends) (by decide) (by decide) (.step .start (i := .read
      (.plain (.ready [1, 0, 0, 0]) (.ready [14]))) ⟨prefix_rfl, fun _ _ => ⟨[14], rfl, by decide⟩⟩
      rfl)).2 rfl⟩
  rfl

end MockProxy.DataStream
