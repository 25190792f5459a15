import Rudp.RxOrdered

/-!
# Packets without a sequence number

Control packets and unreliable data carry sequence number 0 and must not disturb what the receiver
knows about the numbered ones. Pings, pongs, resets and unreliable data never reach the window. A
pure ACK does: `update_reliable_receive_state` looks at it together with SYN and FIN, so the
receiver takes the 0 in its header for a place on the sequence circle.

Where that place lies decides what happens. Behind the front, or more than 64 ahead of it, the ACK
is dropped. At the front it moves the window, and within the 64 numbers ahead it sets a bit that no
packet earned. `unnumbered_frame_iff` makes this exact, over every run from the fresh receiver.
-/

namespace Rudp

open Serial Window RxHandler

/-! ## What stays -/

/-- The reliable part of the receive state is the same. -/
structure SameReliable (rx rx' : RxSessionState) : Prop where
  front : rx'.nextExpected = rx.nextExpected
  bits : rx'.receivedBits = rx.receivedBits
  buffer : rx'.orderedReorderBuffer = rx.orderedReorderBuffer
  delivery : rx'.nextOrderedDelivery = rx.nextOrderedDelivery

/-- The kinds of packet that are sent with sequence number 0 on a channel without numbers. -/
def sentWithoutSeq (packet : PacketView) (kind : ControlKind) : Bool :=
  packet.header.seq = 0 && !isReliableChannel packet.header.channelType &&
    (kind = .ack || kind = .ping || kind = .pong || kind = .rst || kind = .none)

/-- The place of 0 on the circle is out of the window's reach: more than 64 ahead of the front
(which includes everything behind it), or in the bitmap already. -/
def ZeroOutside (rx : RxSessionState) : Prop :=
  64 < offset rx 0 ∨ ∃ i < 64, offset rx 0 = i + 1 ∧ rx.receivedBits.getLsbD i = true

instance (rx : RxSessionState) : Decidable (ZeroOutside rx) :=
  inferInstanceAs (Decidable (64 < offset rx 0 ∨
    ∃ i < 64, offset rx 0 = i + 1 ∧ rx.receivedBits.getLsbD i = true))

/-- The place of `seq` on the circle is out of the window's reach, or the window is unset and the
packet takes it back to where it was. -/
def WindowKept (seq : U32) (rx : RxSessionState) : Prop :=
  if rx.nextExpected = 0 then seq + 1 = 0 ∧ rx.receivedBits.getLsbD 0 = false
  else 64 < offset rx seq ∨ ∃ i < 64, offset rx seq = i + 1 ∧ rx.receivedBits.getLsbD i = true

/-! ## One packet -/

section Packet

variable {packet : PacketView} {kind : ControlKind} {rx : RxSessionState}

theorem windowed_of_not_touches (h : touchesWindow packet.header kind = false) :
    windowed packet kind rx = rx := by
  rw [windowed, update_of_not_touches h]

/-- What is not on a reliable channel is not stored for ordered delivery. -/
theorem sameReliable_of_windowed (hchannel : isReliableChannel packet.header.channelType = false)
    (nowMs : U64) : SameReliable (windowed packet kind rx) (onPacket packet nowMs kind rx).2 := by
  have heffect := onPacket_effect packet kind rx nowMs
  generalize (onPacket packet nowMs kind rx).2 = rx' at heffect ⊢
  cases heffect with
  | ignored => exact ⟨rfl, rfl, rfl, rfl⟩
  | ordered hkind htype =>
    rw [htype] at hchannel
    cases hchannel
  | unordered hkind htype =>
    rw [htype] at hchannel
    cases hchannel
  | unreliable => exact ⟨rfl, rfl, rfl, rfl⟩

theorem setBit_eq_self_iff {bits : U64} {i : ℕ} (hi : i < 64) :
    setBit bits i = bits ↔ bits.getLsbD i = true := by
  constructor
  · intro h
    rw [← h, getLsbD_setBit _ _ hi]
    simp
  · intro h
    refine BitVec.eq_of_getLsbD_eq fun j hj => ?_
    rw [getLsbD_setBit _ _ hj]
    by_cases hij : j = i
    · simp [hij, h]
    · simp [hij]

theorem SameReliable.trans {rx₁ rx₂ rx₃ : RxSessionState} (h : SameReliable rx₁ rx₂)
    (h' : SameReliable rx₂ rx₃) : SameReliable rx₁ rx₃ :=
  ⟨h'.front.trans h.front, h'.bits.trans h.bits, h'.buffer.trans h.buffer,
    h'.delivery.trans h.delivery⟩

theorem SameReliable.symm {rx₁ rx₂ : RxSessionState} (h : SameReliable rx₁ rx₂) :
    SameReliable rx₂ rx₁ :=
  ⟨h.front.symm, h.bits.symm, h.buffer.symm, h.delivery.symm⟩

/-- The window is all a packet can change before it is delivered. -/
theorem sameReliable_windowed_iff : SameReliable rx (windowed packet kind rx) ↔
    (windowed packet kind rx).nextExpected = rx.nextExpected ∧
      (windowed packet kind rx).receivedBits = rx.receivedBits := by
  refine ⟨fun h => ⟨h.front, h.bits⟩, fun h => ⟨h.1, h.2, ?_, ?_⟩⟩ <;> rw [windowed_frame]

/-- **The window a packet leaves alone**: nothing changes exactly if the packet is out of reach. An
unset front starts the stream at any packet, and ends up where it was only behind the last number. -/
theorem windowed_kept_iff (htouch : touchesWindow packet.header kind = true) :
    SameReliable rx (windowed packet kind rx) ↔ WindowKept packet.header.seq rx := by
  rw [sameReliable_windowed_iff, WindowKept]
  by_cases hunset : rx.nextExpected = 0
  · obtain ⟨k, hk, hadv⟩ := advanceReceiveWindow_eq { rx with nextExpected := packet.header.seq }
    simp only at hk
    rw [if_pos hunset, windowed, update_of_unset htouch hunset, hadv]
    simp only [hunset]
    constructor
    · rintro ⟨hfront, hbits⟩
      have hzero := hk.eq_zero_of_shift hbits
      subst hzero
      exact ⟨hfront, hk.stop⟩
    · rintro ⟨hfront, hlow⟩
      have hzero := hk.eq_zero hlow
      subst hzero
      exact ⟨hfront, BitVec.ushiftRight_zero rx.receivedBits⟩
  · rw [if_neg hunset]
    rcases Nat.eq_zero_or_pos (offset rx packet.header.seq) with hzero | hpos
    · -- The packet at the front moves it, by at most 65 numbers.
      have hseq : packet.header.seq = rx.nextExpected := by
        have hfront := ahead_toNat_sub rx.nextExpected packet.header.seq
        rw [offset] at hzero
        rw [← hfront, hzero, ahead_zero]
      obtain ⟨k, hk, hadv⟩ := advanceReceiveWindow_eq rx
      have hk64 := hk.le
      rw [windowed, update_of_front htouch hunset hseq, hadv]
      refine iff_of_false (fun h => ?_) ?_
      · have hcount := toNat_ahead_sub_base rx.nextExpected (show 1 + k < 2 ^ 32 by omega)
        rw [show ahead rx.nextExpected (1 + k) = rx.nextExpected from h.1, BitVec.sub_self] at hcount
        simp at hcount
        omega
      · rintro (h | ⟨i, -, hi, -⟩) <;> omega
    rcases Nat.lt_or_ge 64 (offset rx packet.header.seq) with hout | hin
    · rw [windowed, update_of_outside htouch hunset hout]
      exact ⟨fun _ => Or.inl hout, fun _ => ⟨rfl, rfl⟩⟩
    · obtain ⟨i, hi⟩ : ∃ i, offset rx packet.header.seq = i + 1 :=
        ⟨offset rx packet.header.seq - 1, by omega⟩
      have hi64 : i < 64 := by omega
      rw [windowed, update_of_ahead htouch hunset hi64 hi]
      simp only [true_and, setBit_eq_self_iff hi64]
      constructor
      · intro hbit
        exact Or.inr ⟨i, hi64, hi, hbit⟩
      · rintro (hout | ⟨j, -, hj, hbit⟩)
        · omega
        · obtain rfl : i = j := by omega
          exact hbit

/-- **A packet numbered 0 and the window**: nothing changes exactly if 0 is out of reach. -/
theorem windowed_zero_iff (htouch : touchesWindow packet.header kind = true)
    (hseq : packet.header.seq = 0) :
    SameReliable rx (windowed packet kind rx) ↔ ZeroOutside rx := by
  rw [windowed_kept_iff htouch, hseq, WindowKept, ZeroOutside]
  by_cases hunset : rx.nextExpected = 0
  · have hoff : offset rx 0 = 0 := by rw [offset, hunset, BitVec.sub_self]; rfl
    rw [if_pos hunset]
    refine iff_of_false (fun h => absurd h.1 (by decide)) ?_
    rintro (h | ⟨i, -, hi, -⟩) <;> omega
  · rw [if_neg hunset]

/-- **What a packet without a number does to the reliable state.** -/
theorem onPacket_sameReliable_iff (h : sentWithoutSeq packet kind = true) (nowMs : U64) :
    SameReliable rx (onPacket packet nowMs kind rx).2 ↔ (kind = .ack → ZeroOutside rx) := by
  simp only [sentWithoutSeq, Bool.and_eq_true, decide_eq_true_eq, Bool.not_eq_true',
    Bool.or_eq_true] at h
  obtain ⟨⟨hseq, hchannel⟩, hkind⟩ := h
  have hdelivered := @sameReliable_of_windowed packet kind rx hchannel nowMs
  have hwindow : SameReliable rx (onPacket packet nowMs kind rx).2 ↔
      SameReliable rx (windowed packet kind rx) :=
    ⟨fun h => h.trans hdelivered.symm, fun h => h.trans hdelivered⟩
  rw [hwindow]
  by_cases hack : kind = .ack
  · have htouch : touchesWindow packet.header kind = true := by simp [touchesWindow, hack]
    rw [windowed_zero_iff htouch hseq]
    exact ⟨fun hout _ => hout, fun hout => hout hack⟩
  · have htouch : touchesWindow packet.header kind = false := by
      rcases hkind with (((rfl | rfl) | rfl) | rfl) | rfl <;> simp_all [touchesWindow]
    rw [windowed_of_not_touches htouch]
    exact ⟨fun _ hk => absurd hk hack, fun _ => ⟨rfl, rfl, rfl, rfl⟩⟩

end Packet

/-! ## Whole runs -/

/-- A receiver, and whether it has processed a packet that consumes a sequence number. -/
structure Reception where
  rx : RxSessionState := {}
  consumed : Bool := false

/-- A packet is classified and processed, or the application takes its events. -/
inductive RxOp where
  | packet (packet : PacketView) (nowMs : U64)
  | drain

def Reception.step (r : Reception) : RxOp → Reception
  | .packet packet nowMs =>
    let kind := classifyControlKind packet.header
    { rx := (onPacket packet nowMs kind r.rx).2
      consumed := r.consumed || consumesSeq packet.header kind }
  | .drain => { r with rx := (drainEvents r.rx).2 }

/-- Once the stream has started, a packet without a number leaves the reliable state alone. -/
def UnnumberedFramed (r : Reception) : RxOp → Prop
  | .packet packet nowMs =>
    r.consumed = true → sentWithoutSeq packet (classifyControlKind packet.header) = true →
      SameReliable r.rx (r.step (.packet packet nowMs)).rx
  | .drain => True

/-- Once the stream has started, a pure ACK only arrives while 0 is out of the window's reach. -/
def AckZeroOutside (r : Reception) : RxOp → Prop
  | .packet packet _ =>
    r.consumed = true → sentWithoutSeq packet (classifyControlKind packet.header) = true →
      classifyControlKind packet.header = .ack → ZeroOutside r.rx
  | .drain => True

theorem unnumberedFramed_iff (r : Reception) (op : RxOp) :
    UnnumberedFramed r op ↔ AckZeroOutside r op := by
  cases op with
  | packet packet nowMs =>
    exact forall_congr' fun _ => forall_congr' fun h => onPacket_sameReliable_iff h nowMs
  | drain => exact Iff.rfl

/-- **Packets without a number leave the reliable state alone if and only if no pure ACK finds 0
inside the window.** Feed the fresh receiver any packets, in any order. -/
theorem unnumbered_frame_iff (ops : List RxOp) :
    Run.Along Reception.step UnnumberedFramed {} ops ↔
      Run.Along Reception.step AckZeroOutside {} ops :=
  ⟨Run.Along.mono fun r op => (unnumberedFramed_iff r op).1,
    Run.Along.mono fun r op => (unnumberedFramed_iff r op).2⟩

/-- A reliable packet, and then the ACK that every session sends on its own. -/
def dataThenAck (seq : U32) : List RxOp :=
  [.packet { header := { seq, channelType := .reliableUnordered }, payload := [0x01] } 0,
    .packet { header := { flags := Flag.ack.toFlags }, payload := [] } 0]

/-- Ten numbers before the wrap the ACK is noted as packet 0, which was never sent. -/
theorem ack_marks_zero :
    (Run.run Reception.step {} (dataThenAck 0xfffffff5)).rx.receivedBits = 0x200 ∧
      ¬ Run.Along Reception.step UnnumberedFramed {} (dataThenAck 0xfffffff5) := by
  refine ⟨by decide, fun h => ?_⟩
  have hbits := (h.2.1 (by decide) (by decide)).bits
  exact absurd hbits (by decide)

end Rudp
