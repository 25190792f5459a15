import Rudp.RxOrdered

/-!
# Shifting the sequence circle

A receiver that compares sequence numbers only by where they lie relative to its front cannot tell
a stream from the same stream with every number moved on by `k`. `slot` is that comparison: it maps
the bitmap and the distance from the front to what happens to the window. `receiveFrom_shift` says
that everything the handler does once the front is given commutes with the shift, the reorder buffer
and the drain loop included.

What does not commute is how the front is found. The handler reads `next_expected = 0` as "no packet
yet" and takes the sequence number at hand for the front. When the front of a running stream rests
on 0, the next packet moves it, whatever its number. `wrap_invariant_iff` says that this is the only
thing that can go wrong, and that it always shows.
-/

namespace Rudp

open Serial Window RxHandler

/-! ## Shifted states -/

def PacketView.shift (k : U32) (packet : PacketView) : PacketView :=
  { packet with header := { packet.header with seq := packet.header.seq + k } }

def Arrival.shift (k : U32) (a : Arrival) : Arrival := { a with packet := a.packet.shift k }

def SessionEvent.shift (k : U32) (event : SessionEvent) : SessionEvent :=
  { event with seq := event.seq + k }

/-- All of the receive state but the front: `rx'` is `rx` moved on by `k`. -/
structure ShiftedTail (k : U32) (rx rx' : RxSessionState) : Prop where
  bits : rx'.receivedBits = rx.receivedBits
  started : rx'.orderedDeliveryStarted = rx.orderedDeliveryStarted
  delivery : rx.orderedDeliveryStarted = true →
    rx'.nextOrderedDelivery = rx.nextOrderedDelivery + k
  buffer : ∀ s, rx'.orderedReorderBuffer[s + k]? =
    rx.orderedReorderBuffer[s]?.map (PacketView.shift k)
  versions : rx'.monotonicVersions = rx.monotonicVersions
  events : rx'.pendingEvents = rx.pendingEvents.map (SessionEvent.shift k)

/-- `rx'` is `rx` moved on by `k`. -/
structure ShiftedBy (k : U32) (rx rx' : RxSessionState) : Prop extends ShiftedTail k rx rx' where
  front : rx'.nextExpected = rx.nextExpected + k

section Group

variable {j k : U32} {rx rx' rx'' : RxSessionState}

theorem PacketView.shift_zero : PacketView.shift 0 = id := by
  funext packet
  simp [PacketView.shift]

theorem PacketView.shift_comp : PacketView.shift k ∘ PacketView.shift j = PacketView.shift (j + k) := by
  funext packet
  simp [PacketView.shift, BitVec.add_assoc]

theorem SessionEvent.shift_zero : SessionEvent.shift 0 = id := by
  funext event
  simp [SessionEvent.shift]

theorem SessionEvent.shift_comp :
    SessionEvent.shift k ∘ SessionEvent.shift j = SessionEvent.shift (j + k) := by
  funext event
  simp [SessionEvent.shift, BitVec.add_assoc]

theorem ShiftedBy.refl (rx : RxSessionState) : ShiftedBy 0 rx rx where
  bits := rfl
  started := rfl
  delivery := fun _ => (add_zero _).symm
  buffer := fun s => by rw [PacketView.shift_zero, Option.map_id_apply, add_zero]
  versions := rfl
  events := by rw [SessionEvent.shift_zero, List.map_id]
  front := (add_zero _).symm

theorem ShiftedBy.trans (h : ShiftedBy j rx rx') (h' : ShiftedBy k rx' rx'') :
    ShiftedBy (j + k) rx rx'' where
  bits := h'.bits.trans h.bits
  started := h'.started.trans h.started
  delivery := fun hs => by
    rw [h'.delivery (h.started.trans hs), h.delivery hs, add_assoc]
  buffer := fun s => by
    rw [← add_assoc, h'.buffer, h.buffer, Option.map_map, PacketView.shift_comp]
  versions := h'.versions.trans h.versions
  events := by rw [h'.events, h.events, List.map_map, SessionEvent.shift_comp]
  front := by rw [h'.front, h.front, add_assoc]

theorem ShiftedBy.symm (h : ShiftedBy k rx rx') : ShiftedBy (-k) rx' rx where
  bits := h.bits.symm
  started := h.started.symm
  delivery := fun hs => by
    rw [h.delivery (h.started.symm.trans hs), add_neg_cancel_right]
  buffer := fun s => by
    have hs := h.buffer (s + -k)
    rw [neg_add_cancel_right] at hs
    rw [hs, Option.map_map, PacketView.shift_comp, add_neg_cancel, PacketView.shift_zero,
      Option.map_id_apply]
  versions := h.versions.symm
  events := by
    rw [h.events, List.map_map, SessionEvent.shift_comp, add_neg_cancel, SessionEvent.shift_zero,
      List.map_id]
  front := by rw [h.front, add_neg_cancel_right]

/-- Two states that are both `k` behind a third one are the same. -/
theorem shiftedBy_zero_iff (h : ShiftedBy k rx rx'') : ShiftedBy 0 rx rx' ↔ ShiftedBy k rx' rx'' := by
  constructor
  · intro hsame
    have := hsame.symm.trans h
    rwa [neg_zero, zero_add] at this
  · intro h'
    have := h.trans h'.symm
    rwa [add_neg_cancel] at this

end Group

/-! ## Delivery commutes with the shift -/

section Delivery

variable {k : U32} {rx rx' : RxSessionState}

/-- The bound on the drain loop does not matter once it is large enough. -/
theorem drainLoop_stable {fuel fuel' : ℕ} (hfuel : rx.orderedReorderBuffer.size ≤ fuel)
    (hfuel' : rx.orderedReorderBuffer.size ≤ fuel') : drainLoop fuel rx = drainLoop fuel' rx := by
  induction fuel generalizing rx fuel' with
  | zero =>
    have hnone : rx.orderedReorderBuffer[rx.nextOrderedDelivery]? = none := by
      cases hget : rx.orderedReorderBuffer[rx.nextOrderedDelivery]? with
      | none => rfl
      | some packet =>
        have := SeqMap.size_erase_lt hget
        omega
    cases fuel' with
    | zero => rfl
    | succ fuel' => rw [drainLoop, drainLoop, hnone]
  | succ fuel ih =>
    cases hget : rx.orderedReorderBuffer[rx.nextOrderedDelivery]? with
    | none => cases fuel' <;> simp only [drainLoop, hget]
    | some packet =>
      have hsize := SeqMap.size_erase_lt hget
      obtain ⟨fuel', rfl⟩ : ∃ n, fuel' = n + 1 := ⟨fuel' - 1, by omega⟩
      rw [drainLoop, drainLoop, hget]
      exact ih (by simp only; omega) (by simp only; omega)

theorem ShiftedTail.drainLoop (h : ShiftedTail k rx rx') (hstarted : rx.orderedDeliveryStarted = true)
    (fuel : ℕ) : ShiftedTail k (drainLoop fuel rx) (drainLoop fuel rx') := by
  induction fuel generalizing rx rx' with
  | zero => exact h
  | succ fuel ih =>
    have hget := h.buffer rx.nextOrderedDelivery
    rw [← h.delivery hstarted] at hget
    cases hpacket : rx.orderedReorderBuffer[rx.nextOrderedDelivery]? with
    | none =>
      rw [hpacket] at hget
      rw [RxHandler.drainLoop, RxHandler.drainLoop, hpacket, hget]
      exact h
    | some packet =>
      rw [hpacket] at hget
      rw [RxHandler.drainLoop, RxHandler.drainLoop, hpacket, hget]
      refine ih ?_ hstarted
      exact
        { bits := h.bits
          started := h.started
          delivery := fun hs => by
            show rx'.nextOrderedDelivery + 1 = rx.nextOrderedDelivery + 1 + k
            rw [h.delivery hs, add_right_comm]
          buffer := fun s => by
            simp only [SeqMap.getElem?_erase, h.delivery hstarted, add_left_inj, h.buffer]
            split_ifs <;> rfl
          versions := h.versions
          events := by
            simp only [h.events, List.map_append, List.map_cons, List.map_nil]
            rfl }

theorem ShiftedTail.bufferOrdered (h : ShiftedTail k rx rx') (packet : PacketView) :
    ShiftedTail k (bufferOrdered packet rx) (bufferOrdered (packet.shift k) rx') where
  bits := by
    simp only [Rudp.bufferOrdered, ensureOrderedDeliveryStarted]
    split_ifs <;> exact h.bits
  started := by rw [bufferOrdered_started, bufferOrdered_started]
  delivery := fun _ => by
    rw [bufferOrdered_front, bufferOrdered_front, h.started]
    split_ifs with hs
    · exact h.delivery hs
    · rfl
  buffer := fun s => by
    have hseq : (packet.shift k).header.seq = s + k ↔ packet.header.seq = s := add_left_inj k
    simp only [bufferOrdered_buffer, hseq, h.buffer]
    split_ifs <;> rfl
  versions := by
    simp only [Rudp.bufferOrdered, ensureOrderedDeliveryStarted]
    split_ifs <;> exact h.versions
  events := by rw [bufferOrdered_events, bufferOrdered_events, h.events]

theorem ShiftedTail.handleReliableOrdered (h : ShiftedTail k rx rx') (packet : PacketView) :
    ShiftedTail k (handleReliableOrdered packet rx)
      (handleReliableOrdered (packet.shift k) rx') := by
  have hbuffer := h.bufferOrdered packet
  let fuel := max (Rudp.bufferOrdered packet rx).orderedReorderBuffer.size
    (Rudp.bufferOrdered (packet.shift k) rx').orderedReorderBuffer.size
  rw [handleReliableOrdered_eq, handleReliableOrdered_eq,
    drainLoop_stable le_rfl (show _ ≤ fuel from le_max_left _ _),
    drainLoop_stable le_rfl (show _ ≤ fuel from le_max_right _ _)]
  exact hbuffer.drainLoop (bufferOrdered_started packet rx) fuel

theorem deliverData_of_ordered {packet : PacketView}
    (h : packet.header.channelType = .reliableOrdered) (rx : RxSessionState) :
    deliverData packet rx = handleReliableOrdered packet rx := by
  simp only [deliverData, h]

theorem deliverData_of_unordered {packet : PacketView}
    (h : packet.header.channelType = .reliableUnordered) (rx : RxSessionState) :
    deliverData packet rx = handleReliableUnordered packet rx := by
  simp only [deliverData, h]

/-- **Delivery on a reliable channel commutes with the shift.** -/
theorem ShiftedTail.deliverData (h : ShiftedTail k rx rx') {packet : PacketView}
    (hchannel : isReliableChannel packet.header.channelType = true) :
    ShiftedTail k (deliverData packet rx) (deliverData (packet.shift k) rx') := by
  have hunordered : ShiftedTail k (handleReliableUnordered packet rx)
      (handleReliableUnordered (packet.shift k) rx') :=
    { h with
      events := by
        simp only [handleReliableUnordered, h.events, List.map_append, List.map_cons, List.map_nil]
        rfl }
  cases htype : packet.header.channelType with
  | reliableOrdered =>
    rw [deliverData_of_ordered htype, @deliverData_of_ordered (packet.shift k) htype]
    exact h.handleReliableOrdered packet
  | reliableUnordered =>
    rw [deliverData_of_unordered htype, @deliverData_of_unordered (packet.shift k) htype]
    exact hunordered
  | unreliable | monotonicState => simp [htype, isReliableChannel] at hchannel

end Delivery

/-! ## The window, by distance -/

/-- What the window makes of a sequence number, from its distance to the front alone: whether the
packet is accepted, how far the front moves, and the new bitmap. -/
def slot (bits : U64) (distance : U32) : Bool × U32 × U64 :=
  if distance = 0 then (true, (advanceLoop 64 1 bits).1, (advanceLoop 64 1 bits).2)
  else if distance ≤ kAckBitsWindow then
    (!bits.getLsbD (distance.toNat - 1), 0, setBit bits (distance.toNat - 1))
  else (false, 0, bits)

/-- Take the packet with the front at a given place. -/
def receiveFrom (front : U32) (rx : RxSessionState) (a : Arrival) : RxSessionState :=
  let (accepted, moved, bits) := slot rx.receivedBits (a.seq - front)
  let rx := { rx with nextExpected := front + moved, receivedBits := bits }
  if a.kind = .none ∧ accepted = true then deliverData a.packet rx else rx

/-- Where the handler takes the front to be: an unset front is where the packet is. -/
def frontFor (rx : RxSessionState) (seq : U32) : U32 :=
  if rx.nextExpected = 0 then seq else rx.nextExpected

theorem advanceLoop_add (fuel : ℕ) (n m : U32) (bits : U64) :
    advanceLoop fuel (n + m) bits =
      (n + (advanceLoop fuel m bits).1, (advanceLoop fuel m bits).2) := by
  induction fuel generalizing m bits with
  | zero => rfl
  | succ fuel ih =>
    rw [advanceLoop, advanceLoop]
    split_ifs
    · rw [add_assoc]
      exact ih (m + 1) (bits >>> 1)
    · rfl

theorem advanceReceiveWindow_slot (rx : RxSessionState) :
    advanceReceiveWindow rx =
      { rx with
        nextExpected := rx.nextExpected + (slot rx.receivedBits 0).2.1
        receivedBits := (slot rx.receivedBits 0).2.2 } := by
  rw [advanceReceiveWindow, advanceLoop_add]
  rfl

theorem toNat_sub_eq_zero_iff {s front : U32} : (s - front).toNat = 0 ↔ s = front := by
  rw [← sub_eq_zero (a := s), ← BitVec.toNat_inj]
  rfl

/-- The update of the window is `slot` at the distance from the front. -/
theorem update_eq_slot {packet : PacketView} {kind : ControlKind} {rx : RxSessionState}
    (htouch : touchesWindow packet.header kind = true) :
    updateReliableReceiveState packet kind {} rx =
      let front := frontFor rx packet.header.seq
      let (accepted, moved, bits) := slot rx.receivedBits (packet.header.seq - front)
      (accepted, ackResult packet.header kind,
        { rx with nextExpected := front + moved, receivedBits := bits }) := by
  rw [frontFor]
  split_ifs with hunset
  · simp only [update_of_unset htouch hunset, advanceReceiveWindow_slot, sub_self]
    rfl
  · rcases Nat.eq_zero_or_pos (offset rx packet.header.seq) with hzero | hpos
    · have hfront : packet.header.seq = rx.nextExpected := toNat_sub_eq_zero_iff.1 hzero
      simp only [update_of_front htouch hunset hfront, advanceReceiveWindow_slot, hfront, sub_self]
      rfl
    · have hne : packet.header.seq - rx.nextExpected ≠ 0 := by
        intro h
        rw [offset, h] at hpos
        exact absurd hpos (by decide)
      rcases Nat.lt_or_ge 64 (offset rx packet.header.seq) with hout | hin
      · have hle : ¬ packet.header.seq - rx.nextExpected ≤ kAckBitsWindow := by
          rw [BitVec.le_def]
          exact Nat.not_le.2 hout
        rw [update_of_outside htouch hunset hout]
        simp only [slot, if_neg hne, if_neg hle, add_zero]
      · obtain ⟨i, hi⟩ : ∃ i, offset rx packet.header.seq = i + 1 :=
          ⟨offset rx packet.header.seq - 1, by omega⟩
        have hle : packet.header.seq - rx.nextExpected ≤ kAckBitsWindow := by
          rw [BitVec.le_def]
          exact hin
        have hbit : (packet.header.seq - rx.nextExpected).toNat - 1 = i := by
          rw [offset] at hi
          omega
        rw [update_of_ahead htouch hunset (by omega) hi]
        simp only [slot, if_neg hne, if_pos hle, hbit, add_zero]

theorem receive_eq_receiveFrom {rx : RxSessionState} {a : Arrival}
    (htouch : touchesWindow a.packet.header a.kind = true) :
    receive rx a = receiveFrom (frontFor rx a.seq) rx a := by
  rw [receive_eq, update_eq_slot htouch]
  rfl

/-- **Given the front, the handler commutes with the shift.** -/
theorem receiveFrom_shift {k front : U32} {rx rx' : RxSessionState} {a : Arrival}
    (h : ShiftedTail k rx rx') (hseq : consumesSeq a.packet.header a.kind = true) :
    ShiftedBy k (receiveFrom front rx a) (receiveFrom (front + k) rx' (a.shift k)) := by
  have hdistance : (a.shift k).seq - (front + k) = a.seq - front := add_sub_add_right_eq_sub _ _ _
  rw [receiveFrom, receiveFrom, hdistance, h.bits]
  rcases slot rx.receivedBits (a.seq - front) with ⟨accepted, moved, bits⟩
  have hwindow : ShiftedBy k { rx with nextExpected := front + moved, receivedBits := bits }
      { rx' with nextExpected := front + k + moved, receivedBits := bits } :=
    { bits := rfl
      started := h.started
      delivery := h.delivery
      buffer := h.buffer
      versions := h.versions
      events := h.events
      front := add_right_comm _ _ _ }
  show ShiftedBy k (if a.kind = .none ∧ accepted = true then _ else _)
    (if a.kind = .none ∧ accepted = true then _ else _)
  split_ifs with hdata
  · have hchannel : isReliableChannel a.packet.header.channelType = true := by
      simpa [consumesSeq, hdata.1] using hseq
    refine ⟨hwindow.toShiftedTail.deliverData hchannel, ?_⟩
    rw [(deliverData_window _ _).1, (deliverData_window _ _).1]
    exact hwindow.front
  · exact hwindow

/-! ## The packet that finds the front at 0 -/

/-- Nothing is stored before delivery starts, and the packet at the delivery front is not stored. -/
structure BufferSettled (rx : RxSessionState) : Prop where
  unstarted : rx.orderedDeliveryStarted = false → ∀ s : U32, rx.orderedReorderBuffer[s]? = none
  front : rx.orderedReorderBuffer[rx.nextOrderedDelivery]? = none

theorem BufferSettled.receive {rx : RxSessionState} (h : BufferSettled rx) (a : Arrival) :
    BufferSettled (receive rx a) := by
  have heffect := onPacket_effect a.packet a.kind rx a.nowMs
  rw [Rudp.receive]
  have hwindowed : BufferSettled (windowed a.packet a.kind rx) := by
    rw [windowed_frame]
    exact ⟨h.unstarted, h.front⟩
  generalize (onPacket a.packet a.nowMs a.kind rx).2 = rx' at heffect ⊢
  cases heffect with
  | ignored => exact hwindowed
  | ordered _ _ _ hdrained =>
    refine ⟨fun hs => ?_, hdrained.stop⟩
    rw [hdrained.started, bufferOrdered_started] at hs
    cases hs
  | unordered => exact ⟨hwindowed.unstarted, hwindowed.front⟩
  | unreliable => exact ⟨hwindowed.unstarted, hwindowed.front⟩

/-- A packet that the window would take for the last one before the front, and that leaves no
trace: a control packet, or a copy of a packet that is still stored. -/
def LeavesNoTrace (front : U32) (rx : RxSessionState) (a : Arrival) : Prop :=
  a.seq + 1 = front ∧ rx.receivedBits.getLsbD 0 = false ∧
    (a.kind ≠ .none ∨ a.packet.header.channelType = .reliableOrdered ∧
      rx.orderedReorderBuffer[a.seq]? = some a.packet)

instance (front : U32) (rx : RxSessionState) (a : Arrival) : Decidable (LeavesNoTrace front rx a) :=
  inferInstanceAs (Decidable (a.seq + 1 = front ∧ rx.receivedBits.getLsbD 0 = false ∧
    (a.kind ≠ .none ∨ a.packet.header.channelType = .reliableOrdered ∧
      rx.orderedReorderBuffer[a.seq]? = some a.packet)))

theorem slot_zero (bits : U64) : ∃ r, LowRun bits r ∧
    slot bits 0 = (true, BitVec.ofNat 32 (1 + r), bits >>> r) := by
  obtain ⟨r, hr, hloop⟩ := advanceLoop_eq 64 1 bits bits.isLt
  refine ⟨r, hr, ?_⟩
  rw [slot, if_pos rfl, hloop, ahead, BitVec.ofNat_add]
  rfl

theorem slot_moved_of_ne {bits : U64} {distance : U32} (h : distance ≠ 0) :
    (slot bits distance).2.1 = 0 := by
  rw [slot, if_neg h]
  split_ifs <;> rfl

theorem slot_of_far {bits : U64} {distance : U32} (h : 64 < distance.toNat) :
    slot bits distance = (false, 0, bits) := by
  have hne : distance ≠ 0 := by
    rintro rfl
    exact absurd h (by decide)
  have hle : ¬ distance ≤ kAckBitsWindow := by
    rw [BitVec.le_def]
    exact Nat.not_le.2 h
  rw [slot, if_neg hne, if_neg hle]

theorem drainLoop_versions (fuel : ℕ) (rx : RxSessionState) :
    (drainLoop fuel rx).monotonicVersions = rx.monotonicVersions := by
  induction fuel generalizing rx with
  | zero => rfl
  | succ fuel ih =>
    rw [drainLoop]
    split
    · rfl
    · exact ih _

theorem handleReliableOrdered_versions (packet : PacketView) (rx : RxSessionState) :
    (handleReliableOrdered packet rx).monotonicVersions = rx.monotonicVersions := by
  rw [handleReliableOrdered_eq, drainLoop_versions, bufferOrdered, ensureOrderedDeliveryStarted]
  split_ifs <;> rfl

/-- An ordered packet that changes nothing is stored already. -/
theorem stored_of_handleReliableOrdered {rx : RxSessionState} {packet : PacketView}
    (h : ShiftedBy 0 rx (handleReliableOrdered packet rx)) :
    rx.orderedReorderBuffer[packet.header.seq]? = some packet := by
  have hstored : (bufferOrdered packet rx).orderedReorderBuffer[packet.header.seq]? =
      some packet := by
    rw [bufferOrdered_buffer, if_pos rfl]
  obtain ⟨packets, hdrained⟩ := handleReliableOrdered_drained packet rx
  have hnone : packets = [] := by
    have hevents := congrArg List.length (hdrained.events.symm.trans h.events)
    rw [bufferOrdered_events] at hevents
    simp at hevents
    exact hevents
  subst hnone
  have hbuffer := h.buffer packet.header.seq
  rw [PacketView.shift_zero, Option.map_id_apply, add_zero] at hbuffer
  rw [← hbuffer]
  rcases hdrained.gone _ _ hstored with hkept | ⟨j, -, hj⟩
  · exact hkept
  · cases hj

/-- A copy replaces itself, and the front is not stored: nothing moves. -/
theorem handleReliableOrdered_of_stored {rx : RxSessionState} (hrx : BufferSettled rx)
    {packet : PacketView} (hcopy : rx.orderedReorderBuffer[packet.header.seq]? = some packet) :
    ShiftedBy 0 rx (handleReliableOrdered packet rx) := by
  have hwindow := handleReliableOrdered_window packet rx
  have hstarted : rx.orderedDeliveryStarted = true := by
    by_contra hs
    rw [hrx.unstarted (by simpa using hs) packet.header.seq] at hcopy
    cases hcopy
  have hdelivery : (bufferOrdered packet rx).nextOrderedDelivery = rx.nextOrderedDelivery := by
    rw [bufferOrdered_front, if_pos hstarted]
  have haway : packet.header.seq ≠ rx.nextOrderedDelivery := by
    intro heq
    rw [heq, hrx.front] at hcopy
    cases hcopy
  have hsame (s : U32) : (bufferOrdered packet rx).orderedReorderBuffer[s]? =
      rx.orderedReorderBuffer[s]? := by
    rw [bufferOrdered_buffer]
    split_ifs with hs
    · rw [← hs, hcopy]
    · rfl
  have hdrained := @handleReliableOrdered_of_hold packet rx (by rw [hdelivery]; exact haway)
    (by rw [hdelivery]; exact hrx.front)
  refine
    { bits := hwindow.2
      started := by rw [hdrained.started, bufferOrdered_started, hstarted]
      delivery := fun _ => by rw [hdrained.front, hdelivery]; rfl
      buffer := fun s => ?_
      versions := handleReliableOrdered_versions packet rx
      events := ?_
      front := by rw [hwindow.1, add_zero] }
  · rw [PacketView.shift_zero, Option.map_id_apply, add_zero, ← hsame]
    refine Option.ext fun p => ⟨hdrained.kept s p, fun hp => ?_⟩
    rcases hdrained.gone s p hp with hkept | ⟨j, -, hj⟩
    · exact hkept
    · cases hj
  · rw [hdrained.events, bufferOrdered_events, SessionEvent.shift_zero, List.map_id]
    simp

/-- Delivering a packet again shows, unless an equal copy is still stored. -/
theorem deliverData_same_iff {rx : RxSessionState} (hrx : BufferSettled rx) {packet : PacketView}
    (hchannel : isReliableChannel packet.header.channelType = true) :
    ShiftedBy 0 rx (deliverData packet rx) ↔ packet.header.channelType = .reliableOrdered ∧
      rx.orderedReorderBuffer[packet.header.seq]? = some packet := by
  cases htype : packet.header.channelType with
  | unreliable | monotonicState => simp [htype, isReliableChannel] at hchannel
  | reliableUnordered =>
    refine ⟨fun h => ?_, fun h => absurd h.1 (by decide)⟩
    have hevents := congrArg List.length h.events
    rw [deliverData_of_unordered htype, handleReliableUnordered] at hevents
    simp at hevents
  | reliableOrdered =>
    rw [deliverData_of_ordered htype]
    constructor
    · intro h
      exact ⟨rfl, stored_of_handleReliableOrdered h⟩
    · rintro ⟨-, hcopy⟩
      exact handleReliableOrdered_of_stored hrx hcopy

/-- With the front behind the packet by one, the packet is stale. -/
theorem receiveFrom_of_stale {front : U32} {rx : RxSessionState} {a : Arrival} {r : ℕ}
    (hr : r ≤ 64) (h : a.seq + BitVec.ofNat 32 (1 + r) = front) :
    receiveFrom front rx a = { rx with nextExpected := front } := by
  have hfar : 64 < (a.seq - front).toNat := by
    have hback := @toNat_ahead_sub_ahead_of_lt 32 a.seq (1 + r) 0 (by omega) (by omega)
    rw [ahead_zero, ahead, h] at hback
    omega
  rw [receiveFrom, slot_of_far hfar]
  simp

theorem receiveFrom_window (front : U32) (rx : RxSessionState) (a : Arrival) :
    (receiveFrom front rx a).nextExpected = front + (slot rx.receivedBits (a.seq - front)).2.1 ∧
      (receiveFrom front rx a).receivedBits = (slot rx.receivedBits (a.seq - front)).2.2 := by
  rw [receiveFrom]
  dsimp only
  split_ifs
  · exact deliverData_window _ _
  · exact ⟨rfl, rfl⟩

/-- **Taking the packet for the front shows**, unless it leaves no trace. -/
theorem receiveFrom_seq_iff {front : U32} {rx : RxSessionState} (hrx : BufferSettled rx)
    {a : Arrival} (hseq : consumesSeq a.packet.header a.kind = true) (hne : a.seq ≠ front) :
    ShiftedBy 0 (receiveFrom front rx a) (receiveFrom a.seq rx a) ↔ LeavesNoTrace front rx a := by
  obtain ⟨r, hr, hslot⟩ := slot_zero rx.receivedBits
  let base : RxSessionState := { rx with nextExpected := front }
  -- Without a run above it, the packet moves the front to where it was.
  have hown (hzero : r = 0) (hback : a.seq + 1 = front) : receiveFrom a.seq rx a =
      if a.kind = .none then deliverData a.packet base else base := by
    subst hzero
    have hbits : rx.receivedBits >>> 0 = rx.receivedBits := BitVec.ushiftRight_zero _
    have hmoved : a.seq + BitVec.ofNat 32 (1 + 0) = front := hback
    simp only [receiveFrom, sub_self, hslot, and_true, hbits, hmoved, base]
  have hbase : BufferSettled base := ⟨hrx.unstarted, hrx.front⟩
  have hchannel (hkind : a.kind = .none) : isReliableChannel a.packet.header.channelType = true := by
    simpa [consumesSeq, hkind] using hseq
  constructor
  · intro h
    have hmoved : a.seq + BitVec.ofNat 32 (1 + r) = front := by
      have hfront := h.front
      rwa [(receiveFrom_window _ _ _).1, (receiveFrom_window _ _ _).1, sub_self, hslot,
        slot_moved_of_ne (sub_ne_zero.2 hne), add_zero, add_zero] at hfront
    have hstale := @receiveFrom_of_stale front rx a r hr.le hmoved
    have hzero : r = 0 := by
      have hbits := h.bits
      rw [(receiveFrom_window _ _ _).2, hstale, sub_self, hslot] at hbits
      exact hr.eq_zero_of_shift hbits
    have hback : a.seq + 1 = front := by
      rw [hzero] at hmoved
      exact hmoved
    refine ⟨hback, hzero ▸ hr.stop, ?_⟩
    rw [hstale, hown hzero hback] at h
    by_cases hkind : a.kind = .none
    · rw [if_pos hkind] at h
      exact Or.inr ((deliverData_same_iff hbase (hchannel hkind)).1 h)
    · exact Or.inl hkind
  · rintro ⟨hback, hlow, htrace⟩
    have hzero := hr.eq_zero hlow
    rw [@receiveFrom_of_stale front rx a 0 (Nat.zero_le _) hback, hown hzero hback]
    split_ifs with hkind
    · exact (deliverData_same_iff hbase (hchannel hkind)).2 (htrace.resolve_left fun h => h hkind)
    · exact ShiftedBy.refl base

/-! ## Whole runs -/

/-- A running stream does not take the number at hand for its front: the front is not 0, or the
packet is at the front anyway, or it leaves no trace. -/
def FrontKept (rx : RxSessionState) (a : Arrival) : Prop :=
  rx.nextExpected = 0 → a.seq = 0 ∨ LeavesNoTrace 0 rx a

instance (rx : RxSessionState) (a : Arrival) : Decidable (FrontKept rx a) :=
  inferInstanceAs (Decidable (rx.nextExpected = 0 → a.seq = 0 ∨ LeavesNoTrace 0 rx a))

section Step

variable {k : U32} {rx rx' : RxSessionState} {a : Arrival}

/-- Where both runs compare with the front, they stay together. -/
theorem ShiftedBy.receive_of_ne (h : ShiftedBy k rx rx')
    (hseq : consumesSeq a.packet.header a.kind = true) (hne : rx.nextExpected ≠ 0)
    (hne' : rx'.nextExpected ≠ 0) :
    ShiftedBy k (receive rx a) (receive rx' (a.shift k)) := by
  have htouch := touchesWindow_of_consumesSeq hseq
  rw [receive_eq_receiveFrom htouch, @receive_eq_receiveFrom _ (a.shift k) htouch, frontFor,
    if_neg hne, frontFor, if_neg hne', h.front]
  exact receiveFrom_shift h.toShiftedTail hseq

/-- Where one run finds its front at 0, the other one does not. -/
theorem ShiftedBy.receive_of_zero (h : ShiftedBy k rx rx') (hrx : BufferSettled rx)
    (hseq : consumesSeq a.packet.header a.kind = true) (hzero : rx.nextExpected = 0)
    (hne' : rx'.nextExpected ≠ 0) :
    ShiftedBy k (receive rx a) (receive rx' (a.shift k)) ↔
      a.seq = 0 ∨ LeavesNoTrace 0 rx a := by
  have htouch := touchesWindow_of_consumesSeq hseq
  have hshift := @receiveFrom_shift k rx.nextExpected rx rx' a h.toShiftedTail hseq
  rw [receive_eq_receiveFrom htouch, @receive_eq_receiveFrom _ (a.shift k) htouch, frontFor,
    if_pos hzero, frontFor, if_neg hne', h.front, ← shiftedBy_zero_iff hshift, hzero]
  by_cases hfront : a.seq = 0
  · rw [hfront]
    exact ⟨fun _ => Or.inl rfl, fun _ => ShiftedBy.refl _⟩
  · rw [receiveFrom_seq_iff hrx hseq hfront]
    exact ⟨Or.inr, fun h => h.resolve_left hfront⟩

theorem Arrival.shift_shift (a : Arrival) (j : U32) : (a.shift k).shift j = a.shift (k + j) :=
  congrArg (fun p => { a with packet := p }) (congrFun PacketView.shift_comp a.packet)

theorem Arrival.shift_zero (a : Arrival) : a.shift 0 = a :=
  congrArg (fun p => { a with packet := p }) (congrFun PacketView.shift_zero a.packet)

theorem shiftedBy_neg_iff : ShiftedBy (-k) rx' rx ↔ ShiftedBy k rx rx' := by
  refine ⟨fun h => ?_, ShiftedBy.symm⟩
  have := h.symm
  rwa [neg_neg] at this

/-- **One packet.** Two runs that are `k ≠ 0` apart stay so exactly if both keep their front. -/
theorem ShiftedBy.receive_iff (hk : k ≠ 0) (h : ShiftedBy k rx rx') (hrx : BufferSettled rx)
    (hrx' : BufferSettled rx') (hseq : consumesSeq a.packet.header a.kind = true) :
    ShiftedBy k (receive rx a) (receive rx' (a.shift k)) ↔
      FrontKept rx a ∧ FrontKept rx' (a.shift k) := by
  by_cases hzero : rx.nextExpected = 0
  · have hne' : rx'.nextExpected ≠ 0 := by
      rw [h.front, hzero, zero_add]
      exact hk
    rw [h.receive_of_zero hrx hseq hzero hne']
    exact ⟨fun h => ⟨fun _ => h, fun h' => absurd h' hne'⟩, fun h => h.1 hzero⟩
  · by_cases hzero' : rx'.nextExpected = 0
    · have hback := @ShiftedBy.receive_of_zero (-k) rx' rx (a.shift k) h.symm hrx' hseq hzero' hzero
      rw [Arrival.shift_shift, add_neg_cancel, Arrival.shift_zero, shiftedBy_neg_iff] at hback
      rw [hback]
      exact ⟨fun h => ⟨fun h' => absurd h' hzero, fun _ => h⟩, fun h => h.2 hzero'⟩
    · exact ⟨fun _ => ⟨fun h' => absurd h' hzero, fun h' => absurd h' hzero'⟩,
        fun _ => h.receive_of_ne hseq hzero hzero'⟩

theorem shiftedBy_run_iff (hk : k ≠ 0) (h : ShiftedBy k rx rx') (hrx : BufferSettled rx)
    (hrx' : BufferSettled rx') (as : List Arrival)
    (hseq : ∀ a ∈ as, consumesSeq a.packet.header a.kind = true) :
    (∀ bs, bs <+: as → ShiftedBy k (Run.run receive rx bs)
        (Run.run receive rx' (bs.map (Arrival.shift k)))) ↔
      Run.Along receive FrontKept rx as ∧
        Run.Along receive FrontKept rx' (as.map (Arrival.shift k)) := by
  induction as generalizing rx rx' with
  | nil =>
    refine ⟨fun _ => ⟨trivial, trivial⟩, fun _ bs hbs => ?_⟩
    rw [List.prefix_nil.1 hbs]
    exact h
  | cons a as ih =>
    have hstep := h.receive_iff hk hrx hrx' (hseq a List.mem_cons_self)
    rw [Run.forall_prefix_cons]
    constructor
    · rintro ⟨-, hall⟩
      have hkept := hstep.1 (hall [] List.nil_prefix)
      have hrest := (ih (hstep.2 hkept) (hrx.receive a) (hrx'.receive _)
        (fun b hb => hseq b (List.mem_cons_of_mem a hb))).1 hall
      exact ⟨⟨hkept.1, hrest.1⟩, ⟨hkept.2, hrest.2⟩⟩
    · rintro ⟨⟨hkept, hrest⟩, ⟨hkept', hrest'⟩⟩
      exact ⟨h, (ih (hstep.2 ⟨hkept, hkept'⟩) (hrx.receive a) (hrx'.receive _)
        (fun b hb => hseq b (List.mem_cons_of_mem a hb))).2 ⟨hrest, hrest'⟩⟩

/-- The first packet of a stream sets the front, wherever it is. -/
theorem receive_first (hseq : consumesSeq a.packet.header a.kind = true) :
    ShiftedBy k (receive {} a) (receive {} (a.shift k)) := by
  have htouch := touchesWindow_of_consumesSeq hseq
  have hfresh : ShiftedTail k {} {} :=
    { bits := rfl
      started := rfl
      delivery := fun hs => by cases hs
      buffer := fun s => by simp
      versions := rfl
      events := rfl }
  rw [receive_eq_receiveFrom htouch, @receive_eq_receiveFrom _ (a.shift k) htouch]
  exact receiveFrom_shift hfresh hseq

theorem bufferSettled_fresh : BufferSettled {} := ⟨fun _ s => by simp, by simp⟩

end Step

/-- **The receiver is invariant under a shift of the circle if and only if no running stream finds
its front at 0.** Feed the fresh receiver a non-empty list of packets that consume sequence numbers,
with any numbers and in any order, and feed another one the same packets with every number moved on
by `k`. After every packet the second receiver is the first one moved on by `k` if and only if `k`
is 0 or, in both runs, whenever a later packet arrives while the front is 0 it is packet 0 itself,
or one that leaves no trace. -/
theorem wrap_invariant_iff (k : U32) (a : Arrival) (as : List Arrival)
    (hseq : ∀ b ∈ a :: as, consumesSeq b.packet.header b.kind = true) :
    (∀ bs, bs <+: as → ShiftedBy k (Run.run receive {} (a :: bs))
        (Run.run receive {} ((a :: bs).map (Arrival.shift k)))) ↔
      k = 0 ∨ Run.Along receive FrontKept (receive {} a) as ∧
        Run.Along receive FrontKept (receive {} (a.shift k)) (as.map (Arrival.shift k)) := by
  by_cases hk : k = 0
  · refine ⟨fun _ => Or.inl hk, fun _ bs _ => ?_⟩
    have hsame : Arrival.shift 0 = id := funext Arrival.shift_zero
    rw [hk, hsame, List.map_id]
    exact ShiftedBy.refl _
  · rw [or_iff_right hk]
    exact shiftedBy_run_iff hk (receive_first (hseq a List.mem_cons_self))
      (bufferSettled_fresh.receive a) (bufferSettled_fresh.receive _) as
      fun b hb => hseq b (List.mem_cons_of_mem a hb)

/-- A stream that crosses the wrap with a packet out of order. -/
theorem wrap_invariant_crossing :
    ShiftedBy 0xffffff9a
      (Run.run receive {} [unorderedAt 100, unorderedAt 102, unorderedAt 101])
      (Run.run receive {} ([unorderedAt 100, unorderedAt 102, unorderedAt 101].map
        (Arrival.shift 0xffffff9a))) :=
  (wrap_invariant_iff 0xffffff9a (unorderedAt 100) [unorderedAt 102, unorderedAt 101] (by decide)).2
    (Or.inr (by decide)) _ (List.prefix_refl _)

/-- Packet `2 ^ 32 - 1` puts the front on 0. Packet 1 then passes for the first of a stream, and
packet 0 is dropped as stale; with all numbers moved on by one, the three are delivered. -/
theorem wrap_loses_zero :
    (∀ a ∈ [unorderedAt 0xffffffff, unorderedAt 1, unorderedAt 0],
        consumesSeq a.packet.header a.kind = true) ∧
      (Run.run receive {} [unorderedAt 0xffffffff, unorderedAt 1, unorderedAt 0]).pendingEvents.map
        SessionEvent.seq = [0xffffffff, 1] ∧
      (Run.run receive {} ([unorderedAt 0xffffffff, unorderedAt 1, unorderedAt 0].map
        (Arrival.shift 1))).pendingEvents.map SessionEvent.seq = [0, 2, 1] ∧
      ¬ ShiftedBy 1 (Run.run receive {} [unorderedAt 0xffffffff, unorderedAt 1, unorderedAt 0])
        (Run.run receive {} ([unorderedAt 0xffffffff, unorderedAt 1, unorderedAt 0].map
          (Arrival.shift 1))) := by
  refine ⟨by decide, by decide, by decide, fun h => ?_⟩
  have hevents := congrArg List.length h.events
  exact absurd hevents (by decide)

end Rudp
