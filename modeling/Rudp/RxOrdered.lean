import Rudp.RxWindow

/-!
# Ordered delivery

`drain_contiguous_ordered` delivers buffered packets while the one at the delivery front is
there. `Drained` says what that amounts to: a run of consecutive sequence numbers leaves the
buffer and becomes events, and the loop stops at the first number that is not buffered.

`handleReliableOrdered_of_front` and `handleReliableOrdered_of_hold` are the two cases the later
proofs meet: the packet is at the delivery front and leaves alone, or it has to wait.
-/

namespace Rudp

open Serial Window RxHandler

def SessionEvent.isOrdered (e : SessionEvent) : Bool :=
  e.kind = .dataReceived && e.channelType = .reliableOrdered

/-! ## What draining does -/

/-- `rx'` is `rx` after the consecutive `packets` were taken from the buffer and delivered. -/
structure Drained (rx rx' : RxSessionState) (packets : List OwnedPacket) : Prop where
  events : rx'.pendingEvents = rx.pendingEvents ++ packets.map makeDataEvent
  front : rx'.nextOrderedDelivery = ahead rx.nextOrderedDelivery packets.length
  taken : ∀ (j : ℕ) (packet : OwnedPacket), packets[j]? = some packet →
    rx.orderedReorderBuffer[ahead rx.nextOrderedDelivery j]? = some packet
  erased : ∀ j < packets.length, rx'.orderedReorderBuffer[ahead rx.nextOrderedDelivery j]? = none
  kept : ∀ (k : U32) (packet : OwnedPacket), rx'.orderedReorderBuffer[k]? = some packet →
    rx.orderedReorderBuffer[k]? = some packet
  gone : ∀ (k : U32) (packet : OwnedPacket), rx.orderedReorderBuffer[k]? = some packet →
    rx'.orderedReorderBuffer[k]? = some packet ∨
      ∃ j : ℕ, k = ahead rx.nextOrderedDelivery j ∧ packets[j]? = some packet
  stop : rx'.orderedReorderBuffer[rx'.nextOrderedDelivery]? = none
  started : rx'.orderedDeliveryStarted = rx.orderedDeliveryStarted

theorem drained_nil {rx : RxSessionState}
    (h : rx.orderedReorderBuffer[rx.nextOrderedDelivery]? = none) : Drained rx rx [] where
  events := by simp
  front := by simp
  taken := fun j packet hj => by simp at hj
  erased := fun j hj => absurd hj (Nat.not_lt_zero j)
  kept := fun _ _ hk => hk
  gone := fun _ _ hk => Or.inl hk
  stop := h
  started := rfl

/-- The state after one round of the loop. -/
def deliverNext (rx : RxSessionState) (packet : OwnedPacket) : RxSessionState :=
  { rx with
    pendingEvents := rx.pendingEvents ++ [makeDataEvent packet]
    orderedReorderBuffer := rx.orderedReorderBuffer.erase rx.nextOrderedDelivery
    nextOrderedDelivery := rx.nextOrderedDelivery + 1 }

theorem Drained.cons {rx rx' : RxSessionState} {packet : OwnedPacket} {packets : List OwnedPacket}
    (hget : rx.orderedReorderBuffer[rx.nextOrderedDelivery]? = some packet)
    (h : Drained (deliverNext rx packet) rx' packets) : Drained rx rx' (packet :: packets) where
  events := by
    rw [h.events, deliverNext, List.map_cons, List.append_assoc, List.singleton_append]
  front := by
    rw [h.front, List.length_cons, Nat.add_comm, ahead_add]
    rfl
  taken := fun j p hj => by
    cases j with
    | zero =>
      obtain rfl : packet = p := by simpa using hj
      rw [ahead_zero, hget]
    | succ j =>
      have := h.taken j p (by simpa using hj)
      simp only [deliverNext, SeqMap.getElem?_erase] at this
      split_ifs at this
      rw [Nat.add_comm, ahead_add]
      exact this
  erased := fun j hj => by
    cases j with
    | zero =>
      rw [ahead_zero]
      cases hstay : rx'.orderedReorderBuffer[rx.nextOrderedDelivery]? with
      | none => rfl
      | some p =>
        have := h.kept _ p hstay
        simp [deliverNext] at this
    | succ j =>
      rw [Nat.add_comm, ahead_add]
      exact h.erased j (by simpa using hj)
  kept := fun k p hk => by
    have := h.kept k p hk
    simp only [deliverNext, SeqMap.getElem?_erase] at this
    split_ifs at this
    exact this
  gone := fun k p hk => by
    by_cases hfront : rx.nextOrderedDelivery = k
    · subst hfront
      exact Or.inr ⟨0, (ahead_zero _).symm, by rw [hget] at hk; simpa using hk⟩
    · have hk' : (deliverNext rx packet).orderedReorderBuffer[k]? = some p := by
        simp only [deliverNext, SeqMap.getElem?_erase, if_neg hfront, hk]
      rcases h.gone k p hk' with hstay | ⟨j, rfl, hj⟩
      · exact Or.inl hstay
      · refine Or.inr ⟨j + 1, ?_, by simpa using hj⟩
        rw [Nat.add_comm, ahead_add]
        rfl
  stop := h.stop
  started := h.started

/-- The bound on the loop is enough: each round takes one packet out of the buffer. -/
theorem drainLoop_drained (fuel : ℕ) (rx : RxSessionState)
    (hfuel : rx.orderedReorderBuffer.size ≤ fuel) :
    ∃ packets, Drained rx (drainLoop fuel rx) packets := by
  induction fuel generalizing rx with
  | zero =>
    refine ⟨[], drained_nil ?_⟩
    cases hget : rx.orderedReorderBuffer[rx.nextOrderedDelivery]? with
    | none => rfl
    | some packet =>
      have := SeqMap.size_erase_lt hget
      omega
  | succ fuel ih =>
    cases hget : rx.orderedReorderBuffer[rx.nextOrderedDelivery]? with
    | none =>
      rw [drainLoop, hget]
      exact ⟨[], drained_nil hget⟩
    | some packet =>
      have hsize : (deliverNext rx packet).orderedReorderBuffer.size ≤ fuel := by
        have := SeqMap.size_erase_lt hget
        simp only [deliverNext]
        omega
      obtain ⟨packets, hdrained⟩ := ih (deliverNext rx packet) hsize
      refine ⟨packet :: packets, Drained.cons hget ?_⟩
      rw [drainLoop, hget]
      exact hdrained

/-- The state in which an ordered packet is drained: stored, with delivery started. -/
def bufferOrdered (packet : PacketView) (rx : RxSessionState) : RxSessionState :=
  { ensureOrderedDeliveryStarted packet.header.seq rx with
    orderedReorderBuffer := rx.orderedReorderBuffer.insert packet.header.seq packet }

theorem bufferOrdered_started (packet : PacketView) (rx : RxSessionState) :
    (bufferOrdered packet rx).orderedDeliveryStarted = true := by
  simp only [bufferOrdered, ensureOrderedDeliveryStarted]
  split_ifs with h
  · rfl
  · simpa using h

theorem bufferOrdered_buffer (packet : PacketView) (rx : RxSessionState) (k : U32) :
    (bufferOrdered packet rx).orderedReorderBuffer[k]? =
      if packet.header.seq = k then some packet else rx.orderedReorderBuffer[k]? :=
  SeqMap.getElem?_insert _ _ _ _

theorem bufferOrdered_events (packet : PacketView) (rx : RxSessionState) :
    (bufferOrdered packet rx).pendingEvents = rx.pendingEvents := by
  simp only [bufferOrdered, ensureOrderedDeliveryStarted]
  split_ifs <;> rfl

theorem bufferOrdered_front (packet : PacketView) (rx : RxSessionState) :
    (bufferOrdered packet rx).nextOrderedDelivery =
      if rx.orderedDeliveryStarted then rx.nextOrderedDelivery else packet.header.seq := by
  simp only [bufferOrdered, ensureOrderedDeliveryStarted]
  cases rx.orderedDeliveryStarted <;> rfl

theorem handleReliableOrdered_eq (packet : PacketView) (rx : RxSessionState) :
    handleReliableOrdered packet rx =
      drainLoop (bufferOrdered packet rx).orderedReorderBuffer.size (bufferOrdered packet rx) := by
  have hstate : handleReliableOrdered packet rx =
      drainContiguousOrdered (bufferOrdered packet rx) := by
    simp only [handleReliableOrdered, bufferOrdered, ensureOrderedDeliveryStarted]
    split_ifs <;> rfl
  rw [hstate, drainContiguousOrdered, bufferOrdered_started]
  rfl

/-- **What an ordered packet does**: it is stored, and a run from the delivery front is
delivered. -/
theorem handleReliableOrdered_drained (packet : PacketView) (rx : RxSessionState) :
    ∃ packets, Drained (bufferOrdered packet rx) (handleReliableOrdered packet rx) packets := by
  rw [handleReliableOrdered_eq]
  exact drainLoop_drained _ _ le_rfl

/-- A packet at the delivery front, with nothing stored behind it, is delivered alone. -/
theorem handleReliableOrdered_of_front {packet : PacketView} {rx : RxSessionState}
    (hfront : packet.header.seq = (bufferOrdered packet rx).nextOrderedDelivery)
    (hnext : rx.orderedReorderBuffer[packet.header.seq + 1]? = none) :
    (handleReliableOrdered packet rx).pendingEvents =
        rx.pendingEvents ++ [makeDataEvent packet] ∧
      (handleReliableOrdered packet rx).nextOrderedDelivery = packet.header.seq + 1 ∧
      ∀ (k : U32) (p : OwnedPacket),
        (handleReliableOrdered packet rx).orderedReorderBuffer[k]? = some p →
          rx.orderedReorderBuffer[k]? = some p := by
  obtain ⟨packets, h⟩ := handleReliableOrdered_drained packet rx
  have hself : (bufferOrdered packet rx).orderedReorderBuffer[packet.header.seq]? = some packet := by
    rw [bufferOrdered_buffer, if_pos rfl]
  -- The first packet of the run is this one, and the second slot is empty.
  have hpackets : packets = [packet] := by
    match packets, h with
    | [], h =>
      have hstop := h.stop
      rw [h.front, List.length_nil, ahead_zero, ← hfront] at hstop
      rcases h.gone _ _ hself with hstay | ⟨j, -, hj⟩
      · rw [hstop] at hstay
        cases hstay
      · simp at hj
    | [p], h =>
      have hp := h.taken 0 p rfl
      rw [ahead_zero, ← hfront, hself] at hp
      rw [Option.some.inj hp]
    | p :: q :: rest, h =>
      have hq := h.taken 1 q rfl
      rw [← hfront, bufferOrdered_buffer, ahead_succ, ahead_zero, hnext] at hq
      split_ifs at hq with heq
      exact absurd heq (by simp)
  subst hpackets
  refine ⟨by rw [h.events, bufferOrdered_events]; rfl, ?_, fun k p hk => ?_⟩
  · rw [h.front, ← hfront]
    rfl
  · have hkept := h.kept k p hk
    rw [bufferOrdered_buffer] at hkept
    split_ifs at hkept with heq
    · have hgone := h.erased 0 (by simp)
      rw [ahead_zero, ← hfront, heq, hk] at hgone
      cases hgone
    · exact hkept

/-- A packet away from the delivery front waits, if the front is not stored. -/
theorem handleReliableOrdered_of_hold {packet : PacketView} {rx : RxSessionState}
    (hfront : packet.header.seq ≠ (bufferOrdered packet rx).nextOrderedDelivery)
    (hnone : rx.orderedReorderBuffer[(bufferOrdered packet rx).nextOrderedDelivery]? = none) :
    Drained (bufferOrdered packet rx) (handleReliableOrdered packet rx) [] := by
  obtain ⟨packets, h⟩ := handleReliableOrdered_drained packet rx
  match packets, h with
  | [], h => exact h
  | p :: rest, h =>
    have hp := h.taken 0 p rfl
    rw [ahead_zero, bufferOrdered_buffer, if_neg hfront, hnone] at hp
    cases hp

/-! ## What one packet does -/

section Effect

variable (packet : PacketView) (kind : ControlKind) (rx : RxSessionState)

/-- The window admits the packet. -/
def accepts : Bool := (updateReliableReceiveState packet kind {} rx).1

/-- The state with its window updated. -/
def windowed : RxSessionState := (updateReliableReceiveState packet kind {} rx).2.2

/-- `update_reliable_receive_state` touches the window and nothing else. -/
theorem windowed_frame : windowed packet kind rx =
    { rx with
      nextExpected := (windowed packet kind rx).nextExpected
      receivedBits := (windowed packet kind rx).receivedBits } := by
  simp only [windowed, updateReliableReceiveState, advanceReceiveWindow]
  split_ifs <;> rfl

/-- Data that the window admits is delivered; everything else only updates the window. -/
theorem onPacket_eq (nowMs : U64) : (onPacket packet nowMs kind rx).2 =
    if kind = .none ∧ accepts packet kind rx = true then
      deliverData packet (windowed packet kind rx)
    else windowed packet kind rx := by
  rcases hupdate : updateReliableReceiveState packet kind {} rx with ⟨ok, result, rx₁⟩
  by_cases hkind : kind = .none
  · subst hkind
    cases ok <;> simp [onPacket, isControlOnly, accepts, windowed, hupdate]
  · simp [onPacket, isControlOnly, windowed, hupdate, hkind]

/-- Everything `on_packet` can do with a packet, once the window is updated. -/
inductive PacketEffect : RxSessionState → Prop where
  | ignored (h : ¬ (kind = .none ∧ accepts packet kind rx = true)) :
      PacketEffect (windowed packet kind rx)
  | ordered {packets : List OwnedPacket} {rx' : RxSessionState} (hkind : kind = .none)
      (htype : packet.header.channelType = .reliableOrdered)
      (haccept : accepts packet kind rx = true)
      (hdrained : Drained (bufferOrdered packet (windowed packet kind rx)) rx' packets)
      (hwindow : rx'.nextExpected = (windowed packet kind rx).nextExpected ∧
        rx'.receivedBits = (windowed packet kind rx).receivedBits) :
      PacketEffect rx'
  | unordered (hkind : kind = .none) (htype : packet.header.channelType = .reliableUnordered)
      (haccept : accepts packet kind rx = true) :
      PacketEffect { windowed packet kind rx with
        pendingEvents := rx.pendingEvents ++ [makeDataEvent packet] }
  | unreliable {events : List SessionEvent} {versions : Finmap fun _ : U32 => U32}
      (hkind : kind = .none) (htype : isReliableChannel packet.header.channelType = false)
      (hevents : events = [] ∨ events = [makeDataEvent packet]) :
      PacketEffect { windowed packet kind rx with
        monotonicVersions := versions
        pendingEvents := rx.pendingEvents ++ events }

/-- **What one packet does.** -/
theorem onPacket_effect (nowMs : U64) :
    PacketEffect packet kind rx (onPacket packet nowMs kind rx).2 := by
  have hpending : (windowed packet kind rx).pendingEvents = rx.pendingEvents := by
    rw [windowed_frame]
  rw [onPacket_eq]
  split_ifs with hdata
  · obtain ⟨hkind, haccept⟩ := hdata
    rw [deliverData]
    split
    next htype =>
      obtain ⟨packets, hdrained⟩ := handleReliableOrdered_drained packet (windowed packet kind rx)
      exact .ordered hkind htype haccept hdrained (handleReliableOrdered_window _ _)
    next htype =>
      rw [handleReliableUnordered, hpending]
      exact .unordered hkind htype haccept
    next htype =>
      rw [handleUnreliable, hpending]
      exact .unreliable hkind (by simp [htype, isReliableChannel]) (Or.inr rfl)
    next htype =>
      have hreliable : isReliableChannel packet.header.channelType = false := by
        simp [htype, isReliableChannel]
      rcases handleMonotonicState_cases packet (windowed packet kind rx) with h | ⟨versions, h⟩
      · have hsame : windowed packet kind rx = { windowed packet kind rx with
            monotonicVersions := (windowed packet kind rx).monotonicVersions
            pendingEvents := rx.pendingEvents ++ [] } := by
          rw [List.append_nil, ← hpending]
        rw [h, hsame]
        exact .unreliable hkind hreliable (Or.inl rfl)
      · rw [h, hpending]
        exact .unreliable hkind hreliable (Or.inr rfl)
  · exact .ignored hdata

end Effect

/-- One call of `on_packet`, as a step of the receive state. -/
def receive (rx : RxSessionState) (a : Arrival) : RxSessionState :=
  (onPacket a.packet a.nowMs a.kind rx).2

theorem receive_eq (rx : RxSessionState) (a : Arrival) :
    receive rx a =
      if a.kind = .none ∧ (updateReliableReceiveState a.packet a.kind {} rx).1 = true then
        deliverData a.packet (updateReliableReceiveState a.packet a.kind {} rx).2.2
      else (updateReliableReceiveState a.packet a.kind {} rx).2.2 :=
  onPacket_eq a.packet a.kind rx a.nowMs

end Rudp
