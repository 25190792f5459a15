import Rudp.RxOrdered
import Rudp.Lib.Run

/-!
# Ordered delivery, whatever arrives

The reorder buffer is keyed by sequence number, the delivery front counts up, and the loop takes the
packet at the front. So the ordered events carry consecutive sequence numbers, around the circle if
need be, however the packets arrive and whatever the receive window lets through: a packet may be
stored twice, or over another one, but what is delivered is what was stored last.

An observer notes which packets are stored. `ordered_consecutive` compares its log with the events.
-/

namespace Rudp

open Serial RxHandler

/-! ## The observer -/

/-- The packet is ordered data that the window admits, so it is stored. -/
def storesOrdered (rx : RxSessionState) (a : Arrival) : Bool :=
  a.kind = .none && a.packet.header.channelType = .reliableOrdered && accepts a.packet a.kind rx

/-- A receiver, and the packets that it stored in its reorder buffer. -/
structure OrderedLog where
  rx : RxSessionState := {}
  stored : List OwnedPacket := []

def OrderedLog.step (o : OrderedLog) (a : Arrival) : OrderedLog :=
  { rx := receive o.rx a
    stored := if storesOrdered o.rx a then o.stored ++ [a.packet] else o.stored }

def OrderedLog.events (o : OrderedLog) : List SessionEvent :=
  o.rx.pendingEvents.filter SessionEvent.isOrdered

/-- The packet that was stored last under a sequence number. -/
def lastStored (stored : List OwnedPacket) (seq : U32) : Option OwnedPacket :=
  stored.reverse.find? fun p => p.header.seq = seq

/-- The ordered events are consecutive, and every packet is stored under its own number. -/
structure InSequence (o : OrderedLog) : Prop where
  consecutive : ∃ s, ∀ (j : ℕ) (e : SessionEvent), o.events[j]? = some e → e.seq = ahead s j
  keyed : ∀ (k : U32) (p : OwnedPacket), o.rx.orderedReorderBuffer[k]? = some p →
    p.header.seq = k

/-- Every ordered event that is added is the packet stored last under its number. -/
def DeliversStored (o o' : OrderedLog) : Prop :=
  ∃ added, o'.rx.pendingEvents = o.rx.pendingEvents ++ added ∧
    ∀ e ∈ added, e.isOrdered = true → ∃ p, lastStored o'.stored e.seq = some p ∧
      p.header.seq = e.seq ∧ e = makeDataEvent p

/-! ## The invariant -/

theorem lastStored_concat (stored : List OwnedPacket) (p : OwnedPacket) (k : U32) :
    lastStored (stored ++ [p]) k = if p.header.seq = k then some p else lastStored stored k := by
  rw [lastStored, List.reverse_append, List.reverse_singleton, List.singleton_append,
    List.find?_cons]
  by_cases hk : p.header.seq = k
  · simp [hk]
  · simp [hk, lastStored]

theorem seq_of_lastStored {stored : List OwnedPacket} {k : U32} {p : OwnedPacket}
    (h : lastStored stored k = some p) : p.header.seq = k := by
  simpa using List.find?_some h

structure OrderedInv (o : OrderedLog) : Prop where
  buffered : ∀ (k : U32) (p : OwnedPacket), o.rx.orderedReorderBuffer[k]? = some p →
    lastStored o.stored k = some p ∧ p.header.channelType = .reliableOrdered
  unstarted : o.rx.orderedDeliveryStarted = false → o.events = []
  started : o.rx.orderedDeliveryStarted = true → ∃ s,
    o.rx.nextOrderedDelivery = ahead s o.events.length ∧
      ∀ (j : ℕ) (e : SessionEvent), o.events[j]? = some e → e.seq = ahead s j

theorem orderedInv_fresh : OrderedInv {} := by
  refine ⟨?_, ?_, ?_⟩
  · intro k p hk
    simp at hk
  · intro _
    rfl
  · intro hstarted
    cases hstarted

theorem OrderedInv.inSequence {o : OrderedLog} (h : OrderedInv o) : InSequence o := by
  refine ⟨?_, ?_⟩
  · cases hstarted : o.rx.orderedDeliveryStarted with
    | false =>
      refine ⟨0, ?_⟩
      intro j e hj
      rw [h.unstarted hstarted] at hj
      cases hj
    | true =>
      obtain ⟨s, -, hevents⟩ := h.started hstarted
      exact ⟨s, hevents⟩
  · intro k p hk
    exact seq_of_lastStored (h.buffered k p hk).1

/-! ## One arrival -/

section Step

variable {o : OrderedLog} {a : Arrival}

/-- An arrival that adds no ordered event and leaves the buffer alone. -/
theorem OrderedInv.of_same (h : OrderedInv o) {rx' : RxSessionState} {added : List SessionEvent}
    (hbuffer : rx'.orderedReorderBuffer = o.rx.orderedReorderBuffer)
    (hstarted : rx'.orderedDeliveryStarted = o.rx.orderedDeliveryStarted)
    (hfront : rx'.nextOrderedDelivery = o.rx.nextOrderedDelivery)
    (hevents : rx'.pendingEvents = o.rx.pendingEvents ++ added)
    (hadded : ∀ e ∈ added, e.isOrdered = false) :
    OrderedInv { o with rx := rx' } ∧ DeliversStored o { o with rx := rx' } := by
  have hsame : OrderedLog.events { o with rx := rx' } = o.events := by
    have hnone : added.filter SessionEvent.isOrdered = [] :=
      List.filter_eq_nil_iff.2 fun e he => by simp [hadded e he]
    simp only [OrderedLog.events, hevents, List.filter_append, hnone, List.append_nil]
  refine ⟨⟨?_, ?_, ?_⟩, added, hevents, ?_⟩
  · simp only [hbuffer]
    exact h.buffered
  · simp only [hstarted, hsame]
    exact h.unstarted
  · simp only [hstarted, hfront, hsame]
    exact h.started
  · intro e he hordered
    rw [hadded e he] at hordered
    cases hordered

/-- Storing a packet makes it the last one under its number, and leaves the others what they were. -/
theorem OrderedInv.stored_bufferOrdered (h : OrderedInv o) {rx₁ : RxSessionState}
    (hbuffer : rx₁.orderedReorderBuffer = o.rx.orderedReorderBuffer) {packet : PacketView}
    (htype : packet.header.channelType = .reliableOrdered) {k : U32} {p : OwnedPacket}
    (hk : (bufferOrdered packet rx₁).orderedReorderBuffer[k]? = some p) :
    lastStored (o.stored ++ [packet]) k = some p ∧ p.header.channelType = .reliableOrdered := by
  rw [bufferOrdered_buffer, hbuffer] at hk
  rw [lastStored_concat]
  split_ifs at hk ⊢
  · obtain rfl := Option.some.inj hk
    exact ⟨rfl, htype⟩
  · exact h.buffered k p hk

/-- The delivery front comes right after the events: delivery starts at the packet that is stored, or
has started before. -/
theorem OrderedInv.front_bufferOrdered (h : OrderedInv o) {rx₁ : RxSessionState}
    (hstarted : rx₁.orderedDeliveryStarted = o.rx.orderedDeliveryStarted)
    (hfront : rx₁.nextOrderedDelivery = o.rx.nextOrderedDelivery) (packet : PacketView) :
    ∃ s, (bufferOrdered packet rx₁).nextOrderedDelivery = ahead s o.events.length ∧
      ∀ (j : ℕ) (e : SessionEvent), o.events[j]? = some e → e.seq = ahead s j := by
  rw [bufferOrdered_front, hstarted, hfront]
  cases hstarted' : o.rx.orderedDeliveryStarted with
  | false =>
    refine ⟨packet.header.seq, ?_, ?_⟩
    · rw [h.unstarted hstarted']
      simp
    · intro j e hj
      rw [h.unstarted hstarted'] at hj
      cases hj
  | true => exact h.started hstarted'

/-- The events of a drained run are its packets, with consecutive numbers. -/
theorem OrderedInv.of_drained (h : OrderedInv o) {rx₁ rx' : RxSessionState}
    {packets : List OwnedPacket} (htype : a.packet.header.channelType = .reliableOrdered)
    (hbuffer : rx₁.orderedReorderBuffer = o.rx.orderedReorderBuffer)
    (hstarted : rx₁.orderedDeliveryStarted = o.rx.orderedDeliveryStarted)
    (hfront : rx₁.nextOrderedDelivery = o.rx.nextOrderedDelivery)
    (hpending : rx₁.pendingEvents = o.rx.pendingEvents)
    (hdrained : Drained (bufferOrdered a.packet rx₁) rx' packets) :
    let o' : OrderedLog := { rx := rx', stored := o.stored ++ [a.packet] }
    OrderedInv o' ∧ DeliversStored o o' := by
  intro o'
  have htaken : ∀ (j : ℕ) (p : OwnedPacket), packets[j]? = some p →
      lastStored o'.stored p.header.seq = some p ∧
        p.header.seq = ahead (bufferOrdered a.packet rx₁).nextOrderedDelivery j ∧
        (makeDataEvent p).isOrdered = true := by
    intro j p hj
    obtain ⟨hlast, hchannel⟩ := h.stored_bufferOrdered hbuffer htype (hdrained.taken j p hj)
    have hseq := seq_of_lastStored hlast
    refine ⟨hseq ▸ hlast, hseq, ?_⟩
    simp [SessionEvent.isOrdered, makeDataEvent, hchannel]
  have hevents : o'.events = o.events ++ packets.map makeDataEvent := by
    have hall : (packets.map makeDataEvent).filter SessionEvent.isOrdered =
        packets.map makeDataEvent := by
      refine List.filter_eq_self.2 ?_
      intro e he
      obtain ⟨p, hp, rfl⟩ := List.mem_map.1 he
      obtain ⟨j, hj⟩ := List.mem_iff_getElem?.1 hp
      exact (htaken j p hj).2.2
    simp only [OrderedLog.events, o', hdrained.events, bufferOrdered_events, hpending,
      List.filter_append, hall]
  refine ⟨⟨?_, ?_, ?_⟩, packets.map makeDataEvent, ?_, ?_⟩
  · intro k p hk
    exact h.stored_bufferOrdered hbuffer htype (hdrained.kept k p hk)
  · intro hnot
    have : rx'.orderedDeliveryStarted = true := by
      rw [hdrained.started, bufferOrdered_started]
    rw [show rx'.orderedDeliveryStarted = false from hnot] at this
    cases this
  · intro _
    obtain ⟨s, hat, hold⟩ := h.front_bufferOrdered hstarted hfront a.packet
    refine ⟨s, ?_, ?_⟩
    · rw [hevents, List.length_append, List.length_map, ahead_add, ← hat]
      exact hdrained.front
    · intro j e hj
      rw [hevents] at hj
      rcases Nat.lt_or_ge j o.events.length with hlt | hge
      · rw [List.getElem?_append_left hlt] at hj
        exact hold j e hj
      · rw [List.getElem?_append_right hge, List.getElem?_map] at hj
        obtain ⟨p, hp, rfl⟩ := Option.map_eq_some_iff.1 hj
        show p.header.seq = ahead s j
        rw [(htaken _ p hp).2.1, hat, ← ahead_add, Nat.add_sub_cancel' hge]
  · simp only [o', hdrained.events, bufferOrdered_events, hpending]
  · intro e he _
    obtain ⟨p, hp, rfl⟩ := List.mem_map.1 he
    obtain ⟨j, hj⟩ := List.mem_iff_getElem?.1 hp
    exact ⟨p, (htaken j p hj).1, rfl, rfl⟩

/-- **One arrival.** -/
theorem OrderedInv.step (h : OrderedInv o) (a : Arrival) :
    OrderedInv (o.step a) ∧ DeliversStored o (o.step a) := by
  have heffect := onPacket_effect a.packet a.kind o.rx a.nowMs
  have hframe := windowed_frame a.packet a.kind o.rx
  have hstores : storesOrdered o.rx a = true ↔ a.kind = .none ∧
      a.packet.header.channelType = .reliableOrdered ∧ accepts a.packet a.kind o.rx = true := by
    simp [storesOrdered, and_assoc]
  rw [OrderedLog.step, receive]
  generalize (onPacket a.packet a.nowMs a.kind o.rx).2 = rx' at heffect ⊢
  cases heffect with
  | ignored hnot =>
    rw [if_neg fun hyes => hnot ⟨(hstores.1 hyes).1, (hstores.1 hyes).2.2⟩, hframe]
    exact h.of_same rfl rfl rfl (List.append_nil _).symm (by simp)
  | ordered hkind htype haccept hdrained _ =>
    rw [if_pos (hstores.2 ⟨hkind, htype, haccept⟩)]
    refine h.of_drained htype ?_ ?_ ?_ ?_ hdrained <;> rw [hframe]
  | unordered hkind htype _ =>
    rw [if_neg fun hyes => by simp [(hstores.1 hyes).2.1] at htype, hframe]
    refine h.of_same rfl rfl rfl rfl ?_
    intro e he
    rw [List.mem_singleton.1 he]
    simp [SessionEvent.isOrdered, makeDataEvent, htype]
  | unreliable hkind htype hevents =>
    rw [if_neg fun hyes => by simp [(hstores.1 hyes).2.1, isReliableChannel] at htype, hframe]
    refine h.of_same rfl rfl rfl rfl ?_
    intro e he
    rcases hevents with rfl | rfl
    · cases he
    · rw [List.mem_singleton.1 he]
      cases hchannel : a.packet.header.channelType with
      | reliableOrdered => simp [hchannel, isReliableChannel] at htype
      | reliableUnordered | unreliable | monotonicState =>
        simp [SessionEvent.isOrdered, makeDataEvent, hchannel]

end Step

/-! ## Every run -/

/-- **Ordered delivery never repeats or reorders.** Whatever packets arrive, the ordered events carry
consecutive sequence numbers, and each of them is the packet that was stored last under its
number. -/
theorem ordered_consecutive (arrivals : List Arrival) :
    InSequence (Run.run OrderedLog.step {} arrivals) ∧
      Run.Along OrderedLog.step (fun o a => DeliversStored o (o.step a)) {} arrivals := by
  constructor
  · exact (Run.invariant OrderedInv (fun _ a h => (h.step a).1) orderedInv_fresh arrivals).inSequence
  · exact Run.along_of_invariant OrderedInv (fun _ a h => (h.step a).2) (fun _ a h => (h.step a).1)
      orderedInv_fresh arrivals

end Rudp
