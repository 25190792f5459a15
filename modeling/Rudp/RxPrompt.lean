import Rudp.RxOrdered

/-!
# Ordered delivery without a gap

The delivery front counts by one through a sequence space that unordered packets and control
frames consume as well. Once it points at a number that will never be an ordered packet, it stays
there. `prompt_iff_orderedTogether` says exactly when this happens to a stream that arrives in
order and without any gap.

`InStep` is the invariant: the ordered packets so far form one block, and the delivery front is
its end. `InStep.next` is the step for a new packet, `InStep.again` the step for a copy of an
earlier one, and `promptRun_iff` the induction over the calls.
-/

namespace Rudp

open Serial Window RxHandler

/-! ## Streams without a gap -/

/-- Ordered application data. -/
def Arrival.isOrdered (a : Arrival) : Bool :=
  a.kind = .none && a.packet.header.channelType = .reliableOrdered

/-- `c` is a later copy of `b`. A retransmission carries newer ack fields. -/
def Arrival.Repeats (b c : Arrival) : Prop :=
  c.kind = b.kind ∧ SameButAcks b.packet c.packet

/-- After `seen`, the calls process the packets of the second list in exactly that order, with
copies of packets processed earlier in between. -/
inductive Replays : List Arrival → List Arrival → List Arrival → Prop where
  | done (seen : List Arrival) : Replays seen [] []
  | next {seen rest calls : List Arrival} {a : Arrival} (h : Replays (seen ++ [a]) rest calls) :
      Replays seen (a :: rest) (a :: calls)
  | again {seen rest calls : List Arrival} {b c : Arrival} (hb : b ∈ seen) (hc : b.Repeats c)
      (h : Replays seen rest calls) : Replays seen rest (c :: calls)

/-- The call for `a` from state `rx`, after the calls `pre`. -/
structure PromptCall (pre : List Arrival) (a : Arrival) (rx : RxSessionState) : Prop where
  /-- An ordered packet that is processed for the first time is delivered by this very call. -/
  prompt : a.isOrdered = true → (∀ b ∈ pre, b.seq ≠ a.seq) →
    ∃ events, (receive rx a).pendingEvents = rx.pendingEvents ++ events ∧
      makeDataEvent a.packet ∈ events
  /-- Nothing behind the front is left in the buffer. -/
  clean : ∀ k : U32, (receive rx a).orderedReorderBuffer[k]? ≠ none →
    seqLt k (receive rx a).nextExpected = false

/-- No other packet lies between two ordered ones. -/
def OrderedTogether (packets : List Arrival) : Prop :=
  ∀ i j k : ℕ, i < j → j < k → ∀ a b c : Arrival, packets[i]? = some a → packets[j]? = some b →
    packets[k]? = some c → a.isOrdered = true → c.isOrdered = true → b.isOrdered = true

/-- A receiver at the start of a stream: it expects `n`, or whatever comes first. -/
structure FreshFor (n : U32) (rx : RxSessionState) : Prop where
  front : rx.nextExpected = n ∨ rx.nextExpected = 0
  bits : rx.receivedBits = 0
  buffer : rx.orderedReorderBuffer = ∅
  unstarted : rx.orderedDeliveryStarted = false

/-! ## One call -/

/-- The receiver after the packets of `seen` and copies of them, while every ordered one was
delivered at once: the ordered ones are a block, and the delivery front is its end. -/
structure InStep (n : U32) (seen : List Arrival) (rx : RxSessionState) : Prop where
  front : rx.nextExpected = ahead n seen.length ∨ seen = [] ∧ rx.nextExpected = 0
  inCircle : 0 < n.toNat ∧ n.toNat + seen.length ≤ 2 ^ 32
  lowBit : rx.receivedBits.getLsbD 0 = false
  unstarted : rx.orderedDeliveryStarted = false → ∀ a ∈ seen, a.isOrdered = false
  started : rx.orderedDeliveryStarted = true → ∃ b t, b < t ∧ t ≤ seen.length ∧
    rx.nextOrderedDelivery = ahead n t ∧
    ∀ (j : ℕ) (a : Arrival), seen[j]? = some a → (a.isOrdered = true ↔ b ≤ j ∧ j < t)
  -- Copies so old that the circle is about to close land ahead of the front again.
  buffered : ∀ (k : U32) (packet : OwnedPacket), rx.orderedReorderBuffer[k]? = some packet →
    ∃ (j : ℕ) (a : Arrival), seen[j]? = some a ∧ a.isOrdered = true ∧ k = ahead n j ∧
      2 ^ 31 < seen.length - j

/-- With bit 0 unset, the packet at the front moves the window by one. -/
theorem advanceReceiveWindow_of_lowBit {rx : RxSessionState}
    (hlow : rx.receivedBits.getLsbD 0 = false) :
    advanceReceiveWindow rx = { rx with nextExpected := ahead rx.nextExpected 1 } := by
  obtain ⟨k, hk, hadv⟩ := advanceReceiveWindow_eq rx
  obtain rfl := hk.eq_zero hlow
  rw [hadv, BitVec.ushiftRight_zero]

section Step

variable {n : U32} {seen : List Arrival} {rx : RxSessionState} {a : Arrival}

theorem Arrival.isOrdered_iff : a.isOrdered = true ↔
    a.kind = .none ∧ a.packet.header.channelType = .reliableOrdered := by
  simp [Arrival.isOrdered]

theorem InStep.update_next (h : InStep n seen rx) (hn : n ≠ 0)
    (htouch : touchesWindow a.packet.header a.kind = true)
    (hseq : a.seq = ahead n seen.length) (hzero : seen = [] ∨ rx.nextExpected ≠ 0) :
    updateReliableReceiveState a.packet a.kind {} rx =
      (true, ackResult a.packet.header a.kind,
        { rx with nextExpected := ahead n (seen.length + 1) }) := by
  rcases h.front with hfront | ⟨rfl, hunset⟩
  · have hne : rx.nextExpected ≠ 0 := by
      rcases hzero with rfl | hne
      · rw [hfront]
        simpa using hn
      · exact hne
    rw [update_of_front htouch hne (hseq.trans hfront.symm),
      advanceReceiveWindow_of_lowBit h.lowBit, hfront, ← ahead_add]
  · have hlow : { rx with nextExpected := a.packet.header.seq }.receivedBits.getLsbD 0 = false :=
      h.lowBit
    rw [update_of_unset htouch hunset, advanceReceiveWindow_of_lowBit hlow]
    show (true, _, { rx with nextExpected := ahead a.seq 1 }) = _
    rw [hseq, ← ahead_add]

/-- Nothing is stored from the delivery front on. -/
theorem InStep.buffer_none (h : InStep n seen rx) {b t : ℕ}
    (hblock : ∀ (j : ℕ) (a : Arrival), seen[j]? = some a → (a.isOrdered = true ↔ b ≤ j ∧ j < t))
    {x : ℕ} (htx : t ≤ x) (hx : x < 2 ^ 32) : rx.orderedReorderBuffer[ahead n x]? = none := by
  cases hget : rx.orderedReorderBuffer[ahead n x]? with
  | none => rfl
  | some packet =>
    obtain ⟨j, a, hj, hordered, hkey, -⟩ := h.buffered _ _ hget
    have hjt := ((hblock j a hj).1 hordered).2
    exact absurd hkey.symm (ahead_ne_ahead (by omega) (by omega))

theorem InStep.buffer_none_of_unstarted (h : InStep n seen rx)
    (hun : rx.orderedDeliveryStarted = false) (k : U32) :
    rx.orderedReorderBuffer[k]? = none := by
  cases hget : rx.orderedReorderBuffer[k]? with
  | none => rfl
  | some packet =>
    obtain ⟨j, a, hj, hordered, -, -⟩ := h.buffered _ _ hget
    rw [h.unstarted hun a (List.mem_of_getElem? hj)] at hordered
    cases hordered

/-- Behind the front: what is stored is so old that it counts as ahead. -/
theorem InStep.clean (h : InStep n seen rx) (hfront : rx.nextExpected = ahead n seen.length)
    (k : U32) (hk : rx.orderedReorderBuffer[k]? ≠ none) : seqLt k rx.nextExpected = false := by
  obtain ⟨packet, hget⟩ := Option.ne_none_iff_exists'.1 hk
  obtain ⟨j, a, hj, -, rfl, hold⟩ := h.buffered _ _ hget
  have hcircle := h.inCircle
  rw [← Bool.not_eq_true, seqLt_iff, hfront, toNat_ahead_sub_ahead_of_lt (by omega) (by omega)]
  omega

/-- While the front is not 0, the block has not reached the end of the circle. -/
theorem InStep.length_lt (h : InStep n seen rx) (hne : rx.nextExpected ≠ 0) :
    n.toNat + seen.length < 2 ^ 32 := by
  obtain ⟨-, hle⟩ := h.inCircle
  by_contra hlt
  rcases h.front with hfront | ⟨-, hunset⟩
  · refine hne ?_
    rw [hfront, ahead]
    apply BitVec.eq_of_toNat_eq
    rw [BitVec.toNat_add, BitVec.toNat_ofNat]
    simp
    omega
  · exact hne hunset

theorem InStep.inCircle_next (h : InStep n seen rx) (hzero : seen = [] ∨ rx.nextExpected ≠ 0) :
    0 < n.toNat ∧ n.toNat + (seen ++ [a]).length ≤ 2 ^ 32 := by
  have hn := n.isLt
  refine ⟨h.inCircle.1, ?_⟩
  rw [List.length_append, List.length_singleton]
  rcases hzero with rfl | hne
  · simp
    omega
  · exact h.length_lt hne

/-- The front moves by one; nothing is stored that was not; and the delivery front ends the
block of ordered packets again. -/
theorem InStep.extend (h : InStep n seen rx) (hzero : seen = [] ∨ rx.nextExpected ≠ 0)
    {rx' : RxSessionState} (hfront : rx'.nextExpected = ahead n (seen.length + 1))
    (hbits : rx'.receivedBits = rx.receivedBits)
    (hbuffer : ∀ (k : U32) (p : OwnedPacket), rx'.orderedReorderBuffer[k]? = some p →
      rx.orderedReorderBuffer[k]? = some p)
    (hun : rx'.orderedDeliveryStarted = false →
      rx.orderedDeliveryStarted = false ∧ a.isOrdered = false)
    (hst : rx'.orderedDeliveryStarted = true → ∃ b t, b < t ∧ t ≤ seen.length + 1 ∧
      rx'.nextOrderedDelivery = ahead n t ∧ (a.isOrdered = true ↔ seen.length < t) ∧
      ∀ (j : ℕ) (c : Arrival), seen[j]? = some c → (c.isOrdered = true ↔ b ≤ j ∧ j < t)) :
    InStep n (seen ++ [a]) rx' where
  front := Or.inl (by rw [hfront, List.length_append, List.length_singleton])
  inCircle := h.inCircle_next hzero
  lowBit := by rw [hbits, h.lowBit]
  unstarted := fun hfalse c hc => by
    rcases List.mem_append.1 hc with hc | hc
    · exact h.unstarted (hun hfalse).1 c hc
    · rw [List.mem_singleton.1 hc]
      exact (hun hfalse).2
  started := fun htrue => by
    obtain ⟨b, t, hbt, ht, hdelivery, ha, hblock⟩ := hst htrue
    refine ⟨b, t, hbt, by simpa using ht, hdelivery, fun j c hj => ?_⟩
    rcases Run.getElem?_concat.1 hj with hj | ⟨rfl, rfl⟩
    · exact hblock j c hj
    · rw [ha]
      omega
  buffered := fun k p hk => by
    obtain ⟨j, c, hj, hordered, hkey, hold⟩ := h.buffered k p (hbuffer k p hk)
    refine ⟨j, c, Run.getElem?_concat.2 (Or.inl hj), hordered, hkey, ?_⟩
    rw [List.length_append, List.length_singleton]
    omega

/-- An unordered packet or a control frame in its turn: only the front moves. -/
theorem InStep.next_of_not_ordered (h : InStep n seen rx) (hn : n ≠ 0)
    (hconsumes : consumesSeq a.packet.header a.kind = true) (hother : a.isOrdered = false)
    (hseq : a.seq = ahead n seen.length) (hzero : seen = [] ∨ rx.nextExpected ≠ 0) :
    InStep n (seen ++ [a]) (receive rx a) := by
  have hreceive : ∃ events, receive rx a =
      { rx with nextExpected := ahead n (seen.length + 1), pendingEvents := events } := by
    rw [receive_eq, h.update_next hn (touchesWindow_of_consumesSeq hconsumes) hseq hzero]
    split_ifs with hdata
    · have htype : a.packet.header.channelType = .reliableUnordered := by
        simp only [consumesSeq, Arrival.isOrdered, isReliableChannel, hdata.1] at hconsumes hother
        simp at hconsumes hother
        exact hconsumes.resolve_left hother
      simp only [deliverData, htype, handleReliableUnordered]
      exact ⟨_, rfl⟩
    · exact ⟨_, rfl⟩
  obtain ⟨events, hreceive⟩ := hreceive
  rw [hreceive]
  refine h.extend hzero rfl rfl (fun _ _ hk => hk) (fun hfalse => ⟨hfalse, hother⟩) fun htrue => ?_
  obtain ⟨b, t, hbt, ht, hdelivery, hblock⟩ := h.started htrue
  exact ⟨b, t, hbt, by omega, hdelivery, by simp [hother, ht], hblock⟩

/-- An ordered packet in its turn is handed to the reorder buffer. -/
theorem InStep.receive_ordered (h : InStep n seen rx) (hn : n ≠ 0) (hordered : a.isOrdered = true)
    (hseq : a.seq = ahead n seen.length) (hzero : seen = [] ∨ rx.nextExpected ≠ 0) :
    receive rx a = handleReliableOrdered a.packet
      { rx with nextExpected := ahead n (seen.length + 1) } := by
  obtain ⟨hkind, htype⟩ := Arrival.isOrdered_iff.1 hordered
  have htouch : touchesWindow a.packet.header a.kind = true := by
    simp [touchesWindow, isReliableChannel, htype]
  rw [receive_eq, h.update_next hn htouch hseq hzero, if_pos ⟨hkind, rfl⟩, deliverData, htype]

/-- The next ordered packet extends the block, or the block has ended. -/
def AtFront (n : U32) (seen : List Arrival) (rx : RxSessionState) : Prop :=
  rx.orderedDeliveryStarted = true → rx.nextOrderedDelivery = ahead n seen.length

/-- An ordered packet at the delivery front is delivered by its call. -/
theorem InStep.next_of_front (h : InStep n seen rx) (hn : n ≠ 0) (hordered : a.isOrdered = true)
    (hseq : a.seq = ahead n seen.length) (hzero : seen = [] ∨ rx.nextExpected ≠ 0)
    (hat : AtFront n seen rx) :
    InStep n (seen ++ [a]) (receive rx a) ∧
      (receive rx a).pendingEvents = rx.pendingEvents ++ [makeDataEvent a.packet] := by
  obtain ⟨hpos, hcircle⟩ := h.inCircle_next (a := a) hzero
  rw [List.length_append, List.length_singleton] at hcircle
  set rx₁ : RxSessionState := { rx with nextExpected := ahead n (seen.length + 1) } with hrx₁
  have hdelivery : a.packet.header.seq = (bufferOrdered a.packet rx₁).nextOrderedDelivery := by
    rw [bufferOrdered_front]
    split_ifs with hst
    · exact hseq.trans (hat hst).symm
    · rfl
  have hnext : rx₁.orderedReorderBuffer[a.packet.header.seq + 1]? = none := by
    show rx.orderedReorderBuffer[a.seq + 1]? = none
    rw [hseq, ← ahead_succ]
    cases hst : rx.orderedDeliveryStarted with
    | false => exact h.buffer_none_of_unstarted hst _
    | true =>
      obtain ⟨b, t, -, ht, -, hblock⟩ := h.started hst
      exact h.buffer_none hblock (by omega) (by omega)
  obtain ⟨hevents, hend, hbuffer⟩ := handleReliableOrdered_of_front hdelivery hnext
  have hwindow := handleReliableOrdered_window a.packet rx₁
  obtain ⟨_, hdrained⟩ := handleReliableOrdered_drained a.packet rx₁
  have hstarted := hdrained.started.trans (bufferOrdered_started a.packet rx₁)
  rw [h.receive_ordered hn hordered hseq hzero, ← hrx₁]
  refine ⟨h.extend hzero hwindow.1 hwindow.2 hbuffer (fun hfalse => ?_) (fun _ => ?_), hevents⟩
  · rw [hstarted] at hfalse
    cases hfalse
  · have hend' : (handleReliableOrdered a.packet rx₁).nextOrderedDelivery =
        ahead n (seen.length + 1) := by
      rw [hend, ahead_succ, ← hseq]
      rfl
    cases hst : rx.orderedDeliveryStarted with
    | false =>
      refine ⟨seen.length, seen.length + 1, by omega, le_rfl, hend', by simp [hordered], ?_⟩
      intro j c hj
      rw [h.unstarted hst c (List.mem_of_getElem? hj)]
      have := (List.getElem?_eq_some_iff.1 hj).1
      simp
      omega
    | true =>
      obtain ⟨b, t, hbt, ht, ht', hblock⟩ := h.started hst
      have hlen : t = seen.length := by
        rw [hat hst] at ht'
        exact ((ahead_inj (by omega) (by omega)).1 ht').symm
      refine ⟨b, seen.length + 1, by omega, le_rfl, hend', by simp [hordered], ?_⟩
      intro j c hj
      have := (List.getElem?_eq_some_iff.1 hj).1
      rw [hblock j c hj]
      omega

/-- An ordered packet behind the end of the block is not delivered. -/
theorem InStep.blocked (h : InStep n seen rx) (hn : n ≠ 0) (hordered : a.isOrdered = true)
    (hseq : a.seq = ahead n seen.length) (hzero : seen = [] ∨ rx.nextExpected ≠ 0)
    (hat : ¬ AtFront n seen rx) : (receive rx a).pendingEvents = rx.pendingEvents := by
  obtain ⟨hpos, hcircle⟩ := h.inCircle
  rw [AtFront, Classical.not_imp] at hat
  obtain ⟨hst, hne⟩ := hat
  obtain ⟨b, t, -, ht, hdelivery, hblock⟩ := h.started hst
  set rx₁ : RxSessionState := { rx with nextExpected := ahead n (seen.length + 1) } with hrx₁
  have hfront : (bufferOrdered a.packet rx₁).nextOrderedDelivery = ahead n t := by
    rw [bufferOrdered_front, if_pos hst]
    exact hdelivery
  have hdrained : Drained (bufferOrdered a.packet rx₁) (handleReliableOrdered a.packet rx₁) [] := by
    refine handleReliableOrdered_of_hold ?_ ?_
    · rw [hfront, ← hdelivery]
      exact fun heq => hne (heq.symm.trans hseq)
    · rw [hfront]
      exact h.buffer_none hblock le_rfl (by omega)
  rw [h.receive_ordered hn hordered hseq hzero, ← hrx₁, hdrained.events, bufferOrdered_events]
  simp [hrx₁]

/-- A call that leaves both fronts and at most stores an old ordered packet again. -/
theorem InStep.keep (h : InStep n seen rx) {rx' : RxSessionState}
    (hfront : rx'.nextExpected = rx.nextExpected)
    (hlow : rx'.receivedBits.getLsbD 0 = false)
    (hstarted : rx'.orderedDeliveryStarted = rx.orderedDeliveryStarted)
    (hdelivery : rx'.nextOrderedDelivery = rx.nextOrderedDelivery)
    (hbuffer : ∀ (k : U32) (p : OwnedPacket), rx'.orderedReorderBuffer[k]? = some p →
      rx.orderedReorderBuffer[k]? = some p ∨
        ∃ (j : ℕ) (a : Arrival), seen[j]? = some a ∧ a.isOrdered = true ∧ k = ahead n j ∧
          2 ^ 31 < seen.length - j) :
    InStep n seen rx' where
  front := by rw [hfront]; exact h.front
  inCircle := h.inCircle
  lowBit := hlow
  unstarted := by rw [hstarted]; exact h.unstarted
  started := by rw [hstarted, hdelivery]; exact h.started
  buffered := fun k p hk => (hbuffer k p hk).elim (h.buffered k p) id

/-- An old ordered packet that gets past the window stays in the buffer. -/
theorem InStep.store_again (h : InStep n seen rx) {packet : PacketView} {j : ℕ} {b : Arrival}
    (hj : seen[j]? = some b) (hordered : b.isOrdered = true)
    (hseq : packet.header.seq = ahead n j) (hold : 2 ^ 31 < seen.length - j) :
    InStep n seen (handleReliableOrdered packet rx) := by
  have hst : rx.orderedDeliveryStarted = true := by
    by_contra hun
    rw [h.unstarted (by simpa using hun) b (List.mem_of_getElem? hj)] at hordered
    cases hordered
  obtain ⟨_, t, -, ht, hdelivery, hblock⟩ := h.started hst
  have hjt := ((hblock j b hj).1 hordered).2
  have hcircle := h.inCircle
  have hfront : (bufferOrdered packet rx).nextOrderedDelivery = ahead n t := by
    rw [bufferOrdered_front, if_pos hst, hdelivery]
  have hdrained : Drained (bufferOrdered packet rx) (handleReliableOrdered packet rx) [] := by
    refine handleReliableOrdered_of_hold ?_ ?_
    · rw [hfront, hseq]
      exact ahead_ne_ahead hjt (by omega)
    · rw [hfront]
      exact h.buffer_none hblock le_rfl (by omega)
  obtain ⟨hnext, hbits⟩ := handleReliableOrdered_window packet rx
  refine h.keep hnext (by rw [hbits, h.lowBit]) ?_ ?_ fun k p hk => ?_
  · rw [hdrained.started, bufferOrdered_started, hst]
  · rw [hdrained.front, hfront, hdelivery]
    exact ahead_zero _
  · have hkept := hdrained.kept k p hk
    rw [bufferOrdered_buffer] at hkept
    split_ifs at hkept with heq
    · exact Or.inr ⟨j, b, hj, hordered, by rw [← heq, hseq], hold⟩
    · exact Or.inl hkept

/-- **A copy of an earlier packet.** It lies behind the front and is dropped, unless the circle
is about to close; then it is taken for a packet ahead, and stored out of the way. -/
theorem InStep.again {b c : Arrival} (h : InStep n seen rx)
    (hseqs : ∀ (j : ℕ) (a : Arrival), seen[j]? = some a → a.seq = ahead n j)
    (hne : rx.nextExpected ≠ 0) (hb : b ∈ seen) (hc : b.Repeats c)
    (hconsumes : consumesSeq b.packet.header b.kind = true) : InStep n seen (receive rx c) := by
  obtain ⟨j, hj⟩ := List.mem_iff_getElem?.1 hb
  obtain ⟨hkind, ack, ackBits, hpacket⟩ := hc
  have hjlen : j < seen.length := (List.getElem?_eq_some_iff.1 hj).1
  have hlen := h.length_lt hne
  have hpos := h.inCircle.1
  have hcseq : c.packet.header.seq = ahead n j := by
    rw [hpacket, ← hseqs j b hj]
    rfl
  have hctype : c.packet.header.channelType = b.packet.header.channelType := by rw [hpacket]
  have htouch : touchesWindow c.packet.header c.kind = true := by
    rw [touchesWindow, hctype, hkind]
    exact touchesWindow_of_consumesSeq hconsumes
  have hfront : rx.nextExpected = ahead n seen.length :=
    h.front.resolve_right fun hnil => hne hnil.2
  have hoffset : offset rx c.packet.header.seq = 2 ^ 32 - (seen.length - j) := by
    rw [offset, hcseq, hfront, toNat_ahead_sub_ahead_of_lt hjlen (by omega)]
  rcases Nat.lt_or_ge 64 (offset rx c.packet.header.seq) with hfar | hnear
  · rw [receive_eq, update_of_outside htouch hne hfar]
    simpa using h
  · obtain ⟨i, hi⟩ : ∃ i, offset rx c.packet.header.seq = i + 1 := ⟨_, (Nat.succ_pred (by omega)).symm⟩
    set rx₁ : RxSessionState := { rx with receivedBits := setBit rx.receivedBits i } with hrx₁
    have hlow : rx₁.receivedBits.getLsbD 0 = false := by
      rw [hrx₁, getLsbD_setBit _ _ (by decide), h.lowBit, Bool.false_or, decide_eq_false]
      omega
    have h₁ : InStep n seen rx₁ := h.keep rfl hlow rfl rfl fun _ _ hk => Or.inl hk
    rw [receive_eq, update_of_ahead htouch hne (by omega) hi, ← hrx₁]
    split_ifs with hdata
    · have hbkind : b.kind = .none := hkind.symm.trans hdata.1
      rw [deliverData, hctype]
      cases htype : b.packet.header.channelType with
      | reliableOrdered =>
        exact h₁.store_again hj (Arrival.isOrdered_iff.2 ⟨hbkind, htype⟩) hcseq (by omega)
      | reliableUnordered => exact h₁.keep rfl hlow rfl rfl fun _ _ hk => Or.inl hk
      | unreliable | monotonicState =>
        simp [consumesSeq, hbkind, isReliableChannel, htype] at hconsumes
    · exact h₁

/-- One more packet keeps the ordered ones together if and only if the delivery front is there
to meet it. -/
theorem InStep.orderedTogether_iff (h : InStep n seen rx) :
    OrderedTogether (seen ++ [a]) ↔ (a.isOrdered = true → AtFront n seen rx) := by
  constructor
  · intro htogether ha hst
    obtain ⟨b, t, hbt, ht, hdelivery, hblock⟩ := h.started hst
    by_contra hne
    have hlt : t < seen.length :=
      Nat.lt_of_le_of_ne ht fun heq => hne (by rw [hdelivery, heq])
    -- The last packet of the block, the one that ended it, and `a`.
    have hlast : seen[t - 1]? = some seen[t - 1] := List.getElem?_eq_getElem _
    have hend : seen[t]? = some seen[t] := List.getElem?_eq_getElem _
    have hordered := htogether (t - 1) t seen.length (by omega) hlt _ _ a
      (Run.getElem?_concat.2 (Or.inl hlast)) (Run.getElem?_concat.2 (Or.inl hend))
      (Run.getElem?_concat.2 (Or.inr ⟨rfl, rfl⟩)) ((hblock _ _ hlast).2 (by omega)) ha
    have := (hblock _ _ hend).1 hordered
    omega
  · intro hat i j k hij hjk x y z hx hy hz hxo hzo
    have hk : k < seen.length ∨ k = seen.length := by
      rcases Run.getElem?_concat.1 hz with hz | ⟨hk, -⟩
      · exact Or.inl (List.getElem?_eq_some_iff.1 hz).1
      · exact Or.inr hk
    have hx' : seen[i]? = some x := (Run.getElem?_concat.1 hx).resolve_right (by omega)
    have hy' : seen[j]? = some y := (Run.getElem?_concat.1 hy).resolve_right (by omega)
    cases hst : rx.orderedDeliveryStarted with
    | false =>
      rw [h.unstarted hst x (List.mem_of_getElem? hx')] at hxo
      cases hxo
    | true =>
      obtain ⟨b, t, -, ht, hdelivery, hblock⟩ := h.started hst
      have hbi := (hblock i x hx').1 hxo
      refine (hblock j y hy').2 ⟨by omega, ?_⟩
      rcases Run.getElem?_concat.1 hz with hz' | ⟨rfl, rfl⟩
      · have := (hblock k z hz').1 hzo
        omega
      · have hcircle := h.inCircle
        have hfront := hat hzo hst
        rw [hdelivery, ahead_inj (by omega) (by omega)] at hfront
        omega

/-- **One packet in its turn** is handled promptly if and only if it keeps the ordered packets
together, and then the receiver stays in step. -/
theorem InStep.next (h : InStep n seen rx) (hn : n ≠ 0) {pre : List Arrival}
    (hfresh : ∀ b ∈ pre, b.seq ≠ a.seq)
    (hconsumes : consumesSeq a.packet.header a.kind = true)
    (hseq : a.seq = ahead n seen.length) (hzero : seen = [] ∨ rx.nextExpected ≠ 0) :
    (PromptCall pre a rx ↔ OrderedTogether (seen ++ [a])) ∧
      (OrderedTogether (seen ++ [a]) → InStep n (seen ++ [a]) (receive rx a)) := by
  have hstep : OrderedTogether (seen ++ [a]) → InStep n (seen ++ [a]) (receive rx a) := by
    intro htogether
    cases ha : a.isOrdered with
    | false => exact h.next_of_not_ordered hn hconsumes ha hseq hzero
    | true =>
      exact (h.next_of_front hn ha hseq hzero (h.orderedTogether_iff.1 htogether ha)).1
  refine ⟨⟨fun hprompt => ?_, fun htogether => ⟨fun ha _ => ?_, ?_⟩⟩, hstep⟩
  · rw [h.orderedTogether_iff]
    intro ha
    by_contra hat
    obtain ⟨events, hevents, hmem⟩ := hprompt.prompt ha hfresh
    rw [h.blocked hn ha hseq hzero hat] at hevents
    rw [List.self_eq_append_right.1 hevents] at hmem
    cases hmem
  · refine ⟨_, (h.next_of_front hn ha hseq hzero (h.orderedTogether_iff.1 htogether ha)).2, ?_⟩
    exact List.mem_singleton.2 rfl
  · exact (hstep htogether).clean ((hstep htogether).front.resolve_right (by simp))

end Step

/-! ## Whole streams -/

/-- Every call of the run is prompt. -/
def PromptRun (pre : List Arrival) (rx : RxSessionState) (calls : List Arrival) : Prop :=
  ∀ mid a post, calls = mid ++ a :: post → PromptCall (pre ++ mid) a (Run.run receive rx mid)

theorem promptRun_cons {pre calls : List Arrival} {rx : RxSessionState} {a : Arrival} :
    PromptRun pre rx (a :: calls) ↔
      PromptCall pre a rx ∧ PromptRun (pre ++ [a]) (receive rx a) calls := by
  constructor
  · intro h
    refine ⟨by simpa using h [] a calls rfl, fun mid b post hsplit => ?_⟩
    simpa using h (a :: mid) b post (by rw [hsplit]; rfl)
  · rintro ⟨hfirst, hrest⟩ mid b post hsplit
    cases mid with
    | nil =>
      obtain ⟨rfl, rfl⟩ := List.cons.inj hsplit
      simpa using hfirst
    | cons c mid =>
      obtain ⟨rfl, rfl⟩ := List.cons.inj hsplit
      simpa using hrest mid b post rfl

/-- Sequence number 0 is not passed: the front does not rest on it when a packet comes in, the
very first one aside, which may find it unset. -/
def ZeroNotPassed (pre : List Arrival) (rx : RxSessionState) (calls : List Arrival) : Prop :=
  ∀ mid a post, calls = mid ++ a :: post →
    pre ++ mid = [] ∨ (Run.run receive rx mid).nextExpected ≠ 0

theorem ZeroNotPassed.head {pre calls : List Arrival} {rx : RxSessionState} {a : Arrival}
    (h : ZeroNotPassed pre rx (a :: calls)) : pre = [] ∨ rx.nextExpected ≠ 0 := by
  simpa using h [] a calls rfl

theorem ZeroNotPassed.tail {pre calls : List Arrival} {rx : RxSessionState} {a : Arrival}
    (h : ZeroNotPassed pre rx (a :: calls)) : ZeroNotPassed (pre ++ [a]) (receive rx a) calls := by
  intro mid b post hsplit
  simpa using h (a :: mid) b post (by rw [hsplit]; rfl)

theorem OrderedTogether.of_prefix {packets packets' : List Arrival} (hpre : packets <+: packets')
    (h : OrderedTogether packets') : OrderedTogether packets := by
  obtain ⟨rest, rfl⟩ := hpre
  have hget : ∀ (i : ℕ) (a : Arrival), packets[i]? = some a → (packets ++ rest)[i]? = some a := by
    intro i a hi
    rw [List.getElem?_append_left (List.getElem?_eq_some_iff.1 hi).1, hi]
  intro i j k hij hjk a b c ha hb hc
  exact h i j k hij hjk a b c (hget i a ha) (hget j b hb) (hget k c hc)

/-- The calls so far and the packets they processed have the same sequence numbers. -/
def SameSeqs (pre seen : List Arrival) : Prop :=
  ∀ s : U32, (∃ b ∈ pre, b.seq = s) ↔ ∃ b ∈ seen, b.seq = s

theorem SameSeqs.concat {pre seen : List Arrival} {a : Arrival} (h : SameSeqs pre seen) :
    SameSeqs (pre ++ [a]) (seen ++ [a]) := by
  intro s
  simp only [List.mem_append, List.mem_singleton, or_and_right, exists_or, h s]

theorem SameSeqs.again {pre seen : List Arrival} {b c : Arrival} (h : SameSeqs pre seen)
    (hb : b ∈ seen) (hseq : c.seq = b.seq) : SameSeqs (pre ++ [c]) seen := by
  intro s
  simp only [List.mem_append, List.mem_singleton, or_and_right, exists_or, h s, exists_eq_left]
  exact ⟨fun hor => hor.elim id fun hs => ⟨b, hb, hseq.symm.trans hs⟩, Or.inl⟩

theorem Arrival.Repeats.seq_eq {b c : Arrival} (h : b.Repeats c) : c.seq = b.seq := by
  obtain ⟨-, ack, ackBits, hpacket⟩ := h
  rw [Arrival.seq, hpacket]
  rfl

/-- Consecutive sequence numbers from `n`. -/
def Consecutive (n : U32) (packets : List Arrival) : Prop :=
  ∀ (j : ℕ) (a : Arrival), packets[j]? = some a → a.seq = ahead n j

/-- **The run lemma**, from any point of a stream at which the receiver is in step. -/
theorem promptRun_iff {n : U32} (hn : n ≠ 0) {seen rest calls : List Arrival}
    (hcalls : Replays seen rest calls) :
    ∀ {pre : List Arrival} {rx : RxSessionState}, InStep n seen rx → SameSeqs pre seen →
      Consecutive n (seen ++ rest) →
      (∀ a ∈ seen ++ rest, consumesSeq a.packet.header a.kind = true) →
      OrderedTogether seen → ZeroNotPassed pre rx calls →
      (PromptRun pre rx calls ↔ OrderedTogether (seen ++ rest)) := by
  induction hcalls with
  | done seen =>
    intro pre rx _ _ _ _ htogether _
    rw [List.append_nil]
    exact ⟨fun _ => htogether, fun _ mid a post hsplit => by simp at hsplit⟩
  | @next seen rest calls a _ ih =>
    intro pre rx h hsame hconsec hconsumes _ hzero
    have hassoc : seen ++ a :: rest = seen ++ [a] ++ rest := by simp
    have hseq : a.seq = ahead n seen.length := hconsec _ a (by simp)
    have hlen : n.toNat + seen.length ≤ 2 ^ 32 := h.inCircle.2
    have hpos := h.inCircle.1
    have hfresh : ∀ b ∈ pre, b.seq ≠ a.seq := by
      intro b hb heq
      obtain ⟨c, hc, hcseq⟩ := (hsame a.seq).1 ⟨b, hb, heq⟩
      obtain ⟨j, hj⟩ := List.mem_iff_getElem?.1 hc
      have hjlen := (List.getElem?_eq_some_iff.1 hj).1
      have hcj := hconsec j c (by rw [List.getElem?_append_left hjlen, hj])
      rw [hcseq, hseq] at hcj
      exact ahead_ne_ahead hjlen (by omega) hcj.symm
    have hnil : seen = [] ∨ rx.nextExpected ≠ 0 := by
      refine hzero.head.imp_left fun hpre => List.eq_nil_iff_forall_not_mem.2 fun b hb => ?_
      obtain ⟨c, hc, -⟩ := (hsame b.seq).2 ⟨b, hb, rfl⟩
      rw [hpre] at hc
      cases hc
    obtain ⟨hiff, hstep⟩ := h.next hn hfresh (hconsumes a (by simp)) hseq hnil
    rw [promptRun_cons, hiff, hassoc]
    constructor
    · rintro ⟨htogether, hrest⟩
      exact (ih (hstep htogether) hsame.concat (hassoc ▸ hconsec) (hassoc ▸ hconsumes) htogether
        hzero.tail).1 hrest
    · intro hall
      have htogether := hall.of_prefix (List.prefix_append _ _)
      exact ⟨htogether, (ih (hstep htogether) hsame.concat (hassoc ▸ hconsec) (hassoc ▸ hconsumes)
        htogether hzero.tail).2 hall⟩
  | @again seen rest calls b c hb hc _ ih =>
    intro pre rx h hsame hconsec hconsumes htogether hzero
    obtain ⟨d, hd, hdseq⟩ := (hsame b.seq).2 ⟨b, hb, rfl⟩
    have hne : rx.nextExpected ≠ 0 := by
      refine hzero.head.resolve_left fun hpre => ?_
      rw [hpre] at hd
      cases hd
    have hseen : Consecutive n seen := fun j a hj =>
      hconsec j a (by rw [List.getElem?_append_left (List.getElem?_eq_some_iff.1 hj).1, hj])
    have hstep := h.again hseen hne hb hc (hconsumes b (List.mem_append_left _ hb))
    have hprompt : PromptCall pre c rx := by
      refine ⟨fun _ hfresh => absurd (hdseq.trans hc.seq_eq.symm) (hfresh d hd), hstep.clean ?_⟩
      refine hstep.front.resolve_right fun hnil => ?_
      rw [hnil.1] at hb
      cases hb
    rw [promptRun_cons]
    refine (and_iff_right hprompt).trans ?_
    exact ih hstep (hsame.again hb hc.seq_eq) hconsec hconsumes htogether hzero.tail

/-- **Ordered delivery is prompt if and only if the ordered packets come together.** Take any
packets with consecutive sequence numbers that consume one (data on either reliable channel, SYN,
SYN-ACK, FIN), processed in exactly that order with copies of earlier ones in between. Every
ordered packet is delivered by the call that first processes it, and nothing behind the front is
ever left in the buffer, if and only if no other packet lies between two ordered ones. -/
theorem prompt_iff_orderedTogether {n : U32} (hn : n ≠ 0) (rx : RxSessionState)
    (hfresh : FreshFor n rx) (packets calls : List Arrival) (hconsec : Consecutive n packets)
    (hconsumes : ∀ a ∈ packets, consumesSeq a.packet.header a.kind = true)
    (hcalls : Replays [] packets calls) (hzero : ZeroNotPassed [] rx calls) :
    PromptRun [] rx calls ↔ OrderedTogether packets := by
  have hstart : InStep n [] rx :=
    { front := hfresh.front.imp (fun hfront => by simpa using hfront) fun hunset => ⟨rfl, hunset⟩
      inCircle := by
        have := n.isLt
        have : n.toNat ≠ 0 := fun h0 => hn (BitVec.eq_of_toNat_eq h0)
        simp
        omega
      lowBit := by simp [hfresh.bits]
      unstarted := fun _ a ha => by cases ha
      started := fun htrue => by
        rw [hfresh.unstarted] at htrue
        cases htrue
      buffered := fun k p hk => by simp [hfresh.buffer] at hk }
  exact promptRun_iff hn hcalls hstart (fun s => Iff.rfl) hconsec hconsumes
    (fun i j k _ _ a b c ha => by simp at ha) hzero

/-- A packet on an ordered channel. -/
def orderedAt (seq : U32) : Arrival :=
  { packet := { header := { seq, channelId := 1, channelType := .reliableOrdered },
                payload := [0x01] } }

/-- A FIN frame. -/
def finAt (seq : U32) : Arrival :=
  { packet := { header := { seq, flags := Flag.fin.toFlags }, payload := [] }, kind := .fin }

/-- Two ordered packets, a copy of the first, and a FIN. -/
theorem promptRun_ordered_then_fin :
    PromptRun [] expects100 [orderedAt 100, orderedAt 101, orderedAt 100, finAt 102] := by
  refine (prompt_iff_orderedTogether (n := 100) (by decide) expects100 ⟨by decide, rfl, rfl, rfl⟩
    [orderedAt 100, orderedAt 101, finAt 102] _ ?_ (by decide)
    (.next (.next (.again (b := orderedAt 100) (by simp) ⟨rfl, 0, 0, rfl⟩ (.next (.done _))))) ?_).2 ?_
  · intro j a hj
    match j, hj with
    | 0, hj | 1, hj | 2, hj =>
      obtain rfl := Option.some.inj hj
      rfl
  · intro mid a post hsplit
    have hmid := (List.mem_inits mid _).2 ⟨_, hsplit.symm⟩
    have hlen : mid.length < 4 := by
      have := congrArg List.length hsplit
      simp at this
      omega
    have hall : ∀ mid ∈ [orderedAt 100, orderedAt 101, orderedAt 100, finAt 102].inits,
        mid.length < 4 → mid.length = 0 ∨ (Run.run receive expects100 mid).nextExpected ≠ 0 := by
      decide
    exact (hall mid hmid hlen).imp_left List.eq_nil_of_length_eq_zero
  · intro i j k hij hjk a b c _ _ hc _ hco
    have hk := (List.getElem?_eq_some_iff.1 hc).1
    obtain rfl : k = 2 := by
      simp at hk
      omega
    obtain rfl := Option.some.inj hc
    exact absurd hco (by decide)

/-- An unordered packet between two ordered ones: the second is never delivered. The run has no
gap, and the delivery front rests on 101 for good. -/
theorem ordered_blocked_by_unordered :
    FreshFor 100 expects100 ∧ Consecutive 100 [orderedAt 100, unorderedAt 101, orderedAt 102] ∧
      (∀ a ∈ [orderedAt 100, unorderedAt 101, orderedAt 102],
        consumesSeq a.packet.header a.kind = true) ∧
      Replays [] [orderedAt 100, unorderedAt 101, orderedAt 102]
        [orderedAt 100, unorderedAt 101, orderedAt 102] ∧
      ¬ PromptRun [] expects100 [orderedAt 100, unorderedAt 101, orderedAt 102] := by
  refine ⟨⟨by decide, rfl, rfl, rfl⟩, ?_, by decide, .next (.next (.next (.done _))), fun h => ?_⟩
  · intro j a hj
    match j, hj with
    | 0, hj | 1, hj | 2, hj =>
      obtain rfl := Option.some.inj hj
      rfl
  · obtain ⟨events, hevents, hmem⟩ :=
      (h [orderedAt 100, unorderedAt 101] (orderedAt 102) [] rfl).prompt (by decide) (by decide)
    have hnone : (receive (Run.run receive expects100 [orderedAt 100, unorderedAt 101])
        (orderedAt 102)).pendingEvents =
        (Run.run receive expects100 [orderedAt 100, unorderedAt 101]).pendingEvents := by decide
    rw [hnone] at hevents
    rw [List.self_eq_append_right.1 hevents] at hmem
    cases hmem

end Rudp
