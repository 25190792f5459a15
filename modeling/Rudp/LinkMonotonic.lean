import Rudp.Link
import Rudp.RxMonotonic

/-!
# Versioned channels over the link

The network loses, repeats and reorders what a versioned channel carries, and nothing is sent again.
The receiver still shows the application a history that the sending application has been through: if
the versions it queued on the channel rise, the delivered states are some of the queued ones, in the
order in which they were queued and none of them twice (`states_in_order`). A state that arrives is
never followed by an older one.
-/

namespace Rudp

open Serial TxHandler RxHandler

/-! ## Statement -/

/-- The request is a state of the versioned channel. -/
def SendRequest.isStateOf (channelId : U32) (r : SendRequest) : Bool :=
  r.channelType = .monotonicState && r.channelId = channelId && (payloadVersion r.payload).isSome

def SendRequest.stateOffset (base : U32) (r : SendRequest) : ℕ := versionOffset base r.payload

/-- The states queued on the channel have rising versions, within half of the circle. -/
structure RisingStates (channelId base : U32) (queued : List SendRequest) : Prop where
  rising : (queued.filter (SendRequest.isStateOf channelId)).Pairwise fun r r' =>
    r.stateOffset base < r'.stateOffset base
  half : ∀ r ∈ queued.filter (SendRequest.isStateOf channelId), r.stateOffset base < 2 ^ 31

/-- The states that the receiver has delivered on the channel. -/
def Link.statesDelivered (l : Link) (channelId : U32) : List SendRequest :=
  (l.events.filter (SessionEvent.isStateOf channelId)).map fun e =>
    { channelId := e.channelId, channelType := e.channelType, payload := e.payload }

/-! ## What arrives was queued -/

/-- A data packet on the wire carries a request that was queued. -/
theorem Conserves.request_mem_queued {transport : TransportSettings} {i : U32} {s : Sender}
    (h : Conserves transport i s) {e : Emission} (he : e ∈ s.emitted) {p : PacketView}
    (hp : decode e.datagram = some p) (hdata : p.isData = true) : p.request ∈ s.queued := by
  have htransmitted : p.request ∈ transmitted s.emitted := by
    cases hre : e.retransmission with
    | false =>
      refine List.mem_filterMap.2 ⟨e, he, ?_⟩
      simp [Emission.first, hre, hp, hdata]
    | true =>
      -- What is sent again is in the history of its number, which starts with a first transmission.
      obtain ⟨pre, post, hsplit⟩ := List.append_of_mem he
      obtain ⟨q, hq, hnum, -⟩ := h.orphans pre e post hsplit hre
      obtain rfl : q = p := Option.some.inj (hq.symm.trans hp)
      obtain ⟨q', hq', hsource⟩ := h.decodes e he
      obtain rfl : q' = q := Option.some.inj (hq'.symm.trans hq)
      rw [if_pos hnum] at hsource
      obtain ⟨first, hfirst, hsame⟩ := hsource
      rw [hsame.same.2.2.2.2]
      exact request_mem_transmitted hfirst (by rw [← hsame.same.2.2.1, hdata])
  rw [← h.requests]
  exact List.mem_append_left _ htransmitted

/-! ## The invariant -/

/-- The receiver holds the register of the channel, which was offered states that were queued. -/
structure LinkStates (transport : TransportSettings) (i channelId : U32) (l : Link)
    (offers : List PacketView) : Prop where
  sender : Conserves transport i l.sender
  register : HoldsState channelId l.rx l.events (Newest.taken newerState offers)
  queued : ∀ p ∈ offers, p.isStateOf channelId .none = true ∧ p.request ∈ l.sender.queued

section Link

variable {transport : TransportSettings} {i channelId base : U32} {l : Link}
  {offers : List PacketView}

theorem LinkStart.states (h : LinkStart i l) (hfresh : l.rx.monotonicVersions = ∅)
    (channelId : U32) : LinkStates transport i channelId l [] where
  sender := h.conserves
  register := by
    have hevents : l.events = [] := by rw [Link.events, h.drained, h.pending]; rfl
    refine ⟨by rw [hevents]; rfl, by rw [hfresh]; rfl, fun _ hp => absurd hp List.not_mem_nil, ?_⟩
    intro k q hk
    simp [h.buffer] at hk
  queued := fun _ hp => absurd hp List.not_mem_nil

/-- What was queued stays queued. -/
theorem queued_subset_step (l : Link) (op : LinkOp) :
    l.sender.queued ⊆ (l.step transport op).sender.queued := by
  rcases @step_sender transport l op with hsame | ⟨txOp, hstep⟩
  · rw [hsame]
    exact List.Subset.refl _
  · rw [hstep]
    cases txOp with
    | queue => exact List.subset_append_left _ _
    | poll | remoteAck | schedule => exact List.Subset.refl _

/-- **A datagram arrives**: if it is a state of the channel, the register is offered it. -/
theorem LinkStates.deliver (h : LinkStates transport i channelId l offers) {n : ℕ} {e : Emission}
    (he : l.sender.emitted[n]? = some e) (nowMs : U64) {p : PacketView}
    (hp : decode e.datagram = some p) :
    LinkStates transport i channelId (l.step transport (.deliver n nowMs))
      (if p.isStateOf channelId (classifyControlKind p.header) then offers ++ [p] else offers) := by
  have hregister := HoldsState.onPacket h.register p nowMs (classifyControlKind p.header)
  have hstep : l.step transport (.deliver n nowMs) =
      { l with rx := (onPacket p nowMs (classifyControlKind p.header) l.rx).2 } := by
    simp only [Link.step, he, receiveDatagram, hp]
  rw [hstep]
  refine ⟨h.sender, ?_, ?_⟩
  · split_ifs at hregister ⊢
    · rw [Newest.taken_concat]
      exact hregister
    · exact hregister
  · split_ifs with hstate
    · intro q hq
      rcases List.mem_append.1 hq with hold | hnew
      · exact h.queued q hold
      · rw [List.mem_singleton.1 hnew]
        have hkind : classifyControlKind p.header = .none := by
          simp only [PacketView.isStateOf, Bool.and_eq_true, decide_eq_true_eq] at hstate
          exact hstate.1.1.1
        rw [hkind] at hstate
        refine ⟨hstate, h.sender.request_mem_queued (List.mem_of_getElem? he) hp ?_⟩
        simp [PacketView.isData, hkind]
    · exact h.queued

/-- **One step** of the link. -/
theorem LinkStates.step (h : LinkStates transport i channelId l offers) (op : LinkOp) :
    ∃ offers', LinkStates transport i channelId (l.step transport op) offers' := by
  have hsender := h.sender.link op
  have hqueued : ∀ p ∈ offers, p.isStateOf channelId .none = true ∧
      p.request ∈ (l.step transport op).sender.queued := fun p hp =>
    ⟨(h.queued p hp).1, queued_subset_step l op (h.queued p hp).2⟩
  cases op with
  | queue | poll | schedule | emitAck => exact ⟨offers, hsender, h.register, hqueued⟩
  | deliver n nowMs =>
    cases he : l.sender.emitted[n]? with
    | none =>
      simp only [Link.step, he]
      exact ⟨offers, h⟩
    | some e =>
      obtain ⟨p, hp, -⟩ := h.sender.decodes e (List.mem_of_getElem? he)
      exact ⟨_, h.deliver he nowMs hp⟩
  | remoteAck n =>
    refine ⟨offers, hsender, ?_, hqueued⟩
    rw [Link.step]
    split
    · exact h.register
    · exact h.register
  | drain =>
    refine ⟨offers, hsender, ?_, hqueued⟩
    have hevents : (l.step transport .drain).events = l.events := by
      simp [Link.events, Link.step, drainEvents]
    rw [hevents]
    exact ⟨h.register.events_eq, h.register.version, h.register.versioned, h.register.buffered⟩

theorem LinkStart.states_run (hstart : LinkStart i l) (hfresh : l.rx.monotonicVersions = ∅)
    (ops : List LinkOp) :
    ∃ offers, LinkStates transport i channelId (Run.run (Link.step transport) l ops) offers :=
  Run.invariant (fun l => ∃ offers, LinkStates transport i channelId l offers)
    (fun _ op hl => by
      obtain ⟨offers, hl⟩ := hl
      exact hl.step op)
    ⟨[], hstart.states hfresh channelId⟩ ops

/-- What was offered is among the queued states. -/
theorem LinkStates.request_mem (h : LinkStates transport i channelId l offers) {p : PacketView}
    (hp : p ∈ offers) :
    p.request ∈ l.sender.queued.filter (SendRequest.isStateOf channelId) := by
  obtain ⟨hstate, hmem⟩ := h.queued p hp
  refine List.mem_filter.2 ⟨hmem, ?_⟩
  simp only [PacketView.isStateOf, Bool.and_eq_true] at hstate
  simp only [SendRequest.isStateOf, PacketView.request, Bool.and_eq_true]
  exact ⟨⟨hstate.1.1.2, hstate.1.2⟩, hstate.2⟩

/-- With rising versions, the register is one over the order of the offsets. -/
theorem LinkStates.taken_eq (h : LinkStates transport i channelId l offers)
    (hrising : RisingStates channelId base l.sender.queued) :
    Newest.taken newerState offers =
      Newest.taken (Newest.above (PacketView.stateOffset base)) offers := by
  refine taken_eq_above (fun p hp => ?_) fun p hp => hrising.half _ (h.request_mem hp)
  exact PacketView.version_of_isStateOf (h.queued p hp).1

theorem LinkStates.statesDelivered_eq (h : LinkStates transport i channelId l offers) :
    l.statesDelivered channelId = (Newest.taken newerState offers).map PacketView.request := by
  rw [Link.statesDelivered, h.register.events_eq, List.map_map]
  rfl

/-- The states delivered, in the order in which they were queued. -/
theorem LinkStates.sublist (h : LinkStates transport i channelId l offers)
    (hrising : RisingStates channelId base l.sender.queued) :
    List.Sublist (l.statesDelivered channelId)
      (l.sender.queued.filter (SendRequest.isStateOf channelId)) := by
  rw [h.statesDelivered_eq, h.taken_eq hrising]
  refine @Newest.sublist_of_rising _ _ _ (SendRequest.stateOffset base) _ _ ?_ hrising.rising ?_
  · exact List.pairwise_map.2 (@Newest.taken_pairwise _ _ _ (PacketView.stateOffset base) offers)
  · intro r hr
    obtain ⟨p, hp, rfl⟩ := List.mem_map.1 hr
    exact h.request_mem (Newest.mem_offers_of_mem_taken hp)

/-- The last state delivered is at least as new as anything that arrived. -/
theorem LinkStates.newest (h : LinkStates transport i channelId l offers)
    (hrising : RisingStates channelId base l.sender.queued) {p : PacketView} (hp : p ∈ offers) :
    ∃ r, (l.statesDelivered channelId).getLast? = some r ∧
      p.request.stateOffset base ≤ r.stateOffset base := by
  obtain ⟨q, hq, hle⟩ := @Newest.le_last _ _ _ (PacketView.stateOffset base) offers p hp
  rw [h.statesDelivered_eq, h.taken_eq hrising, List.getLast?_map, hq]
  exact ⟨q.request, rfl, hle⟩

end Link

/-! ## Every run -/

/-- **States come in order, and the newest stays.** In every run of the link in which the versions
queued on the channel rise within half of the circle: the states delivered are a sublist of the
states queued; and when a state arrives, the last one delivered is at least as new. -/
theorem states_in_order (transport : TransportSettings) {i : U32} {l : Link}
    (hstart : LinkStart i l) (hfresh : l.rx.monotonicVersions = ∅) (channelId base : U32)
    (ops : List LinkOp)
    (hrising : RisingStates channelId base (Run.run (Link.step transport) l ops).sender.queued) :
    let l' := Run.run (Link.step transport) l ops
    List.Sublist (l'.statesDelivered channelId)
        (l'.sender.queued.filter (SendRequest.isStateOf channelId)) ∧
      ∀ (n : ℕ) (nowMs : U64) (e : Emission) (p : PacketView), l'.sender.emitted[n]? = some e →
        decode e.datagram = some p →
        p.isStateOf channelId (classifyControlKind p.header) = true →
          ∃ r, ((l'.step transport (.deliver n nowMs)).statesDelivered channelId).getLast? =
              some r ∧
            p.request.stateOffset base ≤ r.stateOffset base := by
  intro l'
  obtain ⟨offers, h⟩ : ∃ offers, LinkStates transport i channelId l' offers :=
    hstart.states_run hfresh ops
  refine ⟨h.sublist hrising, fun n nowMs e p he hp hstate => ?_⟩
  have hdelivered := h.deliver he nowMs hp
  rw [if_pos hstate] at hdelivered
  have hsame : (l'.step transport (.deliver n nowMs)).sender = l'.sender := by
    simp only [Link.step, he]
  exact hdelivered.newest (hsame ▸ hrising) (List.mem_append_right _ (List.mem_singleton.2 rfl))

/-- Three states of channel 5, and the last is overtaken by the second. -/
def threeStates : List LinkOp :=
  [.queue 5 .monotonicState [0, 0, 0, 1, 0xa], .queue 5 .monotonicState [0, 0, 0, 2, 0xb],
    .queue 5 .monotonicState [0, 0, 0, 3, 0xc], pollServer, pollServer, pollServer, .deliver 1 0,
    .deliver 0 0, .drain, .deliver 2 0, .deliver 1 0]

theorem states_in_order_three :
    let l' := Run.run (Link.step {}) linkAt100 threeStates
    (l'.statesDelivered 5).map SendRequest.payload = [[0, 0, 0, 2, 0xb], [0, 0, 0, 3, 0xc]] ∧
      List.Sublist (l'.statesDelivered 5)
        (l'.sender.queued.filter (SendRequest.isStateOf 5)) := by
  have hrising : RisingStates 5 0 (Run.run (Link.step {}) linkAt100 threeStates).sender.queued :=
    ⟨by decide +kernel, by decide +kernel⟩
  exact ⟨by decide +kernel, (states_in_order {} linkAt100_start rfl 5 0 threeStates hrising).1⟩

end Rudp
