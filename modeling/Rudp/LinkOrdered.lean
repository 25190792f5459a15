import Rudp.Link

/-!
# Ordered delivery over the link

The delivery front starts wherever the first ordered packet to arrive happens to be. If that is
the first one sent, the receiver's ordered events are at every moment a prefix of what was queued;
otherwise everything sent before it is skipped. `ordered_events_prefix` proves the first,
`ordered_skips_first` shows the second.

`InOrder` is the invariant: the ordered events are the packets from the first data packet up to
the delivery front. It needs nothing of the receive window, which may admit a packet twice.
-/

namespace Rudp

open Serial Window TxHandler RxHandler

/-! ## Statement -/

/-- The ordered data events of the receiver, in order. -/
def Link.orderedEvents (l : Link) : List SessionEvent := l.events.filter SessionEvent.isOrdered

/-- Ordered application data. -/
def PacketView.isOrdered (p : PacketView) : Bool :=
  p.isData && p.header.channelType = .reliableOrdered

/-- The sequence number of the first data packet sent. -/
def firstDataSeq (log : List Emission) : Option U32 :=
  ((firsts log).find? PacketView.isData).map fun p => p.header.seq

/-- Until ordered delivery has started, the only ordered packet that the window admits is the
first data packet sent. -/
def StartsWithFirst (l : Link) : LinkOp → Prop
  | .deliver n _ =>
    match (l.sender.emitted[n]?).bind fun e => decode e.datagram with
    | none => True
    | some p =>
      l.rx.orderedDeliveryStarted = false → p.isOrdered = true →
        accepts p (classifyControlKind p.header) l.rx = true →
          firstDataSeq l.sender.emitted = some p.header.seq
  | _ => True

/-- Only ordered requests are queued. -/
def QueuesOrdered : LinkOp → Prop
  | .queue _ channelType _ => channelType = .reliableOrdered
  | _ => True

/-! ## The invariant -/

/-- A buffered packet is a copy of a data packet the sender numbered. -/
def Sourced (i : U32) (log : List PacketView) (k : U32) (q : PacketView) : Prop :=
  ∃ (j : ℕ) (p : PacketView), log[j]? = some p ∧ p.isData = true ∧ k = ahead i j ∧
    SameButAcks p q

theorem Sourced.mono {i k : U32} {log log' : List PacketView} {q : PacketView}
    (hpre : log <+: log') (h : Sourced i log k q) : Sourced i log' k q := by
  obtain ⟨j, p, hj, hrest⟩ := h
  exact ⟨j, p, getElem?_of_initial hpre hj, hrest⟩

/-- The events are the data packets from number `d` on. -/
structure RunFrom (log : List PacketView) (d : ℕ) (events : List SessionEvent) : Prop where
  skipped : ∀ j < d, ∀ p : PacketView, log[j]? = some p → p.isData = false
  bound : d + events.length ≤ log.length
  events : ∀ x < events.length, ∃ p, log[d + x]? = some p ∧ p.isData = true ∧
    events[x]? = some (makeDataEvent p)

theorem RunFrom.mono {log log' : List PacketView} {d : ℕ} {events : List SessionEvent}
    (hpre : log <+: log') (h : RunFrom log d events) : RunFrom log' d events where
  skipped := fun j hj p hp => by
    have hlen := h.bound
    obtain ⟨q, hq⟩ : ∃ q, log[j]? = some q := ⟨_, List.getElem?_eq_getElem (by omega)⟩
    have := (getElem?_of_initial hpre hq).symm.trans hp
    obtain rfl := Option.some.inj this
    exact h.skipped j hj q hq
  bound := h.bound.trans hpre.length_le
  events := fun x hx => by
    obtain ⟨p, hp, hrest⟩ := h.events x hx
    exact ⟨p, getElem?_of_initial hpre hp, hrest⟩

/-- The receiver delivers in order. -/
structure InOrder (i : U32) (log : List PacketView) (rx : RxSessionState)
    (events : List SessionEvent) : Prop where
  buffered : ∀ (k : U32) (q : OwnedPacket), rx.orderedReorderBuffer[k]? = some q →
    Sourced i log k q
  unstarted : rx.orderedDeliveryStarted = false → events = []
  started : rx.orderedDeliveryStarted = true → ∃ d, RunFrom log d events ∧
    rx.nextOrderedDelivery = ahead i (d + events.length)

theorem InOrder.mono {i : U32} {log log' : List PacketView} {rx : RxSessionState}
    {events : List SessionEvent} (hpre : log <+: log') (h : InOrder i log rx events) :
    InOrder i log' rx events where
  buffered := fun k q hk => (h.buffered k q hk).mono hpre
  unstarted := h.unstarted
  started := fun hst => by
    obtain ⟨d, hrun, hfront⟩ := h.started hst
    exact ⟨d, hrun.mono hpre, hfront⟩

/-! ## One arrival -/

section Arrival

variable {i : U32} {log : List PacketView} {rx rx' : RxSessionState} {events : List SessionEvent}
  {packet : PacketView}

/-- A run taken from the buffer is a run of the log. -/
theorem drained_run (hlog : log.length < 2 ^ 32) {packets : List OwnedPacket} {a : ℕ}
    (ha : a ≤ log.length)
    (hsourced : ∀ (k : U32) (q : OwnedPacket), rx.orderedReorderBuffer[k]? = some q →
      Sourced i log k q)
    (hfront : rx.nextOrderedDelivery = ahead i a) (hdrained : Drained rx rx' packets) :
    a + packets.length ≤ log.length ∧ ∀ x < packets.length, ∃ p q, packets[x]? = some q ∧
      log[a + x]? = some p ∧ p.isData = true ∧ SameButAcks p q := by
  have hone : ∀ x < packets.length, a + x ≤ log.length → a + x < log.length ∧
      ∃ p q, packets[x]? = some q ∧ log[a + x]? = some p ∧ p.isData = true ∧ SameButAcks p q := by
    intro x hx hax
    have hget : packets[x]? = some packets[x] := List.getElem?_eq_getElem hx
    have htaken := hdrained.taken x _ hget
    obtain ⟨j, p, hj, hdata, hkey, hsame⟩ := hsourced _ _ htaken
    have hjlen := (List.getElem?_eq_some_iff.1 hj).1
    rw [hfront, ← ahead_add, ahead_inj (by omega) (by omega)] at hkey
    subst hkey
    exact ⟨hjlen, p, _, hget, hj, hdata, hsame⟩
  have hslot : ∀ x < packets.length, a + x < log.length := by
    intro x
    induction x with
    | zero => exact fun hx => (hone 0 hx ha).1
    | succ x ih => exact fun hx => (hone (x + 1) hx (ih (by omega))).1
  refine ⟨?_, fun x hx => (hone x hx (hslot x hx).le).2⟩
  rcases Nat.eq_zero_or_pos packets.length with hzero | hpos
  · omega
  · have := hslot (packets.length - 1) (by omega)
    omega

/-- The first data packet, as a number. -/
theorem firstData_index {log : List PacketView} {p : PacketView}
    (h : log.find? PacketView.isData = some p) :
    ∃ d : ℕ, log[d]? = some p ∧ p.isData = true ∧
      ∀ j < d, ∀ q : PacketView, log[j]? = some q → q.isData = false := by
  obtain ⟨hdata, d, hd, rfl, hbefore⟩ := List.find?_eq_some_iff_getElem.1 h
  refine ⟨d, List.getElem?_eq_getElem hd, hdata, fun j hj q hq => ?_⟩
  have := hbefore j hj
  obtain ⟨hlt, rfl⟩ := List.getElem?_eq_some_iff.1 hq
  simpa using this

/-- What is buffered next to a sourced packet is sourced. -/
theorem InOrder.sourced_bufferOrdered (h : InOrder i log rx events)
    (hsource : Sourced i log packet.header.seq packet) {k : U32} {q : OwnedPacket}
    (hk : (bufferOrdered packet rx).orderedReorderBuffer[k]? = some q) : Sourced i log k q := by
  rw [bufferOrdered_buffer] at hk
  split_ifs at hk with heq
  · obtain rfl := Option.some.inj hk
    exact heq ▸ hsource
  · exact h.buffered k q hk

/-- **An ordered packet arrives.** It is buffered, and the run that is delivered continues the
events, or starts them at the first data packet. -/
theorem InOrder.ordered (hlog : log.length < 2 ^ 32) (h : InOrder i log rx events)
    (hsource : Sourced i log packet.header.seq packet)
    (hfirst : rx.orderedDeliveryStarted = false →
      ∃ d : ℕ, (∀ j < d, ∀ q : PacketView, log[j]? = some q → q.isData = false) ∧
        d ≤ log.length ∧ packet.header.seq = ahead i d)
    {packets : List OwnedPacket} (hdrained : Drained (bufferOrdered packet rx) rx' packets) :
    InOrder i log rx' (events ++ packets.map makeDataEvent) := by
  have hsourced : ∀ (k : U32) (q : OwnedPacket),
      (bufferOrdered packet rx).orderedReorderBuffer[k]? = some q → Sourced i log k q :=
    fun k q hk => h.sourced_bufferOrdered hsource hk
  have hstarted : rx'.orderedDeliveryStarted = true :=
    hdrained.started.trans (bufferOrdered_started packet rx)
  -- Either way the run starts right behind the events so far.
  obtain ⟨d, hrun, hfront⟩ : ∃ d, RunFrom log d events ∧
      (bufferOrdered packet rx).nextOrderedDelivery = ahead i (d + events.length) := by
    rw [bufferOrdered_front]
    cases hst : rx.orderedDeliveryStarted with
    | true => exact h.started hst
    | false =>
      obtain ⟨d, hskip, hd, hseq⟩ := hfirst hst
      rw [h.unstarted hst]
      exact ⟨d, ⟨hskip, hd, fun x hx => absurd hx (Nat.not_lt_zero x)⟩, hseq⟩
  obtain ⟨hbound, hpackets⟩ := drained_run hlog hrun.bound hsourced hfront hdrained
  refine ⟨fun k q hk => hsourced k q (hdrained.kept k q hk), fun hfalse => ?_, fun _ => ⟨d, ?_, ?_⟩⟩
  · rw [hstarted] at hfalse
    cases hfalse
  · refine ⟨hrun.skipped, ?_, fun x hx => ?_⟩
    · rw [List.length_append, List.length_map]
      omega
    · rw [List.length_append, List.length_map] at hx
      rcases Nat.lt_or_ge x events.length with hlt | hge
      · obtain ⟨p, hp, hdata, hevent⟩ := hrun.events x hlt
        exact ⟨p, hp, hdata, by rw [List.getElem?_append_left hlt, hevent]⟩
      · obtain ⟨p, q, hq, hp, hdata, hsame⟩ := hpackets (x - events.length) (by omega)
        rw [show d + events.length + (x - events.length) = d + x by omega] at hp
        refine ⟨p, hp, hdata, ?_⟩
        rw [List.getElem?_append_right hge, List.getElem?_map, hq,
          ← makeDataEvent_of_sameButAcks hsame]
        rfl
  · rw [hdrained.front, hfront, ← ahead_add, List.length_append, List.length_map, Nat.add_assoc]

/-- The invariant reads the buffer and the delivery front, nothing else. -/
theorem InOrder.congr (h : InOrder i log rx events)
    (hbuffer : rx'.orderedReorderBuffer = rx.orderedReorderBuffer)
    (hfront : rx'.nextOrderedDelivery = rx.nextOrderedDelivery)
    (hstarted : rx'.orderedDeliveryStarted = rx.orderedDeliveryStarted) :
    InOrder i log rx' events where
  buffered := by rw [hbuffer]; exact h.buffered
  unstarted := by rw [hstarted]; exact h.unstarted
  started := by rw [hstarted, hfront]; exact h.started

/-- What is delivered are the first data packets of the log. -/
theorem RunFrom.prefix_data {d : ℕ} (h : RunFrom log d events) :
    events <+: (log.filter PacketView.isData).map makeDataEvent := by
  have hevents : events = ((log.drop d).take events.length).map makeDataEvent := by
    refine List.ext_getElem? fun x => ?_
    rw [List.getElem?_map, List.getElem?_take]
    split_ifs with hx
    · obtain ⟨p, hp, -, hevent⟩ := h.events x hx
      rw [List.getElem?_drop, hp, hevent]
      rfl
    · rw [List.getElem?_eq_none (by omega)]
      rfl
  have hskip : (log.take d).filter PacketView.isData = [] := by
    rw [List.filter_eq_nil_iff]
    intro p hp
    obtain ⟨j, hj⟩ := List.mem_iff_getElem?.1 hp
    rw [List.getElem?_take] at hj
    split_ifs at hj with hjd
    simp [h.skipped j hjd p hj]
  have hkeep : ((log.drop d).take events.length).filter PacketView.isData =
      (log.drop d).take events.length := by
    rw [List.filter_eq_self]
    intro p hp
    obtain ⟨x, hx⟩ := List.mem_iff_getElem?.1 hp
    rw [List.getElem?_take] at hx
    split_ifs at hx with hlt
    obtain ⟨q, hq, hdata, -⟩ := h.events x hlt
    rw [List.getElem?_drop, hq] at hx
    rw [← Option.some.inj hx, hdata]
  have hsplit : log.filter PacketView.isData = (log.drop d).take events.length ++
      ((log.drop d).drop events.length).filter PacketView.isData := by
    conv_lhs => rw [← List.take_append_drop d log, List.filter_append, hskip, List.nil_append,
      ← List.take_append_drop events.length (log.drop d), List.filter_append, hkeep]
  rw [hsplit, List.map_append]
  exact ⟨_, congrArg (· ++ _) hevents⟩

end Arrival

/-! ## The link -/

/-- The invariant of the whole link. -/
structure LinkInOrder (transport : TransportSettings) (i : U32) (l : Link) : Prop where
  sender : Conserves transport i l.sender
  queued : ∀ r ∈ l.sender.queued, r.channelType = .reliableOrdered
  receiver : InOrder i (firsts l.sender.emitted) l.rx l.orderedEvents

section Link

variable {transport : TransportSettings} {i : U32} {l : Link}

theorem LinkInOrder.transmitted_ordered (h : LinkInOrder transport i l) {r : SendRequest}
    (hr : r ∈ transmitted l.sender.emitted) : r.channelType = .reliableOrdered := by
  refine h.queued r ?_
  rw [← h.sender.requests]
  exact List.mem_append_left _ hr

/-- Events of buffered packets are ordered events. -/
theorem LinkInOrder.sourced_isOrdered (h : LinkInOrder transport i l) {k : U32} {q : PacketView}
    (hq : Sourced i (firsts l.sender.emitted) k q) : (makeDataEvent q).isOrdered = true := by
  obtain ⟨j, p, hj, hdata, -, hsame⟩ := hq
  have htype : p.header.channelType = .reliableOrdered :=
    h.transmitted_ordered (request_mem_transmitted (List.mem_of_getElem? hj) hdata)
  rw [makeDataEvent_of_sameButAcks hsame]
  simp [SessionEvent.isOrdered, makeDataEvent, htype]

/-- The ordered events after more events were produced. -/
theorem orderedEvents_append {rx : RxSessionState} {events : List SessionEvent}
    (h : rx.pendingEvents = l.rx.pendingEvents ++ events) :
    ({ l with rx } : Link).orderedEvents =
      l.orderedEvents ++ events.filter SessionEvent.isOrdered := by
  rw [Link.orderedEvents, Link.events, h, ← List.append_assoc, List.filter_append]
  rfl

/-- **A datagram arrives.** -/
theorem LinkInOrder.deliver (h : LinkInOrder transport i l) (hzero : ZeroAhead i l) {n : ℕ}
    {e : Emission} (he : l.sender.emitted[n]? = some e) (nowMs : U64)
    (hfirst : StartsWithFirst l (.deliver n nowMs)) :
    LinkInOrder transport i { l with rx := receiveDatagram l.rx e.datagram nowMs } := by
  obtain ⟨p, hp, harrives⟩ := h.sender.arrives he
  refine ⟨h.sender, h.queued, ?_⟩
  simp only [StartsWithFirst, he, Option.bind_some, hp] at hfirst
  simp only [receiveDatagram, hp]
  have heffect := onPacket_effect p (classifyControlKind p.header) l.rx nowMs
  have hframe := windowed_frame p (classifyControlKind p.header) l.rx
  have hwindowed : InOrder i (firsts l.sender.emitted)
      (windowed p (classifyControlKind p.header) l.rx) l.orderedEvents :=
    h.receiver.congr (by rw [hframe]) (by rw [hframe]) (by rw [hframe])
  have hpending : (windowed p (classifyControlKind p.header) l.rx).pendingEvents =
      l.rx.pendingEvents := by rw [hframe]
  generalize (onPacket p nowMs (classifyControlKind p.header) l.rx).2 = rx' at heffect
  cases heffect with
  | ignored _ =>
    rw [orderedEvents_append (hpending.trans (List.append_nil _).symm), List.filter_nil,
      List.append_nil]
    exact hwindowed
  | @ordered packets rx' hkind htype haccept hdrained hwindow =>
    have hdata : p.isData = true := by simp [PacketView.isData, hkind]
    have hnum : p.isNumbered = true := by
      simp [PacketView.isNumbered, hkind, consumesSeq, isReliableChannel, htype]
    obtain ⟨j, q, hj, hsame, hseq⟩ := (harrives.resolve_right (by simp [hnum])).2
    have hsource : Sourced i (firsts l.sender.emitted) p.header.seq p :=
      ⟨j, q, hj, by rw [← hsame.same.2.2.1, hdata], hseq, hsame⟩
    have hin : InOrder i (firsts l.sender.emitted) rx'
        (l.orderedEvents ++ packets.map makeDataEvent) := by
      refine hwindowed.ordered (Nat.lt_of_le_of_lt (Nat.le_add_left _ _) hzero) hsource ?_ hdrained
      intro hst
      rw [hframe] at hst
      have hfind := hfirst hst (by simp [PacketView.isOrdered, hdata, htype]) haccept
      obtain ⟨f, hf, hfseq⟩ := Option.map_eq_some_iff.1 hfind
      obtain ⟨d, hd, -, hskip⟩ := firstData_index hf
      exact ⟨d, hskip, (List.getElem?_eq_some_iff.1 hd).1.le, by
        rw [← hfseq, h.sender.seqs d f hd]⟩
    -- Every packet of the run came out of the buffer, so its event is an ordered one.
    have hall : (packets.map makeDataEvent).filter SessionEvent.isOrdered =
        packets.map makeDataEvent := by
      rw [List.filter_eq_self]
      intro event hevent
      obtain ⟨r, hr, rfl⟩ := List.mem_map.1 hevent
      obtain ⟨x, hx⟩ := List.mem_iff_getElem?.1 hr
      exact h.sourced_isOrdered (hwindowed.sourced_bufferOrdered hsource (hdrained.taken x r hx))
    have hevents : rx'.pendingEvents = l.rx.pendingEvents ++ packets.map makeDataEvent := by
      rw [hdrained.events, bufferOrdered_events, hpending]
    rw [orderedEvents_append hevents, hall]
    exact hin
  | unordered hkind htype haccept =>
    rw [orderedEvents_append rfl, List.filter_cons_of_neg (by
      simp [SessionEvent.isOrdered, makeDataEvent, htype]), List.filter_nil, List.append_nil]
    exact hwindowed.congr rfl rfl rfl
  | @unreliable events _ hkind htype hevents =>
    have hnone : events.filter SessionEvent.isOrdered = [] := by
      rw [List.filter_eq_nil_iff]
      intro event hevent
      rcases hevents with rfl | rfl
      · cases hevent
      · have hne : p.header.channelType ≠ .reliableOrdered := fun heq => by
          simp [isReliableChannel, heq] at htype
        rw [List.mem_singleton.1 hevent]
        simp [SessionEvent.isOrdered, makeDataEvent, hne]
    rw [orderedEvents_append rfl, hnone, List.append_nil]
    exact hwindowed.congr rfl rfl rfl

/-- **One step** of the link. -/
theorem LinkInOrder.step (h : LinkInOrder transport i l) (hzero : ZeroAhead i l) {op : LinkOp}
    (hqueue : QueuesOrdered op) (hfirst : StartsWithFirst l op) :
    LinkInOrder transport i (l.step transport op) := by
  have hsender := h.sender.link op
  have hgrows : firsts l.sender.emitted <+: firsts (l.step transport op).sender.emitted :=
    firsts_prefix l op
  cases op with
  | queue channelId channelType payload =>
    refine ⟨hsender, fun r hr => ?_, h.receiver⟩
    rcases List.mem_append.1 hr with hold | hnew
    · exact h.queued r hold
    · rw [List.mem_singleton.1 hnew]
      exact hqueue
  | poll nowMs role connId state rx => exact ⟨hsender, h.queued, h.receiver.mono hgrows⟩
  | schedule flags => exact ⟨hsender, h.queued, h.receiver⟩
  | deliver n nowMs =>
    rw [Link.step]
    cases he : l.sender.emitted[n]? with
    | none => exact h
    | some e => exact h.deliver hzero he nowMs hfirst
  | emitAck => exact ⟨hsender, h.queued, h.receiver⟩
  | remoteAck n =>
    rw [Link.step] at hsender ⊢
    cases hack : l.acks[n]? with
    | none => exact h
    | some pair =>
      rw [hack] at hsender
      exact ⟨hsender, h.queued, h.receiver⟩
  | drain =>
    refine ⟨hsender, h.queued, ?_⟩
    have hevents : (l.step transport .drain).orderedEvents = l.orderedEvents := by
      simp [Link.orderedEvents, Link.events, Link.step, drainEvents]
    rw [hevents]
    exact h.receiver.congr rfl rfl rfl

theorem LinkStart.inOrder (h : LinkStart i l) : LinkInOrder transport i l where
  sender := h.conserves
  queued := fun r hr => by rw [h.queued] at hr; cases hr
  receiver :=
    { buffered := fun k q hk => by simp [h.buffer] at hk
      unstarted := fun _ => by simp [Link.orderedEvents, Link.events, h.pending, h.drained]
      started := fun hst => by rw [h.unstarted] at hst; cases hst }

/-- The ordered events carry a prefix of what was queued. -/
theorem LinkInOrder.prefix_queued (h : LinkInOrder transport i l) :
    l.orderedEvents.map (fun e => e.payload) <+: l.sender.queued.map fun r => r.payload := by
  cases hst : l.rx.orderedDeliveryStarted with
  | false =>
    rw [h.receiver.unstarted hst]
    exact List.nil_prefix
  | true =>
    obtain ⟨d, hrun, -⟩ := h.receiver.started hst
    have hreliable : ∀ r ∈ transmitted l.sender.emitted, isReliableChannel r.channelType = true :=
      fun r hr => by simp [h.transmitted_ordered hr, isReliableChannel]
    have hpre := hrun.prefix_data.map fun e => e.payload
    rw [List.map_map] at hpre
    refine hpre.trans ?_
    rw [← h.sender.requests, transmitted_eq_firsts hreliable, List.map_append, List.map_map]
    exact List.prefix_append _ _

end Link

/-- **Ordered delivery skips nothing, once it starts at the first packet.** The sender queues only
ordered requests and the network does what it likes. If the first ordered packet that the receiver
admits is the first one sent, the payloads it has delivered are at every moment a prefix of the
payloads queued. -/
theorem ordered_events_prefix (transport : TransportSettings) {i : U32} {l : Link}
    (hstart : LinkStart i l) (ops : List LinkOp) (hqueue : ∀ op ∈ ops, QueuesOrdered op)
    (hzero : Run.Along (Link.step transport) (fun l op => ZeroAhead i (l.step transport op)) l ops)
    (hfirst : Run.Along (Link.step transport) StartsWithFirst l ops) :
    (Run.run (Link.step transport) l ops).orderedEvents.map (fun e => e.payload) <+:
      (Run.run (Link.step transport) l ops).sender.queued.map fun r => r.payload := by
  have hsteps := Run.along_and.2 ⟨hzero, Run.along_and.2 ⟨hfirst, Run.along_of_forall hqueue l⟩⟩
  have hinv := Run.Along.invariant (fun l => LinkInOrder transport i l ∧ ZeroAhead i l)
    (fun l op hl hop => ⟨hl.1.step hl.2 hop.2.2 hop.2.1, hop.1⟩)
    ⟨hstart.inOrder, hstart.zeroAhead⟩ hsteps
  exact hinv.1.prefix_queued

instance (l : Link) (op : LinkOp) : Decidable (StartsWithFirst l op) :=
  match op with
  | .deliver n _ =>
    match h : (l.sender.emitted[n]?).bind fun e => decode e.datagram with
    | none => isTrue (by rw [StartsWithFirst, h]; trivial)
    | some p => decidable_of_iff (l.rx.orderedDeliveryStarted = false → p.isOrdered = true →
        accepts p (classifyControlKind p.header) l.rx = true →
          firstDataSeq l.sender.emitted = some p.header.seq)
        (by rw [StartsWithFirst, h])
  | .queue _ _ _ | .poll _ _ _ _ _ | .schedule _ | .emitAck | .remoteAck _ | .drain => isTrue trivial

/-- Three ordered packets, the last one arriving before the second. -/
theorem ordered_events_prefix_reordered :
    (Run.run (Link.step {}) linkAt100
      [.queue 1 .reliableOrdered [0x01], .queue 1 .reliableOrdered [0x02],
        .queue 1 .reliableOrdered [0x03], pollServer, pollServer, pollServer, .deliver 0 0,
        .deliver 2 0, .deliver 1 0]).orderedEvents.map (fun e => e.payload) <+:
      [[0x01], [0x02], [0x03]] :=
  ordered_events_prefix {} linkAt100_start
    [.queue 1 .reliableOrdered [0x01], .queue 1 .reliableOrdered [0x02],
      .queue 1 .reliableOrdered [0x03], pollServer, pollServer, pollServer, .deliver 0 0,
      .deliver 2 0, .deliver 1 0]
    (by simp [QueuesOrdered, pollServer]) (by decide +kernel) (by decide +kernel)

/-- The second packet sent arrives first: it is delivered, and the first one is skipped for
good. -/
theorem ordered_skips_first :
    LinkStart 100 linkAt100 ∧
      (∀ op ∈ [LinkOp.queue 1 .reliableOrdered [0x01], .queue 1 .reliableOrdered [0x02],
        pollServer, pollServer, .deliver 1 0], QueuesOrdered op) ∧
      Run.Along (Link.step {}) (fun l op => ZeroAhead 100 (l.step {} op)) linkAt100
        [.queue 1 .reliableOrdered [0x01], .queue 1 .reliableOrdered [0x02], pollServer,
          pollServer, .deliver 1 0] ∧
      ¬ (Run.run (Link.step {}) linkAt100
          [.queue 1 .reliableOrdered [0x01], .queue 1 .reliableOrdered [0x02], pollServer,
            pollServer, .deliver 1 0]).orderedEvents.map (fun e => e.payload) <+:
        [[0x01], [0x02]] := by
  refine ⟨linkAt100_start, by simp [QueuesOrdered, pollServer], by decide +kernel, ?_⟩
  decide +kernel

end Rudp
