import Rudp.SessionClose
import Rudp.SessionEvents
import Rudp.TxLanes

/-!
# Sessions that have ended

A session that was reset, or closed after a `Closing` phase, has nothing more to do. The handlers do
not ask: a poll retransmits what is in flight and sends what is queued, a client in `Closed` starts
its handshake over, a FIN moves any state to `Closing`, and data is delivered in every state.

`terminal_final_iff` says exactly which further calls leave an ended session ended: the polls that
find nothing to send and the datagrams that carry nothing but what the session ignores.
-/

namespace Rudp

open TxHandler Session RxHandler

/-! ## Ended sessions -/

/-- One call, with the datagram that `poll_tx` returns. -/
def SessionOp.apply (transport : TransportSettings) (s : SessionState) :
    SessionOp → Option Bytes × SessionState
  | .queueSend channelId channelType payload =>
    (none, Session.queueSend channelId channelType payload s)
  | .pollTx nowMs => Session.pollTx transport nowMs s
  | .onDatagramReceived bytes nowMs =>
    (none, Session.onDatagramReceived transport bytes nowMs s)
  | .requestClose => (none, Session.requestClose s)

/-- What an application does with a session in its life: a call, or one of the two that leave the
connection alone. -/
inductive LifeOp where
  | call (op : SessionOp)
  | assignConnId (connId : U32)
  | drainEvents

/-- A session, whether it has been in `Closing`, and whether it has ended. -/
structure LifeObserver where
  session : SessionState
  wasClosing : Bool := false
  ended : Bool := false

def LifeObserver.start (role : SessionRole) (initialSeq : U32) : LifeObserver :=
  { session := Session.init role initialSeq }

def LifeObserver.step (transport : TransportSettings) (r : LifeObserver) (op : LifeOp) :
    LifeObserver :=
  let session := match op with
    | .call op => (op.apply transport r.session).2
    | .assignConnId connId => Session.assignConnId connId r.session
    | .drainEvents => (Session.drainEvents r.session).2
  { session
    wasClosing := r.wasClosing || session.connectionState = .closing
    ended := r.ended || session.connectionState = .reset ||
      session.connectionState = .closed && r.wasClosing }

/-- The call changes nothing about an ended session: the state stays, nothing is sent, and no
`Connected` or `DataReceived` event is added. -/
structure StaysEnded (s : SessionState) (datagram : Option Bytes) (s' : SessionState) : Prop where
  state : s'.connectionState = s.connectionState
  silent : datagram = none
  events : ∃ events, s'.rx.pendingEvents = s.rx.pendingEvents ++ events ∧
    ∀ event ∈ events, event.kind ≠ .connected ∧ event.kind ≠ .dataReceived

/-- Once the session has ended, the call changes nothing about it. -/
def EndIsFinal (transport : TransportSettings) (r : LifeObserver) : LifeOp → Prop
  | .call op => r.ended = true →
    StaysEnded r.session (op.apply transport r.session).1 (op.apply transport r.session).2
  | .assignConnId _ | .drainEvents => True

/-! ## Polls with nothing to send -/

/-- A poll of an ended session has nothing to do: it is no client that starts over, no packet is
due and nothing is waiting; a packet that has used up its retransmissions only matters to a session
that is not reset yet. -/
def pollsNothing (transport : TransportSettings) (nowMs : U64) (s : SessionState) : Bool :=
  !(s.role = .client && s.connectionState = .closed) &&
    match firstDue transport nowMs s.tx with
    | some item => item.2.exhausted transport && s.connectionState = .reset
    | none => nothingPending s.tx

section Poll

variable {transport : TransportSettings} {nowMs : U64} {role : SessionRole} {connId : U32}
  {state : ConnectionState} {rx : RxSessionState} {tx : TxSessionState}

/-- The states in which `poll` has no handshake or close to get on with. -/
def IsDown (role : SessionRole) (state : ConnectionState) : Prop :=
  state = .reset ∨ state = .closed ∧ role = .server

theorem tryBuildHandshake_of_down (h : IsDown role state) :
    tryBuildHandshake transport nowMs role connId state rx tx = (none, state, tx) := by
  rcases h with rfl | ⟨rfl, rfl⟩ <;> simp [tryBuildHandshake]

end Poll

/-- A client that is polled in `Closed` has begun its handshake again. -/
theorem pollTx_leaves_closed {transport : TransportSettings} {nowMs : U64} {s : SessionState}
    (hclient : s.role = .client ∧ s.connectionState = .closed) :
    (pollTx transport nowMs s).2.connectionState ≠ s.connectionState := by
  have heffect := pollTx_effect transport nowMs s
  generalize pollTx transport nowMs s = polled at heffect ⊢
  obtain ⟨datagram, s'⟩ := polled
  cases heffect with
  | timeout hstate =>
    rw [hclient.2] at hstate
    cases hstate
  | polled _ _ _ _ _ _ hstate =>
    rw [hstate, if_pos hclient, hclient.2]
    split_ifs <;> decide

/-- **Exactly when a poll leaves an ended session alone.** -/
theorem pollTx_staysEnded_iff {transport : TransportSettings} {nowMs : U64} {s : SessionState}
    (h : s.connectionState = .reset ∨ s.connectionState = .closed) :
    StaysEnded s (pollTx transport nowMs s).1 (pollTx transport nowMs s).2 ↔
      pollsNothing transport nowMs s = true := by
  have hevents : ∃ events, (pollTx transport nowMs s).2.rx.pendingEvents =
      s.rx.pendingEvents ++ events ∧
      ∀ event ∈ events, event.kind ≠ .connected ∧ event.kind ≠ .dataReceived := by
    rcases pollTx_rx transport nowMs s with hrx | ⟨-, -, message, hrx⟩
    · exact ⟨[], by rw [hrx, List.append_nil], by simp⟩
    · exact ⟨[localError message], by rw [hrx]; rfl, by simp [localError]⟩
  suffices hshape : (pollTx transport nowMs s).2.connectionState = s.connectionState ∧
      (pollTx transport nowMs s).1 = none ↔ pollsNothing transport nowMs s = true from
    ⟨fun hstays => hshape.1 ⟨hstays.state, hstays.silent⟩,
      fun hnothing => ⟨(hshape.2 hnothing).1, (hshape.2 hnothing).2, hevents⟩⟩
  have hdown : s.connectionState ≠ .established := by
    rcases h with h | h <;> rw [h] <;> decide
  have htimeout : shouldTimeoutIdleSession transport s nowMs = false := by
    simp [shouldTimeoutIdleSession, hdown]
  have hschedule : schedulePendingTxWork transport nowMs s = s := by
    simp [schedulePendingTxWork, shouldScheduleReliableAck, shouldScheduleActivityAck,
      shouldScheduleProbe, hdown]
  by_cases hclient : s.role = .client ∧ s.connectionState = .closed
  · have hleaves := @pollTx_leaves_closed transport nowMs s hclient
    have hbusy : pollsNothing transport nowMs s = false := by
      simp [pollsNothing, hclient]
    rw [hbusy]
    exact ⟨fun hshape => absurd hshape.1 hleaves, fun hfalse => absurd hfalse (by decide)⟩
  · have hstays : IsDown s.role s.connectionState := by
      rcases h with h | h
      · exact Or.inl h
      · refine Or.inr ⟨h, ?_⟩
        cases hrole : s.role with
        | server => rfl
        | client => exact absurd ⟨hrole, h⟩ hclient
    have hpoll := poll_of_quiet
      (@tryBuildHandshake_of_down transport nowMs s.role s.connId s.connectionState s.rx s.tx hstays)
    have hguard : (!(decide (s.role = .client) && decide (s.connectionState = .closed))) = true := by
      simpa [imp_iff_not_or] using hclient
    rw [pollTx, htimeout, pollsNothing, hguard, Bool.true_and]
    simp only [Bool.false_eq_true, if_false, hschedule]
    generalize poll transport nowMs s.role s.connId s.connectionState s.rx s.tx = polled at hpoll ⊢
    obtain ⟨result, next, tx'⟩ := polled
    obtain ⟨rfl, hpoll⟩ := hpoll
    cases hfirst : firstDue transport nowMs s.tx with
    | some item =>
      rw [hfirst] at hpoll
      simp only at hpoll ⊢
      rw [hpoll.1]
      cases hexhausted : item.2.exhausted transport with
      | true => simp [eq_comm]
      | false =>
        rw [hexhausted] at hpoll
        obtain ⟨datagram, hdatagram⟩ := Option.isSome_iff_exists.1 hpoll.2
        simp [hdatagram]
    | none =>
      rw [hfirst] at hpoll
      simp only at hpoll ⊢
      rw [hpoll.1]
      have hpending : nothingPending s.tx = !result.datagram.isSome := by rw [hpoll.2, Bool.not_not]
      rw [hpending]
      cases result.datagram <;> simp

/-! ## Datagrams that are ignored -/

/-- An ended session ignores the packet: a foreign `conn_id` or a RST only finds a session that is
reset already, it is no FIN, it does not start the handshake of a server over, and it delivers no
data. -/
def receivesNothing (s : SessionState) (packet : PacketView) : Bool :=
  if hasConnIdMismatch s (classifyControlKind packet.header) packet.header then
    s.connectionState = .reset
  else
    match classifyControlKind packet.header with
    | .fin => false
    | .rst => s.connectionState = .reset
    | .syn => !(s.role = .server && s.connectionState = .closed)
    | .none => !(accepts packet .none s.rx && delivers packet s.rx)
    | .synAck | .ack | .ping | .pong | .invalid => true

section Receive

variable {role : SessionRole} {state : ConnectionState}

/-- What the state machine makes of a packet for an ended session: never a new connection. -/
theorem decide_of_ended (h : state = .reset ∨ state = .closed) (kind : ControlKind) :
    (decideConnectionTransition role state kind).emitConnected = false ∧
      ((decideConnectionTransition role state kind).nextState.getD state = state ↔
        kind ≠ .fin ∧ (kind = .rst → state = .reset) ∧
          ¬(kind = .syn ∧ role = .server ∧ state = .closed)) := by
  rcases h with rfl | rfl <;> cases role <;> cases kind <;> decide

/-- Only a decision that says so reports a new connection. -/
theorem kind_of_mem_decisionEvents {packet : PacketView} {decision : ConnectionDecision}
    {event : SessionEvent} (hevent : event ∈ decisionEvents packet decision) :
    event.kind = .connected ∧ decision.emitConnected = true ∨ event.kind = .error ∨
      event.kind = .connectionClosed ∨ event.kind = .connectionReset := by
  rw [decisionEvents] at hevent
  by_cases hinvalid : (!decision.valid) = true
  · rw [if_pos hinvalid, List.mem_ite_nil_right, List.mem_singleton] at hevent
    rw [hevent.2]
    exact Or.inr (Or.inl rfl)
  · rw [if_neg hinvalid] at hevent
    simp only [List.mem_append, List.mem_ite_nil_right, List.mem_singleton] at hevent
    rcases hevent with (⟨hemit, rfl⟩ | ⟨-, rfl⟩) | ⟨-, rfl⟩
    · exact Or.inl ⟨rfl, hemit⟩
    · exact Or.inr (Or.inr (Or.inl rfl))
    · exact Or.inr (Or.inr (Or.inr rfl))

theorem controlEvents_of_ended (h : state = .reset ∨ state = .closed) (acknowledgedFin : Bool)
    (packet : PacketView) : ∀ event ∈ controlEvents role state acknowledgedFin packet,
      event.kind ≠ .connected ∧ event.kind ≠ .dataReceived := by
  have hclosing : state ≠ .closing := by
    rcases h with rfl | rfl <;> decide
  have hafter : stateAfterAck state acknowledgedFin = state := by
    simp [stateAfterAck, hclosing]
  have hquiet := (@decide_of_ended role state h (classifyControlKind packet.header)).1
  intro event hevent
  rw [controlEvents, hafter, if_neg (fun hfin => hclosing hfin.2), List.nil_append] at hevent
  rcases kind_of_mem_decisionEvents hevent with ⟨-, hemit⟩ | hkind | hkind | hkind
  · rw [hquiet] at hemit
    cases hemit
  all_goals rw [hkind]; decide

end Receive

/-- The window does not look at what was reported. -/
theorem accepts_report (packet : PacketView) (kind : ControlKind) (rx : RxSessionState)
    (events : List SessionEvent) :
    accepts packet kind (rx.report events) = accepts packet kind rx := by
  rw [accepts, accepts]
  cases htouch : touchesWindow packet.header kind with
  | false => rw [update_of_not_touches htouch, update_of_not_touches htouch]
  | true =>
    rw [update_eq_slot htouch, update_eq_slot htouch]
    rfl

theorem BufferSettled.report {rx : RxSessionState} (h : BufferSettled rx)
    (events : List SessionEvent) : BufferSettled (rx.report events) :=
  ⟨h.unstarted, h.front⟩

/-- **Exactly when a datagram leaves an ended session alone.** -/
theorem onDatagramReceived_staysEnded_iff {transport : TransportSettings} {bytes : Bytes}
    {nowMs : U64} {s : SessionState} (h : s.connectionState = .reset ∨ s.connectionState = .closed)
    (hrx : BufferSettled s.rx) :
    StaysEnded s none (onDatagramReceived transport bytes nowMs s) ↔
      (decode bytes).all (receivesNothing s) = true := by
  have heffect := onDatagramReceived_rx transport bytes nowMs s
  generalize onDatagramReceived transport bytes nowMs s = s' at heffect ⊢
  cases heffect with
  | undecodable hdecode hsame =>
    subst hsame
    rw [hdecode]
    exact ⟨fun _ => rfl, fun _ => ⟨rfl, rfl, [], (List.append_nil _).symm, by simp⟩⟩
  | duplicate hdecode hmatch hduplicate hrx hstate =>
    simp only [isDuplicateClientSynAck, Bool.and_eq_true, decide_eq_true_eq] at hduplicate
    rcases h with h | h <;> rw [h] at hduplicate <;> exact absurd hduplicate.1.2 (by decide)
  | @mismatch packet hdecode hmismatch hreport hstate =>
    rw [hdecode, Option.all_some, receivesNothing, if_pos hmismatch, decide_eq_true_eq]
    refine ⟨fun hstays => hstays.state.symm.trans hstate, fun hreset => ⟨hstate.trans hreset.symm, rfl,
      [localError "conn_id mismatch"], by rw [hreport]; rfl, by simp [localError]⟩⟩
  | @processed packet acknowledgedFin hdecode hmatch _ hreceived hstate =>
    have hclosing : s.connectionState ≠ .closing := by
      rcases h with h | h <;> rw [h] <;> decide
    have hafter : stateAfterAck s.connectionState acknowledgedFin = s.connectionState := by
      simp [stateAfterAck, hclosing]
    rw [hafter] at hstate
    obtain ⟨data, hdata, hkinds, hnonempty⟩ := onPacket_events
      (hrx.report (controlEvents s.role s.connectionState acknowledgedFin packet)) packet nowMs
      (classifyControlKind packet.header)
    rw [accepts_report] at hnonempty
    have hpending : s'.rx.pendingEvents = s.rx.pendingEvents ++
        (controlEvents s.role s.connectionState acknowledgedFin packet ++ data) := by
      rw [hreceived, hdata, RxSessionState.report_pendingEvents, List.append_assoc]
    have hcontrol := @controlEvents_of_ended s.role _ h acknowledgedFin packet
    have hstays : StaysEnded s none s' ↔ s'.connectionState = s.connectionState ∧ data = [] := by
      constructor
      · rintro ⟨hsame, -, events, hevents, hquiet⟩
        refine ⟨hsame, List.eq_nil_iff_forall_not_mem.2 fun event hevent => ?_⟩
        obtain rfl := List.append_cancel_left (hpending.symm.trans hevents)
        exact (hquiet event (List.mem_append_right _ hevent)).2 (hkinds event hevent)
      · rintro ⟨hsame, rfl⟩
        exact ⟨hsame, rfl, _, hpending, by rwa [List.append_nil]⟩
    have hsilent : data = [] ↔ ¬(classifyControlKind packet.header = .none ∧
        accepts packet (classifyControlKind packet.header) s.rx = true ∧
          delivers packet s.rx = true) := by
      rw [← not_ne_iff]
      exact not_congr hnonempty
    rw [hstays, hsilent, hstate, (@decide_of_ended s.role _ h _).2, hdecode, Option.all_some,
      receivesNothing, hmatch]
    cases classifyControlKind packet.header <;> simp [imp_iff_not_or]

/-! ## Whole lives -/

/-- A call that an ended session does not notice. -/
def goesUnnoticed (transport : TransportSettings) (s : SessionState) : SessionOp → Bool
  | .queueSend _ _ _ | .requestClose => true
  | .pollTx nowMs => pollsNothing transport nowMs s
  | .onDatagramReceived bytes _ => (decode bytes).all (receivesNothing s)

/-- Once the session has ended, no call is one that it notices. -/
def LeftAlone (transport : TransportSettings) (r : LifeObserver) : LifeOp → Prop
  | .call op => r.ended = true → goesUnnoticed transport r.session op = true
  | .assignConnId _ | .drainEvents => True

instance (transport : TransportSettings) (r : LifeObserver) (op : LifeOp) :
    Decidable (LeftAlone transport r op) :=
  match op with
  | .call op => inferInstanceAs
      (Decidable (r.ended = true → goesUnnoticed transport r.session op = true))
  | .assignConnId _ | .drainEvents => inferInstanceAs (Decidable True)

/-- An observed session that has ended is reset or closed, and its reorder buffer is settled. -/
structure LifeInv (r : LifeObserver) : Prop where
  down : r.ended = true → r.session.connectionState = .reset ∨ r.session.connectionState = .closed
  settled : BufferSettled r.session.rx

theorem BufferSettled.apply {transport : TransportSettings} {s : SessionState}
    (h : BufferSettled s.rx) (op : SessionOp) : BufferSettled (op.apply transport s).2.rx := by
  cases op with
  | queueSend channelId channelType payload => exact h
  | pollTx nowMs =>
    rcases pollTx_rx transport nowMs s with hrx | ⟨-, -, message, hrx⟩
    · rw [SessionOp.apply, hrx]
      exact h
    · rw [SessionOp.apply, hrx]
      exact h.report _
  | onDatagramReceived bytes nowMs =>
    have heffect := onDatagramReceived_rx transport bytes nowMs s
    rw [SessionOp.apply]
    generalize Session.onDatagramReceived transport bytes nowMs s = s' at heffect ⊢
    cases heffect with
    | undecodable _ hsame => exact hsame ▸ h
    | duplicate _ _ _ hrx _ => exact hrx ▸ h
    | mismatch _ _ hrx _ => exact hrx ▸ h.report _
    | @processed packet _ _ _ _ hrx _ =>
      rw [hrx]
      exact (h.report _).receive ⟨packet, nowMs, classifyControlKind packet.header⟩
  | requestClose =>
    simp only [SessionOp.apply, Session.requestClose]
    split_ifs <;> exact h

theorem goesUnnoticed_iff {transport : TransportSettings} {s : SessionState} (op : SessionOp)
    (h : s.connectionState = .reset ∨ s.connectionState = .closed) (hrx : BufferSettled s.rx) :
    StaysEnded s (op.apply transport s).1 (op.apply transport s).2 ↔
      goesUnnoticed transport s op = true := by
  cases op with
  | queueSend channelId channelType payload =>
    exact ⟨fun _ => rfl, fun _ => ⟨rfl, rfl, [], (List.append_nil _).symm, by simp⟩⟩
  | pollTx nowMs => exact pollTx_staysEnded_iff h
  | onDatagramReceived bytes nowMs => exact onDatagramReceived_staysEnded_iff h hrx
  | requestClose =>
    have hsame : Session.requestClose s = s := by
      rw [Session.requestClose, if_neg]
      rcases h with h | h <;> rw [h] <;> decide
    rw [SessionOp.apply, hsame]
    exact ⟨fun _ => rfl, fun _ => ⟨rfl, rfl, [], (List.append_nil _).symm, by simp⟩⟩

/-- A step that finds the end final leaves it final. -/
theorem LifeInv.step {transport : TransportSettings} {r : LifeObserver} {op : LifeOp}
    (h : LifeInv r) (hfinal : EndIsFinal transport r op) : LifeInv (r.step transport op) := by
  have hsame : r.ended = true →
      (r.step transport op).session.connectionState = r.session.connectionState := by
    intro hended
    cases op with
    | call op => exact (hfinal hended).state
    | assignConnId connId => rfl
    | drainEvents => rfl
  refine ⟨fun hended => ?_, ?_⟩
  · simp only [LifeObserver.step, Bool.or_eq_true, Bool.and_eq_true, decide_eq_true_eq] at hended
    rcases hended with (hended | hreset) | ⟨hclosed, -⟩
    · rw [hsame hended]
      exact h.down hended
    · exact Or.inl hreset
    · exact Or.inr hclosed
  · cases op with
    | call op => exact h.settled.apply op
    | assignConnId connId => exact h.settled
    | drainEvents => exact ⟨h.settled.unstarted, h.settled.front⟩

theorem LifeInv.final_iff {transport : TransportSettings} {r : LifeObserver} (h : LifeInv r)
    (op : LifeOp) : EndIsFinal transport r op ↔ LeftAlone transport r op := by
  cases op with
  | call op =>
    exact forall_congr' fun hended => goesUnnoticed_iff op (h.down hended) h.settled
  | assignConnId connId => exact Iff.rfl
  | drainEvents => exact Iff.rfl

theorem LifeInv.along_iff {transport : TransportSettings} {r : LifeObserver} (h : LifeInv r)
    (ops : List LifeOp) :
    Run.Along (LifeObserver.step transport) (EndIsFinal transport) r ops ↔
      Run.Along (LifeObserver.step transport) (LeftAlone transport) r ops :=
  -- The invariant survives exactly the steps that both sides allow.
  Run.along_iff_of_invariant LifeInv (fun _ op hr => hr.final_iff op) (fun _ _ hr => hr.step) h ops

theorem LifeInv.start (role : SessionRole) (initialSeq : U32) :
    LifeInv (LifeObserver.start role initialSeq) :=
  ⟨fun hended => Bool.noConfusion hended, bufferSettled_fresh⟩

/-- **Exactly the lives in which the end is final.** In every life of a session, the end is final
if and only if after it the session is never polled while there is something to send, and never
handed a datagram that it reacts to. -/
theorem terminal_final_iff (transport : TransportSettings) (role : SessionRole) (initialSeq : U32)
    (ops : List LifeOp) :
    Run.Along (LifeObserver.step transport) (EndIsFinal transport)
        (LifeObserver.start role initialSeq) ops ↔
      Run.Along (LifeObserver.step transport) (LeftAlone transport)
        (LifeObserver.start role initialSeq) ops := by
  exact (LifeInv.start role initialSeq).along_iff ops

/-- A server that a RST has reset, and a client that has closed. -/
def resetServer : List LifeOp :=
  .assignConnId 7 :: (serverHandshake ++
    [SessionOp.onDatagramReceived (controlDatagram 7 Flag.rst.toFlags 0 101 0) 0]).map .call

def closedClient : List LifeOp :=
  [.call (.pollTx 0),
    .call (.onDatagramReceived
      (controlDatagram 7 (Flag.syn.toFlags ||| Flag.ack.toFlags) 500 101 0) 0),
    .call .requestClose, .call (.pollTx 0), .call (.pollTx 0),
    .call (.onDatagramReceived (controlDatagram 7 Flag.ack.toFlags 0 102 0) 0)]

/-- The end is not final: a FIN moves the reset server to `Closing`, it still sends what is queued
and delivers what arrives, and the closed client sends another SYN. -/
theorem end_is_not_final :
    let transport : TransportSettings := {}
    let server := Run.run (LifeObserver.step transport) (LifeObserver.start .server 100) resetServer
    let client := Run.run (LifeObserver.step transport) (LifeObserver.start .client 100) closedClient
    let fin : SessionOp := .onDatagramReceived (controlDatagram 7 Flag.fin.toFlags 501 101 0) 0
    let data : SessionOp := .onDatagramReceived
      (encode { connId := 7, channelType := .unreliable, ack := 101 } [0x01]) 0
    (server.ended = true ∧ server.session.connectionState = .reset ∧
      client.ended = true ∧ client.session.connectionState = .closed) ∧
    (fin.apply transport server.session).2.connectionState = .closing ∧
    (data.apply transport server.session).2.rx.pendingEvents.map SessionEvent.kind =
      [.connected, .connectionReset, .dataReceived] ∧
    ((SessionOp.pollTx 0).apply transport client.session).1.isSome = true ∧
    ¬ Run.Along (LifeObserver.step transport) (EndIsFinal transport)
      (LifeObserver.start .server 100) (resetServer ++ [.call fin]) ∧
    ¬ Run.Along (LifeObserver.step transport) (EndIsFinal transport)
      (LifeObserver.start .server 100) (resetServer ++ [.call data]) ∧
    ¬ Run.Along (LifeObserver.step transport) (EndIsFinal transport)
      (LifeObserver.start .server 100)
      (resetServer ++ [.call (.queueSend 1 .reliableOrdered [0x01]), .call (.pollTx 0)]) ∧
    ¬ Run.Along (LifeObserver.step transport) (EndIsFinal transport)
      (LifeObserver.start .client 100) (closedClient ++ [.call (.pollTx 0)]) := by
  intro transport server client fin data
  simp only [LifeInv.along_iff (LifeInv.start _ _)]
  decide +kernel

end Rudp
