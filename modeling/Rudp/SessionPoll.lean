import Rudp.SessionTerminal
import Rudp.SessionWire

/-!
# What a poll of a session sends

`SessionStep` says what a poll can do; this module says which of it a poll does, by the lanes of the
transmit handler, and what follows for every life of a session.

* A poll that sends nothing and reports nothing changes nothing, except for a client in `Closed`
  whose window is full: it goes on to `HandshakeSent` without a SYN, in its first handshake and in
  any later one (`empty_poll_iff`).
* A datagram carries the current `conn_id`, `ack` and `ack_bits`, except for a retransmission: that
  keeps the `conn_id` of its first transmission (`current_headers_iff`).
-/

namespace Rudp

open TxHandler Session

/-! ## Lives -/

/-- One operation, with the datagram that `poll_tx` returns. -/
def LifeOp.apply (transport : TransportSettings) (s : SessionState) :
    LifeOp → Option Bytes × SessionState
  | .call op => op.apply transport s
  | .assignConnId connId => (none, Session.assignConnId connId s)
  | .drainEvents => (none, (Session.drainEvents s).2)

/-- A session, and the datagrams it has sent with the times of the polls that sent them. -/
structure SentLog where
  session : SessionState
  sent : List (U64 × Bytes) := []

def SentLog.start (role : SessionRole) (initialSeq : U32) : SentLog :=
  { session := Session.init role initialSeq }

def SentLog.step (transport : TransportSettings) (r : SentLog) : LifeOp → SentLog
  | .call (.pollTx nowMs) =>
    let (datagram, session) := Session.pollTx transport nowMs r.session
    { session, sent := r.sent ++ (datagram.map fun bytes => (nowMs, bytes)).toList }
  | op => { r with session := (op.apply transport r.session).2 }

/-- The datagram is a packet of this kind. -/
def sentAs (kind : ControlKind) (bytes : Bytes) : Bool :=
  (decode bytes).any fun packet => classifyControlKind packet.header = kind

theorem sentAs_encode {header : Header} (hvalid : isValidHeader header = true) (payload : Bytes)
    (kind : ControlKind) :
    sentAs kind (encode header payload) = decide (classifyControlKind header = kind) := by
  rw [sentAs, decode_encode hvalid, Option.any_some]

theorem sentAs_controlPacket {flags : Flags} (hflags : flags &&& 0xc0 = 0) (connId : U32)
    (rx : RxSessionState) (seq : U32) (kind : ControlKind) :
    sentAs kind (encode (controlPacket connId flags rx seq).header []) =
      decide (classifyControlKind { flags } = kind) := by
  have hkind : classifyControlKind (controlPacket connId flags rx seq).header =
      classifyControlKind { flags } := classifyControlKind_of_flags rfl
  rw [sentAs_encode (isValidHeader_controlPacket hflags), hkind]

/-- A packet that is sent again is of the kind it was of. -/
theorem sentAs_refresh {packet : PacketView} (hvalid : isValidHeader packet.header = true)
    (rx : RxSessionState) (kind : ControlKind) :
    sentAs kind (encode (refresh rx packet).header packet.payload) =
      decide (classifyControlKind packet.header = kind) := by
  have hrefresh : isValidHeader (refresh rx packet).header = true := hvalid
  have hkind : classifyControlKind (refresh rx packet).header = classifyControlKind packet.header :=
    classifyControlKind_of_flags rfl
  rw [sentAs_encode hrefresh, hkind]

theorem SentLog.step_session (transport : TransportSettings) (r : SentLog) (op : LifeOp) :
    (r.step transport op).session = (op.apply transport r.session).2 := by
  rcases op with ⟨_ | _ | _ | _⟩ | _ | _ <;> rfl

theorem LifeOp.apply_role (transport : TransportSettings) (s : SessionState) (op : LifeOp) :
    (op.apply transport s).2.role = s.role := by
  rcases op with ⟨_ | nowMs | ⟨bytes, nowMs⟩ | _⟩ | _ | _
  case call.pollTx => exact (pollTx_effect transport nowMs s).keeps.1
  case call.onDatagramReceived => exact (onDatagramReceived_effect transport bytes nowMs s).1
  case call.requestClose =>
    simp only [LifeOp.apply, SessionOp.apply, Session.requestClose]
    split_ifs <;> rfl
  all_goals rfl

/-- **Whole lives.** If every packet that a poll builds and sends has the property, so has everything
in flight. -/
theorem LifeOp.apply_inFlight {P : PacketView → Prop} {transport : TransportSettings}
    {s : SessionState} (op : LifeOp) (hacks : ∀ {p q}, SameButAcks p q → P p → P q)
    (hin : InFlight P s.tx)
    (hfresh : ∀ {tx p}, FreshPacket s.role s.connId s.connectionState s.rx tx p →
      (op.apply transport s).1 = some (encode p.header p.payload) → P p) :
    InFlight P (op.apply transport s).2.tx := by
  rcases op with ⟨_ | nowMs | ⟨bytes, nowMs⟩ | _⟩ | _ | _
  case call.pollTx =>
    exact ((pollTx_effect transport nowMs s).inFlight hacks hin fun _ hnew hout =>
      hfresh hnew hout).1
  case call.onDatagramReceived =>
    exact (onDatagramReceived_effect transport bytes nowMs s).2.2.inFlight hin
  case call.requestClose =>
    simp only [LifeOp.apply, SessionOp.apply, Session.requestClose]
    split_ifs <;> exact hin
  all_goals exact hin

/-- The datagrams of a life decode, and so does what is in flight. -/
theorem LifeOp.apply_valid {transport : TransportSettings} {s : SessionState} (op : LifeOp)
    (hin : InFlight (fun p => isValidHeader p.header = true) s.tx) :
    InFlight (fun p => isValidHeader p.header = true) (op.apply transport s).2.tx := by
  refine op.apply_inFlight ?_ hin fun hfresh _ => hfresh.valid
  intro p q hsame hp
  rw [hsame.same.1]
  exact hp

/-! ## The lanes of a session -/

section Lanes

variable {transport : TransportSettings} {nowMs : U64} {s : SessionState}

/-- Scheduling only sets flags of the transmit state. -/
theorem schedulePendingTxWork_eq : schedulePendingTxWork transport nowMs s =
    { s with tx := (schedulePendingTxWork transport nowMs s).tx } := by
  rw [schedulePendingTxWork]
  split_ifs <;> rfl

/-- Scheduling leaves the handshake lane alone. -/
theorem schedulePendingTxWork_handshakeDue (role : SessionRole) (state : ConnectionState) :
    handshakeDue role state (schedulePendingTxWork transport nowMs s).tx =
      handshakeDue role state s.tx := by
  rw [schedulePendingTxWork]
  split_ifs <;> rfl

theorem schedulePendingTxWork_firstDue : firstDue transport nowMs
    (schedulePendingTxWork transport nowMs s).tx = firstDue transport nowMs s.tx := by
  rw [schedulePendingTxWork]
  split_ifs <;> rfl

/-- What is scheduled is there to be sent. -/
theorem schedulePendingTxWork_cases : schedulePendingTxWork transport nowMs s = s ∨
    nothingPending (schedulePendingTxWork transport nowMs s).tx = false := by
  rw [schedulePendingTxWork]
  split_ifs
  · right
    simp [nothingPending]
  · right
    simp [nothingPending]
  · right
    simp [nothingPending]
  · exact Or.inl rfl

/-- What the transmit handler does when this session is polled. -/
def laneResult (transport : TransportSettings) (nowMs : U64) (s : SessionState) :
    TxPollResult × ConnectionState × TxSessionState :=
  poll transport nowMs s.role s.connId s.connectionState s.rx
    (schedulePendingTxWork transport nowMs s).tx

theorem pollTx_eq (h : shouldTimeoutIdleSession transport s nowMs = false) :
    pollTx transport nowMs s =
      let result := laneResult transport nowMs s
      if result.1.fatalError then
        (none, { s with
          connectionState := .reset, tx := result.2.2
          rx := emitLocalError result.1.errorMessage s.rx })
      else
        (result.1.datagram,
          match result.1.datagram with
          | none => { s with connectionState := result.2.1, tx := result.2.2 }
          | some datagram => applyOutboundResult datagram nowMs result.1.retransmission
              { s with connectionState := result.2.1, tx := result.2.2 }) := by
  rw [pollTx, h, laneResult]
  have hshape := @schedulePendingTxWork_eq transport nowMs s
  simp only [Bool.false_eq_true, if_false]
  generalize (schedulePendingTxWork transport nowMs s).tx = tx at hshape ⊢
  rw [hshape]
  simp only
  rcases poll transport nowMs s.role s.connId s.connectionState s.rx tx with ⟨result, next, tx'⟩
  simp only
  split_ifs
  · rfl
  · cases result.datagram <;> rfl

theorem pollTx_datagram (h : shouldTimeoutIdleSession transport s nowMs = false) :
    (pollTx transport nowMs s).1 =
      if (laneResult transport nowMs s).1.fatalError then none
      else (laneResult transport nowMs s).1.datagram := by
  rw [pollTx_eq h]
  simp only
  split_ifs <;> rfl

/-- The handshake lane of a session has nothing to send. -/
theorem tryBuildHandshake_of_session_not_due
    (h : handshakeDue s.role s.connectionState s.tx = false) :
    tryBuildHandshake transport nowMs s.role s.connId s.connectionState s.rx
        (schedulePendingTxWork transport nowMs s).tx =
      (none, if s.role = .client ∧ s.connectionState = .closed then .handshakeSent
        else s.connectionState, (schedulePendingTxWork transport nowMs s).tx) :=
  tryBuildHandshake_of_not_due
    ((schedulePendingTxWork_handshakeDue s.role s.connectionState).trans h)

/-- What the lanes of a session come to, when the handshake lane has nothing to send. -/
theorem laneResult_of_quiet (h : handshakeDue s.role s.connectionState s.tx = false) :
    match firstDue transport nowMs s.tx with
    | some item => (laneResult transport nowMs s).1.fatalError = item.2.exhausted transport ∧
        (laneResult transport nowMs s).1.datagram.isSome = !item.2.exhausted transport
    | none => (laneResult transport nowMs s).1.fatalError = false ∧
        (laneResult transport nowMs s).1.datagram.isSome =
          !nothingPending (schedulePendingTxWork transport nowMs s).tx := by
  have hpoll := (poll_of_quiet (@tryBuildHandshake_of_session_not_due transport nowMs s h)).2
  rw [schedulePendingTxWork_firstDue] at hpoll
  exact hpoll

/-! ## Empty polls -/

/-- A poll that sends nothing and reports nothing. -/
def PollsEmpty (transport : TransportSettings) (nowMs : U64) (s : SessionState) : Prop :=
  (pollTx transport nowMs s).1 = none ∧
    (pollTx transport nowMs s).2.rx.pendingEvents = s.rx.pendingEvents

/-- **When a poll is empty:** no lane has anything to send, and the session is not given up. -/
theorem pollsEmpty_iff : PollsEmpty transport nowMs s ↔
    shouldTimeoutIdleSession transport s nowMs = false ∧
      handshakeDue s.role s.connectionState s.tx = false ∧ firstDue transport nowMs s.tx = none ∧
      nothingPending (schedulePendingTxWork transport nowMs s).tx = true := by
  rw [PollsEmpty]
  cases htimeout : shouldTimeoutIdleSession transport s nowMs with
  | true =>
    have htimedOut : pollTx transport nowMs s = (none, markIdleTimeout s) := by
      rw [pollTx, if_pos htimeout]
    rw [htimedOut]
    simp [markIdleTimeout, emitLocalError]
  | false =>
    have hempty : ((pollTx transport nowMs s).1 = none ∧
        (pollTx transport nowMs s).2.rx.pendingEvents = s.rx.pendingEvents) ↔
        (laneResult transport nowMs s).1.fatalError = false ∧
          (laneResult transport nowMs s).1.datagram = none := by
      rw [pollTx_eq htimeout]
      simp only
      cases hfatal : (laneResult transport nowMs s).1.fatalError with
      | true => simp [emitLocalError]
      | false => cases hdatagram : (laneResult transport nowMs s).1.datagram <;> simp
    rw [hempty]
    cases hshake : handshakeDue s.role s.connectionState s.tx with
    | true =>
      have hsome := (@poll_of_handshakeDue transport nowMs s.role s.connId s.connectionState s.rx
        (schedulePendingTxWork transport nowMs s).tx
        ((schedulePendingTxWork_handshakeDue s.role s.connectionState).trans hshake)).2.2
      rw [← laneResult] at hsome
      constructor
      · rintro ⟨-, hnone⟩
        rw [hnone] at hsome
        cases hsome
      · rintro ⟨-, hfalse, -⟩
        cases hfalse
    | false =>
      have hlane := @laneResult_of_quiet transport nowMs s hshake
      cases hfirst : firstDue transport nowMs s.tx with
      | some item =>
        rw [hfirst] at hlane
        simp only at hlane
        rw [hlane.1, ← Option.isNone_iff_eq_none, ← Option.not_isSome, hlane.2]
        cases item.2.exhausted transport <;> simp
      | none =>
        rw [hfirst] at hlane
        simp only at hlane
        rw [hlane.1, ← Option.isNone_iff_eq_none, ← Option.not_isSome, hlane.2]
        simp

/-- **What an empty poll does:** it moves a closed client on, and nothing else. -/
theorem PollsEmpty.eq (h : PollsEmpty transport nowMs s) :
    pollTx transport nowMs s = (none, { s with
      connectionState := if s.role = .client ∧ s.connectionState = .closed then .handshakeSent
        else s.connectionState }) := by
  obtain ⟨htimeout, hshake, hdue, hnothing⟩ := pollsEmpty_iff.1 h
  have hschedule : schedulePendingTxWork transport nowMs s = s := by
    rcases @schedulePendingTxWork_cases transport nowMs s with hsame | hpending
    · exact hsame
    · rw [hnothing] at hpending
      cases hpending
  have hlane : laneResult transport nowMs s = ({}, if s.role = .client ∧ s.connectionState = .closed
      then .handshakeSent else s.connectionState, s.tx) := by
    rw [hschedule] at hnothing
    rw [laneResult, hschedule]
    exact poll_of_nothingPending (tryBuildHandshake_of_not_due hshake) hdue hnothing
  rw [pollTx_eq htimeout, hlane]
  rfl

/-- With a full window, a SYN goes out only if it is sent again. -/
theorem PollEffect.sent_of_full {role : SessionRole} {connId : U32} {state : ConnectionState}
    {rx : RxSessionState} {tx tx' : TxSessionState} {result : TxPollResult}
    (h : PollEffect transport nowMs role connId state rx tx result tx')
    (hfull : reliableWindowFull tx = true) (hfirst : result.retransmission = false) {bytes : Bytes}
    (hd : result.datagram = some bytes) : sentAs .syn bytes = false := by
  cases h with
  | idle | fatal => cases hd
  | bare hflags =>
    obtain rfl := Option.some.inj hd
    rcases hflags with rfl | rfl | rfl <;> exact sentAs_controlPacket (by decide) _ _ _ _
  | control _ hopen | data _ _ hopen =>
    rw [hfull] at hopen
    cases hopen
  | @unreliable request _ _ _ =>
    obtain rfl := Option.some.inj hd
    obtain ⟨hvalid, -, hdata, -⟩ := @requestPacket_packet connId rx 0 request
    rw [PacketView.isData, decide_eq_true_eq] at hdata
    have hsent := sentAs_encode hvalid (requestPacket request connId rx 0).payload .syn
    rwa [hdata] at hsent
  | retransmit => cases hfirst

/-- Only an established session is scheduled for, or given up. -/
theorem pollTx_of_not_established (h : s.connectionState ≠ .established) :
    shouldTimeoutIdleSession transport s nowMs = false ∧
      schedulePendingTxWork transport nowMs s = s := by
  simp [shouldTimeoutIdleSession, schedulePendingTxWork, shouldScheduleReliableAck,
    shouldScheduleActivityAck, shouldScheduleProbe, h]

theorem pollTx_connectionState (h : shouldTimeoutIdleSession transport s nowMs = false) :
    (pollTx transport nowMs s).2.connectionState =
      if (laneResult transport nowMs s).1.fatalError then .reset
      else if s.role = .client ∧ s.connectionState = .closed then .handshakeSent
      else s.connectionState := by
  have hnext : (laneResult transport nowMs s).2.1 = if s.role = .client ∧
      s.connectionState = .closed then .handshakeSent else s.connectionState := poll_connectionState
  rw [pollTx_eq h, ← hnext]
  simp only
  split_ifs
  · rfl
  · cases (laneResult transport nowMs s).1.datagram with
    | none => rfl
    | some datagram => exact (applyOutboundResult_frame nowMs _ datagram _).state

/-- A poll of a closed client sends a SYN, if the window lets it through. -/
theorem pollTx_syn (hrole : s.role = .client) (hclosed : s.connectionState = .closed)
    (hopen : reliableWindowFull s.tx = false) :
    (pollTx transport nowMs s).1 =
      some (encode (controlPacket s.connId Flag.syn.toFlags s.rx s.tx.nextSeq).header []) := by
  have hdown : s.connectionState ≠ .established := by
    rw [hclosed]
    decide
  obtain ⟨htimeout, hschedule⟩ := @pollTx_of_not_established transport nowMs s hdown
  rw [pollTx_eq htimeout, laneResult, hschedule, hrole, hclosed, poll_syn hopen]
  rfl

end Lanes

/-- No datagram brings a session to `HandshakeSent`. -/
theorem ReceiveEffect.handshakeSent {bytes : Bytes} {s s' : SessionState}
    (h : ReceiveEffect bytes s s') (hsent : s'.connectionState = .handshakeSent) :
    s.connectionState = .handshakeSent := by
  cases h with
  | dropped _ hstate => rw [← hstate, hsent]
  | mismatch _ hstate =>
    rw [hsent] at hstate
    cases hstate
  | @processed packet result _ _ _ _ _ _ _ hstate =>
    rw [hsent] at hstate
    cases hnext : (decideConnectionTransition s.role
        (stateAfterAck s.connectionState result.acknowledgedFin)
        (classifyControlKind packet.header)).nextState with
    | some next =>
      rw [hnext, Option.getD_some] at hstate
      rw [← hstate] at hnext
      rcases nextState_cases hnext with h | h | h | h | h <;> cases h.1
    | none =>
      rw [hnext, Option.getD_none, stateAfterAck] at hstate
      split_ifs at hstate
      exact hstate.symm

/-! ## Exactly when an empty poll does nothing -/

/-- A session, and what it has sent since it was last in `Closed`. -/
structure GreetingLog where
  session : SessionState
  sent : List Bytes := []

def GreetingLog.start (role : SessionRole) (initialSeq : U32) : GreetingLog :=
  { session := Session.init role initialSeq }

def GreetingLog.step (transport : TransportSettings) (r : GreetingLog) (op : LifeOp) :
    GreetingLog :=
  let (datagram, session) := op.apply transport r.session
  { session, sent := (if r.session.connectionState = .closed then [] else r.sent) ++
    datagram.toList }

/-- A SYN has been sent since the session was last in `Closed`. -/
def GreetingLog.hasGreeted (r : GreetingLog) : Bool := r.sent.any (sentAs .syn)

/-- A poll that sends and reports nothing changes nothing, and a client is in `HandshakeSent` only if
it has sent a SYN since it was in `Closed`. -/
def EmptyPollIsNoop (transport : TransportSettings) (r : GreetingLog) (op : LifeOp) : Prop :=
  (∀ nowMs, op = .call (.pollTx nowMs) → PollsEmpty transport nowMs r.session →
    (r.step transport op).session = r.session) ∧
  ((r.step transport op).session.role = .client →
    (r.step transport op).session.connectionState = .handshakeSent →
      (r.step transport op).hasGreeted = true)

/-- The scan of what is in flight stops at a packet that is given up, or at a SYN. -/
def stopsAtSyn (transport : TransportSettings) (nowMs : U64) (tx : TxSessionState) : Bool :=
  (firstDue transport nowMs tx).any fun item =>
    item.2.exhausted transport || classifyControlKind item.2.packet.header = .syn

/-- A closed client that is polled has room in its window for the SYN, or a SYN to send again, or it
is given up. -/
def HasRoomForSyn (transport : TransportSettings) (r : GreetingLog) : LifeOp → Prop
  | .call (.pollTx nowMs) =>
    r.session.role = .client ∧ r.session.connectionState = .closed ∧
      reliableWindowFull r.session.tx = true → stopsAtSyn transport nowMs r.session.tx = true
  | .call _ | .assignConnId _ | .drainEvents => True

instance (transport : TransportSettings) (r : GreetingLog) (op : LifeOp) :
    Decidable (HasRoomForSyn transport r op) :=
  match op with
  | .call (.pollTx _) => inferInstanceAs (Decidable (_ → _))
  | .call (.queueSend _ _ _) | .call (.onDatagramReceived _ _) | .call .requestClose
  | .assignConnId _ | .drainEvents => inferInstanceAs (Decidable True)

/-- A client in `HandshakeSent` has sent a SYN, and what is in flight decodes. -/
structure GreetInv (r : GreetingLog) : Prop where
  greeted : r.session.role = .client → r.session.connectionState = .handshakeSent →
    r.hasGreeted = true
  inFlight : InFlight (fun p => isValidHeader p.header = true) r.session.tx

section Greeting

variable {transport : TransportSettings} {r : GreetingLog}

/-- What was sent since then was sent, as long as the session is not in `Closed` again. -/
theorem GreetingLog.hasGreeted_step (op : LifeOp) (h : r.hasGreeted = true)
    (hup : r.session.connectionState ≠ .closed) : (r.step transport op).hasGreeted = true := by
  simp only [hasGreeted, step, if_neg hup, List.any_append, Bool.or_eq_true]
  exact Or.inl h

/-- In `Closed`, only the datagram of this step counts. -/
theorem GreetingLog.hasGreeted_of_closed (op : LifeOp)
    (hclosed : r.session.connectionState = .closed) :
    (r.step transport op).hasGreeted = (op.apply transport r.session).1.any (sentAs .syn) := by
  simp only [hasGreeted, step, if_pos hclosed, List.nil_append]
  cases (op.apply transport r.session).1 <;> simp

/-- A step that leaves its mark keeps the invariant. -/
theorem GreetInv.step (h : GreetInv r) {op : LifeOp} (hnoop : EmptyPollIsNoop transport r op) :
    GreetInv (r.step transport op) :=
  ⟨hnoop.2, op.apply_valid h.inFlight⟩

theorem GreetInv.start (role : SessionRole) (initialSeq : U32) :
    GreetInv (GreetingLog.start role initialSeq) := by
  refine ⟨fun _ hsent => ?_, inFlight_empty⟩
  cases hsent

/-- The operations other than a poll bring no session to `HandshakeSent`. -/
theorem handshakeSent_of_apply {s : SessionState} {op : LifeOp}
    (hop : ∀ nowMs, op ≠ .call (.pollTx nowMs))
    (h : (op.apply transport s).2.connectionState = .handshakeSent) :
    s.connectionState = .handshakeSent := by
  rcases op with ⟨_ | nowMs | ⟨bytes, nowMs⟩ | _⟩ | _ | _
  case call.pollTx => exact absurd rfl (hop nowMs)
  case call.onDatagramReceived =>
    exact (onDatagramReceived_effect transport bytes nowMs s).2.2.handshakeSent h
  case call.requestClose =>
    simp only [LifeOp.apply, SessionOp.apply, Session.requestClose] at h
    split_ifs at h
    exact h
  all_goals exact h

/-- A client that was in `HandshakeSent` before has greeted. -/
theorem GreetInv.stays (h : GreetInv r) (op : LifeOp)
    (hrole : (r.step transport op).session.role = .client)
    (hsent : r.session.connectionState = .handshakeSent) :
    (r.step transport op).hasGreeted = true := by
  have hclient : r.session.role = .client := (op.apply_role transport r.session).symm.trans hrole
  refine GreetingLog.hasGreeted_step op (h.greeted hclient hsent) ?_
  rw [hsent]
  decide

/-- A poll of anything but a closed client with a full window. -/
theorem GreetInv.poll_of_room (h : GreetInv r) (nowMs : U64)
    (hroom : ¬(r.session.role = .client ∧ r.session.connectionState = .closed ∧
      reliableWindowFull r.session.tx = true)) :
    EmptyPollIsNoop transport r (.call (.pollTx nowMs)) := by
  by_cases hclient : r.session.role = .client ∧ r.session.connectionState = .closed
  · -- The SYN goes out.
    have hopen : reliableWindowFull r.session.tx = false := by
      rw [Bool.eq_false_iff]
      exact fun hfull => hroom ⟨hclient.1, hclient.2, hfull⟩
    have hsyn := @pollTx_syn transport nowMs r.session hclient.1 hclient.2 hopen
    refine ⟨fun nowMs' hop hempty => ?_, fun _ _ => ?_⟩
    · obtain rfl : nowMs = nowMs' := by simpa using hop
      rw [PollsEmpty, hsyn] at hempty
      cases hempty.1
    · rw [GreetingLog.hasGreeted_of_closed _ hclient.2, LifeOp.apply, SessionOp.apply, hsyn,
        Option.any_some, sentAs_controlPacket (by decide)]
      decide
  · refine ⟨fun nowMs' hop hempty => ?_, fun hrole hsent => ?_⟩
    · obtain rfl : nowMs = nowMs' := by simpa using hop
      simp only [GreetingLog.step, LifeOp.apply, SessionOp.apply, hempty.eq, if_neg hclient]
    · refine h.stays _ hrole ?_
      have heffect := pollTx_effect transport nowMs r.session
      simp only [GreetingLog.step, LifeOp.apply, SessionOp.apply] at hsent
      generalize Session.pollTx transport nowMs r.session = polled at heffect hsent
      obtain ⟨out, s'⟩ := polled
      simp only at hsent
      cases heffect with
      | timeout _ => cases hsent
      | polled _ _ _ _ _ _ hstate =>
        rw [hstate, if_neg hclient] at hsent
        split_ifs at hsent
        exact hsent

/-- A closed client that is polled and not given up is in `HandshakeSent`. -/
theorem noop_iff_of_closed (nowMs : U64) (hrole : r.session.role = .client)
    (hclosed : r.session.connectionState = .closed) :
    EmptyPollIsNoop transport r (.call (.pollTx nowMs)) ↔
      (PollsEmpty transport nowMs r.session →
        (pollTx transport nowMs r.session).2 = r.session) ∧
      ((laneResult transport nowMs r.session).1.fatalError = false →
        (pollTx transport nowMs r.session).1.any (sentAs .syn) = true) := by
  have hdown : r.session.connectionState ≠ .established := by
    rw [hclosed]
    decide
  have hclient : r.session.role = .client ∧ r.session.connectionState = .closed := ⟨hrole, hclosed⟩
  obtain ⟨htimeout, -⟩ := @pollTx_of_not_established transport nowMs r.session hdown
  have hstate := @pollTx_connectionState transport nowMs r.session htimeout
  have hkeeps := (pollTx_effect transport nowMs r.session).keeps.1
  rw [if_pos hclient] at hstate
  rw [EmptyPollIsNoop, GreetingLog.hasGreeted_of_closed _ hclosed]
  simp only [GreetingLog.step, LifeOp.apply, SessionOp.apply, hkeeps, hstate]
  refine and_congr ⟨fun hsame => hsame nowMs rfl, fun hsame nowMs' hop => ?_⟩
    ⟨fun hgreets hfatal => hgreets hrole (by rw [hfatal]; rfl), fun hgreets _ hnext => ?_⟩
  · obtain rfl : nowMs = nowMs' := by simpa using hop
    exact hsame
  · cases hfatal : (laneResult transport nowMs r.session).1.fatalError with
    | false => exact hgreets hfatal
    | true =>
      rw [hfatal] at hnext
      cases hnext

/-- A poll of a closed client with a full window: it goes on to `HandshakeSent` all the same, unless
it is given up, and the only SYN it can send is one that is in flight. -/
theorem GreetInv.poll_of_full (h : GreetInv r) (nowMs : U64) (hrole : r.session.role = .client)
    (hclosed : r.session.connectionState = .closed)
    (hfull : reliableWindowFull r.session.tx = true) :
    EmptyPollIsNoop transport r (.call (.pollTx nowMs)) ↔
      stopsAtSyn transport nowMs r.session.tx = true := by
  have hdown : r.session.connectionState ≠ .established := by
    rw [hclosed]
    decide
  obtain ⟨htimeout, hschedule⟩ := @pollTx_of_not_established transport nowMs r.session hdown
  have hshake : handshakeDue r.session.role r.session.connectionState r.session.tx = false := by
    simp [handshakeDue, hclosed, hfull]
  have hquiet := @tryBuildHandshake_of_session_not_due transport nowMs r.session hshake
  have hout := @pollTx_datagram transport nowMs r.session htimeout
  rw [noop_iff_of_closed nowMs hrole hclosed, stopsAtSyn]
  cases hfirst : firstDue transport nowMs r.session.tx with
  | some item =>
    have hsends : ¬PollsEmpty transport nowMs r.session := by
      rw [pollsEmpty_iff, hfirst]
      rintro ⟨-, -, hnone, -⟩
      cases hnone
    have hlane := poll_of_firstDue hquiet (schedulePendingTxWork_firstDue.trans hfirst)
    rw [← laneResult] at hlane
    rw [hlane, stopAt] at hout
    rw [hlane, stopAt, Option.any_some]
    cases hexhausted : item.2.exhausted transport with
    | true =>
      refine iff_of_true ⟨fun hempty => absurd hempty hsends, fun hmoves => ?_⟩ rfl
      cases hmoves
    | false =>
      rw [hexhausted] at hout
      have hsent : (pollTx transport nowMs r.session).1.any (sentAs .syn) =
          decide (classifyControlKind item.2.packet.header = .syn) := by
        have hagain : (pollTx transport nowMs r.session).1 = some (encode
            (refresh r.session.rx item.2.packet).header item.2.packet.payload) := hout
        rw [hagain, Option.any_some,
          sentAs_refresh (h.inFlight item.1 item.2 (firstDue_mem hfirst))]
      rw [hsent, Bool.false_or]
      exact ⟨fun hnoop => hnoop.2 rfl,
        fun hsyn => ⟨fun hempty => absurd hempty hsends, fun _ => hsyn⟩⟩
  | none =>
    refine iff_of_false (fun hgreets => ?_) Bool.false_ne_true
    have hlane := @laneResult_of_quiet transport nowMs r.session hshake
    rw [hfirst] at hlane
    have hsyn := hgreets.2 hlane.1
    rw [hout, hlane.1] at hsyn
    obtain ⟨bytes, hbytes, hsyn⟩ := (Option.any_eq_true _ _).1 hsyn
    have heffect : PollEffect transport nowMs r.session.role r.session.connId
        r.session.connectionState r.session.rx (schedulePendingTxWork transport nowMs r.session).tx
        (laneResult transport nowMs r.session).1 (laneResult transport nowMs r.session).2.2 :=
      poll_effect
    rw [hschedule] at heffect
    rw [heffect.sent_of_full hfull
      (poll_of_nothingDue hquiet (schedulePendingTxWork_firstDue.trans hfirst)) hbytes] at hsyn
    cases hsyn

theorem GreetInv.noop_iff (h : GreetInv r) (op : LifeOp) :
    EmptyPollIsNoop transport r op ↔ HasRoomForSyn transport r op := by
  by_cases hpoll : ∃ nowMs, op = .call (.pollTx nowMs)
  · obtain ⟨nowMs, rfl⟩ := hpoll
    by_cases hroom : r.session.role = .client ∧ r.session.connectionState = .closed ∧
        reliableWindowFull r.session.tx = true
    · obtain ⟨hrole, hclosed, hfull⟩ := hroom
      rw [h.poll_of_full nowMs hrole hclosed hfull, HasRoomForSyn]
      simp only [hrole, hclosed, hfull, and_self, true_imp_iff]
    · exact iff_of_true (h.poll_of_room nowMs hroom) fun hfull => absurd hfull hroom
  · have hop : ∀ nowMs, op ≠ .call (.pollTx nowMs) := fun nowMs heq => hpoll ⟨nowMs, heq⟩
    have hcondition : HasRoomForSyn transport r op := by
      rcases op with ⟨_ | nowMs | _ | _⟩ | _ | _
      case call.pollTx => exact absurd rfl (hop nowMs)
      all_goals trivial
    exact iff_of_true ⟨fun nowMs heq => absurd heq (hop nowMs), fun hrole hsent =>
      h.stays op hrole (handshakeSent_of_apply hop hsent)⟩ hcondition

theorem GreetInv.noop_along (h : GreetInv r) (ops : List LifeOp) :
    Run.Along (GreetingLog.step transport) (EmptyPollIsNoop transport) r ops ↔
      Run.Along (GreetingLog.step transport) (HasRoomForSyn transport) r ops :=
  Run.along_iff_of_invariant GreetInv (fun _ op hr => hr.noop_iff op) (fun _ _ hr => hr.step) h ops

end Greeting

/-- **Exactly the lives in which an empty poll is no step.** In every life of a session, a poll that
sends and reports nothing changes nothing, and a client is in `HandshakeSent` only if it has sent a
SYN since it was last in `Closed`, if and only if no client in `Closed` is polled while its window
has no room for the SYN, unless it sends an earlier SYN again or is given up. -/
theorem empty_poll_iff (transport : TransportSettings) (role : SessionRole) (initialSeq : U32)
    (ops : List LifeOp) :
    Run.Along (GreetingLog.step transport) (EmptyPollIsNoop transport)
        (GreetingLog.start role initialSeq) ops ↔
      Run.Along (GreetingLog.step transport) (HasRoomForSyn transport)
        (GreetingLog.start role initialSeq) ops :=
  (GreetInv.start role initialSeq).noop_along ops

/-- A client that numbers from 100, and an ACK of 0 that comes before its first poll. -/
def staleAckFirst : List LifeOp :=
  [.call (.onDatagramReceived (controlDatagram 0 Flag.ack.toFlags 0 0 0) 0)]

/-- A client that has connected and closed, whose FIN, 101, is acknowledged by a bit above an old
ack, and that is to send again. -/
def reconnects : List LifeOp :=
  [.call (.pollTx 0),
    .call (.onDatagramReceived
      (controlDatagram 7 (Flag.syn.toFlags ||| Flag.ack.toFlags) 500 101 0) 1),
    .call .requestClose, .call (.pollTx 2), .call (.pollTx 3),
    .call (.onDatagramReceived (controlDatagram 7 Flag.ack.toFlags 0 38 (1#64 <<< 62)) 4),
    .call (.queueSend 1 .unreliable [0x01])]

/-- The poll sends nothing and reports nothing, and takes the client to `HandshakeSent`; and so does,
on the second handshake of a client, a poll that sends a request instead of the SYN. -/
theorem empty_poll_moves :
    let transport : TransportSettings := {}
    let r := Run.run (GreetingLog.step transport) (GreetingLog.start .client 100) staleAckFirst
    let polled := pollTx transport 0 r.session
    (r.session.connectionState = .closed ∧ r.session.rx.pendingEvents = []) ∧
    (polled.1 = none ∧ polled.2.rx.pendingEvents = [] ∧
      polled.2.connectionState = .handshakeSent) ∧
    ¬ Run.Along (GreetingLog.step transport) (EmptyPollIsNoop transport)
      (GreetingLog.start .client 100) (staleAckFirst ++ [.call (.pollTx 0)]) ∧
    ¬ Run.Along (GreetingLog.step transport) (EmptyPollIsNoop transport)
      (GreetingLog.start .client 100) (reconnects ++ [.call (.pollTx 5)]) := by
  intro transport r polled
  rw [(GreetInv.start _ _).noop_along, (GreetInv.start _ _).noop_along]
  decide +kernel

/-! ## Current headers -/

/-- A datagram of the poll carries the identifier of the session and acknowledges what the session
has received. -/
def HeaderIsCurrent (transport : TransportSettings) (s : SessionState) : LifeOp → Prop
  | .call (.pollTx nowMs) => ∀ bytes, (pollTx transport nowMs s).1 = some bytes →
    ∃ packet, decode bytes = some packet ∧ packet.header.connId = s.connId ∧
      packet.header.ack = s.rx.nextExpected ∧ packet.header.ackBits = s.rx.receivedBits
  | .call _ | .assignConnId _ | .drainEvents => True

/-- The packet that a poll sends again. -/
def resends (transport : TransportSettings) (nowMs : U64) (s : SessionState) :
    Option (U32 × TxEntry) :=
  if shouldTimeoutIdleSession transport s nowMs ||
      handshakeDue s.role s.connectionState s.tx then none
  else (firstDue transport nowMs s.tx).filter fun item => !item.2.exhausted transport

/-- A packet that is sent again was built when the session had the identifier it has now. -/
def ResendsOwn (transport : TransportSettings) (s : SessionState) : LifeOp → Prop
  | .call (.pollTx nowMs) => ((resends transport nowMs s).all fun item =>
      item.2.packet.header.connId = s.connId) = true
  | .call _ | .assignConnId _ | .drainEvents => True

instance (transport : TransportSettings) (s : SessionState) (op : LifeOp) :
    Decidable (ResendsOwn transport s op) :=
  match op with
  | .call (.pollTx _) => inferInstanceAs (Decidable (_ = _))
  | .call (.queueSend _ _ _) | .call (.onDatagramReceived _ _) | .call .requestClose
  | .assignConnId _ | .drainEvents => inferInstanceAs (Decidable True)

section Current

variable {transport : TransportSettings} {nowMs : U64} {s : SessionState}

theorem FreshPacket.current {role : SessionRole} {connId : U32} {state : ConnectionState}
    {rx : RxSessionState} {tx : TxSessionState} {p : PacketView}
    (h : FreshPacket role connId state rx tx p) : p.header.connId = connId ∧
      p.header.ack = rx.nextExpected ∧ p.header.ackBits = rx.receivedBits := by
  cases h <;> exact ⟨rfl, rfl, rfl⟩

/-- What is not sent again is built anew. -/
theorem PollEffect.sent_fresh {role : SessionRole} {connId : U32} {state : ConnectionState}
    {rx : RxSessionState} {tx tx' : TxSessionState} {result : TxPollResult}
    (h : PollEffect transport nowMs role connId state rx tx result tx')
    (hfirst : result.retransmission = false) {bytes : Bytes}
    (hd : result.datagram = some bytes) :
    ∃ p, bytes = encode p.header p.payload ∧ FreshPacket role connId state rx tx p := by
  cases h with
  | idle | fatal => cases hd
  | bare hflags => exact ⟨_, (Option.some.inj hd).symm, .bare hflags⟩
  | control hcause => exact ⟨_, (Option.some.inj hd).symm, .control hcause⟩
  | unreliable hpending =>
    exact ⟨requestPacket _ connId rx 0, (Option.some.inj hd).symm, .request hpending⟩
  | data hpending =>
    exact ⟨requestPacket _ connId rx tx.nextSeq, (Option.some.inj hd).symm, .request hpending⟩
  | retransmit => cases hfirst

/-- A poll that sends nothing again sends current headers. -/
theorem current_of_fresh (htimeout : shouldTimeoutIdleSession transport s nowMs = false)
    (hfirst : (laneResult transport nowMs s).1.retransmission = false) :
    HeaderIsCurrent transport s (.call (.pollTx nowMs)) := by
  intro bytes hbytes
  rw [pollTx_datagram htimeout] at hbytes
  split_ifs at hbytes
  have heffect : PollEffect transport nowMs s.role s.connId s.connectionState s.rx
      (schedulePendingTxWork transport nowMs s).tx (laneResult transport nowMs s).1
      (laneResult transport nowMs s).2.2 := poll_effect
  obtain ⟨p, hp, hfresh⟩ := heffect.sent_fresh hfirst hbytes
  refine ⟨p, ?_, hfresh.current⟩
  rw [hp]
  exact decode_encode hfresh.valid p.payload

/-- **Exactly when the header of a poll is current.** -/
theorem headerIsCurrent_iff (hin : InFlight (fun p => isValidHeader p.header = true) s.tx)
    (op : LifeOp) : HeaderIsCurrent transport s op ↔ ResendsOwn transport s op := by
  rcases op with ⟨_ | nowMs | _ | _⟩ | _ | _
  case call.pollTx =>
    rw [ResendsOwn, resends]
    cases htimeout : shouldTimeoutIdleSession transport s nowMs with
    | true =>
      refine iff_of_true (fun bytes hbytes => ?_) rfl
      rw [pollTx, if_pos htimeout] at hbytes
      cases hbytes
    | false =>
      cases hshake : handshakeDue s.role s.connectionState s.tx with
      | true =>
        refine iff_of_true (current_of_fresh htimeout ?_) rfl
        exact (poll_of_handshakeDue
          ((schedulePendingTxWork_handshakeDue s.role s.connectionState).trans hshake)).2.1
      | false =>
        have hquiet := @tryBuildHandshake_of_session_not_due transport nowMs s hshake
        cases hfirst : firstDue transport nowMs s.tx with
        | none =>
          refine iff_of_true (current_of_fresh htimeout ?_) rfl
          exact poll_of_nothingDue hquiet (schedulePendingTxWork_firstDue.trans hfirst)
        | some item =>
          have hlane := poll_of_firstDue hquiet (schedulePendingTxWork_firstDue.trans hfirst)
          rw [← laneResult] at hlane
          have hout := @pollTx_datagram transport nowMs s htimeout
          rw [hlane, stopAt] at hout
          cases hexhausted : item.2.exhausted transport with
          | true =>
            rw [hexhausted] at hout
            refine iff_of_true (fun bytes hbytes => ?_) (by simp [hexhausted])
            rw [hout] at hbytes
            cases hbytes
          | false =>
            rw [hexhausted] at hout
            have hvalid : isValidHeader (refresh s.rx item.2.packet).header = true :=
              hin item.1 item.2 (firstDue_mem hfirst)
            have hdecode := decode_encode hvalid item.2.packet.payload
            constructor
            · intro hcurrent
              obtain ⟨packet, hpacket, hconnId, -⟩ := hcurrent _ hout
              rw [hdecode] at hpacket
              obtain rfl := Option.some.inj hpacket
              simpa [hexhausted, refresh] using hconnId
            · intro hconnId bytes hbytes
              rw [hout] at hbytes
              obtain rfl := Option.some.inj hbytes
              refine ⟨_, hdecode, ?_, rfl, rfl⟩
              simpa [hexhausted, refresh] using hconnId
  all_goals exact Iff.rfl

theorem current_along (hin : InFlight (fun p => isValidHeader p.header = true) s.tx)
    (ops : List LifeOp) :
    Run.Along (fun s op => (LifeOp.apply transport s op).2) (HeaderIsCurrent transport) s ops ↔
      Run.Along (fun s op => (LifeOp.apply transport s op).2) (ResendsOwn transport) s ops :=
  Run.along_iff_of_invariant (fun s => InFlight (fun p => isValidHeader p.header = true) s.tx)
    (fun _ op hs => headerIsCurrent_iff hs op) (fun _ op hs _ => op.apply_valid hs) hin ops

end Current

/-- **Exactly the lives in which every header is current.** In every life of a session, every
datagram carries the `conn_id`, the `ack` and the `ack_bits` that the session has at the poll, if and
only if no packet is sent again that was built under another `conn_id`. -/
theorem current_headers_iff (transport : TransportSettings) (role : SessionRole) (initialSeq : U32)
    (ops : List LifeOp) :
    Run.Along (fun s op => (LifeOp.apply transport s op).2) (HeaderIsCurrent transport)
        (Session.init role initialSeq) ops ↔
      Run.Along (fun s op => (LifeOp.apply transport s op).2) (ResendsOwn transport)
        (Session.init role initialSeq) ops :=
  current_along inFlight_empty ops

/-- A client that sends data right after its SYN, and gets a SYN-ACK for the SYN alone. -/
def dataBeforeSynAck : List LifeOp :=
  [.call (.queueSend 1 .reliableOrdered [0x01]), .call (.pollTx 0), .call (.pollTx 0),
    .call (.onDatagramReceived
      (controlDatagram 7 (Flag.syn.toFlags ||| Flag.ack.toFlags) 500 101 0) 10),
    .call (.pollTx 20)]

/-- The data goes out again under `conn_id` 0, when the session has 7. -/
theorem resent_header_is_stale :
    let transport : TransportSettings := {}
    let s := Run.run (fun s op => (LifeOp.apply transport s op).2) (Session.init .client 100)
      dataBeforeSynAck
    (s.connectionState = .established ∧ s.connId = 7) ∧
    ((pollTx transport 300 s).1.bind decode).map
      (fun packet => (packet.header.connId, packet.header.seq, packet.payload)) =
        some (0, 101, [0x01]) ∧
    ¬ Run.Along (fun s op => (LifeOp.apply transport s op).2) (HeaderIsCurrent transport)
      (Session.init .client 100) (dataBeforeSynAck ++ [.call (.pollTx 300)]) := by
  intro transport s
  rw [current_along inFlight_empty]
  decide +kernel

end Rudp
