import Rudp.SessionReceive

/-!
# How often a session reports its beginning and its end

An application learns from a `Connected` event that its session is up and from a `ConnectionClosed`
event that it has been closed. The close is reported from two places: the state machine reports every
FIN it sees, in any state, and the FIN rule reports the acknowledgement of the session's own FIN. So
a FIN that arrives twice is reported twice. The other duplicates are harmless: a handshake is
completed only in a state that it leaves.

An observer keeps the events that were taken out of the session and two bits about its past.
`lifecycle_once_iff` says which lives report each event at most once.
-/

namespace Rudp

open TxHandler Session RxHandler

/-! ## What a packet reports -/

/-- The packet passes the checks. -/
def processes (s : SessionState) (packet : PacketView) : Bool :=
  !hasConnIdMismatch s (classifyControlKind packet.header) packet.header &&
    !isDuplicateClientSynAck s (classifyControlKind packet.header)

/-- The packet completes the handshake. -/
def completes (s : SessionState) (packet : PacketView) : Bool :=
  processes s packet &&
    (s.role = .client && s.connectionState = .handshakeSent &&
        classifyControlKind packet.header = .synAck ||
      s.role = .server && s.connectionState = .handshakeReceived &&
        classifyControlKind packet.header = .ack)

/-- The packet is a FIN of the peer. -/
def peerCloses (s : SessionState) (packet : PacketView) : Bool :=
  processes s packet && classifyControlKind packet.header = .fin

/-- The packet acknowledges the FIN of a session in `Closing`. -/
def finReturns (s : SessionState) (packet : PacketView) : Bool :=
  processes s packet && s.connectionState = .closing && acksFin s packet

section Receive

variable {transport : TransportSettings} {bytes : Bytes} {nowMs : U64} {s : SessionState}
  {packet : PacketView}

/-- The FIN rule leaves the states alone in which a handshake is completed. -/
theorem emitConnected_iff (role : SessionRole) (state : ConnectionState) (acknowledgedFin : Bool)
    (kind : ControlKind) :
    ((decideConnectionTransition role (stateAfterAck state acknowledgedFin) kind).valid &&
      (decideConnectionTransition role (stateAfterAck state acknowledgedFin) kind).emitConnected) =
      (role = .client && state = .handshakeSent && kind = .synAck ||
        role = .server && state = .handshakeReceived && kind = .ack : Bool) := by
  cases role <;> cases state <;> cases acknowledgedFin <;> cases kind <;> decide

theorem countKind_controlEvents (role : SessionRole) (state : ConnectionState)
    (acknowledgedFin : Bool) (packet : PacketView) :
    countKind .connected (controlEvents role state acknowledgedFin packet) =
        (role = .client && state = .handshakeSent &&
            classifyControlKind packet.header = .synAck ||
          role = .server && state = .handshakeReceived &&
            classifyControlKind packet.header = .ack : Bool).toNat ∧
      countKind .connectionClosed (controlEvents role state acknowledgedFin packet) =
        (state = .closing && acknowledgedFin : Bool).toNat +
          (classifyControlKind packet.header = .fin : Bool).toNat := by
  have hfin : countKind .connected (if acknowledgedFin ∧ state = .closing then
        [controlEvent .connectionClosed packet ""] else []) = 0 ∧
      countKind .connectionClosed (if acknowledgedFin ∧ state = .closing then
        [controlEvent .connectionClosed packet ""] else []) =
        (state = .closing && acknowledgedFin : Bool).toNat := by
    cases acknowledgedFin <;> by_cases hclosing : state = .closing <;>
      simp [hclosing, countKind, controlEvent]
  obtain ⟨hconnected, hclosed⟩ := countKind_decisionEvents packet
    (decideConnectionTransition role (stateAfterAck state acknowledgedFin)
      (classifyControlKind packet.header))
  rw [emitConnected_iff] at hconnected
  have hkind : ((decideConnectionTransition role (stateAfterAck state acknowledgedFin)
      (classifyControlKind packet.header)).valid &&
      (decideConnectionTransition role (stateAfterAck state acknowledgedFin)
        (classifyControlKind packet.header)).emitConnectionClosed) =
      decide (classifyControlKind packet.header = .fin) := by
    rw [Bool.eq_iff_iff, emitConnectionClosed_iff, decide_eq_true_eq]
  rw [hkind] at hclosed
  rw [controlEvents, countKind_append, countKind_append, hfin.1, hfin.2, hconnected, hclosed]
  exact ⟨Nat.zero_add _, rfl⟩

/-- A packet that does not pass the checks is dropped, or resets the session. -/
theorem onDatagramReceived_unprocessed (hdecode : decode bytes = some packet)
    (h : processes s packet = false) :
    let s' := onDatagramReceived transport bytes nowMs s
    s'.connectionState = s.connectionState ∧ s'.rx = s.rx ∨
      s'.connectionState = .reset ∧ s'.rx = s.rx.report [localError "conn_id mismatch"] := by
  intro s'
  have hsame := counted_same packet bytes.length nowMs s
  simp only [s', onDatagramReceived_of_decode hdecode]
  generalize counted packet bytes.length nowMs s = t at hsame ⊢
  rw [hsame.mismatch, hsame.duplicate]
  cases hmatch : hasConnIdMismatch s (classifyControlKind packet.header) packet.header with
  | true => exact Or.inr ⟨rfl, by rw [← hsame.rx]; rfl⟩
  | false =>
    have hfirst : isDuplicateClientSynAck s (classifyControlKind packet.header) = true := by
      simpa [processes, hmatch] using h
    rw [hfirst]
    exact Or.inl ⟨(scheduleFinalAckDuringLinger_frame nowMs t).state.trans hsame.state,
      (scheduleFinalAckDuringLinger_rx nowMs t).trans hsame.rx⟩

/-- **What a packet adds to the two counts.** -/
theorem countKind_receive (hdecode : decode bytes = some packet) :
    let s' := onDatagramReceived transport bytes nowMs s
    countKind .connected s'.rx.pendingEvents =
        countKind .connected s.rx.pendingEvents + (completes s packet).toNat ∧
      countKind .connectionClosed s'.rx.pendingEvents =
        countKind .connectionClosed s.rx.pendingEvents +
          ((finReturns s packet).toNat + (peerCloses s packet).toNat) := by
  intro s'
  cases hprocesses : processes s packet with
  | true =>
    obtain ⟨hmatch, hfirst⟩ : hasConnIdMismatch s (classifyControlKind packet.header)
        packet.header = false ∧
        isDuplicateClientSynAck s (classifyControlKind packet.header) = false := by
      simpa [processes] using hprocesses
    obtain ⟨hconnected, hclosed⟩ := countKind_controlEvents s.role s.connectionState
      (acksFin s packet) packet
    simp only [s', countKind_processed (show SessionEvent.Kind.connected ≠ .dataReceived by decide)
      hdecode hmatch hfirst, countKind_processed
        (show SessionEvent.Kind.connectionClosed ≠ .dataReceived by decide) hdecode hmatch hfirst,
      hconnected, hclosed, completes, finReturns, peerCloses, hprocesses, Bool.true_and, and_self]
  | false =>
    have hquiet : completes s packet = false ∧ finReturns s packet = false ∧
        peerCloses s packet = false := by
      simp [completes, finReturns, peerCloses, hprocesses]
    rw [hquiet.1, hquiet.2.1, hquiet.2.2]
    rcases @onDatagramReceived_unprocessed transport bytes nowMs s packet hdecode hprocesses with
      ⟨-, hrx⟩ | ⟨-, hrx⟩
    · rw [hrx]
      exact ⟨rfl, rfl⟩
    · rw [hrx]
      simp [countKind, localError]

/-- A session is established by a packet that completes its handshake, and by no other. -/
theorem established_receive (hdecode : decode bytes = some packet) :
    (onDatagramReceived transport bytes nowMs s).connectionState = .established →
      s.connectionState = .established ∨ completes s packet = true := by
  intro hup
  cases hprocesses : processes s packet with
  | false =>
    rcases @onDatagramReceived_unprocessed transport bytes nowMs s packet hdecode hprocesses with
      ⟨hstate, -⟩ | ⟨hstate, -⟩
    · exact Or.inl (hstate ▸ hup)
    · rw [hup] at hstate
      cases hstate
  | true =>
    obtain ⟨hmatch, hfirst⟩ : hasConnIdMismatch s (classifyControlKind packet.header)
        packet.header = false ∧
        isDuplicateClientSynAck s (classifyControlKind packet.header) = false := by
      simpa [processes] using hprocesses
    have hstate := (@onDatagramReceived_processed transport bytes nowMs s packet hdecode hmatch
      hfirst).1
    rw [hup] at hstate
    rw [completes, hprocesses]
    generalize classifyControlKind packet.header = kind at hstate ⊢
    generalize acksFin s packet = acknowledgedFin at hstate
    generalize s.connectionState = state, s.role = role at hstate ⊢
    revert hstate
    cases role <;> cases state <;> cases acknowledgedFin <;> cases kind <;> decide

/-- A session that completes its handshake is established. -/
theorem established_of_completes (hdecode : decode bytes = some packet)
    (h : completes s packet = true) :
    (onDatagramReceived transport bytes nowMs s).connectionState = .established := by
  rw [completes, Bool.and_eq_true] at h
  obtain ⟨hprocesses, hcompletes⟩ := h
  obtain ⟨hmatch, hfirst⟩ : hasConnIdMismatch s (classifyControlKind packet.header)
      packet.header = false ∧
      isDuplicateClientSynAck s (classifyControlKind packet.header) = false := by
    simpa [processes] using hprocesses
  rw [(@onDatagramReceived_processed transport bytes nowMs s packet hdecode hmatch hfirst).1]
  generalize classifyControlKind packet.header = kind at hcompletes ⊢
  generalize acksFin s packet = acknowledgedFin
  generalize s.connectionState = state, s.role = role at hcompletes ⊢
  revert hcompletes
  cases role <;> cases state <;> cases acknowledgedFin <;> cases kind <;> decide

end Receive

/-! ## Whole lives -/

/-- A session, the events that were taken out of it, whether it has been established, and whether it
has seen its close: a FIN of the peer, or the acknowledgement of its own in `Closing`. -/
structure LifecycleLog where
  session : SessionState
  drained : List SessionEvent := []
  wasEstablished : Bool := false
  closeSeen : Bool := false

/-- All events the session has reported. -/
def LifecycleLog.reported (r : LifecycleLog) : List SessionEvent :=
  r.drained ++ r.session.rx.pendingEvents

def LifecycleLog.start (role : SessionRole) (initialSeq : U32) : LifecycleLog :=
  { session := Session.init role initialSeq }

/-- The operation is a datagram with a packet that the session takes in this way. -/
def LifeOp.takes (takes : SessionState → PacketView → Bool) (s : SessionState) : LifeOp → Bool
  | .call (.onDatagramReceived bytes _) => (decode bytes).any (takes s)
  | .call _ | .assignConnId _ | .drainEvents => false

def LifecycleLog.step (transport : TransportSettings) (r : LifecycleLog) (op : LifeOp) :
    LifecycleLog :=
  let session := (op.apply transport r.session).2
  { session
    drained := match op with
      | .drainEvents => r.drained ++ (Session.drainEvents r.session).1
      | .call _ | .assignConnId _ => r.drained
    wasEstablished := r.wasEstablished || session.connectionState = .established
    closeSeen := r.closeSeen || op.takes peerCloses r.session || op.takes finReturns r.session }

/-- After the operation, neither event has been reported twice. -/
def ReportsOnce (transport : TransportSettings) (r : LifecycleLog) (op : LifeOp) : Prop :=
  countKind .connected (r.step transport op).reported ≤ 1 ∧
    countKind .connectionClosed (r.step transport op).reported ≤ 1

/-- A handshake is completed only by a session that has never been established. A FIN arrives only
where no close has been seen, and not together with the acknowledgement of the session's own; and so
does that acknowledgement. -/
def EndsOnce (r : LifecycleLog) (op : LifeOp) : Prop :=
  (op.takes completes r.session = true → r.wasEstablished = false) ∧
  (op.takes peerCloses r.session = true →
    r.closeSeen = false ∧ op.takes finReturns r.session = false) ∧
  (op.takes finReturns r.session = true → r.closeSeen = false)

instance (r : LifecycleLog) (op : LifeOp) : Decidable (EndsOnce r op) :=
  inferInstanceAs (Decidable (_ ∧ _ ∧ _))

/-- The observer's bits say what was reported. -/
structure LifecycleInv (r : LifecycleLog) : Prop where
  established : r.session.connectionState = .established → r.wasEstablished = true
  connected : countKind .connected r.reported = r.wasEstablished.toNat
  closed : countKind .connectionClosed r.reported = r.closeSeen.toNat

section Lives

variable {transport : TransportSettings} {r : LifecycleLog}

/-- A poll reports at most an error. -/
theorem countKind_poll {kind : SessionEvent.Kind} (hkind : kind ≠ .error) (nowMs : U64)
    (s : SessionState) : countKind kind (Session.pollTx transport nowMs s).2.rx.pendingEvents =
      countKind kind s.rx.pendingEvents := by
  rcases pollTx_rx transport nowMs s with hrx | ⟨-, -, message, hrx⟩
  · rw [hrx]
  · rw [hrx, RxSessionState.report_pendingEvents, countKind_append]
    simp [countKind, localError, Ne.symm hkind]

/-- **What one operation reports.** -/
theorem countKind_step (op : LifeOp) :
    countKind .connected (r.step transport op).reported =
        countKind .connected r.reported + (op.takes completes r.session).toNat ∧
      countKind .connectionClosed (r.step transport op).reported =
        countKind .connectionClosed r.reported +
          ((op.takes finReturns r.session).toNat + (op.takes peerCloses r.session).toNat) := by
  simp only [LifecycleLog.reported, countKind_append]
  rcases op with ⟨_ | nowMs | ⟨bytes, nowMs⟩ | _⟩ | _ | _
  case call.onDatagramReceived =>
    simp only [LifecycleLog.step, LifeOp.apply, SessionOp.apply, LifeOp.takes, Nat.add_assoc]
    cases hdecode : decode bytes with
    | none => simp [onDatagramReceived, hdecode]
    | some packet =>
      obtain ⟨hconnected, hclosed⟩ :=
        @countKind_receive transport bytes nowMs r.session packet hdecode
      rw [hconnected, hclosed]
      exact ⟨rfl, rfl⟩
  case call.pollTx =>
    simp only [LifecycleLog.step, LifeOp.apply, SessionOp.apply, LifeOp.takes]
    rw [countKind_poll (by decide), countKind_poll (by decide)]
    exact ⟨rfl, rfl⟩
  case call.requestClose =>
    simp only [LifecycleLog.step, LifeOp.apply, SessionOp.apply, LifeOp.takes, Session.requestClose]
    split_ifs <;> exact ⟨rfl, rfl⟩
  case drainEvents =>
    simp only [LifecycleLog.step, LifeOp.apply, LifeOp.takes, Session.drainEvents,
      RxHandler.drainEvents, countKind_append]
    exact ⟨rfl, rfl⟩
  all_goals exact ⟨rfl, rfl⟩

/-- Only a completed handshake brings a session to `Established`. -/
theorem established_step (op : LifeOp)
    (h : (op.apply transport r.session).2.connectionState = .established) :
    r.session.connectionState = .established ∨ op.takes completes r.session = true := by
  rcases op with ⟨_ | nowMs | ⟨bytes, nowMs⟩ | _⟩ | _ | _
  case call.onDatagramReceived =>
    simp only [LifeOp.apply, SessionOp.apply, LifeOp.takes] at h ⊢
    cases hdecode : decode bytes with
    | none =>
      rw [onDatagramReceived, hdecode] at h
      exact Or.inl h
    | some packet => exact established_receive hdecode h
  case call.pollTx =>
    simp only [LifeOp.apply, SessionOp.apply] at h
    have heffect := pollTx_effect transport nowMs r.session
    generalize Session.pollTx transport nowMs r.session = polled at heffect h
    obtain ⟨out, s'⟩ := polled
    cases heffect with
    | timeout _ => cases h
    | polled _ _ _ _ _ _ hstate =>
      simp only at h
      rw [h] at hstate
      split_ifs at hstate
      exact Or.inl hstate.symm
  case call.requestClose =>
    simp only [LifeOp.apply, SessionOp.apply, Session.requestClose] at h
    split_ifs at h
    exact Or.inl h
  all_goals exact Or.inl h

theorem established_of_takes {op : LifeOp} (h : op.takes completes r.session = true) :
    (op.apply transport r.session).2.connectionState = .established := by
  rcases op with ⟨_ | nowMs | ⟨bytes, nowMs⟩ | _⟩ | _ | _
  case call.onDatagramReceived =>
    obtain ⟨packet, hdecode, hcompletes⟩ := (Option.any_eq_true _ _).1 h
    exact established_of_completes hdecode hcompletes
  all_goals cases h

theorem LifecycleInv.reportsOnce_iff (h : LifecycleInv r) (op : LifeOp) :
    ReportsOnce transport r op ↔ EndsOnce r op := by
  obtain ⟨hconnected, hclosed⟩ := @countKind_step transport r op
  rw [ReportsOnce, EndsOnce, hconnected, hclosed, h.connected, h.closed]
  cases r.wasEstablished <;> cases r.closeSeen <;> cases op.takes completes r.session <;>
    cases op.takes peerCloses r.session <;> cases op.takes finReturns r.session <;> decide

/-- A step that reports nothing twice keeps the bits right. -/
theorem LifecycleInv.step (h : LifecycleInv r) {op : LifeOp}
    (honce : ReportsOnce transport r op) : LifecycleInv (r.step transport op) := by
  obtain ⟨hconnected, hclosed⟩ := @countKind_step transport r op
  have hnoted : (r.step transport op).wasEstablished = (r.wasEstablished ||
      (op.apply transport r.session).2.connectionState = .established) := rfl
  have hwas : (r.step transport op).wasEstablished =
      (r.wasEstablished || op.takes completes r.session) := by
    rw [hnoted, Bool.eq_iff_iff]
    simp only [Bool.or_eq_true, decide_eq_true_eq]
    constructor
    · rintro (hwas | hup)
      · exact Or.inl hwas
      · rcases established_step op hup with hup | hcompletes
        · exact Or.inl (h.established hup)
        · exact Or.inr hcompletes
    · rintro (hwas | hcompletes)
      · exact Or.inl hwas
      · exact Or.inr (established_of_takes hcompletes)
  have hseen : (r.step transport op).closeSeen = (r.closeSeen ||
      op.takes peerCloses r.session || op.takes finReturns r.session) := rfl
  refine ⟨fun hup => ?_, ?_, ?_⟩
  · rw [hnoted, Bool.or_eq_true, decide_eq_true_eq]
    exact Or.inr hup
  · have hle := honce.1
    rw [hconnected, h.connected] at hle ⊢
    rw [hwas]
    revert hle
    cases r.wasEstablished <;> cases op.takes completes r.session <;> decide
  · have hle := honce.2
    rw [hclosed, h.closed] at hle ⊢
    rw [hseen]
    revert hle
    cases r.closeSeen <;> cases op.takes peerCloses r.session <;>
      cases op.takes finReturns r.session <;> decide

theorem LifecycleInv.start (role : SessionRole) (initialSeq : U32) :
    LifecycleInv (LifecycleLog.start role initialSeq) := by
  refine ⟨fun hup => ?_, rfl, rfl⟩
  cases hup

theorem LifecycleInv.along_iff (h : LifecycleInv r) (ops : List LifeOp) :
    Run.Along (LifecycleLog.step transport) (ReportsOnce transport) r ops ↔
      Run.Along (LifecycleLog.step transport) EndsOnce r ops :=
  Run.along_iff_of_invariant LifecycleInv (fun _ op hr => hr.reportsOnce_iff op)
    (fun _ _ hr => hr.step) h ops

end Lives

/-- **Exactly the lives that report each event once.** In every life of a session, at most one
`Connected` and one `ConnectionClosed` event are reported if and only if the session is established
at most once, and sees its close at most once: it never processes a second FIN, nor a FIN besides the
acknowledgement of its own. -/
theorem lifecycle_once_iff (transport : TransportSettings) (role : SessionRole) (initialSeq : U32)
    (ops : List LifeOp) :
    Run.Along (LifecycleLog.step transport) (ReportsOnce transport)
        (LifecycleLog.start role initialSeq) ops ↔
      Run.Along (LifecycleLog.step transport) EndsOnce (LifecycleLog.start role initialSeq) ops :=
  (LifecycleInv.start role initialSeq).along_iff ops

/-- A server session that gets a FIN, and gets it again. -/
def finTwice : List LifeOp :=
  .assignConnId 7 :: (serverHandshake ++
    [SessionOp.onDatagramReceived (controlDatagram 7 Flag.fin.toFlags 501 101 0) 5,
      SessionOp.pollTx 5,
      SessionOp.onDatagramReceived (controlDatagram 7 Flag.fin.toFlags 501 101 0) 255]).map .call

/-- It reports two closes. -/
theorem close_reported_twice :
    let r := Run.run (LifecycleLog.step {}) (LifecycleLog.start .server 100) finTwice
    countKind .connected r.reported = 1 ∧ countKind .connectionClosed r.reported = 2 ∧
      ¬ Run.Along (LifecycleLog.step {}) (ReportsOnce {}) (LifecycleLog.start .server 100)
        finTwice := by
  intro r
  rw [(LifecycleInv.start _ _).along_iff]
  decide +kernel

end Rudp
