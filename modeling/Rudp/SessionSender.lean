import Rudp.SessionPoll

/-!
# A session is a sender

`Sender` lets an owner do anything with a transmit state. A session is one such owner: each of its
operations sets the flags, calls the transmit handler at most once, and sets the flags again. So
every life of a session is a run of a sender with the same requests and the same datagrams
(`session_refines_sender`), and whatever was proved about senders holds of sessions, no matter what
the network hands them.
-/

namespace Rudp

open TxHandler Session

/-! ## The logs of a session -/

/-- The requests that the operation queues. -/
def LifeOp.queues : LifeOp → List SendRequest
  | .call (.queueSend channelId channelType payload) => [{ channelId, channelType, payload }]
  | .call (.pollTx _) | .call (.onDatagramReceived _ _) | .call .requestClose | .assignConnId _
  | .drainEvents => []

/-- The datagrams that the operation sends, labelled as the transmit handler labels them. -/
def LifeOp.emits (transport : TransportSettings) (s : SessionState) : LifeOp → List Emission
  | .call (.pollTx nowMs) =>
    if shouldTimeoutIdleSession transport s nowMs then []
    else (laneResult transport nowMs s).1.emissions
  | .call (.queueSend _ _ _) | .call (.onDatagramReceived _ _) | .call .requestClose
  | .assignConnId _ | .drainEvents => []

/-- A session, the requests that were queued for it, and the datagrams it has sent. -/
structure SessionTraffic where
  session : SessionState
  queued : List SendRequest := []
  emitted : List Emission := []

def SessionTraffic.start (role : SessionRole) (initialSeq : U32) : SessionTraffic :=
  { session := Session.init role initialSeq }

def SessionTraffic.step (transport : TransportSettings) (r : SessionTraffic) (op : LifeOp) :
    SessionTraffic where
  session := (op.apply transport r.session).2
  queued := r.queued ++ op.queues
  emitted := r.emitted ++ op.emits transport r.session

/-- The sender that a session owns. -/
def SessionTraffic.sender (r : SessionTraffic) : Sender :=
  { tx := r.session.tx, queued := r.queued, emitted := r.emitted }

section Emits

variable {transport : TransportSettings} {nowMs : U64} {s : SessionState}

/-- A fatal result comes without a datagram. -/
theorem laneResult_datagram (hfatal : (laneResult transport nowMs s).1.fatalError = true) :
    (laneResult transport nowMs s).1.datagram = none := by
  have heffect : PollEffect transport nowMs s.role s.connId s.connectionState s.rx
      (schedulePendingTxWork transport nowMs s).tx (laneResult transport nowMs s).1
      (laneResult transport nowMs s).2.2 := poll_effect
  generalize laneResult transport nowMs s = result at heffect hfatal
  obtain ⟨result, next, tx'⟩ := result
  cases heffect with
  | idle | fatal _ _ => rfl
  | bare | control | unreliable | data | retransmit => cases hfatal

/-- The log holds what `poll_tx` returns. -/
theorem LifeOp.emits_datagram (s : SessionState) (op : LifeOp) :
    (op.emits transport s).map Emission.datagram = (op.apply transport s).1.toList := by
  rcases op with ⟨_ | nowMs | _ | _⟩ | _ | _
  case call.pollTx =>
    rw [LifeOp.emits]
    split_ifs with htimeout
    · simp [LifeOp.apply, SessionOp.apply, Session.pollTx, htimeout]
    · have hdatagram := pollTx_datagram (Bool.eq_false_iff.2 htimeout)
      simp only [LifeOp.apply, SessionOp.apply, hdatagram, TxPollResult.emissions]
      cases hfatal : (laneResult transport nowMs s).1.fatalError with
      | true => simp [laneResult_datagram hfatal]
      | false => cases (laneResult transport nowMs s).1.datagram <;> rfl
  all_goals rfl

end Emits

/-! ## The steps of the sender -/

/-- The flags that a session sets. -/
def TxFlags.ofTx (tx : TxSessionState) : TxFlags where
  synAckPending := tx.synAckPending
  finalAckPending := tx.finalAckPending
  finalAckLingerUntilMs := tx.finalAckLingerUntilMs
  finPending := tx.finPending
  ackOnlyPending := tx.ackOnlyPending
  reliableAckPending := tx.reliableAckPending
  reliableAckDueMs := tx.reliableAckDueMs
  activityAckPending := tx.activityAckPending
  probe := tx.probe

/-- Nothing but flags has changed. -/
def OnlyFlags (tx tx' : TxSessionState) : Prop := (TxFlags.ofTx tx').set tx = tx'

theorem applyOutboundResult_onlyFlags (datagram : Bytes) (nowMs : U64) (isRetransmission : Bool)
    (s : SessionState) :
    OnlyFlags s.tx (applyOutboundResult datagram nowMs isRetransmission s).tx := by
  rw [applyOutboundResult]
  cases decode datagram with
  | none => rfl
  | some packet =>
    simp only [updateOutboundProbeState, recordOutboundStats, clearOutboundAckState]
    split_ifs <;> rfl

theorem applyConnectionDecision_onlyFlags (packet : PacketView) (decision : ConnectionDecision)
    (s : SessionState) : OnlyFlags s.tx (applyConnectionDecision packet decision s).tx := by
  rw [applyConnectionDecision]
  cases decision.valid with
  | false =>
    simp only [Bool.not_false, if_true]
    split_ifs <;> rfl
  | true =>
    simp only [Bool.not_true, Bool.false_eq_true, if_false]
    cases decision.nextState <;> simp only <;> split_ifs <;> rfl

/-- A sender with transmit state `tx` can take the requests, send the datagrams and end up with
`tx'`. -/
def SenderSteps (transport : TransportSettings) (tx : TxSessionState) (queues : List SendRequest)
    (emits : List Emission) (tx' : TxSessionState) : Prop :=
  ∃ ops : List TxOp, ∀ queued emitted,
    Run.run (Sender.step transport) { tx, queued, emitted } ops =
      { tx := tx', queued := queued ++ queues, emitted := emitted ++ emits }

section Steps

variable {transport : TransportSettings} {tx tx₁ tx₂ tx' : TxSessionState}
  {queues queues₁ queues₂ : List SendRequest} {emits emits₁ emits₂ : List Emission}

theorem SenderSteps.trans (h₁ : SenderSteps transport tx queues₁ emits₁ tx₁)
    (h₂ : SenderSteps transport tx₁ queues₂ emits₂ tx₂) :
    SenderSteps transport tx (queues₁ ++ queues₂) (emits₁ ++ emits₂) tx₂ := by
  obtain ⟨ops₁, h₁⟩ := h₁
  obtain ⟨ops₂, h₂⟩ := h₂
  refine ⟨ops₁ ++ ops₂, fun queued emitted => ?_⟩
  rw [Run.run, List.foldl_append, ← Run.run, ← Run.run, h₁, h₂, List.append_assoc,
    List.append_assoc]

/-- Setting flags is one step. -/
theorem OnlyFlags.steps (h : OnlyFlags tx tx') : SenderSteps transport tx [] [] tx' := by
  refine ⟨[.schedule (TxFlags.ofTx tx')], fun queued emitted => ?_⟩
  rw [Run.run_cons, Run.run_nil, Sender.step, h, List.append_nil, List.append_nil]

theorem SenderSteps.refl (tx : TxSessionState) : SenderSteps transport tx [] [] tx :=
  OnlyFlags.steps rfl

/-- Flags are set after the steps. -/
theorem SenderSteps.flags (h : SenderSteps transport tx queues emits tx₁)
    (hflags : OnlyFlags tx₁ tx') : SenderSteps transport tx queues emits tx' := by
  have hall := h.trans (@OnlyFlags.steps transport _ _ hflags)
  rwa [List.append_nil, List.append_nil] at hall

/-- Polling a session polls its sender, if the session has not been idle for too long. -/
theorem pollTx_steps (transport : TransportSettings) (nowMs : U64) (s : SessionState) :
    SenderSteps transport s.tx [] (LifeOp.emits transport s (.call (.pollTx nowMs)))
      (pollTx transport nowMs s).2.tx := by
  rw [LifeOp.emits]
  cases htimeout : shouldTimeoutIdleSession transport s nowMs with
  | true =>
    simp only [pollTx, htimeout, if_true]
    exact .refl s.tx
  | false =>
    have hscheduled : OnlyFlags s.tx (schedulePendingTxWork transport nowMs s).tx := by
      rw [schedulePendingTxWork]
      split_ifs <;> rfl
    have hcall : SenderSteps transport (schedulePendingTxWork transport nowMs s).tx []
        (laneResult transport nowMs s).1.emissions (laneResult transport nowMs s).2.2 := by
      refine ⟨[.poll nowMs s.role s.connId s.connectionState s.rx], fun queued emitted => ?_⟩
      rw [List.append_nil]
      rfl
    refine SenderSteps.flags (hscheduled.steps.trans hcall) ?_
    rw [pollTx_eq htimeout]
    simp only
    split_ifs
    · rfl
    · cases (laneResult transport nowMs s).1.datagram with
      | none => rfl
      | some datagram => exact applyOutboundResult_onlyFlags datagram nowMs _ _

/-- A datagram is at most one acknowledgement to the sender; the other stages set flags. -/
theorem onDatagramReceived_steps (transport : TransportSettings) (bytes : Bytes) (nowMs : U64)
    (s : SessionState) :
    SenderSteps transport s.tx [] [] (onDatagramReceived transport bytes nowMs s).tx := by
  refine ReceiveRule.onDatagramReceived (P := fun t => SenderSteps transport s.tx [] [] t.tx)
    (fun packet _ => ?_) (.refl s.tx)
  constructor
  case recorded | adopted | reset | closed | received =>
    intros
    assumption
  case acked =>
    intro t h
    simp only [applyRemoteAck]
    split_ifs
    · exact h
    · refine h.trans ⟨[.remoteAck packet.header.ack packet.header.ackBits],
        fun queued emitted => ?_⟩
      rw [List.append_nil, List.append_nil]
      rfl
  case lingered =>
    intro t _ h
    refine h.flags ?_
    rw [scheduleFinalAckDuringLinger]
    split_ifs <;> rfl
  case probed =>
    intro t h
    refine h.flags ?_
    rw [handleProbeReceive]
    split_ifs <;> rfl
  case decided =>
    intro t h
    exact h.flags (applyConnectionDecision_onlyFlags packet _ t)
  case live =>
    intro t h
    refine h.flags ?_
    rw [updatePostReceiveLiveness]
    split_ifs <;> rfl
  case scheduled =>
    intro t rxResult h
    refine h.flags ?_
    rw [scheduleReceiveSideAck]
    split_ifs <;> rfl

/-- **One operation** of a session. -/
theorem LifeOp.steps (transport : TransportSettings) (s : SessionState) (op : LifeOp) :
    SenderSteps transport s.tx op.queues (op.emits transport s) (op.apply transport s).2.tx := by
  rcases op with ⟨⟨channelId, channelType, payload⟩ | nowMs | ⟨bytes, nowMs⟩ | _⟩ | _ | _
  case call.queueSend =>
    refine ⟨[.queue channelId channelType payload], fun queued emitted => ?_⟩
    rw [LifeOp.emits, List.append_nil]
    rfl
  case call.pollTx => exact pollTx_steps transport nowMs s
  case call.onDatagramReceived => exact onDatagramReceived_steps transport bytes nowMs s
  case call.requestClose =>
    simp only [LifeOp.apply, SessionOp.apply, requestClose]
    split_ifs
    · -- The FIN that is to be sent is a flag as well.
      refine ⟨[.schedule { TxFlags.ofTx s.tx with finPending := true }], fun queued emitted => ?_⟩
      rw [LifeOp.queues, LifeOp.emits, List.append_nil, List.append_nil]
      rfl
    · exact .refl s.tx
  case assignConnId | drainEvents => exact .refl s.tx

end Steps

/-! ## Every life -/

/-- **A session is a sender.** Whatever its application does and whatever datagrams arrive, a
session has a transmit state that a sender reaches from the same start, with the same requests
queued and the same datagrams sent. -/
theorem session_refines_sender (transport : TransportSettings) (role : SessionRole)
    (initialSeq : U32) (ops : List LifeOp) :
    let r := Run.run (SessionTraffic.step transport) (.start role initialSeq) ops
    ∃ txOps : List TxOp, Run.run (Sender.step transport)
      { tx := { nextSeq := initialSeq, remoteAck := initialSeq } } txOps = r.sender := by
  intro r
  have hsteps : SenderSteps transport { nextSeq := initialSeq, remoteAck := initialSeq } r.queued
      r.emitted r.session.tx := by
    refine Run.invariant (fun r : SessionTraffic => SenderSteps transport
      { nextSeq := initialSeq, remoteAck := initialSeq } r.queued r.emitted r.session.tx)
      (fun r op h => h.trans (op.steps transport r.session)) ?_ ops
    exact .refl _
  obtain ⟨txOps, hrun⟩ := hsteps
  exact ⟨txOps, hrun [] []⟩

/-- The sender of a session conserves what is queued. -/
theorem session_conserves (transport : TransportSettings) (role : SessionRole) (initialSeq : U32)
    (ops : List LifeOp) : Conserves transport initialSeq
      (Run.run (SessionTraffic.step transport) (.start role initialSeq) ops).sender := by
  have hstart : Conserves transport initialSeq
      { tx := { nextSeq := initialSeq, remoteAck := initialSeq } } :=
    StartsAt.conserves transport ⟨rfl, rfl, rfl, rfl⟩
  refine Run.invariant (fun r : SessionTraffic => Conserves transport initialSeq r.sender)
    (fun r op h => ?_) (s := .start role initialSeq) hstart ops
  obtain ⟨txOps, hrun⟩ := op.steps transport r.session
  have hsender : Run.run (Sender.step transport) r.sender txOps = (r.step transport op).sender :=
    hrun r.queued r.emitted
  rw [← hsender]
  exact Run.invariant (Conserves transport initialSeq) (fun _ txOp h => h.step txOp) h txOps

end Rudp
