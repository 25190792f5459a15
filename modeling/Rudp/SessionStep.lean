import Rudp.Session

/-!
# What a session does

The inversions of `poll_tx` and `on_datagram_received`. Most of what these functions do is
bookkeeping: statistics, times, events and flags. `Frame` says that a step is nothing more than
that, and the two main results say where a step goes beyond it: one poll of the transmit handler,
or one acknowledgement and one decision of the state machine.
-/

namespace Rudp

open TxHandler Session

/-- The part of the transmit state that carries packets, and the FIN that is still to be sent. -/
structure SameCore (tx tx' : TxSessionState) : Prop where
  nextSeq : tx'.nextSeq = tx.nextSeq
  remoteAck : tx'.remoteAck = tx.remoteAck
  pendingSend : tx'.pendingSend = tx.pendingSend
  inflight : tx'.inflight = tx.inflight
  finPending : tx'.finPending = tx.finPending

theorem SameCore.refl (tx : TxSessionState) : SameCore tx tx := ⟨rfl, rfl, rfl, rfl, rfl⟩

theorem SameCore.trans {tx₁ tx₂ tx₃ : TxSessionState} (h : SameCore tx₁ tx₂)
    (h' : SameCore tx₂ tx₃) : SameCore tx₁ tx₃ :=
  ⟨h'.nextSeq.trans h.nextSeq, h'.remoteAck.trans h.remoteAck, h'.pendingSend.trans h.pendingSend,
    h'.inflight.trans h.inflight, h'.finPending.trans h.finPending⟩

/-- Bookkeeping: nothing but statistics, times, events and flags has changed. -/
structure Frame (s s' : SessionState) : Prop where
  role : s'.role = s.role
  connId : s'.connId = s.connId
  state : s'.connectionState = s.connectionState
  tx : SameCore s.tx s'.tx

theorem Frame.refl (s : SessionState) : Frame s s := ⟨rfl, rfl, rfl, .refl _⟩

theorem Frame.trans {s₁ s₂ s₃ : SessionState} (h : Frame s₁ s₂) (h' : Frame s₂ s₃) :
    Frame s₁ s₃ :=
  ⟨h'.role.trans h.role, h'.connId.trans h.connId, h'.state.trans h.state, h.tx.trans h'.tx⟩

section Bookkeeping

variable (transport : TransportSettings) (kind : ControlKind) (packet : PacketView) (size : ℕ)
  (nowMs : U64) (s : SessionState)

theorem schedulePendingTxWork_frame : Frame s (schedulePendingTxWork transport nowMs s) := by
  rw [schedulePendingTxWork]
  split_ifs <;> exact ⟨rfl, rfl, rfl, ⟨rfl, rfl, rfl, rfl, rfl⟩⟩

theorem recordReceivedStats_frame : Frame s (recordReceivedStats kind size nowMs s) :=
  ⟨rfl, rfl, rfl, .refl _⟩

theorem applyOutboundResult_frame (datagram : Bytes) (isRetransmission : Bool) :
    Frame s (applyOutboundResult datagram nowMs isRetransmission s) := by
  rw [applyOutboundResult]
  split
  · exact .refl s
  · simp only [updateOutboundProbeState, recordOutboundStats, clearOutboundAckState]
    split_ifs <;> exact ⟨rfl, rfl, rfl, ⟨rfl, rfl, rfl, rfl, rfl⟩⟩

theorem handleProbeReceive_frame : Frame s (handleProbeReceive kind nowMs s) := by
  rw [handleProbeReceive]
  split_ifs <;> exact ⟨rfl, rfl, rfl, ⟨rfl, rfl, rfl, rfl, rfl⟩⟩

theorem scheduleFinalAckDuringLinger_frame :
    Frame s (scheduleFinalAckDuringLinger nowMs s) := by
  rw [scheduleFinalAckDuringLinger]
  split_ifs <;> exact ⟨rfl, rfl, rfl, ⟨rfl, rfl, rfl, rfl, rfl⟩⟩

theorem updatePostReceiveLiveness_frame : Frame s (updatePostReceiveLiveness kind s) := by
  rw [updatePostReceiveLiveness]
  split_ifs <;> exact ⟨rfl, rfl, rfl, ⟨rfl, rfl, rfl, rfl, rfl⟩⟩

theorem scheduleReceiveSideAck_frame (rxResult : RxPacketResult) :
    Frame s (scheduleReceiveSideAck transport packet kind rxResult nowMs s) := by
  rw [scheduleReceiveSideAck]
  split_ifs <;> exact ⟨rfl, rfl, rfl, ⟨rfl, rfl, rfl, rfl, rfl⟩⟩

/-- Applying a decision is bookkeeping, but for the state it leads to. -/
theorem applyConnectionDecision_frame (decision : ConnectionDecision) :
    Frame { s with
        connectionState := if decision.valid then decision.nextState.getD s.connectionState
          else s.connectionState }
      (applyConnectionDecision packet decision s) := by
  rw [applyConnectionDecision]
  cases hvalid : decision.valid with
  | false =>
    simp only [Bool.not_false, Bool.false_eq_true, if_true, if_false]
    split_ifs <;> exact ⟨rfl, rfl, rfl, .refl _⟩
  | true =>
    simp only [Bool.not_true, Bool.false_eq_true, if_false, if_true]
    cases decision.nextState <;> simp only <;> split_ifs <;>
      exact ⟨rfl, rfl, rfl, ⟨rfl, rfl, rfl, rfl, rfl⟩⟩

end Bookkeeping

/-! ## Polling -/

/-- What `poll_tx` does: it gives up an idle session, or it polls the transmit handler once, and a
fatal result resets the session. -/
inductive PollTxEffect (transport : TransportSettings) (nowMs : U64) (s : SessionState) :
    Option Bytes → SessionState → Prop where
  | timeout (hstate : s.connectionState = .established) :
      PollTxEffect transport nowMs s none (markIdleTimeout s)
  | polled {bytes : Option Bytes} {s' : SessionState} {result : TxPollResult}
      {tx tx' : TxSessionState} (hbefore : SameCore s.tx tx)
      (heffect : PollEffect transport nowMs s.role s.connId s.connectionState s.rx tx result tx')
      (hafter : SameCore tx' s'.tx) (hrole : s'.role = s.role) (hconnId : s'.connId = s.connId)
      (hbytes : bytes = if result.fatalError then none else result.datagram)
      (hstate : s'.connectionState = if result.fatalError then .reset
        else if s.role = .client ∧ s.connectionState = .closed then .handshakeSent
        else s.connectionState) :
      PollTxEffect transport nowMs s bytes s'

theorem schedulePendingTxWork_rx (transport : TransportSettings) (nowMs : U64)
    (s : SessionState) : (schedulePendingTxWork transport nowMs s).rx = s.rx := by
  rw [schedulePendingTxWork]
  split_ifs <;> rfl

/-- **What one `poll_tx` does.** -/
theorem pollTx_effect (transport : TransportSettings) (nowMs : U64) (s : SessionState) :
    PollTxEffect transport nowMs s (pollTx transport nowMs s).1 (pollTx transport nowMs s).2 := by
  rw [pollTx]
  split_ifs with htimeout
  · refine .timeout ?_
    by_contra hstate
    rw [shouldTimeoutIdleSession, if_pos hstate] at htimeout
    cases htimeout
  · have hframe := schedulePendingTxWork_frame transport nowMs s
    have hrx := schedulePendingTxWork_rx transport nowMs s
    simp only
    generalize schedulePendingTxWork transport nowMs s = t at hframe hrx
    rw [hframe.role, hframe.connId, hframe.state, hrx]
    have heffect : PollEffect transport nowMs s.role s.connId s.connectionState s.rx t.tx
        (poll transport nowMs s.role s.connId s.connectionState s.rx t.tx).1
        (poll transport nowMs s.role s.connId s.connectionState s.rx t.tx).2.2 := poll_effect
    have hnext : (poll transport nowMs s.role s.connId s.connectionState s.rx t.tx).2.1 =
        if s.role = .client ∧ s.connectionState = .closed then .handshakeSent
        else s.connectionState := poll_connectionState
    generalize poll transport nowMs s.role s.connId s.connectionState s.rx t.tx = polled at *
    obtain ⟨result, next, tx'⟩ := polled
    simp only at heffect hnext ⊢
    cases hfatal : result.fatalError with
    | true =>
      exact .polled hframe.tx heffect (.refl _) rfl rfl (by simp [hfatal]) (by simp [hfatal])
    | false =>
      simp only [Bool.false_eq_true, if_false]
      cases hdatagram : result.datagram with
      | none =>
        exact .polled hframe.tx heffect (.refl _) rfl rfl (by simp [hfatal, hdatagram])
          (by simp [hfatal, hnext])
      | some datagram =>
        -- What `apply_outbound_result` records is bookkeeping.
        have hout := applyOutboundResult_frame nowMs
          { t with
            role := s.role, connId := s.connId, connectionState := next, tx := tx', rx := s.rx }
          datagram result.retransmission
        exact .polled hframe.tx heffect hout.tx hout.role hout.connId
          (by simp [hfatal, hdatagram]) (hout.state.trans (by simp [hfatal, hnext]))

/-! ## Receiving -/

/-- A control frame, as a peer sends it. -/
def controlDatagram (connId : U32) (flags : Flags) (seq ack : U32) (ackBits : U64) : Bytes :=
  encode { connId, channelType := .unreliable, flags, seq, ack, ackBits } []

/-- The state a packet finds after its acknowledgement was applied. -/
def stateAfterAck (state : ConnectionState) (acknowledgedFin : Bool) : ConnectionState :=
  if acknowledgedFin ∧ state = .closing then .closed else state

/-- What `on_datagram_received` does: it drops the datagram, it resets the session over a foreign
`conn_id`, or it applies one acknowledgement and one decision. -/
inductive ReceiveEffect (bytes : Bytes) (s : SessionState) : SessionState → Prop where
  | dropped {s' : SessionState} (htx : SameCore s.tx s'.tx)
      (hstate : s'.connectionState = s.connectionState) : ReceiveEffect bytes s s'
  | mismatch {s' : SessionState} (htx : SameCore s.tx s'.tx)
      (hstate : s'.connectionState = .reset) : ReceiveEffect bytes s s'
  | processed {s' : SessionState} {packet : PacketView} {result : TxAckResult}
      {tx tx' : TxSessionState} (hdecode : decode bytes = some packet)
      (hmatch : hasConnIdMismatch s (classifyControlKind packet.header) packet.header = false)
      (hbefore : SameCore s.tx tx)
      (hack : classifyControlKind packet.header = .syn ∧ tx' = tx ∧ result = {} ∨
        classifyControlKind packet.header ≠ .syn ∧
          Acknowledges packet.header.ack packet.header.ackBits tx tx' result)
      (hafter : SameCore tx' s'.tx)
      (hstate : s'.connectionState =
        (decideConnectionTransition s.role
          (stateAfterAck s.connectionState result.acknowledgedFin)
          (classifyControlKind packet.header)).nextState.getD
            (stateAfterAck s.connectionState result.acknowledgedFin)) :
      ReceiveEffect bytes s s'

/-- A decision that is not valid leads nowhere. -/
theorem nextState_of_invalid {role : SessionRole} {state : ConnectionState} {kind : ControlKind}
    (h : (decideConnectionTransition role state kind).valid = false) :
    (decideConnectionTransition role state kind).nextState = none := by
  cases kind <;> simp only [decideConnectionTransition] at h ⊢
  case syn | synAck | ack => split_ifs at h ⊢ <;> simp_all [makeInvalidDecision]
  all_goals simp_all [makeInvalidDecision]

theorem applyRemoteAck_effect (transport : TransportSettings) (header : Header)
    (tx : TxSessionState) :
    let applied := applyRemoteAck transport header (classifyControlKind header) tx
    classifyControlKind header = .syn ∧ applied.2 = tx ∧ applied.1 = {} ∨
      classifyControlKind header ≠ .syn ∧
        Acknowledges header.ack header.ackBits tx applied.2 applied.1 := by
  intro applied
  by_cases hsyn : classifyControlKind header = .syn
  · refine Or.inl ⟨hsyn, ?_⟩
    simp only [applied, applyRemoteAck, shouldApplyRemoteAck, hsyn]
    exact ⟨rfl, rfl⟩
  · refine Or.inr ⟨hsyn, ?_⟩
    simp only [applied, applyRemoteAck, shouldApplyRemoteAck, hsyn, ne_eq, not_false_eq_true,
      decide_true, Bool.not_true, Bool.false_eq_true, if_false]
    exact onRemoteAck_acknowledges transport header.ack header.ackBits tx

/-- The rest of `on_datagram_received`, for a packet that passed the checks. -/
def afterChecks (transport : TransportSettings) (packet : PacketView) (nowMs : U64)
    (t : SessionState) : SessionState :=
  let kind := classifyControlKind packet.header
  let applied := applyRemoteAck transport packet.header kind t.tx
  let acked := { t with tx := applied.2 }
  let closed := if shouldCloseAfterFinAcknowledgement acked applied.1 then
      closeAfterFinAcknowledgement packet acked
    else acked
  let decided := applyConnectionDecision packet
    (decideConnectionTransition closed.role closed.connectionState kind) closed
  let received := RxHandler.onPacket packet nowMs kind decided.rx
  scheduleReceiveSideAck transport packet kind received.1 nowMs
    (updatePostReceiveLiveness kind { decided with rx := received.2 })

/-- The session that the checks see: the packet is counted, and a client may have taken over the
server's `conn_id`. -/
def counted (packet : PacketView) (size : ℕ) (nowMs : U64) (s : SessionState) : SessionState :=
  let kind := classifyControlKind packet.header
  let recorded := recordReceivedStats kind size nowMs s
  if shouldAdoptServerConnId recorded kind packet.header then
    adoptServerConnId packet.header recorded
  else recorded

section Receive

variable {transport : TransportSettings} {bytes : Bytes} {nowMs : U64} {s : SessionState}
  {packet : PacketView}

/-- `on_datagram_received`, in its three parts. -/
theorem onDatagramReceived_of_decode (hdecode : decode bytes = some packet) :
    onDatagramReceived transport bytes nowMs s =
      let t := counted packet bytes.length nowMs s
      if hasConnIdMismatch t (classifyControlKind packet.header) packet.header then
        resetForConnIdMismatch t
      else if isDuplicateClientSynAck t (classifyControlKind packet.header) then
        scheduleFinalAckDuringLinger nowMs t
      else afterChecks transport packet nowMs
        (handleProbeReceive (classifyControlKind packet.header) nowMs t) := by
  rw [onDatagramReceived, hdecode]
  rfl

/-- The checks find in `t` what they would find in `s`. -/
structure SameVerdict (header : Header) (s t : SessionState) : Prop where
  role : t.role = s.role
  connId : s.role = .server → t.connId = s.connId
  state : t.connectionState = s.connectionState
  tx : SameCore s.tx t.tx
  rx : t.rx = s.rx
  mismatch : hasConnIdMismatch t (classifyControlKind header) header =
    hasConnIdMismatch s (classifyControlKind header) header
  duplicate : isDuplicateClientSynAck t (classifyControlKind header) =
    isDuplicateClientSynAck s (classifyControlKind header)

/-- A client may take over the server's `conn_id`, a server keeps its own; either way the checks
find what they would have found before. -/
theorem counted_same (packet : PacketView) (size : ℕ) (nowMs : U64) (s : SessionState) :
    SameVerdict packet.header s (counted packet size nowMs s) := by
  have h := recordReceivedStats_frame (classifyControlKind packet.header) size nowMs s
  have hrx : (recordReceivedStats (classifyControlKind packet.header) size nowMs s).rx = s.rx := rfl
  rw [counted]
  generalize recordReceivedStats (classifyControlKind packet.header) size nowMs s = t at h hrx ⊢
  split_ifs with hadopt
  · simp only [shouldAdoptServerConnId, Bool.and_eq_true, decide_eq_true_eq, h.role,
      h.connId] at hadopt
    refine ⟨h.role, fun hserver => ?_, h.state, h.tx, hrx, ?_, ?_⟩
    · rw [hserver] at hadopt
      exact absurd hadopt.1.1.1 (by decide)
    · simp [hasConnIdMismatch, adoptServerConnId, hadopt.1.2]
    · simp only [isDuplicateClientSynAck, adoptServerConnId, h.role, h.state]
  · refine ⟨h.role, fun _ => h.connId, h.state, h.tx, hrx, ?_, ?_⟩
    · simp only [hasConnIdMismatch, allowsServerZeroConnIdBootstrap, h.role, h.connId, h.state]
    · simp only [isDuplicateClientSynAck, h.role, h.state]

/-- What the rest makes of a session `t` that the checks let through. -/
theorem afterChecks_frame (transport : TransportSettings) (packet : PacketView) (nowMs : U64)
    (t : SessionState) :
    let kind := classifyControlKind packet.header
    let applied := applyRemoteAck transport packet.header kind t.tx
    Frame { t with
        tx := applied.2
        connectionState := (decideConnectionTransition t.role
          (stateAfterAck t.connectionState applied.1.acknowledgedFin) kind).nextState.getD
            (stateAfterAck t.connectionState applied.1.acknowledgedFin) }
      (afterChecks transport packet nowMs t) := by
  intro kind applied
  rw [afterChecks]
  generalize hacked : { t with tx := applied.2 } = acked
  generalize hclosing : (if shouldCloseAfterFinAcknowledgement acked applied.1 then
    closeAfterFinAcknowledgement packet acked else acked) = closed
  have hclosed : Frame { t with
      tx := applied.2
      connectionState := stateAfterAck t.connectionState applied.1.acknowledgedFin } closed := by
    subst hacked hclosing
    simp only [stateAfterAck, shouldCloseAfterFinAcknowledgement, Bool.and_eq_true,
      decide_eq_true_eq]
    split_ifs <;> exact ⟨rfl, rfl, rfl, .refl _⟩
  have hdecided := applyConnectionDecision_frame packet closed
    (decideConnectionTransition closed.role closed.connectionState kind)
  generalize applyConnectionDecision packet
    (decideConnectionTransition closed.role closed.connectionState kind) closed = decided
    at hdecided ⊢
  generalize RxHandler.onPacket packet nowMs kind decided.rx = received
  have hlive := updatePostReceiveLiveness_frame kind { decided with rx := received.2 }
  have hack := scheduleReceiveSideAck_frame transport kind packet nowMs
    (updatePostReceiveLiveness kind { decided with rx := received.2 }) received.1
  have hrest : Frame decided (scheduleReceiveSideAck transport packet kind received.1 nowMs
      (updatePostReceiveLiveness kind { decided with rx := received.2 })) :=
    (show Frame decided { decided with rx := received.2 } from ⟨rfl, rfl, rfl, .refl _⟩).trans
      (hlive.trans hack)
  refine Frame.trans ?_ (hdecided.trans hrest)
  refine ⟨hclosed.role, hclosed.connId, ?_, hclosed.tx⟩
  -- The state in question is the one the decision leads to, from where the FIN left the session.
  have hrole : closed.role = t.role := hclosed.role
  have hstate : closed.connectionState =
    stateAfterAck t.connectionState applied.1.acknowledgedFin := hclosed.state
  simp only [hrole, hstate]
  cases hvalid : (decideConnectionTransition t.role
      (stateAfterAck t.connectionState applied.1.acknowledgedFin) kind).valid with
  | true => simp
  | false => simp [nextState_of_invalid hvalid]

/-- **What one `on_datagram_received` does.** -/
theorem onDatagramReceived_effect (transport : TransportSettings) (bytes : Bytes) (nowMs : U64)
    (s : SessionState) :
    let s' := onDatagramReceived transport bytes nowMs s
    s'.role = s.role ∧ (s.role = .server → s'.connId = s.connId) ∧ ReceiveEffect bytes s s' := by
  intro s'
  simp only [s']
  cases hdecode : decode bytes with
  | none =>
    rw [onDatagramReceived, hdecode]
    exact ⟨rfl, fun _ => rfl, .dropped (.refl _) rfl⟩
  | some packet =>
    have hsame := counted_same packet bytes.length nowMs s
    rw [onDatagramReceived_of_decode hdecode]
    generalize counted packet bytes.length nowMs s = t at hsame ⊢
    simp only
    split_ifs with hmismatch hduplicate
    · exact ⟨hsame.role, hsame.connId, .mismatch hsame.tx rfl⟩
    · have hlinger := scheduleFinalAckDuringLinger_frame nowMs t
      exact ⟨hlinger.role.trans hsame.role,
        fun hserver => hlinger.connId.trans (hsame.connId hserver),
        .dropped (hsame.tx.trans hlinger.tx) (hlinger.state.trans hsame.state)⟩
    · have hprobe := handleProbeReceive_frame (classifyControlKind packet.header) nowMs t
      generalize handleProbeReceive (classifyControlKind packet.header) nowMs t = t' at hprobe ⊢
      have hrest := afterChecks_frame transport packet nowMs t'
      have hrole : t'.role = s.role := hprobe.role.trans hsame.role
      have hstate : t'.connectionState = s.connectionState := hprobe.state.trans hsame.state
      refine ⟨hrest.role.trans hrole,
        fun hserver => (hrest.connId.trans hprobe.connId).trans (hsame.connId hserver),
        .processed hdecode (hsame.mismatch ▸ Bool.eq_false_iff.2 hmismatch)
          (hsame.tx.trans hprobe.tx) (applyRemoteAck_effect transport packet.header t'.tx)
          hrest.tx ?_⟩
      rw [← hrole, ← hstate]
      exact hrest.state

/-- Whose `conn_id` a session has after a datagram. -/
theorem onDatagramReceived_connId (transport : TransportSettings) (bytes : Bytes) (nowMs : U64)
    (s : SessionState) :
    (onDatagramReceived transport bytes nowMs s).connId =
      match decode bytes with
      | none => s.connId
      | some packet =>
        if shouldAdoptServerConnId s (classifyControlKind packet.header) packet.header then
          packet.header.connId
        else s.connId := by
  cases hdecode : decode bytes with
  | none =>
    rw [onDatagramReceived, hdecode]
  | some packet =>
    have hcounted : (counted packet bytes.length nowMs s).connId =
        if shouldAdoptServerConnId s (classifyControlKind packet.header) packet.header then
          packet.header.connId
        else s.connId := by
      have hadopt : shouldAdoptServerConnId (recordReceivedStats (classifyControlKind packet.header)
          bytes.length nowMs s) (classifyControlKind packet.header) packet.header =
          shouldAdoptServerConnId s (classifyControlKind packet.header) packet.header := rfl
      simp only [counted, hadopt]
      split_ifs <;> rfl
    rw [onDatagramReceived_of_decode hdecode]
    simp only
    rw [← hcounted]
    generalize counted packet bytes.length nowMs s = t
    -- From here on, everything is bookkeeping.
    split_ifs
    · rfl
    · exact (scheduleFinalAckDuringLinger_frame nowMs t).connId
    · have hprobe := handleProbeReceive_frame (classifyControlKind packet.header) nowMs t
      exact (afterChecks_frame transport packet nowMs _).connId.trans hprobe.connId

end Receive

/-! ## What every stage keeps -/

/-- What each stage from the acknowledgement on keeps of a session. -/
structure AfterChecksRule (transport : TransportSettings) (nowMs : U64) (packet : PacketView)
    (P : SessionState → Prop) : Prop where
  acked : ∀ s, P s → P { s with
    tx := (applyRemoteAck transport packet.header (classifyControlKind packet.header) s.tx).2 }
  closed : ∀ s, P s → P (closeAfterFinAcknowledgement packet s)
  decided : ∀ s, P s → P (applyConnectionDecision packet
    (decideConnectionTransition s.role s.connectionState (classifyControlKind packet.header)) s)
  received : ∀ s rx, P s → P { s with rx }
  live : ∀ s, P s → P (updatePostReceiveLiveness (classifyControlKind packet.header) s)
  scheduled : ∀ s rxResult, P s → P (scheduleReceiveSideAck transport packet
    (classifyControlKind packet.header) rxResult nowMs s)

theorem AfterChecksRule.afterChecks {transport : TransportSettings} {nowMs : U64}
    {packet : PacketView} {s : SessionState} {P : SessionState → Prop}
    (h : AfterChecksRule transport nowMs packet P) (hs : P s) :
    P (Rudp.afterChecks transport packet nowMs s) := by
  rw [Rudp.afterChecks]
  refine h.scheduled _ _ (h.live _ (h.received _ _ (h.decided _ ?_)))
  split_ifs
  · exact h.closed _ (h.acked _ hs)
  · exact h.acked _ hs

/-- What each stage of `on_datagram_received` keeps of a session. -/
structure ReceiveRule (transport : TransportSettings) (nowMs : U64) (packet : PacketView)
    (P : SessionState → Prop) : Prop where
  recorded : ∀ s kind size, P s → P (recordReceivedStats kind size nowMs s)
  adopted : ∀ s, P s → P (adoptServerConnId packet.header s)
  reset : ∀ s, P s → P (resetForConnIdMismatch s)
  lingered : ∀ s, isDuplicateClientSynAck s (classifyControlKind packet.header) = true → P s →
    P (scheduleFinalAckDuringLinger nowMs s)
  probed : ∀ s, P s → P (handleProbeReceive (classifyControlKind packet.header) nowMs s)
  acked : ∀ s, P s → P { s with
    tx := (applyRemoteAck transport packet.header (classifyControlKind packet.header) s.tx).2 }
  closed : ∀ s, P s → P (closeAfterFinAcknowledgement packet s)
  decided : ∀ s, P s → P (applyConnectionDecision packet
    (decideConnectionTransition s.role s.connectionState (classifyControlKind packet.header)) s)
  received : ∀ s rx, P s → P { s with rx }
  live : ∀ s, P s → P (updatePostReceiveLiveness (classifyControlKind packet.header) s)
  scheduled : ∀ s rxResult, P s → P (scheduleReceiveSideAck transport packet
    (classifyControlKind packet.header) rxResult nowMs s)

theorem ReceiveRule.afterChecksRule {transport : TransportSettings} {nowMs : U64}
    {packet : PacketView} {P : SessionState → Prop} (h : ReceiveRule transport nowMs packet P) :
    AfterChecksRule transport nowMs packet P :=
  ⟨h.acked, h.closed, h.decided, h.received, h.live, h.scheduled⟩

/-- **Frame rule.** What every stage keeps of a session, a datagram keeps. -/
theorem ReceiveRule.onDatagramReceived {transport : TransportSettings} {bytes : Bytes}
    {nowMs : U64} {s : SessionState} {P : SessionState → Prop}
    (h : ∀ packet, decode bytes = some packet → ReceiveRule transport nowMs packet P) (hs : P s) :
    P (Session.onDatagramReceived transport bytes nowMs s) := by
  cases hdecode : decode bytes with
  | none =>
    rw [Session.onDatagramReceived, hdecode]
    exact hs
  | some packet =>
    replace h := h packet hdecode
    have hcounted : P (counted packet bytes.length nowMs s) := by
      have hrecorded := h.recorded s (classifyControlKind packet.header) bytes.length hs
      simp only [counted]
      split_ifs
      · exact h.adopted _ hrecorded
      · exact hrecorded
    rw [onDatagramReceived_of_decode hdecode]
    simp only
    split_ifs with hmismatch hduplicate
    · exact h.reset _ hcounted
    · exact h.lingered _ hduplicate hcounted
    · exact h.afterChecksRule.afterChecks (h.probed _ hcounted)

end Rudp
