import Rudp.SessionServer

/-!
# A client before it has an identifier

Between its SYN and the SYN-ACK a client knows no identifier, and whatever it sends carries none. As
long as its application has queued nothing, this is the SYN alone, however often it is polled and
whatever else a server that is still waiting for the final ACK sends it. Such a server in turn has
nothing to say that the client would have to acknowledge.
-/

namespace Rudp

open TxHandler Session RxHandler

/-! ## Nothing but the handshake -/

/-- What waits to be sent besides the handshake: a PONG, a PING, an ACK, and the requests of the
application. -/
def TxSessionState.waiting (tx : TxSessionState) : Bool × Bool × Bool × List SendRequest :=
  (tx.probe.pongPending, tx.probe.pingPending, tx.ackOnlyPending, tx.pendingSend)

def TxSessionState.IsSilent (tx : TxSessionState) : Prop := tx.waiting = (false, false, false, [])

section Silent

variable {transport : TransportSettings} {nowMs : U64} {role : SessionRole} {connId : U32}
  {state : ConnectionState} {rx : RxSessionState} {tx : TxSessionState}

theorem TxSessionState.IsSilent.lanes (h : tx.IsSilent) : tx.probe.pongPending = false ∧
    tx.probe.pingPending = false ∧ tx.ackOnlyPending = false ∧ tx.pendingSend = [] := by
  simpa [TxSessionState.IsSilent, TxSessionState.waiting] using h

theorem tryBuildRetransmit_waiting :
    (tryBuildRetransmit transport nowMs rx tx).2.waiting = tx.waiting := by
  rw [tryBuildRetransmit_eq]
  cases firstDue transport nowMs tx with
  | none => rfl
  | some item =>
    simp only [stopAt]
    split_ifs <;> rfl

/-- What the scan sends is a packet in flight. -/
theorem tryBuildRetransmit_datagram {bytes : Bytes}
    (h : (tryBuildRetransmit transport nowMs rx tx).1.datagram = some bytes) :
    ∃ (k : U32) (entry : TxEntry), tx.inflight[k]? = some entry ∧
      bytes = encode (refresh rx entry.packet).header entry.packet.payload := by
  rw [tryBuildRetransmit_eq] at h
  cases hfirst : firstDue transport nowMs tx with
  | none =>
    rw [hfirst] at h
    cases h
  | some item =>
    simp only [hfirst, stopAt] at h
    split_ifs at h
    exact ⟨item.1, item.2, firstDue_mem hfirst, (Option.some.inj h).symm⟩

/-- A poll that finds nothing waiting and no handshake to get on with only scans for packets to send
again. -/
theorem poll_of_silent
    (hquiet : tryBuildHandshake transport nowMs role connId state rx tx = (none, state, tx))
    (hsilent : tx.IsSilent) :
    poll transport nowMs role connId state rx tx =
      ((tryBuildRetransmit transport nowMs rx tx).1, state,
        (tryBuildRetransmit transport nowMs rx tx).2) := by
  obtain ⟨hpong, hping, hack, hpending⟩ := hsilent.lanes
  rw [poll, hquiet]
  simp only
  rcases @tryBuildRetransmit_effect transport nowMs role connId state rx tx with
    hnone | ⟨hstop, -⟩
  · rw [hnone]
    simp [tryBuildProbeLane, hpong, hping, tryBuildAckOnly, hack, tryBuildFresh, hpending]
  · rw [if_pos hstop]

end Silent

/-! ## Polling -/

/-- A client that has no identifier yet, and nothing but its handshake to send. -/
structure Greeting (s : SessionState) : Prop where
  role : s.role = .client
  connId : s.connId = 0
  silent : s.tx.IsSilent
  state : s.connectionState = .closed ∧ reliableWindowFull s.tx = false ∨
    s.connectionState = .handshakeSent ∨ s.connectionState = .reset

section Greeting

variable {transport : TransportSettings} {nowMs : U64} {s : SessionState}

theorem Greeting.not_established (h : Greeting s) : s.connectionState ≠ .established := by
  rcases h.state with ⟨hstate, -⟩ | hstate | hstate <;> rw [hstate] <;> decide

theorem applyOutboundResult_waiting (datagram : Bytes) (isRetransmission : Bool) :
    (applyOutboundResult datagram nowMs isRetransmission s).tx.waiting = s.tx.waiting := by
  rw [applyOutboundResult]
  split
  · rfl
  · simp only [updateOutboundProbeState, recordOutboundStats, clearOutboundAckState]
    split_ifs <;> rfl

/-- What is left to show of a poll, once it is known what the transmit handler does. -/
theorem Greeting.pollTx_of_poll (h : Greeting s) {result : TxPollResult} {next : ConnectionState}
    {tx : TxSessionState}
    (hpoll : TxHandler.poll transport nowMs s.role s.connId s.connectionState s.rx s.tx =
      (result, next, tx))
    (hsilent : tx.IsSilent) (hnext : next = .handshakeSent ∨ next = .reset) :
    Greeting (pollTx transport nowMs s).2 ∧
      (pollTx transport nowMs s).2.connectionState ≠ .closed ∧
      ∀ bytes, (pollTx transport nowMs s).1 = some bytes → result.datagram = some bytes := by
  obtain ⟨htimeout, hschedule⟩ := @pollTx_of_not_established transport nowMs s h.not_established
  have hlane : laneResult transport nowMs s = (result, next, tx) := by
    rw [laneResult, hschedule, hpoll]
  have hopen : next ≠ .closed := by
    rcases hnext with rfl | rfl <;> decide
  rw [pollTx_eq htimeout, hlane]
  simp only
  cases result.fatalError with
  | true =>
    refine ⟨⟨h.role, h.connId, hsilent, Or.inr (Or.inr rfl)⟩, by simp, fun bytes hbytes => ?_⟩
    cases hbytes
  | false =>
    simp only [Bool.false_eq_true, if_false]
    cases hdatagram : result.datagram with
    | none =>
      refine ⟨⟨h.role, h.connId, hsilent, Or.inr hnext⟩, hopen, fun bytes hbytes => ?_⟩
      cases hbytes
    | some datagram =>
      have hframe := applyOutboundResult_frame nowMs { s with connectionState := next, tx := tx }
        datagram result.retransmission
      refine ⟨⟨hframe.role.trans h.role, hframe.connId.trans h.connId, ?_, Or.inr ?_⟩, ?_,
        fun _ hbytes => hbytes⟩
      · exact (applyOutboundResult_waiting datagram result.retransmission).trans hsilent
      · rw [hframe.state]
        exact hnext
      · rw [hframe.state]
        exact hopen

/-- **Polling.** The client sends its SYN, or a packet in flight, and goes on waiting. -/
theorem Greeting.poll (h : Greeting s) :
    Greeting (pollTx transport nowMs s).2 ∧
      (pollTx transport nowMs s).2.connectionState ≠ .closed ∧
      ∀ bytes, (pollTx transport nowMs s).1 = some bytes →
        bytes = encode (controlPacket 0 Flag.syn.toFlags s.rx s.tx.nextSeq).header [] ∨
        ∃ (k : U32) (entry : TxEntry), s.tx.inflight[k]? = some entry ∧
          bytes = encode (refresh s.rx entry.packet).header entry.packet.payload := by
  by_cases hclosed : s.connectionState = .closed
  · have hwindow : reliableWindowFull s.tx = false := by
      rcases h.state with ⟨-, hwindow⟩ | hstate | hstate
      · exact hwindow
      · rw [hclosed] at hstate
        cases hstate
      · rw [hclosed] at hstate
        cases hstate
    have hpoll : TxHandler.poll transport nowMs s.role s.connId s.connectionState s.rx s.tx =
        (makePollResult (some (encode (controlPacket 0 Flag.syn.toFlags s.rx s.tx.nextSeq).header [])),
          .handshakeSent,
          sendNumbered s.tx (controlPacket 0 Flag.syn.toFlags s.rx s.tx.nextSeq) nowMs) := by
      rw [h.role, h.connId, hclosed]
      exact poll_syn hwindow
    obtain ⟨hgreeting, hstate, hsent⟩ := h.pollTx_of_poll hpoll h.silent (Or.inl rfl)
    exact ⟨hgreeting, hstate, fun bytes hbytes => Or.inl (Option.some.inj (hsent bytes hbytes)).symm⟩
  · have hopen : s.connectionState = .handshakeSent ∨ s.connectionState = .reset :=
      h.state.resolve_left fun hand => hclosed hand.1
    have hquiet : tryBuildHandshake transport nowMs s.role s.connId s.connectionState s.rx s.tx =
        (none, s.connectionState, s.tx) := by
      rcases hopen with hstate | hstate <;> simp [tryBuildHandshake, hstate]
    obtain ⟨hgreeting, hstate, hsent⟩ := h.pollTx_of_poll (poll_of_silent hquiet h.silent)
      (tryBuildRetransmit_waiting.trans h.silent) hopen
    exact ⟨hgreeting, hstate, fun bytes hbytes =>
      Or.inr (tryBuildRetransmit_datagram (hsent bytes hbytes))⟩

end Greeting

/-! ## Receiving -/

section Receive

variable {transport : TransportSettings} {nowMs : U64} {s : SessionState} {packet : PacketView}

theorem applyConnectionDecision_waiting (packet : PacketView) {decision : ConnectionDecision}
    (h : decision.scheduleAckOnly = false) (s : SessionState) :
    (applyConnectionDecision packet decision s).tx.waiting = s.tx.waiting := by
  rw [applyConnectionDecision]
  cases decision.valid with
  | false =>
    simp only [Bool.not_false, if_true]
    split_ifs <;> rfl
  | true =>
    simp only [Bool.not_true, Bool.false_eq_true, if_false, h]
    cases decision.nextState <;> simp only <;> split_ifs <;> rfl

theorem onPacket_scheduleAckOnly (hchannel : packet.header.channelType = .unreliable)
    {kind : ControlKind} (hfin : kind ≠ .fin) (rx : RxSessionState) :
    (onPacket packet nowMs kind rx).1.scheduleAckOnly = false := by
  have hreliable : isReliableChannel packet.header.channelType = false := by
    rw [hchannel]
    rfl
  rw [onPacket, updateReliableReceiveState]
  simp only [hreliable, hfin, decide_false, Bool.or_self]
  split_ifs <;> rfl

/-- Only a FIN makes the state machine ask for an ACK. -/
theorem scheduleAckOnly_of_ne_fin {kind : ControlKind} (hfin : kind ≠ .fin) (role : SessionRole)
    (state : ConnectionState) :
    (decideConnectionTransition role state kind).scheduleAckOnly = false := by
  cases kind with
  | fin => exact absurd rfl hfin
  | syn | synAck | ack =>
    simp only [decideConnectionTransition]
    split_ifs <;> rfl
  | none | rst | ping | pong | invalid => rfl

theorem handleProbeReceive_waiting (h : s.connectionState ≠ .established) (kind : ControlKind) :
    (handleProbeReceive kind nowMs s).tx.waiting = s.tx.waiting := by
  rw [handleProbeReceive, if_neg fun hand => h hand.2]
  split_ifs <;> rfl

theorem applyRemoteAck_waiting (transport : TransportSettings) (header : Header)
    (tx : TxSessionState) :
    (applyRemoteAck transport header (classifyControlKind header) tx).2.waiting = tx.waiting := by
  rcases applyRemoteAck_effect transport header tx with ⟨-, htx, -⟩ | ⟨-, hack⟩
  · rw [htx]
  · rw [hack.state]
    rfl

/-- A packet that is neither data on a reliable channel nor a FIN gives the session nothing to
send. -/
theorem afterChecks_waiting (packet : PacketView) (nowMs : U64) (t : SessionState)
    (hchannel : packet.header.channelType = .unreliable)
    (hfin : classifyControlKind packet.header ≠ .fin) :
    (afterChecks transport packet nowMs t).tx.waiting = t.tx.waiting := by
  rw [afterChecks]
  have happlied := applyRemoteAck_waiting transport packet.header t.tx
  generalize applyRemoteAck transport packet.header (classifyControlKind packet.header) t.tx =
    applied at happlied
  generalize hclosing : (if shouldCloseAfterFinAcknowledgement { t with tx := applied.2 } applied.1
    then closeAfterFinAcknowledgement packet { t with tx := applied.2 }
    else { t with tx := applied.2 }) = closed
  have hclosed : closed.tx.waiting = t.tx.waiting := by
    rw [← hclosing, ← happlied]
    split_ifs <;> rfl
  have hdecided := (applyConnectionDecision_waiting packet (scheduleAckOnly_of_ne_fin hfin
    closed.role closed.connectionState) closed).trans hclosed
  generalize applyConnectionDecision packet (decideConnectionTransition closed.role
    closed.connectionState (classifyControlKind packet.header)) closed = decided at hdecided ⊢
  have hlive : ∀ rx, (updatePostReceiveLiveness (classifyControlKind packet.header)
      { decided with rx }).tx.waiting = t.tx.waiting := by
    intro rx
    rw [updatePostReceiveLiveness]
    split_ifs <;> exact hdecided
  rw [scheduleReceiveSideAck, onPacket_scheduleAckOnly hchannel hfin]
  exact hlive _

/-- Where a packet that is no SYN-ACK takes a client that waits for one. -/
theorem next_of_greeting {state : ConnectionState} {kind : ControlKind}
    (hstate : state = .handshakeSent ∨ state = .reset) (hsynAck : kind ≠ .synAck)
    (hfin : kind ≠ .fin) :
    (decideConnectionTransition .client state kind).nextState.getD state = state ∨
      (decideConnectionTransition .client state kind).nextState.getD state = .reset := by
  cases kind with
  | synAck => exact absurd rfl hsynAck
  | fin => exact absurd rfl hfin
  | none | syn | ack | rst | ping | pong | invalid =>
    rcases hstate with rfl | rfl <;> decide

/-- **Receiving.** Nothing but a SYN-ACK, by which the client gets its identifier, gives it more to
send. -/
theorem Greeting.receive (h : Greeting s) (hopen : s.connectionState ≠ .closed) {bytes : Bytes}
    (hdecode : decode bytes = some packet) (hne : packet.header.connId ≠ 0)
    (hchannel : packet.header.channelType = .unreliable)
    (hfin : classifyControlKind packet.header ≠ .fin) :
    (onDatagramReceived transport bytes nowMs s).connId ≠ 0 ∨
      Greeting (onDatagramReceived transport bytes nowMs s) ∧
        (onDatagramReceived transport bytes nowMs s).connectionState ≠ .closed := by
  by_cases hsynAck : classifyControlKind packet.header = .synAck
  · refine Or.inl ?_
    rw [onDatagramReceived_connId, hdecode]
    simpa [shouldAdoptServerConnId, hsynAck, h.role, h.connId] using hne
  · refine Or.inr ?_
    have hstate : s.connectionState = .handshakeSent ∨ s.connectionState = .reset :=
      h.state.resolve_left fun hand => hopen hand.1
    have hsame := counted_same packet bytes.length nowMs s
    have hcounted : counted packet bytes.length nowMs s =
        recordReceivedStats (classifyControlKind packet.header) bytes.length nowMs s := by
      simp [counted, shouldAdoptServerConnId, hsynAck]
    have hmatch : hasConnIdMismatch s (classifyControlKind packet.header) packet.header = false := by
      simp [hasConnIdMismatch, h.connId]
    have hduplicate : isDuplicateClientSynAck s (classifyControlKind packet.header) = false := by
      simp [isDuplicateClientSynAck, hsynAck]
    rw [onDatagramReceived_of_decode hdecode]
    simp only
    rw [hsame.mismatch, hmatch, if_neg Bool.false_ne_true, hsame.duplicate, hduplicate,
      if_neg Bool.false_ne_true, hcounted]
    have hstats := recordReceivedStats_frame (classifyControlKind packet.header) bytes.length
      nowMs s
    have hwaiting₁ : (recordReceivedStats (classifyControlKind packet.header) bytes.length nowMs
      s).tx.waiting = s.tx.waiting := rfl
    generalize recordReceivedStats (classifyControlKind packet.header) bytes.length nowMs s = t₁
      at hstats hwaiting₁ ⊢
    have hprobe := handleProbeReceive_frame (classifyControlKind packet.header) nowMs t₁
    have hwaiting₂ := @handleProbeReceive_waiting nowMs t₁
      (hstats.state.symm ▸ h.not_established) (classifyControlKind packet.header)
    generalize handleProbeReceive (classifyControlKind packet.header) nowMs t₁ = t₂
      at hprobe hwaiting₂ ⊢
    have hframe := afterChecks_frame transport packet nowMs t₂
    simp only at hframe
    have hrest := @afterChecks_waiting transport packet nowMs t₂ hchannel hfin
    generalize (applyRemoteAck transport packet.header (classifyControlKind packet.header)
      t₂.tx) = applied at hframe
    have hafter : stateAfterAck t₂.connectionState applied.1.acknowledgedFin =
        s.connectionState := by
      rw [stateAfterAck, hprobe.state, hstats.state]
      rcases hstate with hstate | hstate <;> simp [hstate]
    have hstays := next_of_greeting hstate hsynAck hfin
    rw [← hafter, ← h.role, ← hstats.role, ← hprobe.role] at hstays
    refine ⟨⟨hframe.role.trans (hprobe.role.trans (hstats.role.trans h.role)),
      hframe.connId.trans (hprobe.connId.trans (hstats.connId.trans h.connId)), ?_, Or.inr ?_⟩, ?_⟩
    · exact hrest.trans ((hwaiting₂.trans hwaiting₁).trans h.silent)
    · rcases hstays with hsame | hreset
      · have hnext := hframe.state.trans (hsame.trans hafter)
        exact hstate.imp hnext.trans hnext.trans
      · exact Or.inr (hframe.state.trans hreset)
    · intro hclosed
      have hnext := hframe.state.symm.trans hclosed
      rcases hstays with hsame | hreset
      · exact hopen (hafter.symm.trans (hsame.symm.trans hnext))
      · rw [hreset] at hnext
        cases hnext

end Receive

/-! ## The server's side -/

/-- The packet decodes, and is one that a greeting client can receive. -/
def IsGreeting (p : PacketView) : Prop :=
  isValidHeader p.header = true ∧ p.header.channelType = .unreliable ∧ p.header.hasFlag .fin = false

theorem IsGreeting.of_sameButAcks {p q : PacketView} (h : SameButAcks p q) (hp : IsGreeting p) :
    IsGreeting q := by
  obtain ⟨_, _, rfl⟩ := h
  exact hp

theorem IsGreeting.ne_fin {p : PacketView} (h : IsGreeting p) :
    classifyControlKind p.header ≠ .fin := by
  simp only [classifyControlKind, h.2.2]
  split_ifs <;> simp_all

/-- A server session that has nothing of its application's to send. -/
structure Greets (s : SessionState) : Prop where
  role : s.role = .server
  pendingSend : s.tx.pendingSend = []
  fin : s.tx.finPending = false
  inFlight : InFlight IsGreeting s.tx

section Server

variable {transport : TransportSettings} {nowMs : U64} {s s' : SessionState}

theorem FreshPacket.isGreeting {role : SessionRole} {connId : U32} {state : ConnectionState}
    {rx : RxSessionState} {tx : TxSessionState} {p : PacketView}
    (h : FreshPacket role connId state rx tx p) (hpending : tx.pendingSend = [])
    (hfin : tx.finPending = false) : IsGreeting p := by
  refine ⟨h.valid, ?_, h.no_fin hfin⟩
  cases h with
  | bare _ => rfl
  | control _ => rfl
  | request hrequest =>
    rw [hpending] at hrequest
    cases hrequest

theorem Polls.nothingQueued (h : Polls s s') (hpending : s.tx.pendingSend = []) :
    s'.tx.pendingSend = [] := by
  rcases h.queue with hsame | ⟨request, htaken⟩
  · exact hsame.trans hpending
  · rw [hpending] at htaken
    cases htaken

theorem Greets.receive (h : Greets s) (bytes : Bytes) :
    Greets (onDatagramReceived transport bytes nowMs s) := by
  obtain ⟨hrole, -, heffect⟩ := onDatagramReceived_effect transport bytes nowMs s
  exact ⟨hrole.trans h.role, heffect.shrinks.pendingSend.trans h.pendingSend,
    heffect.shrinks.finPending.trans h.fin, heffect.inFlight h.inFlight⟩

/-- All that such a session sends is for a greeting client to receive. -/
theorem Greets.poll (h : Greets s) :
    Greets (pollTx transport nowMs s).2 ∧
      ∀ bytes, (pollTx transport nowMs s).1 = some bytes →
        ∃ p, decode bytes = some p ∧ IsGreeting p := by
  have heffect := pollTx_effect transport nowMs s
  obtain ⟨hin, hsent⟩ := heffect.inFlight IsGreeting.of_sameButAcks h.inFlight
    fun hcore hnew _ => hnew.isGreeting (hcore.pendingSend.trans h.pendingSend)
      (hcore.finPending.trans h.fin)
  refine ⟨⟨heffect.keeps.1.trans h.role, heffect.polls.nothingQueued h.pendingSend,
    heffect.polls.noFin h.fin, hin⟩, fun bytes hbytes => ?_⟩
  obtain ⟨p, hp, hgreeting⟩ := hsent bytes hbytes
  refine ⟨p, ?_, hgreeting⟩
  rw [hp]
  exact decode_encode hgreeting.1 p.payload

end Server

end Rudp
