import Rudp.SessionPoll

/-!
# Sessions that nobody closes

The manager never calls `request_close` on a session. A server session that is left alone like this
has no FIN to send and none in flight, so no acknowledgement can close it, and once it is active it
has no handshake to get on with either. Two things can end it: a RST from its peer, and a poll that
gives up, on an idle peer or on a packet that has used up its retransmissions. Both report an event.
-/

namespace Rudp

open TxHandler Session RxHandler

/-- A server session that was never asked to close. -/
structure Unclosed (s : SessionState) : Prop where
  role : s.role = .server
  finalAck : s.tx.finalAckPending = false
  fin : s.tx.finPending = false
  noFin : InFlight (fun p => p.header.hasFlag .fin = false) s.tx
  settled : BufferSettled s.rx

/-! ## The final ACK is a client's -/

section FinalAck

variable {transport : TransportSettings} {nowMs : U64} {role : SessionRole} {connId : U32}
  {state : ConnectionState} {rx : RxSessionState} {tx : TxSessionState} {flags : Flags}

theorem laneRule_finalAck : LaneRule fun tx => tx.finalAckPending = false where
  numbered _ _ _ htx := htx
  synAck _ htx := htx
  finalAck _ _ _ := rfl
  fin _ htx := htx
  scanned _ _ htx := htx
  pong _ htx := htx
  ping _ htx := htx
  ackOnly _ htx := htx
  requests _ _ htx := htx

/-- A poll does not make a session send its final ACK. -/
theorem pollTx_finalAck {s : SessionState} (h : s.tx.finalAckPending = false) :
    (pollTx transport nowMs s).2.tx.finalAckPending = false := by
  rw [pollTx]
  split_ifs
  · exact h
  · have hschedule : (schedulePendingTxWork transport nowMs s).tx.finalAckPending = false := by
      rw [schedulePendingTxWork]
      split_ifs <;> exact h
    simp only
    generalize schedulePendingTxWork transport nowMs s = t at hschedule ⊢
    have hpoll := @LaneRule.poll transport nowMs t.role t.connId t.connectionState t.rx t.tx _
      laneRule_finalAck hschedule
    generalize poll transport nowMs t.role t.connId t.connectionState t.rx t.tx = polled at hpoll ⊢
    obtain ⟨result, next, tx'⟩ := polled
    simp only
    split_ifs
    · exact hpoll
    · cases result.datagram with
      | none => exact hpoll
      | some datagram =>
        simp only [applyOutboundResult]
        split
        · exact hpoll
        · simp only [updateOutboundProbeState, recordOutboundStats, clearOutboundAckState]
          split_ifs <;> exact hpoll

theorem applyConnectionDecision_finalAck (packet : PacketView) (decision : ConnectionDecision)
    (s : SessionState) (h : decision.scheduleFinalAck = false) :
    (applyConnectionDecision packet decision s).tx.finalAckPending = s.tx.finalAckPending := by
  rw [applyConnectionDecision]
  cases decision.valid with
  | false =>
    simp only [Bool.not_false, if_true]
    split_ifs <;> rfl
  | true =>
    simp only [Bool.not_true, Bool.false_eq_true, if_false, h]
    cases decision.nextState <;> simp only <;> split_ifs <;> rfl

theorem scheduleFinalAck_of_server (state : ConnectionState) (kind : ControlKind) :
    (decideConnectionTransition .server state kind).scheduleFinalAck = false := by
  cases state <;> cases kind <;> rfl

/-- Nor does a stage of receiving a datagram, on a server. -/
theorem receiveRule_finalAck (packet : PacketView) : ReceiveRule transport nowMs packet
    fun s => s.role = .server ∧ s.tx.finalAckPending = false where
  recorded _ _ _ hs := hs
  adopted _ hs := hs
  reset _ hs := hs
  lingered s hduplicate hs := by
    simp [isDuplicateClientSynAck, hs.1] at hduplicate
  probed s hs := by
    rw [handleProbeReceive]
    split_ifs <;> exact hs
  acked s hs := by
    refine ⟨hs.1, ?_⟩
    rcases applyRemoteAck_effect transport packet.header s.tx with ⟨-, htx, -⟩ | ⟨-, hack⟩
    · rw [htx]
      exact hs.2
    · rw [hack.state]
      exact hs.2
  closed _ hs := hs
  decided s hs := by
    refine ⟨(applyConnectionDecision_frame packet s _).role.trans hs.1,
      (applyConnectionDecision_finalAck _ _ _ ?_).trans hs.2⟩
    rw [hs.1]
    exact scheduleFinalAck_of_server _ _
  received _ _ hs := hs
  live s hs := by
    rw [updatePostReceiveLiveness]
    split_ifs <;> exact hs
  scheduled s rxResult hs := by
    rw [scheduleReceiveSideAck]
    split_ifs <;> exact hs

theorem onDatagramReceived_finalAck {s : SessionState} (hrole : s.role = .server)
    (h : s.tx.finalAckPending = false) (bytes : Bytes) :
    (onDatagramReceived transport bytes nowMs s).tx.finalAckPending = false :=
  (ReceiveRule.onDatagramReceived (fun packet _ => receiveRule_finalAck packet) ⟨hrole, h⟩).2

end FinalAck

/-! ## No FIN -/

section Fin

variable {transport : TransportSettings} {nowMs : U64} {s s' : SessionState}

theorem Polls.noFin (h : Polls s s') (hfin : s.tx.finPending = false) :
    s'.tx.finPending = false :=
  Bool.eq_false_iff.2 fun hpending => Bool.eq_false_iff.1 hfin (h.finPending hpending)

/-- No session builds a RST, and none a FIN that was not asked for. -/
theorem FreshPacket.flags {role : SessionRole} {connId : U32} {state : ConnectionState}
    {rx : RxSessionState} {tx : TxSessionState} {p : PacketView}
    (h : FreshPacket role connId state rx tx p) :
    p.header.hasFlag .rst = false ∧ (p.header.hasFlag .fin = true → tx.finPending = true) := by
  have hcontrol : ∀ flags seq flag, (controlPacket connId flags rx seq).header.hasFlag flag =
    (flags &&& flag.toFlags != 0) := fun _ _ _ => rfl
  cases h with
  | bare hflags =>
    rw [hcontrol, hcontrol]
    rcases hflags with rfl | rfl | rfl
    · exact ⟨by decide, fun hfin => absurd hfin (by decide)⟩
    · exact ⟨by decide, fun hfin => absurd hfin (by decide)⟩
    · exact ⟨by decide, fun hfin => absurd hfin (by decide)⟩
  | control hcause =>
    rw [hcontrol, hcontrol]
    cases hcause with
    | syn _ _ => exact ⟨by decide, fun hfin => absurd hfin (by decide)⟩
    | synAck _ _ => exact ⟨by decide, fun hfin => absurd hfin (by decide)⟩
    | fin hpending _ => exact ⟨by decide, fun _ => hpending⟩
  | request _ => simp [requestPacket, Header.hasFlag]

theorem FreshPacket.no_fin {role : SessionRole} {connId : U32} {state : ConnectionState}
    {rx : RxSessionState} {tx : TxSessionState} {p : PacketView}
    (h : FreshPacket role connId state rx tx p) (hfin : tx.finPending = false) :
    p.header.hasFlag .fin = false :=
  Bool.eq_false_iff.2 fun hflag => Bool.eq_false_iff.1 hfin (h.flags.2 hflag)

theorem Unclosed.receive (h : Unclosed s) (bytes : Bytes) :
    Unclosed (onDatagramReceived transport bytes nowMs s) := by
  obtain ⟨hrole, -, heffect⟩ := onDatagramReceived_effect transport bytes nowMs s
  exact {
    role := hrole.trans h.role
    finalAck := onDatagramReceived_finalAck h.role h.finalAck bytes
    fin := heffect.shrinks.finPending.trans h.fin
    noFin := heffect.inFlight h.noFin
    settled := @BufferSettled.apply transport s h.settled (.onDatagramReceived bytes nowMs) }

theorem Unclosed.poll (h : Unclosed s) : Unclosed (pollTx transport nowMs s).2 := by
  have heffect := pollTx_effect transport nowMs s
  exact {
    role := heffect.keeps.1.trans h.role
    finalAck := pollTx_finalAck h.finalAck
    fin := heffect.polls.noFin h.fin
    noFin := (heffect.inFlight (fun hsame hp => by obtain ⟨_, _, rfl⟩ := hsame; exact hp) h.noFin
      fun hcore hnew _ => hnew.no_fin (hcore.finPending.trans h.fin)).1
    settled := @BufferSettled.apply transport s h.settled (.pollTx nowMs) }

end Fin

/-! ## How an active session ends -/

/-- A poll gives the session up: its peer is idle, or the scan for packets to send again stops at
one that has used up its retransmissions. -/
def givesUp (transport : TransportSettings) (nowMs : U64) (s : SessionState) : Bool :=
  shouldTimeoutIdleSession transport s nowMs ||
    (firstDue transport nowMs s.tx).any fun item => item.2.exhausted transport

section Active

variable {transport : TransportSettings} {nowMs : U64} {s : SessionState}

/-- **Polling.** A poll that gives the session up resets it and reports an error; any other leaves
its state and its events alone. -/
theorem Unclosed.poll_active (h : Unclosed s)
    (hstate : s.connectionState = .established ∨ s.connectionState = .closing) :
    if givesUp transport nowMs s then
      (pollTx transport nowMs s).1 = none ∧
        (pollTx transport nowMs s).2.connectionState = .reset ∧
        ∃ message, (pollTx transport nowMs s).2.rx = s.rx.report [localError message]
    else
      (pollTx transport nowMs s).2.connectionState = s.connectionState ∧
        (pollTx transport nowMs s).2.rx = s.rx := by
  rw [givesUp]
  cases htimeout : shouldTimeoutIdleSession transport s nowMs with
  | true =>
    rw [pollTx, if_pos htimeout]
    exact ⟨rfl, rfl, _, rfl⟩
  | false =>
    have hquiet : handshakeDue s.role s.connectionState s.tx = false := by
      rcases hstate with hstate | hstate <;> simp [handshakeDue, hstate, h.finalAck, h.fin]
    have hnext : (laneResult transport nowMs s).2.1 = s.connectionState :=
      poll_connectionState.trans (if_neg (by simp [h.role]))
    have hfatal : (laneResult transport nowMs s).1.fatalError =
        (firstDue transport nowMs s.tx).any fun item => item.2.exhausted transport := by
      have hlanes := @laneResult_of_quiet transport nowMs s hquiet
      cases hfirst : firstDue transport nowMs s.tx with
      | none =>
        rw [hfirst] at hlanes
        exact hlanes.1
      | some item =>
        rw [hfirst] at hlanes
        exact hlanes.1
    rw [pollTx_eq htimeout, Bool.false_or, ← hfatal]
    generalize laneResult transport nowMs s = lane at hnext
    obtain ⟨result, next, tx'⟩ := lane
    obtain rfl : next = s.connectionState := hnext
    cases hstops : result.fatalError with
    | true =>
      simp only [hstops, if_true]
      exact ⟨trivial, trivial, result.errorMessage, rfl⟩
    | false =>
      simp only [hstops, Bool.false_eq_true, if_false]
      cases result.datagram with
      | none => exact ⟨rfl, rfl⟩
      | some datagram =>
        exact ⟨(applyOutboundResult_frame nowMs _ datagram _).state,
          applyOutboundResult_rx datagram nowMs _ _⟩

/-- **Receiving.** A RST is the only packet that ends the session, and it is reported. -/
theorem Unclosed.receive_active (h : Unclosed s)
    (hstate : s.connectionState = .established ∨ s.connectionState = .closing) {bytes : Bytes}
    {packet : PacketView} (hdecode : decode bytes = some packet)
    (hconnId : packet.header.connId = s.connId) :
    ((onDatagramReceived transport bytes nowMs s).connectionState = .reset ∨
        (onDatagramReceived transport bytes nowMs s).connectionState = .closed ↔
      classifyControlKind packet.header = .rst) ∧
    ∃ events, (onDatagramReceived transport bytes nowMs s).rx.pendingEvents =
        s.rx.pendingEvents ++ events ∧
      (classifyControlKind packet.header = .rst → events ≠ []) := by
  have hmatch : hasConnIdMismatch s (classifyControlKind packet.header) packet.header = false := by
    simp [hasConnIdMismatch, hconnId]
  have heffect := onDatagramReceived_rx transport bytes nowMs s
  generalize onDatagramReceived transport bytes nowMs s = s' at heffect ⊢
  cases heffect with
  | undecodable hnone _ =>
    rw [hdecode] at hnone
    cases hnone
  | duplicate _ _ hduplicate _ _ =>
    simp [isDuplicateClientSynAck, h.role] at hduplicate
  | mismatch hdecode' hmismatch _ _ =>
    rw [hdecode] at hdecode'
    obtain rfl := Option.some.inj hdecode'
    rw [hmatch] at hmismatch
    cases hmismatch
  | processed acknowledgedFin hdecode' _ hfin hrx hnext =>
    rw [hdecode] at hdecode'
    obtain rfl := Option.some.inj hdecode'
    have hopen : acknowledgedFin = false := by
      cases acknowledgedFin with
      | false => rfl
      | true =>
        obtain ⟨k, entry, hget, hflag⟩ := hfin rfl
        rw [h.noFin k entry hget] at hflag
        cases hflag
    subst hopen
    have hafter : stateAfterAck s.connectionState false = s.connectionState := by
      simp [stateAfterAck]
    rw [hafter, h.role] at hnext
    obtain ⟨data, hdata, -, -⟩ := onPacket_events
      (h.settled.report (controlEvents s.role s.connectionState false packet)) packet nowMs
      (classifyControlKind packet.header)
    refine ⟨?_, controlEvents s.role s.connectionState false packet ++ data, ?_, fun hrst => ?_⟩
    · rw [hnext]
      rcases hstate with hstate | hstate <;> rw [hstate] <;>
        cases classifyControlKind packet.header <;> decide
    · rw [hrx, hdata, RxSessionState.report_pendingEvents, List.append_assoc]
    · simp [controlEvents, decisionEvents, hrst, decideConnectionTransition]

end Active

end Rudp
