import Rudp.SessionPoll
import Rudp.TxAck
import Rudp.RxUnnumbered

/-!
# What a datagram does to a session, exactly

`SessionStep` and `SessionEvents` say what a datagram can do. This module says which of it happens
to a packet that passes the checks: `onDatagramReceived_eq` follows it from the acknowledgement on.
Two results about that path rest on it.

* The FIN rule closes the session, and then the state machine decides on the closed one. A peer's
  own FIN takes it back to `Closing` and reports the close again (`fin_acknowledged_iff`).
* The state machine rejects a packet after its acknowledgement was applied and before the window is
  updated, so a rejected packet leaves its mark on both (`rejected_iff`).
-/

namespace Rudp

open Serial Window TxHandler Session RxHandler

/-! ## From the checks on -/

/-- The session that the acknowledgement finds: with the packet counted, the server's `conn_id` taken
over, and a probe answered. -/
def checked (packet : PacketView) (size : ℕ) (nowMs : U64) (s : SessionState) : SessionState :=
  let kind := classifyControlKind packet.header
  let counted := recordReceivedStats kind size nowMs s
  handleProbeReceive kind nowMs
    (if shouldAdoptServerConnId counted kind packet.header then
      adoptServerConnId packet.header counted
    else counted)

/-- The peer acknowledges a FIN that is in flight. -/
def acksFin (s : SessionState) (packet : PacketView) : Bool :=
  classifyControlKind packet.header ≠ .syn && s.tx.inflight.toList.any fun item =>
    isAcknowledgedByRemote item.1 packet.header.ack packet.header.ackBits &&
      item.2.packet.header.hasFlag .fin

section Exact

variable {transport : TransportSettings} {bytes : Bytes} {nowMs : U64} {s : SessionState}
  {packet : PacketView}

theorem onDatagramReceived_eq (hdecode : decode bytes = some packet)
    (hmatch : hasConnIdMismatch s (classifyControlKind packet.header) packet.header = false)
    (hfirst : isDuplicateClientSynAck s (classifyControlKind packet.header) = false) :
    onDatagramReceived transport bytes nowMs s =
      afterChecks transport packet nowMs (checked packet bytes.length nowMs s) := by
  have hsame := counted_same packet bytes.length nowMs s
  rw [onDatagramReceived_of_decode hdecode]
  simp only
  rw [hsame.mismatch, hmatch, if_neg Bool.false_ne_true, hsame.duplicate, hfirst,
    if_neg Bool.false_ne_true]
  rfl

theorem checked_frame : (checked packet bytes.length nowMs s).role = s.role ∧
    (checked packet bytes.length nowMs s).connectionState = s.connectionState ∧
    (checked packet bytes.length nowMs s).rx = s.rx ∧
    SameCore s.tx (checked packet bytes.length nowMs s).tx := by
  have hsame := counted_same packet bytes.length nowMs s
  have hprobe := handleProbeReceive_frame (classifyControlKind packet.header) nowMs
    (counted packet bytes.length nowMs s)
  exact ⟨hprobe.role.trans hsame.role, hprobe.state.trans hsame.state,
    (handleProbeReceive_rx _ nowMs _).trans hsame.rx, hsame.tx.trans hprobe.tx⟩

/-- The acknowledgement reports a FIN exactly when it is of one in flight. -/
theorem applyRemoteAck_acksFin {tx : TxSessionState} (htx : SameCore s.tx tx) :
    (applyRemoteAck transport packet.header (classifyControlKind packet.header) tx).1.acknowledgedFin
      = acksFin s packet := by
  rw [Bool.eq_iff_iff, acksFin]
  simp only [Bool.and_eq_true, decide_eq_true_eq, List.any_eq_true, Prod.exists,
    Std.ExtTreeMap.mem_toList_iff_getElem?_eq_some]
  rcases applyRemoteAck_effect transport packet.header tx with ⟨hsyn, -, hnone⟩ | ⟨hsyn, hack⟩
  · rw [hnone]
    exact iff_of_false Bool.false_ne_true fun h => h.1 hsyn
  · rw [hack.fin, htx.inflight]
    exact ⟨fun h => ⟨hsyn, h⟩, fun h => h.2⟩

/-- **State and events**, after a packet that passed the checks. -/
theorem onDatagramReceived_processed (hdecode : decode bytes = some packet)
    (hmatch : hasConnIdMismatch s (classifyControlKind packet.header) packet.header = false)
    (hfirst : isDuplicateClientSynAck s (classifyControlKind packet.header) = false) :
    (onDatagramReceived transport bytes nowMs s).connectionState =
        (decideConnectionTransition s.role (stateAfterAck s.connectionState (acksFin s packet))
          (classifyControlKind packet.header)).nextState.getD
            (stateAfterAck s.connectionState (acksFin s packet)) ∧
      (onDatagramReceived transport bytes nowMs s).rx =
        (onPacket packet nowMs (classifyControlKind packet.header) (s.rx.report
          (controlEvents s.role s.connectionState (acksFin s packet) packet))).2 := by
  obtain ⟨hrole, hstate, hrx, htx⟩ := @checked_frame bytes nowMs s packet
  rw [onDatagramReceived_eq hdecode hmatch hfirst]
  generalize checked packet bytes.length nowMs s = t at hrole hstate hrx htx ⊢
  have hfin := @applyRemoteAck_acksFin transport s packet t.tx htx
  have hframe := afterChecks_frame transport packet nowMs t
  have hevents := afterChecks_rx transport packet nowMs t
  simp only at hframe hevents
  rw [hfin, hrole, hstate] at hframe
  rw [hfin, hrole, hstate, hrx] at hevents
  exact ⟨hframe.state, hevents⟩

end Exact

/-- The receive handler reports data and nothing else. -/
theorem onPacket_reports (packet : PacketView) (nowMs : U64) (kind : ControlKind)
    (rx : RxSessionState) : ∃ data : List SessionEvent,
      (onPacket packet nowMs kind rx).2.pendingEvents = rx.pendingEvents ++ data ∧
        ∀ event ∈ data, event.kind = .dataReceived := by
  have hpending : (windowed packet kind rx).pendingEvents = rx.pendingEvents := by
    rw [windowed_frame]
  have heffect := onPacket_effect packet kind rx nowMs
  generalize (onPacket packet nowMs kind rx).2 = rx' at heffect ⊢
  cases heffect with
  | ignored => exact ⟨[], by rw [hpending, List.append_nil], by simp⟩
  | @ordered packets _ _ _ _ hdrained _ =>
    refine ⟨packets.map makeDataEvent, ?_, ?_⟩
    · rw [hdrained.events, bufferOrdered_events, hpending]
    · intro event hevent
      obtain ⟨packet, -, rfl⟩ := List.mem_map.1 hevent
      rfl
  | unordered => exact ⟨[makeDataEvent packet], rfl, by simp [makeDataEvent]⟩
  | @unreliable events _ _ _ hevents =>
    refine ⟨events, rfl, ?_⟩
    rcases hevents with rfl | rfl <;> simp [makeDataEvent]

/-! ## An acknowledged FIN -/

/-- How many events of this kind there are. -/
def countKind (kind : SessionEvent.Kind) (events : List SessionEvent) : ℕ :=
  events.countP fun event => event.kind = kind

theorem countKind_append (kind : SessionEvent.Kind) (xs ys : List SessionEvent) :
    countKind kind (xs ++ ys) = countKind kind xs + countKind kind ys :=
  List.countP_append

theorem countKind_decisionEvents (packet : PacketView) (decision : ConnectionDecision) :
    countKind .connected (decisionEvents packet decision) =
        (decision.valid && decision.emitConnected).toNat ∧
      countKind .connectionClosed (decisionEvents packet decision) =
        (decision.valid && decision.emitConnectionClosed).toNat := by
  rw [decisionEvents]
  cases decision.valid with
  | false =>
    simp only [Bool.not_false, if_true, Bool.false_and, Bool.toNat_false]
    split_ifs <;> simp [countKind, controlEvent]
  | true =>
    cases decision.emitConnected <;> cases decision.emitConnectionClosed <;>
      cases decision.emitConnectionReset <;> simp [countKind, controlEvent]

/-- The state machine reports a close for every FIN. -/
theorem emitConnectionClosed_iff (role : SessionRole) (state : ConnectionState)
    (kind : ControlKind) : ((decideConnectionTransition role state kind).valid &&
      (decideConnectionTransition role state kind).emitConnectionClosed) = true ↔ kind = .fin := by
  cases role <;> cases state <;> cases kind <;> decide

/-- What a packet adds to the count: what its acknowledgement and its decision report. -/
theorem countKind_processed {transport : TransportSettings} {bytes : Bytes} {nowMs : U64}
    {s : SessionState} {packet : PacketView} {kind : SessionEvent.Kind}
    (hkind : kind ≠ .dataReceived) (hdecode : decode bytes = some packet)
    (hmatch : hasConnIdMismatch s (classifyControlKind packet.header) packet.header = false)
    (hfirst : isDuplicateClientSynAck s (classifyControlKind packet.header) = false) :
    countKind kind (onDatagramReceived transport bytes nowMs s).rx.pendingEvents =
      countKind kind s.rx.pendingEvents +
        countKind kind (controlEvents s.role s.connectionState (acksFin s packet) packet) := by
  obtain ⟨data, hdata, hkinds⟩ := onPacket_reports packet nowMs (classifyControlKind packet.header)
    (s.rx.report (controlEvents s.role s.connectionState (acksFin s packet) packet))
  have hnone : countKind kind data = 0 := by
    rw [countKind, List.countP_eq_zero]
    intro event hevent
    rw [hkinds event hevent, decide_eq_true_eq]
    exact fun heq => hkind heq.symm
  rw [(onDatagramReceived_processed hdecode hmatch hfirst).2, hdata, countKind_append, hnone,
    RxSessionState.report_pendingEvents, countKind_append, Nat.add_zero]

/-- **Exactly when an acknowledged FIN means `Closed`.** When the peer acknowledges the FIN of a
session in `Closing`, the session ends up in `Closed` with one `ConnectionClosed` event if and only
if the datagram is not itself a FIN. -/
theorem fin_acknowledged_iff (transport : TransportSettings) {s : SessionState} {bytes : Bytes}
    {packet : PacketView} {f : U32} {entry : TxEntry} (nowMs : U64)
    (hclosing : s.connectionState = .closing) (hget : s.tx.inflight[f]? = some entry)
    (hfin : entry.packet.header.hasFlag .fin = true) (hdecode : decode bytes = some packet)
    (hconnId : packet.header.connId = s.connId)
    (hsyn : classifyControlKind packet.header ≠ .syn)
    (hrst : classifyControlKind packet.header ≠ .rst)
    (hack : isAcknowledgedByRemote f packet.header.ack packet.header.ackBits = true) :
    let s' := onDatagramReceived transport bytes nowMs s
    (s'.connectionState = .closed ∧
        countKind .connectionClosed s'.rx.pendingEvents =
          countKind .connectionClosed s.rx.pendingEvents + 1) ↔
      classifyControlKind packet.header ≠ .fin := by
  intro s'
  have hmatch : hasConnIdMismatch s (classifyControlKind packet.header) packet.header = false := by
    simp [hasConnIdMismatch, hconnId]
  have hfirst : isDuplicateClientSynAck s (classifyControlKind packet.header) = false := by
    simp [isDuplicateClientSynAck, hclosing]
  have hacks : acksFin s packet = true := by
    simp only [acksFin, Bool.and_eq_true, decide_eq_true_eq, List.any_eq_true, Prod.exists,
      Std.ExtTreeMap.mem_toList_iff_getElem?_eq_some]
    exact ⟨hsyn, f, entry, hget, hack, hfin⟩
  have hstate := (@onDatagramReceived_processed transport bytes nowMs s packet hdecode hmatch
    hfirst).1
  have hcount := @countKind_processed transport bytes nowMs s packet .connectionClosed (by decide)
    hdecode hmatch hfirst
  -- The FIN rule has closed the session when the state machine decides.
  have hclosed : stateAfterAck s.connectionState true = .closed := by
    simp [stateAfterAck, hclosing]
  rw [hacks, hclosed] at hstate
  rw [hacks, controlEvents, hclosed, countKind_append, (countKind_decisionEvents _ _).2, hclosing,
    if_pos ⟨rfl, rfl⟩] at hcount
  by_cases hpeer : classifyControlKind packet.header = .fin
  · refine iff_of_false (fun hboth => ?_) (not_not.2 hpeer)
    have hnext : s'.connectionState = .closing := by
      rw [hstate, hpeer]
      rfl
    rw [hboth.1] at hnext
    cases hnext
  · refine iff_of_true ⟨?_, ?_⟩ hpeer
    · refine hstate.trans ?_
      generalize classifyControlKind packet.header = kind at hsyn hrst hpeer
      cases kind <;> first | contradiction | (cases s.role <;> rfl)
    · have hquiet : ((decideConnectionTransition s.role .closed
          (classifyControlKind packet.header)).valid && (decideConnectionTransition s.role .closed
            (classifyControlKind packet.header)).emitConnectionClosed) = false := by
        rw [Bool.eq_false_iff, ne_eq, emitConnectionClosed_iff]
        exact hpeer
      rw [hquiet] at hcount
      simpa [countKind, controlEvent] using hcount

/-- A server session that has asked to close and has sent its FIN, as 101. -/
def closingServer : SessionState :=
  Run.run (fun s op => (LifeOp.apply {} s op).2) (Session.init .server 100)
    (.assignConnId 7 ::
      (serverHandshake ++ [SessionOp.requestClose, SessionOp.pollTx 0]).map .call)

/-- The ACK of the FIN closes it. -/
theorem fin_acknowledged_by_ack :
    let s' := onDatagramReceived {} (controlDatagram 7 Flag.ack.toFlags 0 102 0) 0 closingServer
    s'.connectionState = .closed ∧
      countKind .connectionClosed s'.rx.pendingEvents =
        countKind .connectionClosed closingServer.rx.pendingEvents + 1 := by
  obtain ⟨entry, hget, hfin⟩ := finInFlight_iff.1
    (by decide +kernel : closingServer.tx.finInFlight 101 = true)
  exact (fin_acknowledged_iff {} 0 (by decide +kernel) hget hfin (decode_encode (by decide) [])
    (by decide +kernel) (by decide) (by decide) (by decide)).2 (by decide)

/-- The peer's own FIN, with the same acknowledgement, does not: the session is in `Closing` again,
and has reported the close twice. -/
theorem fin_acknowledged_by_fin :
    let s' := onDatagramReceived {} (controlDatagram 7 Flag.fin.toFlags 501 102 0) 0 closingServer
    (closingServer.connectionState = .closing ∧ closingServer.tx.finInFlight 101 = true ∧
      isAcknowledgedByRemote 101 102 0 = true ∧ closingServer.connId = 7) ∧
    s'.connectionState = .closing ∧
      countKind .connectionClosed closingServer.rx.pendingEvents = 0 ∧
      countKind .connectionClosed s'.rx.pendingEvents = 2 := by
  decide +kernel

/-! ## A rejected packet -/

/-- The packet is counted, the time is noted, and one error is reported. -/
def RejectedCleanly (packet : PacketView) (size : ℕ) (nowMs : U64) (s s' : SessionState) : Prop :=
  ∃ message, s' = { recordReceivedStats (classifyControlKind packet.header) size nowMs s with
    rx := s.rx.report [controlEvent .error packet message] }

/-- The acknowledgement tells the session nothing: it repeats the last one, names nothing that is in
flight, and is no evidence of a gap. -/
structure AckTellsNothing (header : Header) (tx : TxSessionState) : Prop where
  ack : header.ack = tx.remoteAck
  ackBits : header.ackBits = tx.remoteAckBits
  outstanding : ∀ (k : U32) (entry : TxEntry), tx.inflight[k]? = some entry →
    ¬ PeerHas header.ack header.ackBits k
  noGap : ∀ (k : U32) (entry : TxEntry), tx.inflight[k]? = some entry →
    ∀ h, HighestBit header.ackBits h → h < (k - header.ack).toNat

/-- A rejected packet finds nothing to change: its acknowledgement tells nothing, unless it is a SYN;
its number is out of the window's reach, if the window looks at it; and on a reliable channel an ACK
is waiting already. -/
structure LeavesNoMark (s : SessionState) (packet : PacketView) : Prop where
  ack : classifyControlKind packet.header ≠ .syn → AckTellsNothing packet.header s.tx
  window : touchesWindow packet.header (classifyControlKind packet.header) = true →
    WindowKept packet.header.seq s.rx
  ackOnly : isReliableChannel packet.header.channelType = true → s.tx.ackOnlyPending = true

theorem addEvidence_ne (threshold : U32) (entry : TxEntry) : entry.addEvidence threshold ≠ entry := by
  intro h
  have hcount := congrArg TxEntry.gapEvidenceCount h
  simp [TxEntry.addEvidence] at hcount

section Rejected

variable {transport : TransportSettings} {nowMs : U64} {s : SessionState} {packet : PacketView}

/-- **When an acknowledgement changes nothing.** -/
theorem onRemoteAck_eq_self_iff {header : Header} {tx : TxSessionState} :
    (onRemoteAck transport header.ack header.ackBits tx).2 = tx ↔ AckTellsNothing header tx := by
  have hstate := (onRemoteAck_acknowledges transport header.ack header.ackBits tx).state
  have hget := onRemoteAck_getElem? transport header.ack header.ackBits tx
  generalize onRemoteAck transport header.ack header.ackBits tx = applied at hstate hget ⊢
  obtain ⟨result, tx'⟩ := applied
  simp only at hstate hget ⊢
  constructor
  · rintro rfl
    refine ⟨?_, ?_, fun k entry hentry hhas => ?_, fun k entry hentry h hbit => ?_⟩
    · have hack := congrArg TxSessionState.remoteAck hstate
      exact hack.symm
    · have hbits := congrArg TxSessionState.remoteAckBits hstate
      exact hbits.symm
    · have hgone := hget k
      rw [if_pos (isAcknowledgedByRemote_iff.2 hhas), hentry] at hgone
      cases hgone
    · by_contra hnear
      obtain rfl := hbit.unique (highestBit_clz hbit.ne_zero)
      have hchanged := hget k
      rw [hentry] at hchanged
      split_ifs at hchanged with hack hmark
      · exact addEvidence_ne _ _ (Option.some.inj hchanged).symm
      · exact hmark ⟨hbit.ne_zero, Nat.not_lt.1 hnear⟩
  · intro h
    have hinflight : tx'.inflight = tx.inflight := by
      refine Std.ExtTreeMap.ext_getElem? fun k => ?_
      rw [hget]
      cases hentry : tx.inflight[k]? with
      | none => split_ifs <;> rfl
      | some entry =>
        rw [if_neg fun hack => h.outstanding k entry hentry (isAcknowledgedByRemote_iff.1 hack),
          if_neg fun hmark => Nat.not_lt.2 hmark.2
            (h.noGap k entry hentry _ (highestBit_clz hmark.1))]
    rw [hstate, h.ack, h.ackBits, hinflight]

theorem applyRemoteAck_eq_self_iff {header : Header} {kind : ControlKind} {tx : TxSessionState} :
    (applyRemoteAck transport header kind tx).2 = tx ↔
      (kind ≠ .syn → AckTellsNothing header tx) := by
  rw [applyRemoteAck, shouldApplyRemoteAck]
  by_cases hsyn : kind = .syn
  · simp [hsyn]
  · simp only [hsyn, ne_eq, not_false_eq_true, decide_true, Bool.not_true, Bool.false_eq_true,
      if_false, true_imp_iff]
    exact onRemoteAck_eq_self_iff

/-- An acknowledgement that tells nothing acknowledges no FIN. -/
theorem AckTellsNothing.acknowledgedFin
    (h : classifyControlKind packet.header ≠ .syn → AckTellsNothing packet.header s.tx) :
    (applyRemoteAck transport packet.header (classifyControlKind packet.header)
      s.tx).1.acknowledgedFin = false := by
  rw [applyRemoteAck_acksFin (.refl s.tx), Bool.eq_false_iff]
  intro hacks
  simp only [acksFin, Bool.and_eq_true, decide_eq_true_eq, List.any_eq_true, Prod.exists,
    Std.ExtTreeMap.mem_toList_iff_getElem?_eq_some] at hacks
  obtain ⟨hsyn, k, entry, hget, hack, -⟩ := hacks
  exact (h hsyn).outstanding k entry hget (isAcknowledgedByRemote_iff.1 hack)

/-- The state machine rejects combinations of flags, and a SYN for an established session. -/
theorem rejected_cases {role : SessionRole} {state : ConnectionState} {kind : ControlKind}
    (h : (decideConnectionTransition role state kind).valid = false) :
    kind = .invalid ∨ kind = .syn ∧ state = .established := by
  cases role <;> cases state <;> cases kind <;> simp_all [decideConnectionTransition]

/-- A rejected packet is rejected whatever its acknowledgement did before. -/
theorem rejected_after_ack {role : SessionRole} {state : ConnectionState} {kind : ControlKind}
    (h : (decideConnectionTransition role state kind).valid = false) (acknowledgedFin : Bool) :
    ∃ message, message ≠ "" ∧
      decideConnectionTransition role (stateAfterAck state acknowledgedFin) kind =
        makeInvalidDecision message := by
  rcases rejected_cases h with rfl | ⟨rfl, rfl⟩
  · exact ⟨"invalid control-flag combination", by decide, rfl⟩
  · refine ⟨"unexpected SYN in Established state", by decide, ?_⟩
    have hopen : stateAfterAck .established acknowledgedFin = .established := by
      simp [stateAfterAck]
    rw [hopen]
    cases role <;> rfl

theorem windowed_report (packet : PacketView) (kind : ControlKind) (rx : RxSessionState)
    (events : List SessionEvent) :
    windowed packet kind (rx.report events) = (windowed packet kind rx).report events := by
  rw [windowed, windowed]
  cases htouch : touchesWindow packet.header kind with
  | false => rw [update_of_not_touches htouch, update_of_not_touches htouch]
  | true =>
    rw [update_eq_slot htouch, update_eq_slot htouch]
    rfl

/-- The receive handler asks for an ACK for what came on a reliable channel. -/
theorem onPacket_of_rejected {kind : ControlKind} (hnone : kind ≠ .none) (hfin : kind ≠ .fin)
    (nowMs : U64) (rx : RxSessionState) : onPacket packet nowMs kind rx =
      ({ scheduleAckOnly := isReliableChannel packet.header.channelType },
        windowed packet kind rx) := by
  refine Prod.ext ?_ ?_
  · simp only [onPacket, isControlOnly, hnone, ne_eq, not_false_eq_true, decide_true, Bool.true_or,
      if_true]
    simp only [updateReliableReceiveState, hfin, decide_false, Bool.or_false]
    cases htouch : touchesWindow packet.header kind with
    | false =>
      have hchannel : isReliableChannel packet.header.channelType = false := by
        rw [touchesWindow] at htouch
        simp only [Bool.or_eq_false_iff] at htouch
        exact htouch.1.1.1.1
      rw [hchannel]
      rfl
    | true =>
      simp only [Bool.not_true, Bool.false_eq_true, if_false]
      split_ifs <;> rfl
  · rw [onPacket_eq, if_neg fun h => hnone h.1]

/-- **What a rejected packet does**, in full. -/
theorem afterChecks_of_rejected {t : SessionState} (hrole : t.role = s.role)
    (hstate : t.connectionState = s.connectionState) (htx : t.tx = s.tx) (hrx : t.rx = s.rx)
    (h : (decideConnectionTransition s.role s.connectionState
      (classifyControlKind packet.header)).valid = false) :
    ∃ message, afterChecks transport packet nowMs t =
      let applied := applyRemoteAck transport packet.header (classifyControlKind packet.header) s.tx
      let closes : Bool := applied.1.acknowledgedFin && s.connectionState = .closing
      { t with
        connectionState := if closes then .closed else s.connectionState
        tx := if isReliableChannel packet.header.channelType then
            { applied.2 with ackOnlyPending := true }
          else applied.2
        rx := (windowed packet (classifyControlKind packet.header) s.rx).report
          ((if closes then [controlEvent .connectionClosed packet ""] else []) ++
            [controlEvent .error packet message]) } := by
  have hkind : classifyControlKind packet.header ≠ .none ∧
      classifyControlKind packet.header ≠ .fin := by
    rcases rejected_cases h with hkind | ⟨hkind, -⟩ <;> rw [hkind] <;> decide
  rw [afterChecks, htx]
  generalize applyRemoteAck transport packet.header (classifyControlKind packet.header) s.tx =
    applied
  obtain ⟨result, tx'⟩ := applied
  obtain ⟨message, hmessage, hdecision⟩ := rejected_after_ack h result.acknowledgedFin
  refine ⟨message, ?_⟩
  -- The session that the state machine finds.
  have hclosed : (if shouldCloseAfterFinAcknowledgement { t with tx := tx' } result then
      closeAfterFinAcknowledgement packet { t with tx := tx' } else { t with tx := tx' }) =
      { t with
        connectionState := stateAfterAck s.connectionState result.acknowledgedFin
        tx := tx'
        rx := s.rx.report (if result.acknowledgedFin && s.connectionState = .closing then
          [controlEvent .connectionClosed packet ""] else []) } := by
    simp only [shouldCloseAfterFinAcknowledgement, stateAfterAck, hstate, Bool.and_eq_true,
      decide_eq_true_eq]
    split_ifs
    · rw [closeAfterFinAcknowledgement, emitControlEvent_eq, hrx]
    · rw [RxSessionState.report_nil, ← hrx, ← hstate]
  rw [← hrole] at hdecision
  simp only [hclosed, hdecision]
  have hreject : ∀ x : SessionState, applyConnectionDecision packet (makeInvalidDecision message) x =
      { x with rx := x.rx.report [controlEvent .error packet message] } := by
    intro x
    simp [applyConnectionDecision, makeInvalidDecision, hmessage, emitControlEvent_eq]
  rw [hreject, onPacket_of_rejected hkind.1 hkind.2, RxSessionState.report_report, windowed_report]
  simp only [updatePostReceiveLiveness, scheduleReceiveSideAck, hkind.1, false_and, if_false,
    stateAfterAck]
  cases isReliableChannel packet.header.channelType <;> simp [Bool.and_eq_true]

theorem windowed_eq_self_iff (packet : PacketView) (kind : ControlKind) (rx : RxSessionState) :
    windowed packet kind rx = rx ↔
      (touchesWindow packet.header kind = true → WindowKept packet.header.seq rx) := by
  cases htouch : touchesWindow packet.header kind with
  | false => exact iff_of_true (windowed_of_not_touches htouch) (by simp)
  | true =>
    rw [← windowed_kept_iff htouch]
    constructor
    · intro h _
      rw [h]
      exact ⟨rfl, rfl, rfl, rfl⟩
    · intro h
      have hsame := h rfl
      rw [windowed_frame, hsame.front, hsame.bits]

/-- The flag that asks for an ACK is the session's own. -/
theorem applyRemoteAck_ackOnly (header : Header) (tx : TxSessionState) :
    (applyRemoteAck transport header (classifyControlKind header) tx).2.ackOnlyPending =
      tx.ackOnlyPending := by
  rcases applyRemoteAck_effect transport header tx with ⟨-, hsame, -⟩ | ⟨-, hack⟩
  · rw [hsame]
  · rw [hack.state]

/-- **Exactly when a rejected packet changes nothing but bookkeeping.** A packet that passes the
`conn_id` check and that the state machine rejects is counted and reported, and leaves all else as it
was, if and only if its acknowledgement and its number tell the session nothing. -/
theorem rejected_iff (transport : TransportSettings) {s : SessionState} {bytes : Bytes}
    {packet : PacketView} (nowMs : U64) (hdecode : decode bytes = some packet)
    (hmatch : hasConnIdMismatch s (classifyControlKind packet.header) packet.header = false)
    (hinvalid : (decideConnectionTransition s.role s.connectionState
      (classifyControlKind packet.header)).valid = false) :
    RejectedCleanly packet bytes.length nowMs s (onDatagramReceived transport bytes nowMs s) ↔
      LeavesNoMark s packet := by
  have hkind : classifyControlKind packet.header ≠ .synAck ∧
      classifyControlKind packet.header ≠ .ping ∧ classifyControlKind packet.header ≠ .pong := by
    rcases rejected_cases hinvalid with hkind | ⟨hkind, -⟩ <;> rw [hkind] <;> decide
  have hfirst : isDuplicateClientSynAck s (classifyControlKind packet.header) = false := by
    simp [isDuplicateClientSynAck, hkind.1]
  have hchecked : checked packet bytes.length nowMs s =
      recordReceivedStats (classifyControlKind packet.header) bytes.length nowMs s := by
    simp [checked, shouldAdoptServerConnId, handleProbeReceive, hkind]
  rw [onDatagramReceived_eq hdecode hmatch hfirst, hchecked, RejectedCleanly]
  obtain ⟨message, hdone⟩ := @afterChecks_of_rejected transport nowMs s packet
    (recordReceivedStats (classifyControlKind packet.header) bytes.length nowMs s) rfl rfl rfl rfl
    hinvalid
  have hackOnly := @applyRemoteAck_ackOnly transport packet.header s.tx
  have hself := @applyRemoteAck_eq_self_iff transport packet.header
    (classifyControlKind packet.header) s.tx
  have hfin := @AckTellsNothing.acknowledgedFin transport s packet
  have hwindow := windowed_eq_self_iff packet (classifyControlKind packet.header) s.rx
  rw [hdone]
  generalize applyRemoteAck transport packet.header (classifyControlKind packet.header) s.tx =
    applied at hackOnly hself hfin
  obtain ⟨result, tx'⟩ := applied
  simp only at hackOnly hself hfin ⊢
  constructor
  · rintro ⟨message', heq⟩
    have htx : (if isReliableChannel packet.header.channelType then
        { tx' with ackOnlyPending := true } else tx') = s.tx := congrArg SessionState.tx heq
    have hfront : (windowed packet (classifyControlKind packet.header) s.rx).nextExpected =
        s.rx.nextExpected := congrArg (fun x : SessionState => x.rx.nextExpected) heq
    have hbits : (windowed packet (classifyControlKind packet.header) s.rx).receivedBits =
        s.rx.receivedBits := congrArg (fun x : SessionState => x.rx.receivedBits) heq
    have hasked : isReliableChannel packet.header.channelType = true →
        s.tx.ackOnlyPending = true := by
      intro hchannel
      rw [if_pos hchannel] at htx
      rw [← htx]
    refine ⟨hself.1 ?_, hwindow.1 (by rw [windowed_frame, hfront, hbits]), hasked⟩
    cases hchannel : isReliableChannel packet.header.channelType with
    | false =>
      rw [hchannel] at htx
      exact htx
    | true =>
      rw [if_pos hchannel] at htx
      rw [← htx, ← hackOnly.trans (hasked hchannel)]
  · intro h
    refine ⟨message, ?_⟩
    have htx : tx' = s.tx := hself.2 h.ack
    rw [hfin h.ack, hwindow.2 h.window, htx]
    cases hchannel : isReliableChannel packet.header.channelType with
    | false => rfl
    | true =>
      have hsame : { s.tx with ackOnlyPending := true } = s.tx := by rw [← h.ackOnly hchannel]
      simp only [if_true, hsame]
      rfl

end Rejected

/-- An established server session, with a packet in flight as 101. -/
def sendingServer : SessionState :=
  Run.run (fun s op => (LifeOp.apply {} s op).2) (Session.init .server 100)
    (.assignConnId 7 :: (serverHandshake ++
      [SessionOp.queueSend 1 .reliableOrdered [0x01], SessionOp.pollTx 0]).map .call)

/-- An established server session with nothing in flight. -/
def idleServer : SessionState :=
  Run.run (fun s op => (LifeOp.apply {} s op).2) (Session.init .server 100)
    (.assignConnId 7 :: serverHandshake.map .call)

/-- A FIN that is also a RST. -/
def finRst (ack : U32) : PacketView :=
  { header :=
      { connId := 7, channelType := .unreliable, flags := Flag.fin.toFlags ||| Flag.rst.toFlags, ack }
    payload := [] }

/-- With an acknowledgement that the session has had already, it only counts. -/
theorem rejected_cleanly :
    RejectedCleanly (finRst 101) (encode (finRst 101).header []).length 5 idleServer
      (onDatagramReceived {} (encode (finRst 101).header []) 5 idleServer) := by
  have hempty : idleServer.tx.inflight = ∅ := Std.ExtTreeMap.isEmpty_iff.1 (by decide +kernel)
  have hdecode : decode (encode (finRst 101).header []) = some (finRst 101) :=
    decode_encode (by decide) []
  refine (rejected_iff {} 5 hdecode (by decide +kernel) (by decide +kernel)).2
    ⟨fun _ => ⟨by decide +kernel, by decide +kernel, ?_, ?_⟩, ?_, ?_⟩
  · intro k entry hget
    rw [hempty] at hget
    simp at hget
  · intro k entry hget
    rw [hempty] at hget
    simp at hget
  · intro htouch
    exact absurd htouch (by decide)
  · intro hchannel
    exact absurd hchannel (by decide)

/-- With an acknowledgement of 102, it takes packet 101 out of flight, and the FIN 101 closes the
session; and a SYN at the front moves the window. -/
theorem rejected_with_effect :
    let datagram := encode (finRst 102).header []
    let syn := controlDatagram 7 Flag.syn.toFlags 501 101 0
    (sendingServer.connectionState = .established ∧ sendingServer.tx.inflight.size = 1 ∧
      sendingServer.rx.nextExpected = 501 ∧ closingServer.connectionState = .closing) ∧
    (∀ s ∈ [sendingServer, closingServer],
      hasConnIdMismatch s .invalid (finRst 102).header = false ∧
      (decideConnectionTransition s.role s.connectionState .invalid).valid = false) ∧
    (decideConnectionTransition sendingServer.role sendingServer.connectionState .syn).valid = false ∧
    (onDatagramReceived {} datagram 5 sendingServer).tx.inflight.size = 0 ∧
    (onDatagramReceived {} datagram 5 closingServer).connectionState = .closed ∧
    (onDatagramReceived {} syn 5 sendingServer).rx.nextExpected = 502 ∧
    ((onDatagramReceived {} datagram 5 sendingServer).rx.pendingEvents.map SessionEvent.kind =
        [.connected, .error] ∧
      (onDatagramReceived {} datagram 5 closingServer).rx.pendingEvents.map SessionEvent.kind =
        [.connected, .connectionClosed, .error] ∧
      (onDatagramReceived {} syn 5 sendingServer).rx.pendingEvents.map SessionEvent.kind =
        [.connected, .error]) := by
  decide +kernel

end Rudp
