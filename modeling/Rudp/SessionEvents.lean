import Rudp.SessionStep
import Rudp.RxShift

/-!
# What a session reports

`SessionStep` says what a step does to the transmit state. This module says what it does to the
receive state, and so which events the application gets to see: a poll adds at most one error, and
a datagram adds what the state machine has to say about it and then what the receive handler
delivers.
-/

namespace Rudp

open TxHandler Session RxHandler

/-! ## Events of the state machine -/

/-- The event that `emit_control_event` appends. -/
def controlEvent (kind : SessionEvent.Kind) (packet : PacketView) (errorMessage : String) :
    SessionEvent :=
  { kind, seq := packet.header.seq, channelId := packet.header.channelId
    channelType := packet.header.channelType, payload := [], errorMessage }

/-- The event that `emit_local_error` appends. -/
def localError (errorMessage : String) : SessionEvent :=
  { kind := .error, seq := 0, channelId := 0, channelType := .unreliable, payload := [], errorMessage }

/-- Append events. -/
def RxSessionState.report (rx : RxSessionState) (events : List SessionEvent) : RxSessionState :=
  { rx with pendingEvents := rx.pendingEvents ++ events }

@[simp] theorem RxSessionState.report_nil (rx : RxSessionState) : rx.report [] = rx := by
  simp [RxSessionState.report]

@[simp] theorem RxSessionState.report_report (rx : RxSessionState) (xs ys : List SessionEvent) :
    (rx.report xs).report ys = rx.report (xs ++ ys) := by
  simp [RxSessionState.report]

@[simp] theorem RxSessionState.report_pendingEvents (rx : RxSessionState)
    (events : List SessionEvent) :
    (rx.report events).pendingEvents = rx.pendingEvents ++ events := rfl

theorem emitControlEvent_eq (kind : SessionEvent.Kind) (packet : PacketView)
    (errorMessage : String) (rx : RxSessionState) :
    emitControlEvent kind packet errorMessage rx = rx.report [controlEvent kind packet errorMessage] :=
  rfl

/-- What a decision of the state machine reports. -/
def decisionEvents (packet : PacketView) (decision : ConnectionDecision) : List SessionEvent :=
  if !decision.valid then
    if decision.errorMessage ≠ "" then [controlEvent .error packet decision.errorMessage] else []
  else
    (if decision.emitConnected then [controlEvent .connected packet ""] else []) ++
      (if decision.emitConnectionClosed then [controlEvent .connectionClosed packet ""] else []) ++
      (if decision.emitConnectionReset then [controlEvent .connectionReset packet ""] else [])

theorem applyConnectionDecision_rx (packet : PacketView) (decision : ConnectionDecision)
    (s : SessionState) :
    (applyConnectionDecision packet decision s).rx = s.rx.report (decisionEvents packet decision) := by
  rw [applyConnectionDecision, decisionEvents]
  cases decision.valid with
  | false =>
    simp only [Bool.not_false, if_true]
    split_ifs
    · rfl
    · rw [RxSessionState.report_nil]
  | true =>
    simp only [Bool.not_true, Bool.false_eq_true, if_false, emitConnectionDecisionEvents,
      emitControlEvent_eq]
    cases decision.nextState <;> simp only <;> cases decision.emitConnected <;>
      cases decision.emitConnectionClosed <;> cases decision.emitConnectionReset <;> simp

/-! ## Events of the receive handler -/

/-- The packet's version is newer than the last one of its channel. -/
def isNewVersion (packet : PacketView) (rx : RxSessionState) : Bool :=
  match packet.payload with
  | b₀ :: b₁ :: b₂ :: b₃ :: _ =>
    let version : U32 := (b₀.setWidth 32 <<< 24) ||| (b₁.setWidth 32 <<< 16) |||
      (b₂.setWidth 32 <<< 8) ||| b₃.setWidth 32
    match rx.monotonicVersions.lookup packet.header.channelId with
    | some current => !((version - current).toInt ≤ 0)
    | none => true
  | _ => false

/-- Handing an accepted packet to its channel produces an event. -/
def delivers (packet : PacketView) (rx : RxSessionState) : Bool :=
  match packet.header.channelType with
  | .reliableOrdered =>
    !rx.orderedDeliveryStarted || packet.header.seq = rx.nextOrderedDelivery
  | .reliableUnordered | .unreliable => true
  | .monotonicState => isNewVersion packet rx

theorem handleMonotonicState_events (packet : PacketView) (rx : RxSessionState) :
    (handleMonotonicState packet rx).pendingEvents =
      rx.pendingEvents ++ if isNewVersion packet rx then [makeDataEvent packet] else [] := by
  rcases hpayload : packet.payload with _ | ⟨b₀, _ | ⟨b₁, _ | ⟨b₂, _ | ⟨b₃, rest⟩⟩⟩⟩ <;>
    simp only [handleMonotonicState, isNewVersion, hpayload]
  case nil | cons.nil | cons.cons.nil | cons.cons.cons.nil => simp
  cases rx.monotonicVersions.lookup packet.header.channelId with
  | none => simp
  | some current =>
    simp only
    split_ifs <;> simp_all

/-- An ordered packet is delivered at once exactly if it is at the delivery front. -/
theorem handleReliableOrdered_events {rx : RxSessionState} (hrx : BufferSettled rx)
    (packet : PacketView) : ∃ packets : List OwnedPacket,
      (handleReliableOrdered packet rx).pendingEvents =
        rx.pendingEvents ++ packets.map makeDataEvent ∧
      (packets ≠ [] ↔ (!rx.orderedDeliveryStarted ||
        decide (packet.header.seq = rx.nextOrderedDelivery)) = true) := by
  have hfront := bufferOrdered_front packet rx
  by_cases hhold : rx.orderedDeliveryStarted = true ∧ packet.header.seq ≠ rx.nextOrderedDelivery
  · obtain ⟨hstarted, hne⟩ := hhold
    rw [if_pos hstarted] at hfront
    have hdrained := @handleReliableOrdered_of_hold packet rx (by rw [hfront]; exact hne)
      (by rw [hfront]; exact hrx.front)
    exact ⟨[], by rw [hdrained.events, bufferOrdered_events], by simp [hstarted, hne]⟩
  · obtain ⟨packets, hdrained⟩ := handleReliableOrdered_drained packet rx
    have hself : packet.header.seq = (bufferOrdered packet rx).nextOrderedDelivery := by
      rw [hfront]
      split_ifs with hstarted
      · exact not_not.1 fun hne => hhold ⟨hstarted, hne⟩
      · rfl
    refine ⟨packets, by rw [hdrained.events, bufferOrdered_events],
      fun _ => ?_, fun _ hnone => ?_⟩
    · by_cases hstarted : rx.orderedDeliveryStarted = true
      · simp [hstarted, not_not.1 fun hne => hhold ⟨hstarted, hne⟩]
      · simp [hstarted]
    · -- Nothing was taken, so the packet is still where the loop has to stop.
      subst hnone
      have hstored : (bufferOrdered packet rx).orderedReorderBuffer[packet.header.seq]? =
          some packet := by
        rw [bufferOrdered_buffer, if_pos rfl]
      have hstop := hdrained.stop
      rw [hdrained.front, List.length_nil, Serial.ahead_zero, ← hself] at hstop
      rcases hdrained.gone _ _ hstored with hkept | ⟨j, -, hj⟩
      · rw [hstop] at hkept
        cases hkept
      · cases hj

theorem deliverData_events {rx : RxSessionState} (hrx : BufferSettled rx) (packet : PacketView) :
    ∃ events : List SessionEvent,
      (deliverData packet rx).pendingEvents = rx.pendingEvents ++ events ∧
      (∀ event ∈ events, event.kind = .dataReceived) ∧
      (events ≠ [] ↔ delivers packet rx = true) := by
  have hone : ∀ event ∈ [makeDataEvent packet], event.kind = .dataReceived := by
    intro event hevent
    rw [List.mem_singleton.1 hevent]
    rfl
  cases htype : packet.header.channelType <;> simp only [deliverData, delivers, htype]
  case reliableOrdered =>
    obtain ⟨packets, hevents, hiff⟩ := handleReliableOrdered_events hrx packet
    refine ⟨packets.map makeDataEvent, hevents, ?_, ?_⟩
    · intro event hevent
      obtain ⟨p, -, rfl⟩ := List.mem_map.1 hevent
      rfl
    · rw [Ne, List.map_eq_nil_iff, ← Ne, hiff]
  case reliableUnordered | unreliable => exact ⟨[makeDataEvent packet], rfl, hone, by simp⟩
  case monotonicState =>
    refine ⟨_, handleMonotonicState_events packet rx, ?_, ?_⟩
    · split_ifs
      · exact hone
      · simp
    · split_ifs with hnew <;> simp [hnew]

/-- **What a packet delivers.** -/
theorem onPacket_events {rx : RxSessionState} (hrx : BufferSettled rx) (packet : PacketView)
    (nowMs : U64) (kind : ControlKind) : ∃ events : List SessionEvent,
      (onPacket packet nowMs kind rx).2.pendingEvents = rx.pendingEvents ++ events ∧
      (∀ event ∈ events, event.kind = .dataReceived) ∧
      (events ≠ [] ↔ kind = .none ∧ accepts packet kind rx = true ∧ delivers packet rx = true) := by
  have hframe := windowed_frame packet kind rx
  have hpending : (windowed packet kind rx).pendingEvents = rx.pendingEvents := by rw [hframe]
  have hsettled : BufferSettled (windowed packet kind rx) := by
    rw [hframe]
    exact ⟨hrx.unstarted, hrx.front⟩
  have hdelivers : delivers packet (windowed packet kind rx) = delivers packet rx := by
    rw [hframe]
    rfl
  rw [onPacket_eq]
  split_ifs with hdata
  · obtain ⟨events, hevents, hkinds, hiff⟩ := deliverData_events hsettled packet
    refine ⟨events, by rw [hevents, hpending], hkinds, ?_⟩
    rw [hiff, hdelivers]
    exact ⟨fun h => ⟨hdata.1, hdata.2, h⟩, fun h => h.2.2⟩
  · exact ⟨[], by rw [hpending, List.append_nil], by simp, by tauto⟩

/-! ## Polling -/

theorem applyOutboundResult_rx (datagram : Bytes) (nowMs : U64) (isRetransmission : Bool)
    (s : SessionState) : (applyOutboundResult datagram nowMs isRetransmission s).rx = s.rx := by
  rw [applyOutboundResult]
  split
  · rfl
  · simp only [updateOutboundProbeState]
    split_ifs <;> rfl

/-- **What a poll reports**: nothing, or one error, and then the session is reset. -/
theorem pollTx_rx (transport : TransportSettings) (nowMs : U64) (s : SessionState) :
    (pollTx transport nowMs s).2.rx = s.rx ∨
      (pollTx transport nowMs s).1 = none ∧ (pollTx transport nowMs s).2.connectionState = .reset ∧
        ∃ message, (pollTx transport nowMs s).2.rx = s.rx.report [localError message] := by
  rw [pollTx]
  split_ifs
  · exact Or.inr ⟨rfl, rfl, _, rfl⟩
  · have hrx := schedulePendingTxWork_rx transport nowMs s
    simp only
    generalize schedulePendingTxWork transport nowMs s = t at hrx
    rcases poll transport nowMs t.role t.connId t.connectionState t.rx t.tx with
      ⟨result, next, tx'⟩
    simp only
    split_ifs
    · exact Or.inr ⟨rfl, rfl, result.errorMessage, by rw [← hrx]; rfl⟩
    · cases result.datagram with
      | none => exact Or.inl hrx
      | some datagram => exact Or.inl ((applyOutboundResult_rx _ nowMs _ _).trans hrx)

/-! ## Receiving -/

/-- What the state machine reports about a packet, with what the acknowledgement of a FIN adds. -/
def controlEvents (role : SessionRole) (state : ConnectionState) (acknowledgedFin : Bool)
    (packet : PacketView) : List SessionEvent :=
  (if acknowledgedFin ∧ state = .closing then [controlEvent .connectionClosed packet ""] else []) ++
    decisionEvents packet (decideConnectionTransition role (stateAfterAck state acknowledgedFin)
      (classifyControlKind packet.header))

/-- What `on_datagram_received` does to the receive state and to the connection state. -/
inductive ReceiveRx (bytes : Bytes) (nowMs : U64) (s s' : SessionState) : Prop where
  | undecodable (hdecode : decode bytes = none) (hsame : s' = s)
  | duplicate {packet : PacketView} (hdecode : decode bytes = some packet)
      (hmatch : hasConnIdMismatch s (classifyControlKind packet.header) packet.header = false)
      (hduplicate : isDuplicateClientSynAck s (classifyControlKind packet.header) = true)
      (hrx : s'.rx = s.rx) (hstate : s'.connectionState = s.connectionState)
  | mismatch {packet : PacketView} (hdecode : decode bytes = some packet)
      (hmismatch : hasConnIdMismatch s (classifyControlKind packet.header) packet.header = true)
      (hrx : s'.rx = s.rx.report [localError "conn_id mismatch"])
      (hstate : s'.connectionState = .reset)
  | processed {packet : PacketView} (acknowledgedFin : Bool) (hdecode : decode bytes = some packet)
      (hmatch : hasConnIdMismatch s (classifyControlKind packet.header) packet.header = false)
      (hfin : acknowledgedFin = true → ∃ (k : U32) (entry : TxEntry),
        s.tx.inflight[k]? = some entry ∧ entry.packet.header.hasFlag .fin = true)
      (hrx : s'.rx = (onPacket packet nowMs (classifyControlKind packet.header)
        (s.rx.report (controlEvents s.role s.connectionState acknowledgedFin packet))).2)
      (hstate : s'.connectionState =
        (decideConnectionTransition s.role (stateAfterAck s.connectionState acknowledgedFin)
          (classifyControlKind packet.header)).nextState.getD
            (stateAfterAck s.connectionState acknowledgedFin))

theorem handleProbeReceive_rx (kind : ControlKind) (nowMs : U64) (s : SessionState) :
    (handleProbeReceive kind nowMs s).rx = s.rx := by
  rw [handleProbeReceive]
  split_ifs <;> rfl

theorem updatePostReceiveLiveness_rx (kind : ControlKind) (s : SessionState) :
    (updatePostReceiveLiveness kind s).rx = s.rx := by
  rw [updatePostReceiveLiveness]
  split_ifs <;> rfl

theorem scheduleReceiveSideAck_rx (transport : TransportSettings) (packet : PacketView)
    (kind : ControlKind) (rxResult : RxPacketResult) (nowMs : U64) (s : SessionState) :
    (scheduleReceiveSideAck transport packet kind rxResult nowMs s).rx = s.rx := by
  rw [scheduleReceiveSideAck]
  split_ifs <;> rfl

theorem scheduleFinalAckDuringLinger_rx (nowMs : U64) (s : SessionState) :
    (scheduleFinalAckDuringLinger nowMs s).rx = s.rx := by
  rw [scheduleFinalAckDuringLinger]
  split_ifs <;> rfl

/-- From the acknowledgement on: the events of the state machine, and then the receive handler. -/
theorem afterChecks_rx (transport : TransportSettings) (packet : PacketView) (nowMs : U64)
    (t : SessionState) :
    let kind := classifyControlKind packet.header
    let applied := applyRemoteAck transport packet.header kind t.tx
    (afterChecks transport packet nowMs t).rx = (onPacket packet nowMs kind (t.rx.report
      (controlEvents t.role t.connectionState applied.1.acknowledgedFin packet))).2 := by
  intro kind applied
  rw [afterChecks, scheduleReceiveSideAck_rx, updatePostReceiveLiveness_rx]
  generalize hacked : { t with tx := applied.2 } = acked
  generalize hclosing : (if shouldCloseAfterFinAcknowledgement acked applied.1 then
    closeAfterFinAcknowledgement packet acked else acked) = closed
  have hclosed : closed.role = t.role ∧
      closed.connectionState = stateAfterAck t.connectionState applied.1.acknowledgedFin ∧
      closed.rx = t.rx.report (if applied.1.acknowledgedFin ∧ t.connectionState = .closing then
        [controlEvent .connectionClosed packet ""] else []) := by
    subst hacked hclosing
    simp only [stateAfterAck, shouldCloseAfterFinAcknowledgement, Bool.and_eq_true,
      decide_eq_true_eq]
    split_ifs
    · exact ⟨rfl, rfl, rfl⟩
    · exact ⟨rfl, rfl, (RxSessionState.report_nil _).symm⟩
  rw [applyConnectionDecision_rx, hclosed.1, hclosed.2.1, hclosed.2.2,
    RxSessionState.report_report]
  rfl

/-- **What a datagram does to the receive state.** -/
theorem onDatagramReceived_rx (transport : TransportSettings) (bytes : Bytes) (nowMs : U64)
    (s : SessionState) : ReceiveRx bytes nowMs s (onDatagramReceived transport bytes nowMs s) := by
  cases hdecode : decode bytes with
  | none =>
    refine .undecodable hdecode ?_
    rw [onDatagramReceived, hdecode]
  | some packet =>
    have hsame := counted_same packet bytes.length nowMs s
    rw [onDatagramReceived_of_decode hdecode]
    generalize counted packet bytes.length nowMs s = t at hsame ⊢
    simp only
    split_ifs with hmismatch hduplicate
    · refine .mismatch hdecode (hsame.mismatch ▸ hmismatch) ?_ rfl
      rw [← hsame.rx]
      rfl
    · exact .duplicate hdecode (hsame.mismatch ▸ Bool.eq_false_iff.2 hmismatch)
        (hsame.duplicate ▸ hduplicate) ((scheduleFinalAckDuringLinger_rx nowMs t).trans hsame.rx)
        ((scheduleFinalAckDuringLinger_frame nowMs t).state.trans hsame.state)
    · have hprobe := handleProbeReceive_frame (classifyControlKind packet.header) nowMs t
      have hrx := handleProbeReceive_rx (classifyControlKind packet.header) nowMs t
      generalize handleProbeReceive (classifyControlKind packet.header) nowMs t = t'
        at hprobe hrx ⊢
      have hrole : t'.role = s.role := hprobe.role.trans hsame.role
      have hstate : t'.connectionState = s.connectionState := hprobe.state.trans hsame.state
      refine .processed (applyRemoteAck transport packet.header (classifyControlKind packet.header)
        t'.tx).1.acknowledgedFin hdecode (hsame.mismatch ▸ Bool.eq_false_iff.2 hmismatch)
        (fun hfin => ?_) ?_ ?_
      · rcases applyRemoteAck_effect transport packet.header t'.tx with ⟨-, -, hnone⟩ | ⟨-, hack⟩
        · rw [hnone] at hfin
          cases hfin
        · obtain ⟨k, entry, hget, -, hflag⟩ := hack.fin.1 hfin
          rw [hprobe.tx.inflight, hsame.tx.inflight] at hget
          exact ⟨k, entry, hget, hflag⟩
      · rw [← hrole, ← hstate, ← hsame.rx, ← hrx]
        exact afterChecks_rx transport packet nowMs t'
      · rw [← hrole, ← hstate]
        exact (afterChecks_frame transport packet nowMs t').state

end Rudp
