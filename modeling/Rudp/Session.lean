import Rudp.Sender
import Rudp.RxOrdered

/-!
# Sessions

`src/Session.cpp`: one connection. A session owns a transmit and a receive state, decides what to
schedule before it polls, and takes a datagram through connection checks, probes, acknowledgement,
the state machine and the receive handler, in this order.
-/

namespace Rudp

namespace Session

/-! ## Events -/

def emitLocalError (errorMessage : String) (rx : RxSessionState) : RxSessionState :=
  { rx with
    pendingEvents := rx.pendingEvents ++
      [{ kind := .error, seq := 0, channelId := 0, channelType := .unreliable, payload := []
         errorMessage }] }

def emitControlEvent (kind : SessionEvent.Kind) (packet : PacketView) (errorMessage : String)
    (rx : RxSessionState) : RxSessionState :=
  { rx with
    pendingEvents := rx.pendingEvents ++
      [{ kind, seq := packet.header.seq, channelId := packet.header.channelId
         channelType := packet.header.channelType, payload := [], errorMessage }] }

/-! ## Checks on a datagram -/

def shouldAdoptServerConnId (state : SessionState) (controlKind : ControlKind)
    (header : Header) : Bool :=
  state.role = .client && controlKind = .synAck && state.connId = 0 && header.connId ≠ 0

def allowsServerZeroConnIdBootstrap (state : SessionState) (header : Header) : Bool :=
  state.role = .server && state.connectionState = .closed && header.connId = 0

def hasConnIdMismatch (state : SessionState) (controlKind : ControlKind) (header : Header) :
    Bool :=
  state.connId ≠ 0 && controlKind ≠ .syn && !allowsServerZeroConnIdBootstrap state header &&
    header.connId ≠ state.connId

def isDuplicateClientSynAck (state : SessionState) (controlKind : ControlKind) : Bool :=
  state.role = .client && state.connectionState = .established && controlKind = .synAck

def adoptServerConnId (header : Header) (state : SessionState) : SessionState :=
  { state with connId := header.connId }

def resetForConnIdMismatch (state : SessionState) : SessionState :=
  { state with
    connectionState := .reset
    rx := emitLocalError "conn_id mismatch" state.rx }

def scheduleFinalAckDuringLinger (nowMs : U64) (state : SessionState) : SessionState :=
  if nowMs ≤ state.tx.finalAckLingerUntilMs then
    { state with tx := { state.tx with finalAckPending := true } }
  else state

/-! ## Acknowledgement and closing -/

def shouldApplyRemoteAck (controlKind : ControlKind) : Bool := controlKind ≠ .syn

def applyRemoteAck (transport : TransportSettings) (header : Header) (controlKind : ControlKind)
    (tx : TxSessionState) : TxAckResult × TxSessionState :=
  if !shouldApplyRemoteAck controlKind then ({}, tx)
  else TxHandler.onRemoteAck transport header.ack header.ackBits tx

def shouldCloseAfterFinAcknowledgement (state : SessionState) (ackResult : TxAckResult) : Bool :=
  ackResult.acknowledgedFin && state.connectionState = .closing

def closeAfterFinAcknowledgement (packet : PacketView) (state : SessionState) : SessionState :=
  { state with
    connectionState := .closed
    rx := emitControlEvent .connectionClosed packet "" state.rx }

def emitConnectionDecisionEvents (packet : PacketView) (decision : ConnectionDecision)
    (rx : RxSessionState) : RxSessionState :=
  let rx := if decision.emitConnected then emitControlEvent .connected packet "" rx else rx
  let rx := if decision.emitConnectionClosed then emitControlEvent .connectionClosed packet "" rx
    else rx
  if decision.emitConnectionReset then emitControlEvent .connectionReset packet "" rx else rx

/-! ## Scheduling before a poll -/

def shouldScheduleProbe (transport : TransportSettings) (state : SessionState) (nowMs : U64) :
    Bool :=
  if state.role ≠ .client ∨ state.connectionState ≠ .established ∨
      state.tx.probe.pingOutstanding ∨ state.tx.probe.pingPending ∨
      state.tx.probe.pongPending then false
  else
    let probeBaseline := if state.tx.probe.lastSentMs ≠ 0 then state.tx.probe.lastSentMs
      else state.establishedSinceMs
    nowMs ≥ probeBaseline + transport.keepaliveIdleMs

def shouldScheduleActivityAck (transport : TransportSettings) (state : SessionState)
    (nowMs : U64) : Bool :=
  if !transport.enableActivityAckOnly then false
  else if state.connectionState ≠ .established ∨ !state.tx.activityAckPending ∨
      state.tx.ackOnlyPending ∨ state.tx.probe.pingPending ∨ state.tx.probe.pongPending then false
  else nowMs ≥ state.lastTxMs + transport.keepaliveIdleMs

def shouldScheduleReliableAck (state : SessionState) (nowMs : U64) : Bool :=
  if state.connectionState ≠ .established ∨ !state.tx.reliableAckPending ∨
      state.tx.ackOnlyPending ∨ state.tx.probe.pingPending ∨ state.tx.probe.pongPending then false
  else nowMs ≥ state.tx.reliableAckDueMs

def shouldTimeoutIdleSession (transport : TransportSettings) (state : SessionState)
    (nowMs : U64) : Bool :=
  if state.connectionState ≠ .established then false
  else nowMs ≥ state.lastRxMs + transport.idleTimeoutMs

def markIdleTimeout (state : SessionState) : SessionState :=
  { state with
    connectionState := .reset
    rx := emitLocalError "idle timeout" state.rx }

def schedulePendingTxWork (transport : TransportSettings) (nowMs : U64) (state : SessionState) :
    SessionState :=
  if shouldScheduleReliableAck state nowMs then
    { state with tx := { state.tx with ackOnlyPending := true, reliableAckPending := false } }
  else if shouldScheduleActivityAck transport state nowMs then
    { state with tx := { state.tx with ackOnlyPending := true } }
  else if shouldScheduleProbe transport state nowMs then
    { state with tx := { state.tx with probe := { state.tx.probe with pingPending := true } } }
  else state

/-! ## Bookkeeping -/

def recordReceivedStats (controlKind : ControlKind) (datagramSize : ℕ) (nowMs : U64)
    (state : SessionState) : SessionState :=
  let stats := state.stats
  let stats := { stats with
    packetsReceived := stats.packetsReceived + 1
    bytesReceived := stats.bytesReceived + BitVec.ofNat 64 datagramSize }
  let stats := if controlKind ≠ .none then
      { stats with controlPacketsReceived := stats.controlPacketsReceived + 1 }
    else { stats with dataPacketsReceived := stats.dataPacketsReceived + 1 }
  let stats := if controlKind = .ping then { stats with pingsReceived := stats.pingsReceived + 1 }
    else if controlKind = .pong then { stats with pongsReceived := stats.pongsReceived + 1 }
    else stats
  { state with lastRxMs := nowMs, stats }

def recordOutboundStats (packet : PacketView) (datagramSize : ℕ) (nowMs : U64)
    (isRetransmission : Bool) (state : SessionState) : SessionState :=
  let controlKind := classifyControlKind packet.header
  let stats := state.stats
  let stats := { stats with
    packetsSent := stats.packetsSent + 1
    bytesSent := stats.bytesSent + BitVec.ofNat 64 datagramSize }
  let stats := if controlKind ≠ .none then
      { stats with controlPacketsSent := stats.controlPacketsSent + 1 }
    else { stats with dataPacketsSent := stats.dataPacketsSent + 1 }
  let stats := if controlKind = .ping then { stats with pingsSent := stats.pingsSent + 1 }
    else if controlKind = .pong then { stats with pongsSent := stats.pongsSent + 1 }
    else stats
  let stats := if isRetransmission then
      { stats with retransmissionsSent := stats.retransmissionsSent + 1 }
    else stats
  { state with lastTxMs := nowMs, stats }

def updateOutboundProbeState (controlKind : ControlKind) (nowMs : U64) (state : SessionState) :
    SessionState :=
  if controlKind ≠ .ping then state
  else
    { state with
      tx := { state.tx with
        probe := { state.tx.probe with
          pingOutstanding := true, lastSentMs := nowMs, lastPingSentMs := nowMs } } }

def clearOutboundAckState (controlKind : ControlKind) (state : SessionState) : SessionState :=
  let tx := { state.tx with activityAckPending := false }
  let tx := if controlKind = .ack then { tx with reliableAckPending := false } else tx
  { state with tx }

def applyOutboundResult (datagram : Bytes) (nowMs : U64) (isRetransmission : Bool)
    (state : SessionState) : SessionState :=
  match decode datagram with
  | none => state
  | some decoded =>
    let controlKind := classifyControlKind decoded.header
    let state := updateOutboundProbeState controlKind nowMs state
    let state := recordOutboundStats decoded datagram.length nowMs isRetransmission state
    clearOutboundAckState controlKind state

def handleProbeReceive (controlKind : ControlKind) (nowMs : U64) (state : SessionState) :
    SessionState :=
  if controlKind = .ping ∧ state.connectionState = .established then
    { state with tx := { state.tx with probe := { state.tx.probe with pongPending := true } } }
  else if controlKind = .pong ∧ state.tx.probe.pingOutstanding then
    let rttMs := nowMs - state.tx.probe.lastPingSentMs
    let stats := state.stats
    let minRttMs := match stats.minRttMs with
      | none => rttMs
      | some current => if rttMs < current then rttMs else current
    let maxRttMs := match stats.maxRttMs with
      | none => rttMs
      | some current => if rttMs > current then rttMs else current
    { state with
      tx := { state.tx with probe := { state.tx.probe with pingOutstanding := false } }
      stats := { stats with
        latestRttMs := some rttMs
        rttSampleCount := stats.rttSampleCount + 1
        rttSumMs := stats.rttSumMs + rttMs
        minRttMs := some minRttMs
        maxRttMs := some maxRttMs } }
  else state

def updatePostReceiveLiveness (controlKind : ControlKind) (state : SessionState) : SessionState :=
  if controlKind = .none ∧ state.connectionState = .established then
    { state with tx := { state.tx with activityAckPending := true } }
  else state

def scheduleReceiveSideAck (transport : TransportSettings) (packet : PacketView)
    (controlKind : ControlKind) (rxResult : RxPacketResult) (nowMs : U64) (state : SessionState) :
    SessionState :=
  if !rxResult.scheduleAckOnly then state
  else if controlKind = .none ∧ isReliableChannel packet.header.channelType then
    { state with
      tx := { state.tx with
        reliableAckPending := true
        reliableAckDueMs := nowMs + transport.reliableAckDelayMs } }
  else { state with tx := { state.tx with ackOnlyPending := true } }

/-! ## Operations -/

/-- The constructor. -/
def init (role : SessionRole) (initialSeq : U32) : SessionState :=
  { role, tx := { nextSeq := initialSeq, remoteAck := initialSeq } }

def assignConnId (connId : U32) (state : SessionState) : SessionState := { state with connId }

def queueSend (channelId : U32) (channelType : ChannelType) (payload : Bytes)
    (state : SessionState) : SessionState :=
  { state with tx := TxHandler.queueAppData channelId channelType payload state.tx }

def pollTx (transport : TransportSettings) (nowMs : U64) (state : SessionState) :
    Option Bytes × SessionState :=
  if shouldTimeoutIdleSession transport state nowMs then (none, markIdleTimeout state)
  else
    let state := schedulePendingTxWork transport nowMs state
    let (result, connectionState, tx) := TxHandler.poll transport nowMs state.role state.connId
      state.connectionState state.rx state.tx
    let state := { state with connectionState, tx }
    if result.fatalError then
      (none, { state with
        connectionState := .reset
        rx := emitLocalError result.errorMessage state.rx })
    else
      match result.datagram with
      | none => (none, state)
      | some datagram =>
        (some datagram, applyOutboundResult datagram nowMs result.retransmission state)

def applyConnectionDecision (packet : PacketView) (decision : ConnectionDecision)
    (state : SessionState) : SessionState :=
  if !decision.valid then
    if decision.errorMessage ≠ "" then
      { state with rx := emitControlEvent .error packet decision.errorMessage state.rx }
    else state
  else
    let previousState : ConnectionState := state.connectionState
    let state : SessionState := match decision.nextState with
      | none => state
      | some next =>
        { state with
          connectionState := next
          establishedSinceMs := if previousState ≠ .established ∧ next = .established then
              state.lastRxMs
            else state.establishedSinceMs }
    let tx := state.tx
    let tx := if decision.scheduleSynAck then { tx with synAckPending := true } else tx
    let tx := if decision.scheduleFinalAck then { tx with finalAckPending := true } else tx
    let tx := if decision.scheduleAckOnly then { tx with ackOnlyPending := true } else tx
    { state with tx, rx := emitConnectionDecisionEvents packet decision state.rx }

def onDatagramReceived (transport : TransportSettings) (bytes : Bytes) (nowMs : U64)
    (state : SessionState) : SessionState :=
  match decode bytes with
  | none => state
  | some decoded =>
    let controlKind := classifyControlKind decoded.header
    let state := recordReceivedStats controlKind bytes.length nowMs state
    let state := if shouldAdoptServerConnId state controlKind decoded.header then
        adoptServerConnId decoded.header state
      else state
    if hasConnIdMismatch state controlKind decoded.header then resetForConnIdMismatch state
    else if isDuplicateClientSynAck state controlKind then
      scheduleFinalAckDuringLinger nowMs state
    else
      let state := handleProbeReceive controlKind nowMs state
      let (ackResult, tx) := applyRemoteAck transport decoded.header controlKind state.tx
      let state := { state with tx }
      let state := if shouldCloseAfterFinAcknowledgement state ackResult then
          closeAfterFinAcknowledgement decoded state
        else state
      let decision := decideConnectionTransition state.role state.connectionState controlKind
      let state := applyConnectionDecision decoded decision state
      let (rxResult, rx) := RxHandler.onPacket decoded nowMs controlKind state.rx
      let state := { state with rx }
      let state := updatePostReceiveLiveness controlKind state
      scheduleReceiveSideAck transport decoded controlKind rxResult nowMs state

def requestClose (state : SessionState) : SessionState :=
  if state.connectionState = .established then
    { state with connectionState := .closing, tx := { state.tx with finPending := true } }
  else state

def drainEvents (state : SessionState) : List SessionEvent × SessionState :=
  let (events, rx) := RxHandler.drainEvents state.rx
  (events, { state with rx })

end Session

end Rudp
