import Rudp.RxHandler

/-!
# The transmit handler

`src/TxHandler.cpp`: queueing, acknowledgement, and `poll`, which tries five builders in turn and
lets the first one with something to send emit a datagram. Every function takes the transmit state
and returns the next one; `poll` also returns the connection state, which the SYN changes.

The retransmission scan walks the in-flight map in key order and stops at the first entry that is
due, so it is a recursion over the map's list of entries.
-/

namespace Rudp

namespace TxHandler

def kInternalProbeChannelId : U32 := 0

def kInternalProbeChannelType : ChannelType := .unreliable

/-! ## Helpers -/

def isAcknowledgedByRemote (seq ack : U32) (ackBits : U64) : Bool :=
  if seqLt seq ack then true
  else if !seqGt seq ack then false
  else
    let distance := seq - ack
    if distance = 0 ∨ distance > kAckBitsWindow then false
    else
      let bitIndex := (distance - 1).toNat
      ackBits &&& (1#64 <<< bitIndex) ≠ 0

def consumesReliableSeq (flags : Flags) : Bool :=
  flags &&& Flag.syn.toFlags ≠ 0 || flags &&& Flag.fin.toFlags ≠ 0

def retransmitTimeoutFor (transport : TransportSettings) (retryCount : U32) : U64 :=
  let clampedRetryCount := min retryCount.toNat 4
  let rto := transport.initialRtoMs <<< clampedRetryCount
  if rto.toNat ≤ transport.maxRtoMs.toNat then rto else transport.maxRtoMs

def makeInternalProbeHeader (connId : U32) (flags : Flags) (rx : RxSessionState) : Header :=
  { connId
    flags
    channelId := kInternalProbeChannelId
    channelType := kInternalProbeChannelType
    ack := rx.nextExpected
    ackBits := rx.receivedBits }

def makePollResult (datagram : Option Bytes) (retransmission : Bool := false) : TxPollResult :=
  { datagram, fatalError := false, retransmission, errorMessage := "" }

/-- One round of `erase_acknowledged_inflight`. -/
def eraseIfAcknowledged (ack : U32) (ackBits : U64) (acc : SeqMap TxEntry × TxAckResult)
    (item : U32 × TxEntry) : SeqMap TxEntry × TxAckResult :=
  if !isAcknowledgedByRemote item.1 ack ackBits then acc
  else
    (acc.1.erase item.1,
      if item.2.packet.header.hasFlag .fin then { acc.2 with acknowledgedFin := true } else acc.2)

def eraseAcknowledgedInflight (ack : U32) (ackBits : U64) (tx : TxSessionState)
    (result : TxAckResult) : TxAckResult × TxSessionState :=
  let acc := tx.inflight.toList.foldl (eraseIfAcknowledged ack ackBits) (tx.inflight, result)
  (acc.2, { tx with inflight := acc.1 })

/-- The body of the loop of `mark_gap_fast_retransmit_candidates`. -/
def markGap (threshold ack : U32) (ackBits : U64) (seq : U32) (inflight : SeqMap TxEntry) :
    SeqMap TxEntry :=
  if isAcknowledgedByRemote seq ack ackBits then inflight
  else
    match inflight[seq]? with
    | none => inflight
    | some entry =>
      let gapEvidenceCount := entry.gapEvidenceCount + 1
      inflight.insert seq
        { entry with
          gapEvidenceCount
          fastRetxPending := entry.fastRetxPending || gapEvidenceCount ≥ threshold }

/-- The loop itself. It visits at most 65 sequence numbers, see `markLoop_ends`. -/
def markLoop (threshold ack : U32) (ackBits : U64) (highestAckedSeq : U32) :
    ℕ → U32 → SeqMap TxEntry → SeqMap TxEntry
  | 0, _, inflight => inflight
  | fuel + 1, seq, inflight =>
    if seqLe seq highestAckedSeq then
      markLoop threshold ack ackBits highestAckedSeq fuel (seq + 1)
        (markGap threshold ack ackBits seq inflight)
    else inflight

def markGapFastRetransmitCandidates (transport : TransportSettings) (ack : U32) (ackBits : U64)
    (tx : TxSessionState) : TxSessionState :=
  if ackBits = 0 then tx
  else
    let highestBit : U32 := 63 - BitVec.ofNat 32 ackBits.clz.toNat
    let highestAckedSeq := ack + highestBit + 1
    let threshold := transport.fastRetxEvidenceThreshold
    { tx with inflight := markLoop threshold ack ackBits highestAckedSeq 65 ack tx.inflight }

def reliableWindowFull (tx : TxSessionState) : Bool :=
  tx.nextSeq - tx.remoteAck ≥ kReliableWindowSize

/-! ## Queueing and acknowledgement -/

def queueAppData (channelId : U32) (channelType : ChannelType) (payload : Bytes)
    (tx : TxSessionState) : TxSessionState :=
  { tx with pendingSend := tx.pendingSend ++ [{ channelId, channelType, payload }] }

def onRemoteAck (transport : TransportSettings) (ack : U32) (ackBits : U64)
    (tx : TxSessionState) : TxAckResult × TxSessionState :=
  let tx := { tx with remoteAck := ack, remoteAckBits := ackBits }
  let (result, tx) := eraseAcknowledgedInflight ack ackBits tx {}
  (result, markGapFastRetransmitCandidates transport ack ackBits tx)

/-! ## Builders -/

/-- A packet that was just sent for the first time. -/
def newEntry (packet : OwnedPacket) (nowMs : U64) : TxEntry :=
  { packet
    firstSendMs := nowMs
    lastSendMs := nowMs
    retryCount := 0
    gapEvidenceCount := 0
    fastRetxPending := false }

def makePacketFromRequest (req : SendRequest) (connId : U32) (rx : RxSessionState)
    (tx : TxSessionState) (assignReliableSeq : Bool) : OwnedPacket × TxSessionState :=
  let header : Header :=
    { connId
      channelId := req.channelId
      channelType := req.channelType
      ack := rx.nextExpected
      ackBits := rx.receivedBits
      seq := if assignReliableSeq then tx.nextSeq else 0 }
  ({ header, payload := req.payload },
    if assignReliableSeq then { tx with nextSeq := tx.nextSeq + 1 } else tx)

def buildControlPacket (nowMs : U64) (connId : U32) (flags : Flags) (rx : RxSessionState)
    (tx : TxSessionState) : Option Bytes × TxSessionState :=
  let assignReliableSeq := consumesReliableSeq flags
  if assignReliableSeq && reliableWindowFull tx then (none, tx)
  else
    let header : Header :=
      { connId
        channelType := .unreliable
        flags
        ack := rx.nextExpected
        ackBits := rx.receivedBits
        seq := if assignReliableSeq then tx.nextSeq else 0 }
    let tx := if assignReliableSeq then { tx with nextSeq := tx.nextSeq + 1 } else tx
    let encoded := encode header []
    if !assignReliableSeq then (some encoded, tx)
    else
      let entry := newEntry { header, payload := [] } nowMs
      (some encoded, { tx with inflight := tx.inflight.insertIfNew header.seq entry })

def tryBuildHandshake (transport : TransportSettings) (nowMs : U64) (role : SessionRole)
    (connId : U32) (connectionState : ConnectionState) (rx : RxSessionState)
    (tx : TxSessionState) : Option Bytes × ConnectionState × TxSessionState :=
  if role = .client ∧ connectionState = .closed then
    let (packet, tx) := buildControlPacket nowMs connId Flag.syn.toFlags rx tx
    (packet, .handshakeSent, tx)
  else if tx.synAckPending ∧ connectionState = .handshakeReceived then
    match buildControlPacket nowMs connId (Flag.syn.toFlags ||| Flag.ack.toFlags) rx tx with
    | (some packet, tx) => (some packet, connectionState, { tx with synAckPending := false })
    | (none, tx) => (none, connectionState, tx)
  else if tx.finalAckPending ∧ connectionState = .established then
    match buildControlPacket nowMs connId Flag.ack.toFlags rx tx with
    | (some packet, tx) =>
      (some packet, connectionState,
        { tx with
          finalAckPending := false
          finalAckLingerUntilMs := nowMs + transport.handshakeLingerMs })
    | (none, tx) => (none, connectionState, tx)
  else if tx.finPending ∧ connectionState = .closing then
    match buildControlPacket nowMs connId Flag.fin.toFlags rx tx with
    | (some packet, tx) => (some packet, connectionState, { tx with finPending := false })
    | (none, tx) => (none, connectionState, tx)
  else (none, connectionState, tx)

/-- The packet of an entry with the current ack fields, as it goes out again. -/
def refresh (rx : RxSessionState) (packet : OwnedPacket) : OwnedPacket :=
  { packet with
    header := { packet.header with ack := rx.nextExpected, ackBits := rx.receivedBits } }

/-- The loop of `try_build_retransmit`, over the entries not looked at yet. -/
def retransmitLoop (transport : TransportSettings) (nowMs : U64) (rx : RxSessionState)
    (tx : TxSessionState) : List (U32 × TxEntry) → TxPollResult × TxSessionState
  | [] => ({}, tx)
  | (seq, entry) :: rest =>
    if entry.retryCount ≥ transport.maxRetransmitCount then
      ({ datagram := none
         fatalError := true
         retransmission := false
         errorMessage := "retransmission retry limit exceeded" },
        { tx with inflight := tx.inflight.erase seq })
    else
      let currentRtoMs := retransmitTimeoutFor transport entry.retryCount
      let timedOut : Bool := nowMs ≥ entry.lastSendMs + currentRtoMs
      if !entry.fastRetxPending && !timedOut then retransmitLoop transport nowMs rx tx rest
      else
        let packet := refresh rx entry.packet
        let encoded := encode packet.header packet.payload
        (makePollResult (some encoded) true,
          { tx with
            inflight := tx.inflight.insert seq
              { entry with
                packet
                lastSendMs := nowMs
                retryCount := entry.retryCount + 1
                gapEvidenceCount := 0
                fastRetxPending := false } })

def tryBuildRetransmit (transport : TransportSettings) (nowMs : U64) (rx : RxSessionState)
    (tx : TxSessionState) : TxPollResult × TxSessionState :=
  retransmitLoop transport nowMs rx tx tx.inflight.toList

def tryBuildAckOnly (connId : U32) (rx : RxSessionState) (tx : TxSessionState) :
    Option Bytes × TxSessionState :=
  if !tx.ackOnlyPending then (none, tx)
  else
    let header : Header :=
      { connId
        flags := Flag.ack.toFlags
        channelType := .unreliable
        ack := rx.nextExpected
        ackBits := rx.receivedBits }
    (some (encode header []), { tx with ackOnlyPending := false })

def tryBuildFresh (nowMs : U64) (connId : U32) (rx : RxSessionState) (tx : TxSessionState) :
    Option Bytes × TxSessionState :=
  match tx.pendingSend with
  | [] => (none, tx)
  | request :: rest =>
    let tx := { tx with pendingSend := rest }
    let assignReliableSeq := isReliableChannel request.channelType
    if assignReliableSeq && reliableWindowFull tx then
      (none, { tx with pendingSend := request :: tx.pendingSend })
    else
      let (packet, tx) := makePacketFromRequest request connId rx tx assignReliableSeq
      let encoded := encode packet.header packet.payload
      if assignReliableSeq then
        let entry := newEntry packet nowMs
        (some encoded, { tx with inflight := tx.inflight.insertIfNew packet.header.seq entry })
      else (some encoded, tx)

def tryBuildProbeLane (connId : U32) (rx : RxSessionState) (tx : TxSessionState) :
    Option Bytes × TxSessionState :=
  if tx.probe.pongPending then
    let header := makeInternalProbeHeader connId Flag.pong.toFlags rx
    (some (encode header []), { tx with probe := { tx.probe with pongPending := false } })
  else if !tx.probe.pingPending then (none, tx)
  else
    let header := makeInternalProbeHeader connId Flag.ping.toFlags rx
    (some (encode header []), { tx with probe := { tx.probe with pingPending := false } })

/-! ## Polling -/

def poll (transport : TransportSettings) (nowMs : U64) (role : SessionRole) (connId : U32)
    (connectionState : ConnectionState) (rx : RxSessionState) (tx : TxSessionState) :
    TxPollResult × ConnectionState × TxSessionState :=
  match tryBuildHandshake transport nowMs role connId connectionState rx tx with
  | (some bytes, connectionState, tx) => (makePollResult (some bytes), connectionState, tx)
  | (none, connectionState, tx) =>
    match tryBuildRetransmit transport nowMs rx tx with
    | (result, tx) =>
      if result.fatalError || result.datagram.isSome then (result, connectionState, tx)
      else
        match tryBuildProbeLane connId rx tx with
        | (some bytes, tx) => (makePollResult (some bytes), connectionState, tx)
        | (none, tx) =>
          match tryBuildAckOnly connId rx tx with
          | (some bytes, tx) => (makePollResult (some bytes), connectionState, tx)
          | (none, tx) =>
            match tryBuildFresh nowMs connId rx tx with
            | (some bytes, tx) => (makePollResult (some bytes), connectionState, tx)
            | (none, tx) => ({}, connectionState, tx)

end TxHandler

end Rudp
