import Rudp.TxPoll

/-!
# The sender

A transmit state driven by its owner: requests are queued, `poll` is called with any arguments,
acknowledgements of any content come in, and the session sets the flags it owns. Beside the state
an observer keeps two logs, the requests that were queued and the datagrams that went out.
-/

namespace Rudp

open Serial TxHandler

/-- The part of the transmit state that the session writes, and the handler only reads and
clears. -/
structure TxFlags where
  synAckPending : Bool := false
  finalAckPending : Bool := false
  finalAckLingerUntilMs : U64 := 0
  finPending : Bool := false
  ackOnlyPending : Bool := false
  reliableAckPending : Bool := false
  reliableAckDueMs : U64 := 0
  activityAckPending : Bool := false
  probe : ProbeTxState := {}

def TxFlags.set (flags : TxFlags) (tx : TxSessionState) : TxSessionState :=
  { tx with
    synAckPending := flags.synAckPending
    finalAckPending := flags.finalAckPending
    finalAckLingerUntilMs := flags.finalAckLingerUntilMs
    finPending := flags.finPending
    ackOnlyPending := flags.ackOnlyPending
    reliableAckPending := flags.reliableAckPending
    reliableAckDueMs := flags.reliableAckDueMs
    activityAckPending := flags.activityAckPending
    probe := flags.probe }

/-- What the owner of a transmit state can do with it. -/
inductive TxOp where
  | queue (channelId : U32) (channelType : ChannelType) (payload : Bytes)
  | poll (nowMs : U64) (role : SessionRole) (connId : U32) (state : ConnectionState)
      (rx : RxSessionState)
  | remoteAck (ack : U32) (ackBits : U64)
  | schedule (flags : TxFlags)

/-- A datagram that `poll` returned, and how `poll` labelled it. -/
structure Emission where
  datagram : Bytes
  retransmission : Bool
  deriving DecidableEq

/-- What a poll result puts on the wire. -/
def TxPollResult.emissions (result : TxPollResult) : List Emission :=
  match result.datagram with
  | none => []
  | some datagram => [{ datagram, retransmission := result.retransmission }]

structure Sender where
  tx : TxSessionState
  queued : List SendRequest := []
  emitted : List Emission := []

variable (transport : TransportSettings)

def Sender.step (s : Sender) : TxOp → Sender
  | .queue channelId channelType payload =>
    { s with
      tx := queueAppData channelId channelType payload s.tx
      queued := s.queued ++ [{ channelId, channelType, payload }] }
  | .poll nowMs role connId state rx =>
    let (result, _, tx) := TxHandler.poll transport nowMs role connId state rx s.tx
    { s with tx, emitted := s.emitted ++ result.emissions }
  | .remoteAck ack ackBits => { s with tx := (onRemoteAck transport ack ackBits s.tx).2 }
  | .schedule flags => { s with tx := flags.set s.tx }

/-- The state in which a connection starts: no packet sent, nothing queued. -/
structure StartsAt (i : U32) (tx : TxSessionState) : Prop where
  nextSeq : tx.nextSeq = i
  remoteAck : tx.remoteAck = i
  inflight : tx.inflight = ∅
  pendingSend : tx.pendingSend = []

end Rudp
