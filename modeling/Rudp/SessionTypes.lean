import Rudp.Codec

/-!
# Session state

The state of one connection, following `include/Rudp/SessionTypes.hpp`, and the transport
settings of `include/Rudp/Config.hpp` that the handlers read.

`std::map` is an ordered tree map, because the retransmission scan walks it in key order.
`std::unordered_map` is a finite map, which has no order to rely on.
-/

namespace Rudp

/-! ## Settings -/

/-- `Config::TransportSettings`. The C++ handlers read a global; here it is an argument. -/
structure TransportSettings where
  initialRtoMs : U64 := 250
  maxRtoMs : U64 := 4000
  maxRetransmitCount : U32 := 5
  handshakeLingerMs : U64 := 1000
  keepaliveIdleMs : U64 := 500
  idleTimeoutMs : U64 := 15000
  reliableAckDelayMs : U64 := 2
  fastRetxEvidenceThreshold : U32 := 2
  enableActivityAckOnly : Bool := false
  deriving DecidableEq, Repr

/-! ## Roles and lifecycle -/

inductive SessionRole where
  | client
  | server
  deriving DecidableEq, Repr

inductive ConnectionState where
  | closed
  | handshakeSent
  | handshakeReceived
  | established
  | closing
  | reset
  deriving DecidableEq, Repr

/-! ## Packets, requests and events -/

/-- A `PacketView` borrows its payload and an `OwnedPacket` owns it. Nothing here depends on who
frees the bytes, so the model has one type for both. -/
abbrev OwnedPacket := PacketView

structure SendRequest where
  channelId : U32 := 0
  channelType : ChannelType := .unreliable
  payload : Bytes := []
  deriving DecidableEq, Repr

structure TxEntry where
  packet : OwnedPacket
  firstSendMs : U64 := 0
  lastSendMs : U64 := 0
  retryCount : U32 := 0
  gapEvidenceCount : U32 := 0
  fastRetxPending : Bool := false
  deriving DecidableEq, Repr

inductive SessionEvent.Kind where
  | dataReceived
  | connected
  | connectionClosed
  | connectionReset
  | error
  deriving DecidableEq, Repr

/-- `type` is a Lean keyword, so the C++ field `type` is `kind` here. -/
structure SessionEvent where
  kind : SessionEvent.Kind := .dataReceived
  seq : U32 := 0
  channelId : U32 := 0
  channelType : ChannelType := .unreliable
  payload : Bytes := []
  errorMessage : String := ""
  deriving DecidableEq, Repr

/-! ## Statistics and results -/

structure SessionStats where
  packetsSent : U64 := 0
  packetsReceived : U64 := 0
  bytesSent : U64 := 0
  bytesReceived : U64 := 0
  controlPacketsSent : U64 := 0
  controlPacketsReceived : U64 := 0
  dataPacketsSent : U64 := 0
  dataPacketsReceived : U64 := 0
  pingsSent : U64 := 0
  pongsSent : U64 := 0
  pingsReceived : U64 := 0
  pongsReceived : U64 := 0
  retransmissionsSent : U64 := 0
  rttSampleCount : U64 := 0
  rttSumMs : U64 := 0
  latestRttMs : Option U64 := none
  minRttMs : Option U64 := none
  maxRttMs : Option U64 := none
  deriving DecidableEq, Repr

structure TxPollResult where
  datagram : Option Bytes := none
  fatalError : Bool := false
  retransmission : Bool := false
  errorMessage : String := ""
  deriving DecidableEq, Repr

structure TxAckResult where
  acknowledgedFin : Bool := false
  deriving DecidableEq, Repr

structure RxPacketResult where
  scheduleAckOnly : Bool := false
  deriving DecidableEq, Repr

/-! ## Transport state -/

structure ProbeTxState where
  pingPending : Bool := false
  pongPending : Bool := false
  pingOutstanding : Bool := false
  lastSentMs : U64 := 0
  lastPingSentMs : U64 := 0
  deriving DecidableEq, Repr

/-- The order of the keys of `std::map<std::uint32_t, α>`. -/
instance compareU32 : Std.TransCmp (compare : U32 → U32 → Ordering) := inferInstance

/-- `std::map<std::uint32_t, α>`: entries in increasing order of the raw key. -/
abbrev SeqMap (α : Type) := Std.ExtTreeMap U32 α

section SeqMap

variable {α : Type} (m : SeqMap α) (k j : U32) (v : α)

theorem SeqMap.getElem?_insert : (m.insert k v)[j]? = if k = j then some v else m[j]? := by
  simp [Std.ExtTreeMap.getElem?_insert]

/-- `emplace` keeps an entry that is already there. -/
theorem SeqMap.getElem?_insertIfNew :
    (m.insertIfNew k v)[j]? = if k = j ∧ m[k]? = none then some v else m[j]? := by
  simp [Std.ExtTreeMap.getElem?_insertIfNew]

theorem SeqMap.getElem?_erase : (m.erase k)[j]? = if k = j then none else m[j]? := by
  simp [Std.ExtTreeMap.getElem?_erase]

theorem SeqMap.size_erase_lt {m : SeqMap α} {k : U32} {v : α} (h : m[k]? = some v) :
    (m.erase k).size < m.size := by
  have hk : m.contains k = true := by
    rw [Std.ExtTreeMap.contains_eq_isSome_getElem?, h]
    rfl
  have hpos : m.size ≠ 0 := by
    intro hzero
    have hempty : m.isEmpty = true := by
      rw [Std.ExtTreeMap.isEmpty_eq_size_beq_zero, hzero]
      rfl
    rw [Std.ExtTreeMap.isEmpty_iff.1 hempty] at h
    simp at h
  rw [Std.ExtTreeMap.size_erase, if_pos hk]
  omega

/-- The first entry stays the first when it is written. -/
theorem SeqMap.head?_toList_insert {m : SeqMap α} {k : U32} {v : α}
    (h : m.toList.head? = some (k, v)) (w : α) : (m.insert k w).toList.head? = some (k, w) := by
  have hkeys : ∀ m : SeqMap α, m.minKey? = m.toList.head?.map Prod.fst := by
    intro m
    rw [Std.ExtTreeMap.minKey?_eq_head?_keys, ← Std.ExtTreeMap.map_fst_toList_eq_keys,
      List.head?_map]
  have hmin : (m.insert k w).minKey? = some k := by
    rw [Std.ExtTreeMap.minKey?_insert, hkeys, h]
    simp
  rw [hkeys, Option.map_eq_some_iff] at hmin
  obtain ⟨⟨k', w'⟩, hhead, rfl⟩ := hmin
  have hget := Std.ExtTreeMap.mem_toList_iff_getElem?_eq_some.1 (List.mem_of_mem_head? hhead)
  rw [SeqMap.getElem?_insert, if_pos rfl] at hget
  rw [hhead, ← Option.some.inj hget]

end SeqMap

structure TxSessionState where
  nextSeq : U32 := 0
  remoteAck : U32 := 0
  remoteAckBits : U64 := 0
  pendingSend : List SendRequest := []
  inflight : SeqMap TxEntry := ∅
  synAckPending : Bool := false
  finalAckPending : Bool := false
  finalAckLingerUntilMs : U64 := 0
  finPending : Bool := false
  ackOnlyPending : Bool := false
  reliableAckPending : Bool := false
  reliableAckDueMs : U64 := 0
  activityAckPending : Bool := false
  probe : ProbeTxState := {}

structure RxSessionState where
  nextExpected : U32 := 0
  receivedBits : U64 := 0
  orderedReorderBuffer : SeqMap OwnedPacket := ∅
  nextOrderedDelivery : U32 := 0
  orderedDeliveryStarted : Bool := false
  monotonicVersions : Finmap fun _ : U32 => U32 := ∅
  pendingEvents : List SessionEvent := []

structure SessionState where
  role : SessionRole := .client
  connId : U32 := 0
  connectionState : ConnectionState := .closed
  establishedSinceMs : U64 := 0
  lastRxMs : U64 := 0
  lastTxMs : U64 := 0
  stats : SessionStats := {}
  tx : TxSessionState := {}
  rx : RxSessionState := {}

end Rudp
