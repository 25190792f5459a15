import Rudp.ConnectionStateMachine
import Rudp.Lib.Window

/-!
# The receive handler

`src/RxHandler.cpp`: the cumulative front and its 64-bit bitmap, ordered delivery through the
reorder buffer, and immediate delivery on the other channels. Every function takes the receive
state and returns the next one.

The two loops of the source get a bound that they cannot exceed: a bitmap of 64 bits has at most
64 low bits to consume, and draining removes one buffered packet in each round.
-/

namespace Rudp

namespace RxHandler

/-! ## Helpers -/

def makeOwnedPacket (packet : PacketView) : OwnedPacket :=
  { header := packet.header, payload := packet.payload }

def makeDataEvent (packet : PacketView) : SessionEvent :=
  { kind := .dataReceived
    seq := packet.header.seq
    channelId := packet.header.channelId
    channelType := packet.header.channelType
    payload := packet.payload
    errorMessage := "" }

def isControlOnly (controlKind : ControlKind) : Bool := controlKind ≠ .none

def ensureOrderedDeliveryStarted (seq : U32) (rx : RxSessionState) : RxSessionState :=
  if !rx.orderedDeliveryStarted then
    { rx with nextOrderedDelivery := seq, orderedDeliveryStarted := true }
  else rx

/-- The loop of `advance_receive_window`: while the lowest bit is set, move on by one. -/
def advanceLoop : ℕ → U32 → U64 → U32 × U64
  | 0, nextExpected, receivedBits => (nextExpected, receivedBits)
  | fuel + 1, nextExpected, receivedBits =>
    if receivedBits &&& 1 ≠ 0 then advanceLoop fuel (nextExpected + 1) (receivedBits >>> 1)
    else (nextExpected, receivedBits)

def advanceReceiveWindow (rx : RxSessionState) : RxSessionState :=
  let window := advanceLoop 64 (rx.nextExpected + 1) rx.receivedBits
  { rx with nextExpected := window.1, receivedBits := window.2 }

/-- The loop of `drain_contiguous_ordered`: deliver the next packet while it is buffered. -/
def drainLoop : ℕ → RxSessionState → RxSessionState
  | 0, rx => rx
  | fuel + 1, rx =>
    match rx.orderedReorderBuffer[rx.nextOrderedDelivery]? with
    | none => rx
    | some packet =>
      drainLoop fuel
        { rx with
          pendingEvents := rx.pendingEvents ++ [makeDataEvent packet]
          orderedReorderBuffer := rx.orderedReorderBuffer.erase rx.nextOrderedDelivery
          nextOrderedDelivery := rx.nextOrderedDelivery + 1 }

def drainContiguousOrdered (rx : RxSessionState) : RxSessionState :=
  if !rx.orderedDeliveryStarted then rx
  else drainLoop rx.orderedReorderBuffer.size rx

/-! ## The receive window -/

/-- The kinds of packet `update_reliable_receive_state` looks at; all others pass through. -/
def touchesWindow (header : Header) (controlKind : ControlKind) : Bool :=
  isReliableChannel header.channelType || controlKind = .syn || controlKind = .synAck ||
    controlKind = .ack || controlKind = .fin

/-- Returns whether the payload should be processed, and the result record. -/
def updateReliableReceiveState (packet : PacketView) (controlKind : ControlKind)
    (result : RxPacketResult) (rx : RxSessionState) :
    Bool × RxPacketResult × RxSessionState :=
  if !touchesWindow packet.header controlKind then (true, result, rx)
  else
    let result := { result with
      scheduleAckOnly := isReliableChannel packet.header.channelType || controlKind = .fin }
    let rx := if rx.nextExpected = 0 then { rx with nextExpected := packet.header.seq } else rx
    if packet.header.seq = rx.nextExpected then (true, result, advanceReceiveWindow rx)
    else if seqGt packet.header.seq rx.nextExpected then
      let delta := packet.header.seq - rx.nextExpected
      if delta ≤ kAckBitsWindow then
        let bit := 1#64 <<< (delta - 1).toNat
        let alreadyReceived : Bool := rx.receivedBits &&& bit ≠ 0
        (!alreadyReceived, result, { rx with receivedBits := rx.receivedBits ||| bit })
      -- Beyond the bitmap: cannot be represented, so not delivered yet.
      else (false, result, rx)
    -- Behind the front: stale.
    else (false, result, rx)

/-! ## Delivery -/

def handleReliableOrdered (packet : PacketView) (rx : RxSessionState) : RxSessionState :=
  let rx := ensureOrderedDeliveryStarted packet.header.seq rx
  let rx := { rx with
    orderedReorderBuffer :=
      rx.orderedReorderBuffer.insert packet.header.seq (makeOwnedPacket packet) }
  drainContiguousOrdered rx

def handleReliableUnordered (packet : PacketView) (rx : RxSessionState) : RxSessionState :=
  { rx with pendingEvents := rx.pendingEvents ++ [makeDataEvent packet] }

def handleUnreliable (packet : PacketView) (rx : RxSessionState) : RxSessionState :=
  { rx with pendingEvents := rx.pendingEvents ++ [makeDataEvent packet] }

def handleMonotonicState (packet : PacketView) (rx : RxSessionState) : RxSessionState :=
  match packet.payload with
  | b₀ :: b₁ :: b₂ :: b₃ :: _ =>
    let version : U32 := (b₀.setWidth 32 <<< 24) ||| (b₁.setWidth 32 <<< 16) |||
      (b₂.setWidth 32 <<< 8) ||| b₃.setWidth 32
    let deliver : RxSessionState :=
      { rx with
        monotonicVersions := rx.monotonicVersions.insert packet.header.channelId version
        pendingEvents := rx.pendingEvents ++ [makeDataEvent packet] }
    match rx.monotonicVersions.lookup packet.header.channelId with
    | some current => if (version - current).toInt ≤ 0 then rx else deliver
    | none => deliver
  -- Too short to carry a version.
  | _ => rx

/-- Hand an accepted data packet to its channel. -/
def deliverData (packet : PacketView) (rx : RxSessionState) : RxSessionState :=
  match packet.header.channelType with
  | .reliableOrdered => handleReliableOrdered packet rx
  | .reliableUnordered => handleReliableUnordered packet rx
  | .unreliable => handleUnreliable packet rx
  | .monotonicState => handleMonotonicState packet rx

/-- `now_ms` is not used by the source either. -/
def onPacket (packet : PacketView) (_nowMs : U64) (controlKind : ControlKind)
    (rx : RxSessionState) : RxPacketResult × RxSessionState :=
  let (shouldProcessPayload, result, rx) :=
    updateReliableReceiveState packet controlKind {} rx
  if isControlOnly controlKind || !shouldProcessPayload then (result, rx)
  else (result, deliverData packet rx)

/-- A versioned packet is either dropped or delivered with its version recorded. -/
theorem handleMonotonicState_cases (packet : PacketView) (rx : RxSessionState) :
    handleMonotonicState packet rx = rx ∨ ∃ versions, handleMonotonicState packet rx =
      { rx with
        monotonicVersions := versions
        pendingEvents := rx.pendingEvents ++ [makeDataEvent packet] } := by
  rw [handleMonotonicState]
  split
  · simp only
    split
    · split_ifs
      · exact Or.inl rfl
      · exact Or.inr ⟨_, rfl⟩
    · exact Or.inr ⟨_, rfl⟩
  · exact Or.inl rfl

def drainEvents (rx : RxSessionState) : List SessionEvent × RxSessionState :=
  (rx.pendingEvents, { rx with pendingEvents := [] })

end RxHandler

end Rudp
