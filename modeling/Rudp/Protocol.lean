import Rudp.Lib.Serial

/-!
# The protocol's vocabulary

Channel types, flags, the fixed header and the wrapping comparisons on sequence numbers,
following `include/Rudp/Protocol.hpp` and `src/Protocol.cpp`. Machine integers keep their width:
`U8`, `U32` and `U64` are bit vectors, so that every sum and difference wraps exactly as in C++.
-/

namespace Rudp

abbrev U8 := BitVec 8

abbrev U16 := BitVec 16

abbrev U32 := BitVec 32

abbrev U64 := BitVec 64

/-- A byte string: a datagram, or a payload. -/
abbrev Bytes := List U8

def kHeaderLength : U8 := 28

def kAckBitsWindow : U32 := 64

def kReliableWindowSize : U32 := 64

/-! ## Channels and flags -/

inductive ChannelType where
  | reliableOrdered
  | reliableUnordered
  | unreliable
  | monotonicState
  deriving DecidableEq, Repr

/-- The wire value of a channel type. -/
def ChannelType.toByte : ChannelType → U8
  | .reliableOrdered => 0
  | .reliableUnordered => 1
  | .unreliable => 2
  | .monotonicState => 3

/-- The channel type a byte stands for. C++ casts any byte to the enumeration and lets
`isValidHeader` reject the values above 3; here those values have no channel type at all. -/
def ChannelType.ofByte (b : U8) : Option ChannelType :=
  if b = 0 then some .reliableOrdered
  else if b = 1 then some .reliableUnordered
  else if b = 2 then some .unreliable
  else if b = 3 then some .monotonicState
  else none

@[simp] theorem ChannelType.ofByte_toByte (t : ChannelType) : ofByte t.toByte = some t := by
  cases t <;> rfl

def isReliableChannel (type : ChannelType) : Bool :=
  type = .reliableOrdered || type = .reliableUnordered

inductive Flag where
  | syn
  | fin
  | rst
  | ping
  | pong
  | ack
  deriving DecidableEq, Repr

abbrev Flags := U8

def Flag.toFlags : Flag → Flags
  | .syn => 0x01
  | .fin => 0x02
  | .rst => 0x04
  | .ping => 0x08
  | .pong => 0x10
  | .ack => 0x20

/-! ## Packets -/

structure Header where
  connId : U32 := 0
  seq : U32 := 0
  ack : U32 := 0
  ackBits : U64 := 0
  channelId : U32 := 0
  channelType : ChannelType := .unreliable
  flags : Flags := 0
  headerLen : U8 := kHeaderLength
  reserved : U8 := 0
  deriving DecidableEq, Repr

def Header.hasFlag (header : Header) (flag : Flag) : Bool :=
  header.flags &&& flag.toFlags != 0

/-- A header and the payload that came with it. -/
structure PacketView where
  header : Header
  payload : Bytes
  deriving DecidableEq, Repr

/-- `q` is `p` up to the ack fields, which every transmission fills in anew. -/
def SameButAcks (p q : PacketView) : Prop :=
  ∃ ack ackBits, q = { p with header := { p.header with ack := ack, ackBits := ackBits } }

theorem SameButAcks.refl (p : PacketView) : SameButAcks p p := ⟨p.header.ack, p.header.ackBits, rfl⟩

theorem SameButAcks.trans {p q r : PacketView} (h : SameButAcks p q) (h' : SameButAcks q r) :
    SameButAcks p r := by
  obtain ⟨_, _, rfl⟩ := h
  obtain ⟨ack, ackBits, rfl⟩ := h'
  exact ⟨ack, ackBits, rfl⟩

/-! ## Sequence numbers -/

/-- `static_cast<std::int32_t>(lhs - rhs) < 0`. -/
def seqLt (lhs rhs : U32) : Bool := decide ((lhs - rhs).toInt < 0)

/-- `static_cast<std::int32_t>(lhs - rhs) <= 0`. -/
def seqLe (lhs rhs : U32) : Bool := decide ((lhs - rhs).toInt ≤ 0)

def seqGt (lhs rhs : U32) : Bool := seqLt rhs lhs

def seqGe (lhs rhs : U32) : Bool := seqLe rhs lhs

theorem seqLt_iff {a b : U32} : seqLt a b = true ↔ 2 ^ 31 ≤ (a - b).toNat := by
  rw [seqLt, decide_eq_true_eq, Serial.toInt_neg_iff_le]
  omega

/-- `a` is after `b` when it lies at most half the circle ahead of it. -/
theorem seqGt_iff {a b : U32} :
    seqGt a b = true ↔ 0 < (a - b).toNat ∧ (a - b).toNat ≤ 2 ^ 31 := by
  rw [seqGt, seqLt_iff]
  have hab := a.isLt
  have hb := b.isLt
  simp only [BitVec.toNat_sub]
  omega

/-- Counted from a common base, and within half the circle, `seqLt` is `<`. -/
theorem seqLt_ahead_iff {base : U32} {j k : ℕ} (hjk : k - j ≤ 2 ^ 31) (hkj : j - k < 2 ^ 31) :
    seqLt (Serial.ahead base j) (Serial.ahead base k) = true ↔ j < k := by
  rw [seqLt, decide_eq_true_eq]
  exact Serial.toInt_ahead_sub_neg_iff (by omega) (by omega)

end Rudp
