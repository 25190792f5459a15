import Rudp.Protocol
import Rudp.Lib.Run

/-!
# The codec

The 28-byte big-endian header, following `src/Codec.cpp` and the byte readers and writers of
`src/Utils.cpp`. The readers take a proof that they stay inside the buffer, so that a read out of
range cannot be written down.

`decode_encode` says that decoding undoes encoding for every valid header. The other way round, a
datagram that decodes is the encoding of what it decodes to: the readers put the bytes of a field
together from the top, so the writers, which take them apart from the top, give the same bytes back
(`byteAt_foldl`), and the validity check leaves no byte of the header free that `encode` would not
reproduce. Together they make the codec a bijection, `codec_bijection`.

`decode` carries proofs that its reads are in range. To say so without them, `decodeChecked` reads
every byte through a bounds check and fails on the first read outside the buffer; it never does.
-/

namespace Rudp

/-! ## Reading and writing integers -/

def readU32 (bytes : Bytes) (offset : ℕ) (h : offset + 4 ≤ bytes.length) : U32 :=
  (bytes[offset + 0].setWidth 32 <<< 24) ||| (bytes[offset + 1].setWidth 32 <<< 16) |||
    (bytes[offset + 2].setWidth 32 <<< 8) ||| bytes[offset + 3].setWidth 32

def readU64 (bytes : Bytes) (offset : ℕ) (h : offset + 8 ≤ bytes.length) : U64 :=
  (List.finRange 8).foldl
    (fun value index => (value <<< 8) ||| (bytes[offset + index.val].setWidth 64)) 0

def writeU32 (bytes : Bytes) (offset : ℕ) (value : U32) : Bytes :=
  (((bytes.set (offset + 0) ((value >>> 24) &&& 0xff |>.setWidth 8)).set (offset + 1)
    ((value >>> 16) &&& 0xff |>.setWidth 8)).set (offset + 2)
    ((value >>> 8) &&& 0xff |>.setWidth 8)).set (offset + 3) (value &&& 0xff |>.setWidth 8)

def writeU64 (bytes : Bytes) (offset : ℕ) (value : U64) : Bytes :=
  (List.finRange 8).foldl
    (fun bytes index =>
      bytes.set (offset + index.val) ((value >>> ((7 - index.val) * 8)) &&& 0xff |>.setWidth 8))
    bytes

/-! ## Headers -/

def isValidHeader (header : Header) : Bool :=
  if header.headerLen ≠ kHeaderLength then false
  else if header.reserved ≠ 0 then false
  else if header.channelType.toByte > 3 then false
  else header.flags &&& 0xc0 = 0

def decode (bytes : Bytes) : Option PacketView :=
  if h : bytes.length < kHeaderLength.toNat then none
  else
    have hlen : 28 ≤ bytes.length := Nat.le_of_not_lt h
    match ChannelType.ofByte bytes[24] with
    | none => none
    | some channelType =>
      let header : Header :=
        { connId := readU32 bytes 0 (by omega)
          seq := readU32 bytes 4 (by omega)
          ack := readU32 bytes 8 (by omega)
          ackBits := readU64 bytes 12 (by omega)
          channelId := readU32 bytes 20 (by omega)
          channelType
          flags := bytes[25]
          headerLen := bytes[26]
          reserved := bytes[27] }
      if isValidHeader header then
        some { header, payload := bytes.drop kHeaderLength.toNat }
      else none

def encode (header : Header) (payload : Bytes) : Bytes :=
  let bytes : Bytes := List.replicate (kHeaderLength.toNat + payload.length) 0
  let bytes := writeU32 bytes 0 header.connId
  let bytes := writeU32 bytes 4 header.seq
  let bytes := writeU32 bytes 8 header.ack
  let bytes := writeU64 bytes 12 header.ackBits
  let bytes := writeU32 bytes 20 header.channelId
  let bytes := bytes.set 24 header.channelType.toByte
  let bytes := bytes.set 25 header.flags
  let bytes := bytes.set 26 header.headerLen
  let bytes := bytes.set 27 header.reserved
  -- `std::copy` of the payload behind the header.
  bytes.take kHeaderLength.toNat ++ payload

/-! ## The encoded header -/

/-- The four bytes of a 32-bit integer, most significant first. -/
def beU32 (value : U32) : Bytes :=
  [((value >>> 24) &&& 0xff).setWidth 8, ((value >>> 16) &&& 0xff).setWidth 8,
    ((value >>> 8) &&& 0xff).setWidth 8, (value &&& 0xff).setWidth 8]

/-- The eight bytes of a 64-bit integer, most significant first. -/
def beU64 (value : U64) : Bytes :=
  (List.finRange 8).map fun index => ((value >>> ((7 - index.val) * 8)) &&& 0xff).setWidth 8

@[simp] theorem length_beU32 (value : U32) : (beU32 value).length = 4 := rfl

@[simp] theorem length_beU64 (value : U64) : (beU64 value).length = 8 := rfl

theorem writeU32_append (pre post : Bytes) (a b c d : U8) (value : U32) :
    writeU32 (pre ++ a :: b :: c :: d :: post) pre.length value = pre ++ (beU32 value ++ post) := by
  simp only [writeU32, beU32, List.set_append_right _ _ (Nat.le_add_right _ _),
    Nat.add_sub_cancel_left]
  rfl

theorem writeU64_append (pre post : Bytes) (a b c d e f g h : U8) (value : U64) :
    writeU64 (pre ++ a :: b :: c :: d :: e :: f :: g :: h :: post) pre.length value =
      pre ++ (beU64 value ++ post) := by
  rw [writeU64, beU64, show List.finRange 8 = [0, 1, 2, 3, 4, 5, 6, 7] from rfl]
  simp only [List.foldl_cons, List.foldl_nil, List.set_append_right _ _ (Nat.le_add_right _ _),
    Nat.add_sub_cancel_left]
  rfl

/-- The 28 bytes of a header. -/
def headerBytes (header : Header) : Bytes :=
  beU32 header.connId ++ (beU32 header.seq ++ (beU32 header.ack ++ (beU64 header.ackBits ++
    (beU32 header.channelId ++
      [header.channelType.toByte, header.flags, header.headerLen, header.reserved]))))

theorem encode_eq (header : Header) (payload : Bytes) :
    encode header payload = headerBytes header ++ payload := by
  have hblank : List.replicate (kHeaderLength.toNat + payload.length) (0 : U8) =
      [] ++ 0 :: 0 :: 0 :: 0 :: 0 :: 0 :: 0 :: 0 :: 0 :: 0 :: 0 :: 0 :: 0 :: 0 :: 0 :: 0 :: 0 ::
        0 :: 0 :: 0 :: 0 :: 0 :: 0 :: 0 :: 0 :: 0 :: 0 :: 0 :: List.replicate payload.length 0 := by
    rw [Nat.add_comm]
    rfl
  have hseq := writeU32_append (beU32 header.connId)
  have hack := writeU32_append (beU32 header.connId ++ beU32 header.seq)
  have hbits := writeU64_append (beU32 header.connId ++ beU32 header.seq ++ beU32 header.ack)
  have hchan := writeU32_append
    (beU32 header.connId ++ beU32 header.seq ++ beU32 header.ack ++ beU64 header.ackBits)
  simp only [List.append_assoc, List.length_append, length_beU32, length_beU64, Nat.reduceAdd]
    at hseq hack hbits hchan
  simp only [encode, hblank]
  rw [show (0 : ℕ) = ([] : Bytes).length from rfl, writeU32_append]
  simp only [List.nil_append]
  rw [hseq, hack, hbits, hchan]
  rfl

/-! ## Reading back -/

/-- The byte of `value` at bit `shift`, widened again. -/
theorem getLsbD_byte {w : ℕ} (hw : 8 ≤ w) (value : BitVec w) (shift i : ℕ) :
    ((((value >>> shift) &&& 0xff#w).setWidth 8).setWidth w).getLsbD i =
      (decide (i < 8) && value.getLsbD (shift + i)) := by
  have hff : (0xff#w).getLsbD i = (decide (i < w) && decide (i < 8)) := by
    rw [BitVec.getLsbD_ofNat, show 255 = 2 ^ 8 - 1 from rfl, Nat.testBit_two_pow_sub_one]
  simp only [BitVec.getLsbD_setWidth, BitVec.getLsbD_and, BitVec.getLsbD_ushiftRight, hff]
  by_cases hi : i < 8
  · have hiw : i < w := by omega
    simp [hi, hiw]
  · simp [hi]

/-- Appending the next byte to the bits above it. -/
theorem shift_or_byte {w : ℕ} (hw : 8 ≤ w) (value : BitVec w) (shift : ℕ) :
    (value >>> (shift + 8)) <<< 8 ||| (((value >>> shift) &&& 0xff#w).setWidth 8).setWidth w =
      value >>> shift := by
  refine BitVec.eq_of_getLsbD_eq fun i hi => ?_
  rw [BitVec.getLsbD_or, getLsbD_byte hw, BitVec.getLsbD_shiftLeft, BitVec.getLsbD_ushiftRight,
    BitVec.getLsbD_ushiftRight]
  by_cases h8 : i < 8
  · simp [h8]
  · rw [show shift + 8 + (i - 8) = shift + i by omega]
    simp [h8, hi]

theorem readU32_eq (pre : Bytes) {bytes post : Bytes} {offset : ℕ} {value : U32}
    (hbytes : bytes = pre ++ (beU32 value ++ post)) (hpre : pre.length = offset) (h) :
    readU32 bytes offset h = value := by
  subst hbytes hpre
  simp only [readU32, List.getElem_append_right (Nat.le_add_right _ _), Nat.add_sub_cancel_left]
  let b (shift : ℕ) : U32 := (((value >>> shift) &&& 0xff#32).setWidth 8).setWidth 32
  have h0 : (((value &&& 0xff#32).setWidth 8).setWidth 32) = b 0 := by
    show _ = ((value >>> 0 &&& 0xff#32).setWidth 8).setWidth 32
    rw [BitVec.ushiftRight_zero]
  show b 24 <<< 24 ||| b 16 <<< 16 ||| b 8 <<< 8 ||| ((value &&& 0xff#32).setWidth 8).setWidth 32 =
    value
  rw [h0]
  refine BitVec.eq_of_getLsbD_eq fun i hi => ?_
  simp only [b, BitVec.getLsbD_or, BitVec.getLsbD_shiftLeft, getLsbD_byte (show 8 ≤ 32 by decide)]
  -- Bit `i` comes from exactly one of the four bytes.
  rcases show i < 8 ∨ 8 ≤ i ∧ i < 16 ∨ 16 ≤ i ∧ i < 24 ∨ 24 ≤ i by omega with h1 | h2 | h3 | h4
  · simp [h1, show i < 16 by omega, show i < 24 by omega]
  · simp [hi, h2.2, show ¬ i < 8 by omega, show i < 24 by omega, show i - 8 < 8 by omega,
      show 8 + (i - 8) = i by omega]
  · simp [hi, h3.2, show ¬ i < 8 by omega, show ¬ i < 16 by omega, show ¬ i - 8 < 8 by omega,
      show i - 16 < 8 by omega, show 16 + (i - 16) = i by omega]
  · simp [hi, show ¬ i < 8 by omega, show ¬ i < 16 by omega, show ¬ i < 24 by omega,
      show ¬ i - 8 < 8 by omega, show ¬ i - 16 < 8 by omega, show i - 24 < 8 by omega,
      show 24 + (i - 24) = i by omega]

theorem readU64_eq (pre : Bytes) {bytes post : Bytes} {offset : ℕ} {value : U64}
    (hbytes : bytes = pre ++ (beU64 value ++ post)) (hpre : pre.length = offset) (h) :
    readU64 bytes offset h = value := by
  subst hbytes hpre
  have step := shift_or_byte (show 8 ≤ 64 by decide) value
  have h64 : (0 : U64) = value >>> 64 := by
    rw [BitVec.ushiftRight_eq_zero le_rfl]; rfl
  have h0 : value >>> 0 = value := BitVec.ushiftRight_zero value
  simp only [readU64, List.getElem_append_right (Nat.le_add_right _ _), Nat.add_sub_cancel_left]
  rw [show List.finRange 8 = [0, 1, 2, 3, 4, 5, 6, 7] from rfl]
  let b (shift : ℕ) : U64 := (((value >>> shift) &&& 0xff#64).setWidth 8).setWidth 64
  show ((((((((0 : U64) <<< 8 ||| b 56) <<< 8 ||| b 48) <<< 8 ||| b 40) <<< 8 ||| b 32) <<< 8 |||
    b 24) <<< 8 ||| b 16) <<< 8 ||| b 8) <<< 8 ||| b 0 = value
  rw [h64, step 56, step 48, step 40, step 32, step 24, step 16, step 8, step 0, h0]

/-! ## The round trip -/

@[simp] theorem length_headerBytes (header : Header) : (headerBytes header).length = 28 := rfl

@[simp] theorem length_encode (header : Header) (payload : Bytes) :
    (encode header payload).length = 28 + payload.length := by
  rw [encode_eq, List.length_append, length_headerBytes]

/-- **Decoding undoes encoding**, for every header the codec accepts and every payload. -/
theorem decode_encode {header : Header} (hvalid : isValidHeader header = true) (payload : Bytes) :
    decode (encode header payload) = some { header, payload } := by
  have hbytes := encode_eq header payload
  generalize encode header payload = bytes at hbytes
  have hlen : ¬ bytes.length < kHeaderLength.toNat := by
    rw [hbytes, List.length_append, length_headerBytes]
    exact Nat.not_lt.2 (Nat.le_add_right 28 _)
  simp only [headerBytes, List.append_assoc] at hbytes
  have hconn : ∀ h, readU32 bytes 0 h = header.connId := readU32_eq [] hbytes rfl
  have hseq : ∀ h, readU32 bytes 4 h = header.seq :=
    readU32_eq (beU32 header.connId) hbytes rfl
  have hack : ∀ h, readU32 bytes 8 h = header.ack :=
    readU32_eq (beU32 header.connId ++ beU32 header.seq)
      (hbytes.trans (List.append_assoc _ _ _).symm) rfl
  have hbits : ∀ h, readU64 bytes 12 h = header.ackBits :=
    readU64_eq (beU32 header.connId ++ (beU32 header.seq ++ beU32 header.ack))
      (hbytes.trans (by simp only [List.append_assoc]; rfl)) rfl
  have hchan : ∀ h, readU32 bytes 20 h = header.channelId :=
    readU32_eq (beU32 header.connId ++ (beU32 header.seq ++ (beU32 header.ack ++
      beU64 header.ackBits))) (hbytes.trans (by simp only [List.append_assoc]; rfl)) rfl
  simp only [decode, dif_neg hlen, hconn, hseq, hack, hbits, hchan]
  subst hbytes
  show (match ChannelType.ofByte header.channelType.toByte with
    | none => none
    | some channelType => if isValidHeader { header with channelType } = true then
        some (PacketView.mk { header with channelType } payload) else none) = _
  rw [ChannelType.ofByte_toByte]
  simp only [hvalid, if_true]

/-! ## Writing back -/

/-- Append a byte below the bits read so far. -/
def appendByte {w : ℕ} (value : BitVec w) (b : U8) : BitVec w := value <<< 8 ||| b.setWidth w

/-- The byte of `value` at bit `shift`. -/
def byteAt {w : ℕ} (value : BitVec w) (shift : ℕ) : U8 := ((value >>> shift) &&& 0xff#w).setWidth 8

theorem getLsbD_byteAt {w : ℕ} (hw : 8 ≤ w) (value : BitVec w) (shift : ℕ) {i : ℕ} (hi : i < 8) :
    (byteAt value shift).getLsbD i = value.getLsbD (shift + i) := by
  have h := getLsbD_byte hw value shift i
  rw [BitVec.getLsbD_setWidth] at h
  simpa [byteAt, hi, show i < w by omega] using h

/-- The byte that was appended last is the lowest. -/
theorem byteAt_appendByte_zero {w : ℕ} (hw : 8 ≤ w) (value : BitVec w) (b : U8) :
    byteAt (appendByte value b) 0 = b := by
  refine BitVec.eq_of_getLsbD_eq fun i hi => ?_
  rw [getLsbD_byteAt hw _ _ hi, appendByte, BitVec.getLsbD_or, BitVec.getLsbD_shiftLeft,
    BitVec.getLsbD_setWidth]
  simp [hi, show i < w by omega]

/-- Appending a byte moves the others up. -/
theorem byteAt_appendByte {w : ℕ} (value : BitVec w) (b : U8) {shift : ℕ} (hw : shift + 16 ≤ w) :
    byteAt (appendByte value b) (shift + 8) = byteAt value shift := by
  refine BitVec.eq_of_getLsbD_eq fun i hi => ?_
  rw [getLsbD_byteAt (by omega) _ _ hi, getLsbD_byteAt (by omega) _ _ hi, appendByte,
    BitVec.getLsbD_or, BitVec.getLsbD_shiftLeft, BitVec.getLsbD_setWidth,
    b.getLsbD_of_ge _ (by omega), show shift + 8 + i - 8 = shift + i by omega]
  simp [show shift + 8 + i < w by omega, show 8 ≤ shift + 8 + i by omega]

/-- A value read from bytes has these bytes, the first one on top. -/
theorem byteAt_foldl {w : ℕ} (bs : Bytes) {shift : ℕ} (value : BitVec w) {i : ℕ} {b : U8}
    (hw : 8 * bs.length ≤ w) (hb : bs[i]? = some b) (hshift : shift + 8 * (i + 1) = 8 * bs.length) :
    byteAt (bs.foldl appendByte value) shift = b := by
  induction bs using List.reverseRecOn generalizing shift with
  | nil => cases hb
  | append_singleton bs c ih =>
    rw [List.length_append, List.length_singleton] at hw hshift
    rw [List.foldl_append, List.foldl_cons, List.foldl_nil]
    rcases Run.getElem?_concat.1 hb with hold | ⟨rfl, rfl⟩
    · have hi := (List.getElem?_eq_some_iff.1 hold).1
      obtain ⟨below, rfl⟩ : ∃ below, shift = below + 8 := ⟨shift - 8, by omega⟩
      rw [byteAt_appendByte _ _ (by omega)]
      exact ih (by omega) hold (by omega)
    · obtain rfl : shift = 0 := by omega
      exact byteAt_appendByte_zero (by omega) _ _

theorem beU32_readU32 {bytes : Bytes} {offset : ℕ} (h : offset + 4 ≤ bytes.length) :
    beU32 (readU32 bytes offset h) =
      [bytes[offset], bytes[offset + 1], bytes[offset + 2], bytes[offset + 3]] := by
  let bs : Bytes := [bytes[offset], bytes[offset + 1], bytes[offset + 2], bytes[offset + 3]]
  have hread : readU32 bytes offset h = bs.foldl appendByte 0 := by
    have hzero : (0 : U32) <<< 8 = 0#32 := by decide
    simp only [bs, List.foldl_cons, List.foldl_nil, appendByte, readU32, Nat.add_zero, hzero,
      BitVec.zero_or, BitVec.shiftLeft_or_distrib, ← BitVec.shiftLeft_add]
  have key := fun shift i b => @byteAt_foldl 32 bs shift 0 i b le_rfl
  have hlow : (bs.foldl appendByte (0 : U32) &&& 0xff).setWidth 8 =
      byteAt (bs.foldl appendByte (0 : U32)) 0 := by
    rw [byteAt, BitVec.ushiftRight_zero]
    rfl
  rw [hread, beU32, hlow]
  exact congrArg₂ _ (key 24 0 _ rfl rfl) (congrArg₂ _ (key 16 1 _ rfl rfl)
    (congrArg₂ _ (key 8 2 _ rfl rfl) (congrArg₂ _ (key 0 3 _ rfl rfl) rfl)))

theorem beU64_readU64 {bytes : Bytes} {offset : ℕ} (h : offset + 8 ≤ bytes.length) :
    beU64 (readU64 bytes offset h) =
      (List.finRange 8).map fun index => bytes[offset + index.val] := by
  let bs : Bytes := (List.finRange 8).map fun index => bytes[offset + index.val]
  have hread : readU64 bytes offset h = bs.foldl appendByte 0 := (List.foldl_map ..).symm
  have hlen : bs.length = 8 := by simp [bs]
  rw [hread, beU64]
  refine List.map_congr_left fun index _ => ?_
  exact byteAt_foldl bs 0 (by omega) (i := index.val) (by simp [bs]) (by omega)

/-! ## Reads stay inside the buffer -/

/-- `readU32` with its reads checked: `none` is a read outside the buffer. -/
def readU32Checked (bytes : Bytes) (offset : ℕ) : Option U32 := do
  let b₀ ← bytes[offset + 0]?
  let b₁ ← bytes[offset + 1]?
  let b₂ ← bytes[offset + 2]?
  let b₃ ← bytes[offset + 3]?
  return (b₀.setWidth 32 <<< 24) ||| (b₁.setWidth 32 <<< 16) ||| (b₂.setWidth 32 <<< 8) |||
    b₃.setWidth 32

/-- `readU64` with its reads checked. -/
def readU64Checked (bytes : Bytes) (offset : ℕ) : Option U64 :=
  (List.finRange 8).foldlM
    (fun value index => do
      let b ← bytes[offset + index.val]?
      return (value <<< 8) ||| b.setWidth 64) 0

/-- `decode` with its reads checked: the outer `none` is a read outside the buffer, the inner one
a datagram that is refused. -/
def decodeChecked (bytes : Bytes) : Option (Option PacketView) :=
  if bytes.length < kHeaderLength.toNat then some none
  else do
    let connId ← readU32Checked bytes 0
    let seq ← readU32Checked bytes 4
    let ack ← readU32Checked bytes 8
    let ackBits ← readU64Checked bytes 12
    let channelId ← readU32Checked bytes 20
    let channelByte ← bytes[24]?
    let flags ← bytes[25]?
    let headerLen ← bytes[26]?
    let reserved ← bytes[27]?
    match ChannelType.ofByte channelByte with
    | none => return none
    | some channelType =>
      let header : Header :=
        { connId, seq, ack, ackBits, channelId, channelType, flags, headerLen, reserved }
      if isValidHeader header then
        return some { header, payload := bytes.drop kHeaderLength.toNat }
      else return none

theorem readU32Checked_eq {bytes : Bytes} {offset : ℕ} (h : offset + 4 ≤ bytes.length) :
    readU32Checked bytes offset = some (readU32 bytes offset h) := by
  simp only [readU32Checked, List.getElem?_eq_getElem (show offset + 0 < bytes.length by omega),
    List.getElem?_eq_getElem (show offset + 1 < bytes.length by omega),
    List.getElem?_eq_getElem (show offset + 2 < bytes.length by omega),
    List.getElem?_eq_getElem (show offset + 3 < bytes.length by omega)]
  rfl

theorem readU64Checked_eq {bytes : Bytes} {offset : ℕ} (h : offset + 8 ≤ bytes.length) :
    readU64Checked bytes offset = some (readU64 bytes offset h) := by
  rw [readU64Checked, readU64]
  generalize List.finRange 8 = indices
  generalize (0 : U64) = value
  induction indices generalizing value with
  | nil => rfl
  | cons index indices ih =>
    rw [List.foldlM_cons, List.foldl_cons,
      List.getElem?_eq_getElem (show offset + index.val < bytes.length by omega)]
    exact ih _

/-! ## What is accepted -/

/-- The header that the first 28 bytes spell, given the channel type. -/
def spelledHeader (bytes : Bytes) (h : 28 ≤ bytes.length) (channelType : ChannelType) : Header :=
  { connId := readU32 bytes 0 (by omega)
    seq := readU32 bytes 4 (by omega)
    ack := readU32 bytes 8 (by omega)
    ackBits := readU64 bytes 12 (by omega)
    channelId := readU32 bytes 20 (by omega)
    channelType
    flags := bytes[25]
    headerLen := bytes[26]
    reserved := bytes[27] }

theorem decode_of_short {bytes : Bytes} (h : ¬ 28 ≤ bytes.length) : decode bytes = none := by
  have hshort : bytes.length < kHeaderLength.toNat := Nat.lt_of_not_le h
  rw [decode, dif_pos hshort]

theorem decode_of_length {bytes : Bytes} (h : 28 ≤ bytes.length) :
    decode bytes = (ChannelType.ofByte bytes[24]).bind fun channelType =>
      if isValidHeader (spelledHeader bytes h channelType) then
        some { header := spelledHeader bytes h channelType, payload := bytes.drop 28 }
      else none := by
  have hlong : ¬ bytes.length < kHeaderLength.toNat := Nat.not_lt.2 h
  simp only [decode, dif_neg hlong]
  cases ChannelType.ofByte bytes[24] <;> rfl

theorem ChannelType.ofByte_eq_some {b : U8} {t : ChannelType} : ofByte b = some t ↔ b = t.toByte := by
  constructor
  · intro h
    simp only [ofByte] at h
    split_ifs at h <;> obtain rfl := Option.some.inj h <;> assumption
  · rintro rfl
    exact ofByte_toByte t

theorem ChannelType.exists_toByte {b : U8} : (∃ t : ChannelType, b = t.toByte) ↔ b ≤ 3 := by
  constructor
  · rintro ⟨t, rfl⟩
    cases t <;> decide
  · intro h
    have hcases : b = 0 ∨ b = 1 ∨ b = 2 ∨ b = 3 := by
      simp only [BitVec.le_def, ← BitVec.toNat_inj] at h ⊢
      simp at h ⊢
      omega
    rcases hcases with rfl | rfl | rfl | rfl
    · exact ⟨.reliableOrdered, rfl⟩
    · exact ⟨.reliableUnordered, rfl⟩
    · exact ⟨.unreliable, rfl⟩
    · exact ⟨.monotonicState, rfl⟩

theorem isValidHeader_iff {header : Header} : isValidHeader header = true ↔
    header.headerLen = 28 ∧ header.reserved = 0 ∧ header.flags &&& 0xc0 = 0 := by
  have htype : ¬ header.channelType.toByte > 3 := by
    cases header.channelType <;> decide
  simp only [isValidHeader, htype, kHeaderLength]
  split_ifs <;> simp_all

/-- **What `decode` accepts**, and what it makes of it. -/
theorem decode_eq_some {bytes : Bytes} {packet : PacketView} : decode bytes = some packet ↔
    ∃ (h : 28 ≤ bytes.length) (channelType : ChannelType), bytes[24] = channelType.toByte ∧
      bytes[25] &&& 0xc0 = 0 ∧ bytes[26] = 28 ∧ bytes[27] = 0 ∧
      packet = { header := spelledHeader bytes h channelType, payload := bytes.drop 28 } := by
  by_cases hlen : 28 ≤ bytes.length
  · rw [decode_of_length hlen, Option.bind_eq_some_iff]
    constructor
    · rintro ⟨channelType, htype, h⟩
      split_ifs at h with hvalid
      obtain ⟨hheader, hreserved, hflags⟩ := isValidHeader_iff.1 hvalid
      exact ⟨hlen, channelType, ChannelType.ofByte_eq_some.1 htype, hflags, hheader, hreserved,
        (Option.some.inj h).symm⟩
    · rintro ⟨_, channelType, htype, hflags, hheader, hreserved, rfl⟩
      refine ⟨channelType, ChannelType.ofByte_eq_some.2 htype, if_pos ?_⟩
      exact isValidHeader_iff.2 ⟨hheader, hreserved, hflags⟩
  · rw [decode_of_short hlen]
    constructor
    · intro h
      cases h
    · rintro ⟨h, _⟩
      exact absurd h hlen

/-! ## The bijection -/

/-- Twenty-eight bytes, and the rest. -/
theorem eq_bytes_append_drop {bytes : Bytes} (h : 28 ≤ bytes.length) :
    bytes = (List.finRange 28).map (fun index => bytes[index.val]) ++ bytes.drop 28 := by
  have htake : (List.finRange 28).map (fun index => bytes[index.val]) = bytes.take 28 := by
    refine List.ext_getElem (by simp; omega) fun i hi _ => ?_
    simp
  rw [htake, List.take_append_drop]

theorem headerBytes_spelledHeader {bytes : Bytes} (h : 28 ≤ bytes.length)
    {channelType : ChannelType} (htype : bytes[24] = channelType.toByte) :
    headerBytes (spelledHeader bytes h channelType) =
      (List.finRange 28).map fun index => bytes[index.val] := by
  simp only [headerBytes, spelledHeader, beU32_readU32, beU64_readU64, ← htype]
  rfl

/-- **Encoding undoes decoding.** -/
theorem encode_decode {bytes : Bytes} {packet : PacketView} (h : decode bytes = some packet) :
    encode packet.header packet.payload = bytes := by
  obtain ⟨hlen, channelType, htype, -, -, -, rfl⟩ := decode_eq_some.1 h
  rw [encode_eq, headerBytes_spelledHeader hlen htype]
  exact (eq_bytes_append_drop hlen).symm

/-- **No read of `decode` is outside the buffer.** -/
theorem decodeChecked_eq (bytes : Bytes) : decodeChecked bytes = some (decode bytes) := by
  rw [decodeChecked]
  split_ifs with hshort
  · rw [decode_of_short (Nat.not_le.2 hshort)]
  · have hlen : 28 ≤ bytes.length := Nat.le_of_not_lt hshort
    rw [decode_of_length hlen]
    simp only [readU32Checked_eq (show 0 + 4 ≤ bytes.length by omega),
      readU32Checked_eq (show 4 + 4 ≤ bytes.length by omega),
      readU32Checked_eq (show 8 + 4 ≤ bytes.length by omega),
      readU64Checked_eq (show 12 + 8 ≤ bytes.length by omega),
      readU32Checked_eq (show 20 + 4 ≤ bytes.length by omega),
      List.getElem?_eq_getElem (show 24 < bytes.length by omega),
      List.getElem?_eq_getElem (show 25 < bytes.length by omega),
      List.getElem?_eq_getElem (show 26 < bytes.length by omega),
      List.getElem?_eq_getElem (show 27 < bytes.length by omega), Option.bind_eq_bind,
      Option.bind_some]
    cases ChannelType.ofByte bytes[24] with
    | none => rfl
    | some channelType =>
      rw [Option.bind_some]
      show (if isValidHeader (spelledHeader bytes hlen channelType) = true then _ else _) = _
      split_ifs <;> rfl

/-- **The codec is a bijection** between the valid headers with their payloads and the byte
strings whose header bytes pass the check, and decoding never reads outside its buffer. -/
theorem codec_bijection :
    (∀ (header : Header) (payload : Bytes), isValidHeader header = true →
      decode (encode header payload) = some { header, payload }) ∧
    (∀ bytes : Bytes, (decode bytes).isSome = true ↔
      ∃ _ : 28 ≤ bytes.length, bytes[24] ≤ 3 ∧ bytes[25] &&& 0xc0 = 0 ∧ bytes[26] = 28 ∧
        bytes[27] = 0) ∧
    (∀ (bytes : Bytes) (header : Header) (payload : Bytes),
      decode bytes = some { header, payload } → encode header payload = bytes) ∧
    ∀ bytes : Bytes, decodeChecked bytes = some (decode bytes) := by
  refine ⟨fun header payload hvalid => decode_encode hvalid payload, fun bytes => ?_,
    fun bytes header payload => @encode_decode bytes { header, payload }, decodeChecked_eq⟩
  rw [Option.isSome_iff_exists]
  constructor
  · rintro ⟨packet, h⟩
    obtain ⟨hlen, channelType, htype, hflags, hheader, hreserved, -⟩ := decode_eq_some.1 h
    exact ⟨hlen, ChannelType.exists_toByte.1 ⟨channelType, htype⟩, hflags, hheader, hreserved⟩
  · rintro ⟨hlen, hchannel, hflags, hheader, hreserved⟩
    obtain ⟨channelType, htype⟩ := ChannelType.exists_toByte.2 hchannel
    exact ⟨_, decode_eq_some.2 ⟨hlen, channelType, htype, hflags, hheader, hreserved, rfl⟩⟩

theorem codec_bijection_ping :
    isValidHeader { connId := 7, flags := 0x08 } = true ∧
      decode (encode { connId := 7, flags := 0x08 } [1, 2]) =
        some { header := { connId := 7, flags := 0x08 }, payload := [1, 2] } :=
  ⟨by decide, codec_bijection.1 _ _ (by decide)⟩

end Rudp
