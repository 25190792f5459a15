import Rudp.RxHandler
import Rudp.Lib.Run

/-!
# The receive window

What the receiver acknowledges, compared with what it received. The source keeps a front
`next_expected` and a bitmap relative to it; the library's `Window.Tracks` says what that pair
has to mean.

`advance_receive_window` moves the front by one for the packet that arrived and by one for every
packet of the run above it, but shifts the bitmap only for the latter. The bitmap is then one
position off, unless nothing was left in it. `windowExact_iff_contiguous` makes this exact: the
window describes what arrived after every packet of a run **if and only if** the bitmap was
contiguous each time the packet at the front arrived.
-/

namespace Rudp

open Serial Window RxHandler

/-! ## One packet -/

theorem and_one_ne_zero_iff (bits : U64) : bits &&& 1 ≠ 0 ↔ bits.getLsbD 0 = true :=
  and_bit_ne_zero_iff bits (show 0 < 64 by decide)

/-- The loop consumes exactly the run of low bits, and shifts by its length. -/
theorem advanceLoop_eq (fuel : ℕ) (nextExpected : U32) (bits : U64) (hfuel : bits.toNat < 2 ^ fuel) :
    ∃ k, LowRun bits k ∧
      advanceLoop fuel nextExpected bits = (ahead nextExpected k, bits >>> k) := by
  induction fuel generalizing nextExpected bits with
  | zero =>
    have hzero : bits = 0 := BitVec.eq_of_toNat_eq (by simp at hfuel ⊢; omega)
    subst hzero
    exact ⟨0, ⟨fun i hi => absurd hi (Nat.not_lt_zero i), by simp⟩, by simp [advanceLoop]⟩
  | succ fuel ih =>
    by_cases hbit : bits.getLsbD 0 = true
    · have hshift : (bits >>> 1).toNat < 2 ^ fuel := by
        rw [BitVec.toNat_ushiftRight, Nat.shiftRight_eq_div_pow]
        omega
      obtain ⟨k, hk, hloop⟩ := ih (nextExpected + 1) (bits >>> 1) hshift
      refine ⟨k + 1, ⟨fun i hi => ?_, ?_⟩, ?_⟩
      · cases i with
        | zero => exact hbit
        | succ i =>
          have := hk.run i (by omega)
          rwa [BitVec.getLsbD_ushiftRight, Nat.add_comm] at this
      · have := hk.stop
        rwa [BitVec.getLsbD_ushiftRight, Nat.add_comm] at this
      · rw [advanceLoop, if_pos ((and_one_ne_zero_iff bits).2 hbit), hloop, Nat.add_comm k 1,
          ahead_add, BitVec.shiftRight_add]
        rfl
    · refine ⟨0, ⟨fun i hi => absurd hi (Nat.not_lt_zero i), by simpa using hbit⟩, ?_⟩
      rw [advanceLoop, if_neg (fun h => hbit ((and_one_ne_zero_iff bits).1 h))]
      simp

/-- **What the packet at the front does to the window**: the front moves past the run above it,
and the bitmap is shifted by the length of the run. -/
theorem advanceReceiveWindow_eq (rx : RxSessionState) :
    ∃ k, LowRun rx.receivedBits k ∧ advanceReceiveWindow rx =
      { rx with
        nextExpected := ahead rx.nextExpected (1 + k)
        receivedBits := rx.receivedBits >>> k } := by
  obtain ⟨k, hk, hloop⟩ :=
    advanceLoop_eq 64 (rx.nextExpected + 1) rx.receivedBits rx.receivedBits.isLt
  exact ⟨k, hk, by rw [advanceReceiveWindow, hloop, ahead_add]; rfl⟩

/-- How far a sequence number lies ahead of the front. -/
def offset (rx : RxSessionState) (seq : U32) : ℕ := (seq - rx.nextExpected).toNat

/-- The kinds of packet that consume a reliable sequence number. -/
def consumesSeq (header : Header) (kind : ControlKind) : Bool :=
  kind = .none && isReliableChannel header.channelType || kind = .syn || kind = .synAck ||
    kind = .fin

theorem touchesWindow_of_consumesSeq {header : Header} {kind : ControlKind}
    (h : consumesSeq header kind = true) : touchesWindow header kind = true := by
  simp only [consumesSeq, touchesWindow, Bool.or_eq_true, Bool.and_eq_true, decide_eq_true_eq]
    at h ⊢
  tauto

section Update

variable {packet : PacketView} {kind : ControlKind} {result : RxPacketResult}
  {rx : RxSessionState}

/-- The record `update_reliable_receive_state` fills in. -/
def ackResult (header : Header) (kind : ControlKind) : RxPacketResult :=
  { scheduleAckOnly := isReliableChannel header.channelType || kind = .fin }

theorem update_of_front (htouch : touchesWindow packet.header kind = true)
    (hne : rx.nextExpected ≠ 0) (hseq : packet.header.seq = rx.nextExpected) :
    updateReliableReceiveState packet kind result rx =
      (true, ackResult packet.header kind, advanceReceiveWindow rx) := by
  simp only [updateReliableReceiveState, htouch, hne, hseq, Bool.not_true, Bool.false_eq_true,
    if_false, if_true]
  rfl

/-- The first packet of a stream sets the front. -/
theorem update_of_unset (htouch : touchesWindow packet.header kind = true)
    (hunset : rx.nextExpected = 0) :
    updateReliableReceiveState packet kind result rx =
      (true, ackResult packet.header kind,
        advanceReceiveWindow { rx with nextExpected := packet.header.seq }) := by
  simp only [updateReliableReceiveState, htouch, hunset, Bool.not_true, Bool.false_eq_true,
    if_false, if_true]
  rfl

theorem update_of_ahead (htouch : touchesWindow packet.header kind = true)
    (hne : rx.nextExpected ≠ 0) {i : ℕ} (hi : i < 64)
    (hseq : offset rx packet.header.seq = i + 1) :
    updateReliableReceiveState packet kind result rx =
      (!rx.receivedBits.getLsbD i, ackResult packet.header kind,
        { rx with receivedBits := setBit rx.receivedBits i }) := by
  rw [offset] at hseq
  have hfront : packet.header.seq ≠ rx.nextExpected := by
    intro h
    rw [h, BitVec.sub_self] at hseq
    simp at hseq
  have hgt : seqGt packet.header.seq rx.nextExpected = true := seqGt_iff.2 (by omega)
  have hle : packet.header.seq - rx.nextExpected ≤ kAckBitsWindow := by
    rw [BitVec.le_def, hseq]
    exact hi
  have hbit : (packet.header.seq - rx.nextExpected - 1).toNat = i := by
    rw [BitVec.toNat_sub, hseq]
    simp
    omega
  have hold : decide (rx.receivedBits &&& 1#64 <<< i ≠ 0) = rx.receivedBits.getLsbD i := by
    rw [Bool.eq_iff_iff, decide_eq_true_eq]
    exact and_bit_ne_zero_iff _ hi
  simp only [updateReliableReceiveState, htouch, hne, hfront, hgt, hle, hbit, Bool.not_true,
    Bool.false_eq_true, if_false, if_true]
  rw [hold]
  rfl

theorem update_of_outside (htouch : touchesWindow packet.header kind = true)
    (hne : rx.nextExpected ≠ 0) (hseq : 64 < offset rx packet.header.seq) :
    updateReliableReceiveState packet kind result rx =
      (false, ackResult packet.header kind, rx) := by
  rw [offset] at hseq
  have hfront : packet.header.seq ≠ rx.nextExpected := by
    intro h
    rw [h, BitVec.sub_self] at hseq
    simp at hseq
  have hle : ¬ packet.header.seq - rx.nextExpected ≤ kAckBitsWindow := by
    rw [BitVec.le_def]
    exact Nat.not_le.2 hseq
  simp only [updateReliableReceiveState, htouch, hne, hfront, hle, Bool.not_true,
    Bool.false_eq_true, if_false, ite_self]
  rfl

theorem update_of_not_touches (htouch : touchesWindow packet.header kind = false) :
    updateReliableReceiveState packet kind result rx = (true, result, rx) := by
  simp [updateReliableReceiveState, htouch]

end Update

/-! ## Delivery leaves the window alone -/

theorem drainLoop_window (fuel : ℕ) (rx : RxSessionState) :
    (drainLoop fuel rx).nextExpected = rx.nextExpected ∧
      (drainLoop fuel rx).receivedBits = rx.receivedBits := by
  induction fuel generalizing rx with
  | zero => exact ⟨rfl, rfl⟩
  | succ fuel ih =>
    rw [drainLoop]
    split
    · exact ⟨rfl, rfl⟩
    · exact ih _

theorem handleReliableOrdered_window (packet : PacketView) (rx : RxSessionState) :
    (handleReliableOrdered packet rx).nextExpected = rx.nextExpected ∧
      (handleReliableOrdered packet rx).receivedBits = rx.receivedBits := by
  simp only [handleReliableOrdered, drainContiguousOrdered, ensureOrderedDeliveryStarted]
  split_ifs <;> first | exact ⟨rfl, rfl⟩ | exact drainLoop_window _ _

theorem deliverData_window (packet : PacketView) (rx : RxSessionState) :
    (deliverData packet rx).nextExpected = rx.nextExpected ∧
      (deliverData packet rx).receivedBits = rx.receivedBits := by
  rw [deliverData]
  split
  · exact handleReliableOrdered_window packet rx
  · exact ⟨rfl, rfl⟩
  · exact ⟨rfl, rfl⟩
  · obtain h | ⟨_, h⟩ := handleMonotonicState_cases packet rx <;> rw [h]
    · exact ⟨rfl, rfl⟩
    · exact ⟨rfl, rfl⟩

/-- The window after a packet is what `update_reliable_receive_state` made of it. -/
theorem onPacket_window (packet : PacketView) (nowMs : U64) (kind : ControlKind)
    (rx : RxSessionState) :
    (onPacket packet nowMs kind rx).2.nextExpected =
        (updateReliableReceiveState packet kind {} rx).2.2.nextExpected ∧
      (onPacket packet nowMs kind rx).2.receivedBits =
        (updateReliableReceiveState packet kind {} rx).2.2.receivedBits := by
  simp only [onPacket]
  split_ifs
  · exact ⟨rfl, rfl⟩
  · exact deliverData_window _ _

/-! ## Runs of arrivals -/

/-- One call of `on_packet`. -/
structure Arrival where
  packet : PacketView
  nowMs : U64 := 0
  kind : ControlKind := .none

def Arrival.seq (a : Arrival) : U32 := a.packet.header.seq

/-- A receiver together with what an observer noted: the sequence numbers that arrived while
they were inside the window, and how far the front has moved in total. -/
structure Receiver where
  rx : RxSessionState
  arrived : List U32 := []
  advanced : ℕ := 0

def Receiver.step (r : Receiver) (a : Arrival) : Receiver :=
  let rx := (onPacket a.packet a.nowMs a.kind r.rx).2
  { rx
    arrived := if offset r.rx a.seq ≤ 64 then a.seq :: r.arrived else r.arrived
    advanced := r.advanced + offset r.rx rx.nextExpected }

/-- The window describes exactly what arrived: everything from `n` up to the front, not the
front itself, and beyond it what the bitmap says. -/
structure WindowExact (n : U32) (r : Receiver) : Prop where
  below : ∀ s, (s - n).toNat < (r.rx.nextExpected - n).toNat → s ∈ r.arrived
  front : r.rx.nextExpected ∉ r.arrived
  bitmap : ∀ i < 64, r.rx.receivedBits.getLsbD i = true ↔
    r.rx.nextExpected + 1 + BitVec.ofNat 32 i ∈ r.arrived

/-- The packet at the front only arrives while the bitmap is contiguous. -/
def ContiguousAtFront (r : Receiver) (a : Arrival) : Prop :=
  a.seq = r.rx.nextExpected → Contiguous r.rx.receivedBits

instance (r : Receiver) (a : Arrival) : Decidable (ContiguousAtFront r a) :=
  inferInstanceAs (Decidable (a.seq = r.rx.nextExpected → Contiguous r.rx.receivedBits))

/-! ## The refinement -/

/-- What arrived, counted from `n`. -/
def offsets (n : U32) (seqs : List U32) : Set ℕ := {j | ∃ s ∈ seqs, (s - n).toNat = j}

theorem mem_offsets_ahead {n : U32} {seqs : List U32} {j : ℕ} (hj : j < 2 ^ 32) :
    j ∈ offsets n seqs ↔ ahead n j ∈ seqs := by
  constructor
  · rintro ⟨s, hs, rfl⟩
    rwa [ahead_toNat_sub]
  · intro h
    exact ⟨_, h, toNat_ahead_sub_base n hj⟩

theorem offsets_cons (n : U32) (s : U32) (seqs : List U32) :
    offsets n (s :: seqs) = insert (s - n).toNat (offsets n seqs) := by
  ext j
  simp only [offsets, List.mem_cons, Set.mem_ofPred_eq, Set.mem_insert_iff]
  constructor
  · rintro ⟨t, rfl | ht, rfl⟩
    · exact Or.inl rfl
    · exact Or.inr ⟨t, ht, rfl⟩
  · rintro (rfl | ⟨t, ht, rfl⟩)
    · exact ⟨s, Or.inl rfl, rfl⟩
    · exact ⟨t, Or.inr ht, rfl⟩

/-- The abstraction: the front counted from `n`, and the bitmap tracking what arrived. -/
structure Refines (n : U32) (r : Receiver) : Prop where
  front : r.rx.nextExpected = ahead n r.advanced
  tracks : Tracks r.advanced r.rx.receivedBits (offsets n r.arrived)

/-- On the circle `WindowExact` is what `Tracks` is on the counts. -/
theorem windowExact_iff_tracks {n : U32} {r : Receiver}
    (hfront : r.rx.nextExpected = ahead n r.advanced) (hadv : r.advanced < 2 ^ 31)
    (hbound : ∀ j ∈ offsets n r.arrived, j ≤ r.advanced + 64) :
    WindowExact n r ↔ Tracks r.advanced r.rx.receivedBits (offsets n r.arrived) := by
  have hne : (r.rx.nextExpected - n).toNat = r.advanced := by
    rw [hfront, toNat_ahead_sub_base n (by omega)]
  have hbit : ∀ i < 64, r.rx.nextExpected + 1 + BitVec.ofNat 32 i ∈ r.arrived ↔
      r.advanced + 1 + i ∈ offsets n r.arrived := by
    intro i hi
    rw [mem_offsets_ahead (by omega), ahead_add, ahead_succ, ← hfront]
    rfl
  constructor
  · intro h
    refine ⟨fun j hj => ?_, ?_, fun i hi => ?_, hbound⟩
    · rw [mem_offsets_ahead (by omega)]
      refine h.below _ ?_
      rwa [toNat_ahead_sub_base n (by omega), hne]
    · rw [mem_offsets_ahead (by omega), ← hfront]
      exact h.front
    · rw [h.bitmap i hi, hbit i hi]
  · intro h
    refine ⟨fun s hs => ?_, ?_, fun i hi => ?_⟩
    · rw [hne] at hs
      have := h.below _ hs
      rwa [mem_offsets_ahead (by omega), ahead_toNat_sub] at this
    · have := h.front_notMem
      rwa [mem_offsets_ahead (by omega), ← hfront] at this
    · rw [h.bitmap i hi, hbit i hi]

theorem Refines.windowExact {n : U32} {r : Receiver} (h : Refines n r)
    (hadv : r.advanced < 2 ^ 31) : WindowExact n r :=
  (windowExact_iff_tracks h.front hadv h.tracks.bound).2 h.tracks

section Step

variable {n : U32} {r : Receiver} {a : Arrival}

theorem offset_front (rx : RxSessionState) : offset rx rx.nextExpected = 0 := by
  simp [offset]

theorem offset_ahead (rx : RxSessionState) {j : ℕ} (hj : j < 2 ^ 32) :
    offset rx (ahead rx.nextExpected j) = j := toNat_ahead_sub_base _ hj

theorem step_of_front (htouch : touchesWindow a.packet.header a.kind = true)
    (hne : r.rx.nextExpected ≠ 0) (hseq : a.seq = r.rx.nextExpected) :
    ∃ k, LowRun r.rx.receivedBits k ∧
      (r.step a).rx.nextExpected = ahead r.rx.nextExpected (1 + k) ∧
      (r.step a).rx.receivedBits = r.rx.receivedBits >>> k ∧
      (r.step a).arrived = a.seq :: r.arrived ∧ (r.step a).advanced = r.advanced + (1 + k) := by
  obtain ⟨k, hk, hadv⟩ := advanceReceiveWindow_eq r.rx
  obtain ⟨hnext, hbits⟩ := onPacket_window a.packet a.nowMs a.kind r.rx
  rw [update_of_front htouch hne hseq, hadv] at hnext hbits
  have hk64 := hk.le
  refine ⟨k, hk, hnext, hbits, ?_, ?_⟩
  · rw [Receiver.step, hseq, offset_front]
    rfl
  · simp only [Receiver.step]
    rw [hnext, offset_ahead _ (by omega)]

theorem step_of_ahead (htouch : touchesWindow a.packet.header a.kind = true)
    (hne : r.rx.nextExpected ≠ 0) {i : ℕ} (hi : i < 64) (hseq : offset r.rx a.seq = i + 1) :
    (r.step a).rx.nextExpected = r.rx.nextExpected ∧
      (r.step a).rx.receivedBits = setBit r.rx.receivedBits i ∧
      (r.step a).arrived = a.seq :: r.arrived ∧ (r.step a).advanced = r.advanced := by
  obtain ⟨hnext, hbits⟩ := onPacket_window a.packet a.nowMs a.kind r.rx
  rw [update_of_ahead htouch hne hi hseq] at hnext hbits
  refine ⟨hnext, hbits, ?_, ?_⟩
  · rw [Receiver.step, hseq, if_pos (by omega)]
  · simp only [Receiver.step]
    rw [hnext, offset_front, Nat.add_zero]

theorem step_of_outside (htouch : touchesWindow a.packet.header a.kind = true)
    (hne : r.rx.nextExpected ≠ 0) (hseq : 64 < offset r.rx a.seq) :
    (r.step a).rx.nextExpected = r.rx.nextExpected ∧
      (r.step a).rx.receivedBits = r.rx.receivedBits ∧
      (r.step a).arrived = r.arrived ∧ (r.step a).advanced = r.advanced := by
  obtain ⟨hnext, hbits⟩ := onPacket_window a.packet a.nowMs a.kind r.rx
  rw [update_of_outside htouch hne hseq] at hnext hbits
  refine ⟨hnext, hbits, ?_, ?_⟩
  · rw [Receiver.step, if_neg (by omega)]
  · simp only [Receiver.step]
    rw [hnext, offset_front, Nat.add_zero]

/-- The front moves by at most the length of the bitmap and one. -/
theorem advanced_le_step (r : Receiver) (a : Arrival) : r.advanced ≤ (r.step a).advanced :=
  Nat.le_add_right _ _

/-- **One packet.** Under the condition, the window keeps describing what arrived. -/
theorem Refines.step (h : Refines n r) (htouch : touchesWindow a.packet.header a.kind = true)
    (hne : r.rx.nextExpected ≠ 0) (hadv : r.advanced < 2 ^ 31) (hc : ContiguousAtFront r a) :
    Refines n (r.step a) := by
  have hseq : a.seq = ahead n (r.advanced + offset r.rx a.seq) := by
    rw [ahead_add, ← h.front, offset, ahead_toNat_sub]
  rcases Nat.eq_zero_or_pos (offset r.rx a.seq) with hzero | hpos
  · have hfront : a.seq = r.rx.nextExpected := by rw [hseq, hzero, Nat.add_zero, h.front]
    obtain ⟨k, hk, hnext, hbits, harr, hadv'⟩ := step_of_front htouch hne hfront
    refine ⟨?_, ?_⟩
    · rw [hnext, hadv', ahead_add n, ← h.front]
    · -- Nothing was left above the run, so one position more or less is the same.
      rw [hadv', hbits, ← hk.shift_succ_eq_iff.2 (hc hfront), harr, offsets_cons, hfront, h.front,
        toNat_ahead_sub_base n (by omega), ← Nat.add_assoc]
      exact h.tracks.slide hk
  · rcases Nat.lt_or_ge 64 (offset r.rx a.seq) with hout | hin
    · obtain ⟨hnext, hbits, harr, hadv'⟩ := step_of_outside htouch hne hout
      exact ⟨by rw [hnext, hadv', h.front], by rw [hadv', hbits, harr]; exact h.tracks⟩
    · obtain ⟨i, hi⟩ : ∃ i, offset r.rx a.seq = i + 1 := ⟨_, (Nat.sub_add_cancel hpos).symm⟩
      obtain ⟨hnext, hbits, harr, hadv'⟩ := step_of_ahead htouch hne (by omega) hi
      refine ⟨by rw [hnext, hadv', h.front], ?_⟩
      have hoff : (a.seq - n).toNat = r.advanced + 1 + i := by
        rw [hseq, toNat_ahead_sub_base n (by omega)]
        omega
      rw [hadv', hbits, harr, offsets_cons, hoff]
      exact h.tracks.mark (by omega)

/-- **One packet, the other way.** If the packet at the front arrives while something is left
above the run, the window is wrong afterwards. -/
theorem Refines.not_windowExact_step (h : Refines n r)
    (htouch : touchesWindow a.packet.header a.kind = true) (hne : r.rx.nextExpected ≠ 0)
    (hadv : (r.step a).advanced < 2 ^ 31) (hc : ¬ ContiguousAtFront r a) :
    ¬ WindowExact n (r.step a) := by
  intro hexact
  rw [ContiguousAtFront, Classical.not_imp] at hc
  obtain ⟨hfront, hgap⟩ := hc
  obtain ⟨k, hk, hnext, hbits, harr, hadv'⟩ := step_of_front htouch hne hfront
  have hslide := h.tracks.slide hk
  have harr' : offsets n (r.step a).arrived = insert r.advanced (offsets n r.arrived) := by
    rw [harr, offsets_cons, hfront, h.front, toNat_ahead_sub_base n (by omega)]
  rw [Nat.add_assoc, ← hadv', ← harr'] at hslide
  have hnext' : (r.step a).rx.nextExpected = ahead n (r.step a).advanced := by
    rw [hnext, hadv', ahead_add n, ← h.front]
  have htracks := (windowExact_iff_tracks hnext' hadv hslide.bound).1 hexact
  rw [hbits] at htracks
  exact hgap (hk.shift_succ_eq_iff.1 (hslide.bits_unique htracks))

end Step

/-! ## Whole runs -/

theorem advanced_le_run (r : Receiver) (as : List Arrival) :
    r.advanced ≤ (Run.run Receiver.step r as).advanced :=
  Run.invariant (fun r' => r.advanced ≤ r'.advanced)
    (fun r' a h => h.trans (advanced_le_step r' a)) le_rfl as

theorem windowExact_run_iff {n : U32} {r : Receiver} (h : Refines n r) (as : List Arrival)
    (htouch : ∀ a ∈ as, touchesWindow a.packet.header a.kind = true)
    (hne : ∀ bs, bs <+: as → (Run.run Receiver.step r bs).rx.nextExpected ≠ 0)
    (hadv : (Run.run Receiver.step r as).advanced < 2 ^ 31) :
    (∀ bs, bs <+: as → WindowExact n (Run.run Receiver.step r bs)) ↔
      Run.Along Receiver.step ContiguousAtFront r as := by
  induction as generalizing r with
  | nil =>
    refine ⟨fun _ => trivial, fun _ bs hbs => ?_⟩
    rw [List.prefix_nil.1 hbs]
    exact h.windowExact hadv
  | cons a as ih =>
    have hta := htouch a List.mem_cons_self
    have hnil : r.rx.nextExpected ≠ 0 := hne [] (List.nil_prefix)
    have hstep : (r.step a).advanced < 2 ^ 31 := (advanced_le_run (r.step a) as).trans_lt hadv
    have hr : r.advanced < 2 ^ 31 := (advanced_le_step r a).trans_lt hstep
    have hcons : (∀ bs, bs <+: a :: as → WindowExact n (Run.run Receiver.step r bs)) ↔
        ∀ bs, bs <+: as → WindowExact n (Run.run Receiver.step (r.step a) bs) := by
      rw [Run.forall_prefix_cons]
      exact and_iff_right (h.windowExact hr)
    rw [hcons]
    by_cases hc : ContiguousAtFront r a
    · rw [ih (h.step hta hnil hr hc) (fun b hb => htouch b (List.mem_cons_of_mem a hb))
        (fun bs hbs => hne (a :: bs) (List.cons_prefix_cons.2 ⟨rfl, hbs⟩)) hadv]
      exact ⟨fun hrest => ⟨hc, hrest⟩, And.right⟩
    · refine ⟨fun hall => ?_, fun hrun => absurd hrun.1 hc⟩
      exact absurd (hall [] List.nil_prefix) (h.not_windowExact_step hta hnil hstep hc)

/-- **The window is exact if and only if no front packet meets a gap.** Start a receiver at `n`
with an empty bitmap and feed it packets that consume sequence numbers, in any order, with any
duplicates and gaps, so that the front never rests on 0 and moves by less than half the circle.
After every packet the window describes exactly what arrived if and only if, each time the packet
at the front arrived, the bits set formed a single run from bit 0. -/
theorem windowExact_iff_contiguous {n : U32} (rx : RxSessionState)
    (hstart : rx.nextExpected = n) (hempty : rx.receivedBits = 0) (as : List Arrival)
    (hseq : ∀ a ∈ as, consumesSeq a.packet.header a.kind = true)
    (hne : ∀ bs, bs <+: as → (Run.run Receiver.step { rx } bs).rx.nextExpected ≠ 0)
    (hadv : (Run.run Receiver.step { rx } as).advanced < 2 ^ 31) :
    (∀ bs, bs <+: as → WindowExact n (Run.run Receiver.step { rx } bs)) ↔
      Run.Along Receiver.step ContiguousAtFront { rx } as := by
  refine windowExact_run_iff ⟨?_, ?_⟩ as
    (fun a ha => touchesWindow_of_consumesSeq (hseq a ha)) hne hadv
  · rw [ahead_zero]
    exact hstart
  · have hnone : offsets n [] = ∅ := by
      ext j
      simp [offsets]
    show Tracks 0 rx.receivedBits (offsets n [])
    rw [hempty, hnone]
    exact tracks_empty

/-- A reliable packet on an unordered channel. -/
def unorderedAt (seq : U32) : Arrival :=
  { packet := { header := { seq, channelId := 1, channelType := .reliableUnordered },
                payload := [0x01] } }

/-- A receiver that expects packet 100. -/
def expects100 : RxSessionState := { nextExpected := 100 }

/-- A single gap is handled: 101 arrives early, then 100. -/
theorem windowExact_single_gap :
    WindowExact 100
      (Run.run Receiver.step { rx := expects100 } [unorderedAt 101, unorderedAt 100]) :=
  (windowExact_iff_contiguous expects100 rfl rfl [unorderedAt 101, unorderedAt 100] (by decide)
    (by simp only [← List.mem_inits]; decide) (by decide)).2 (by decide) _ (List.prefix_refl _)

/-- Two gaps are not: 102 arrives early, then 100. The receiver now acknowledges 103, which it
never saw, and has forgotten 102. -/
theorem window_misaligned_two_gaps :
    (∀ a ∈ [unorderedAt 102, unorderedAt 100], consumesSeq a.packet.header a.kind = true) ∧
      (∀ bs, bs <+: [unorderedAt 102, unorderedAt 100] →
        (Run.run Receiver.step { rx := expects100 } bs).rx.nextExpected ≠ 0) ∧
      (Run.run Receiver.step { rx := expects100 } [unorderedAt 102, unorderedAt 100]).advanced <
        2 ^ 31 ∧
      ¬ WindowExact 100
        (Run.run Receiver.step { rx := expects100 } [unorderedAt 102, unorderedAt 100]) := by
  refine ⟨by decide, by simp only [← List.mem_inits]; decide, by decide, fun h => ?_⟩
  have harrived := (h.bitmap 1 (by decide)).1 (by decide)
  exact absurd harrived (by decide)

end Rudp
