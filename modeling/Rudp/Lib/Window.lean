import Mathlib

/-!
# Sliding bitmaps

A receiver that must remember which of a stream of numbered items it has seen, in bounded space,
keeps a *front* and a bitmap: everything below the front has been seen, the front itself has
not, and bit `i` tells whether `front + 1 + i` has. `Tracks` states this against the set `R` of
items seen, with the items counted in `ℕ` so that no wrap-around gets in the way.

There are two updates. An item above the front sets its bit (`Tracks.mark`). The front item
itself moves the front past the run of items seen directly above it, and the bitmap has to be
re-based by **one more** position than the run is long (`Tracks.slide`): one for the item that
arrived, and one for every item of the run. `Tracks.bits_unique` says there is no other bitmap to
choose, which is what makes a wrong shift visible.
-/

namespace Window

variable {v : ℕ}

/-- The front and the bitmap describe the set `R` of items seen. -/
structure Tracks (front : ℕ) (bits : BitVec v) (R : Set ℕ) : Prop where
  below : ∀ j < front, j ∈ R
  front_notMem : front ∉ R
  bitmap : ∀ i < v, bits.getLsbD i = true ↔ front + 1 + i ∈ R
  bound : ∀ j ∈ R, j ≤ front + v

theorem tracks_empty : Tracks 0 0#v ∅ where
  below := fun _ hj => absurd hj (Nat.not_lt_zero _)
  front_notMem := Set.notMem_empty 0
  bitmap := fun i _ => by simp
  bound := fun _ hj => absurd hj (Set.notMem_empty _)

/-- The bitmap is determined by the front and the set. -/
theorem Tracks.bits_unique {front : ℕ} {bits bits' : BitVec v} {R : Set ℕ}
    (h : Tracks front bits R) (h' : Tracks front bits' R) : bits = bits' := by
  refine BitVec.eq_of_getLsbD_eq fun i hi => ?_
  rw [Bool.eq_iff_iff, h.bitmap i hi, h'.bitmap i hi]

/-- A bitmap with more bits at the same front describes a larger set. -/
theorem Tracks.mono {front : ℕ} {bits bits' : BitVec v} {R R' : Set ℕ} (h : Tracks front bits R)
    (h' : Tracks front bits' R') (hle : ∀ i < v, bits.getLsbD i = true → bits'.getLsbD i = true) :
    R ⊆ R' := by
  intro j hj
  rcases Nat.lt_trichotomy j front with hlt | rfl | hgt
  · exact h'.below j hlt
  · exact absurd hj h.front_notMem
  · obtain ⟨i, rfl⟩ := Nat.exists_eq_add_of_le (Nat.succ_le_of_lt hgt)
    have hi : i < v := by
      have := h.bound _ hj
      omega
    exact (h'.bitmap i hi).1 (hle i hi ((h.bitmap i hi).2 hj))

/-- A front whose set contains another one is not behind it. -/
theorem Tracks.front_le {front front' : ℕ} {bits bits' : BitVec v} {R R' : Set ℕ}
    (h : Tracks front bits R) (h' : Tracks front' bits' R') (hsub : R ⊆ R') : front ≤ front' := by
  by_contra hlt
  exact h'.front_notMem (hsub (h.below front' (Nat.lt_of_not_le hlt)))

/-! ## Items above the front -/

/-- Set one bit. -/
def setBit (bits : BitVec v) (i : ℕ) : BitVec v := bits ||| (1#v <<< i)

theorem getLsbD_one_shiftLeft (i : ℕ) {j : ℕ} (hj : j < v) :
    (1#v <<< i).getLsbD j = decide (j = i) := by
  rw [BitVec.getLsbD_shiftLeft, BitVec.getLsbD_one]
  rcases Nat.lt_trichotomy j i with h | rfl | h
  · simp [h, Nat.ne_of_lt h]
  · simp [hj, Nat.zero_lt_of_lt hj]
  · simp [Nat.not_lt.2 h.le, Nat.ne_of_gt h, Nat.sub_ne_zero_of_lt h]

theorem getLsbD_setBit (bits : BitVec v) (i : ℕ) {j : ℕ} (hj : j < v) :
    (setBit bits i).getLsbD j = (bits.getLsbD j || decide (j = i)) := by
  rw [setBit, BitVec.getLsbD_or, getLsbD_one_shiftLeft i hj]

/-- Masking with one bit tests that bit. -/
theorem and_bit_ne_zero_iff (bits : BitVec v) {i : ℕ} (hi : i < v) :
    bits &&& (1#v <<< i) ≠ 0#v ↔ bits.getLsbD i = true := by
  constructor
  · intro hne
    by_contra hbit
    rw [Bool.not_eq_true] at hbit
    refine hne (BitVec.eq_of_getLsbD_eq fun j hj => ?_)
    rw [BitVec.getLsbD_and, getLsbD_one_shiftLeft i hj, BitVec.getLsbD_zero]
    by_cases hji : j = i
    · rw [hji, hbit, Bool.false_and]
    · rw [decide_eq_false hji, Bool.and_false]
  · intro hbit hzero
    have := congrArg (fun x : BitVec v => x.getLsbD i) hzero
    simp only [BitVec.getLsbD_and, getLsbD_one_shiftLeft i hi, hbit, BitVec.getLsbD_zero,
      decide_true, Bool.and_self, Bool.true_eq_false] at this

/-- An item above the front sets its bit. -/
theorem Tracks.mark {front : ℕ} {bits : BitVec v} {R : Set ℕ} (h : Tracks front bits R) {i : ℕ}
    (hi : i < v) : Tracks front (setBit bits i) (insert (front + 1 + i) R) where
  below := fun j hj => Set.mem_insert_of_mem _ (h.below j hj)
  front_notMem := by
    rw [Set.mem_insert_iff, not_or]
    exact ⟨by omega, h.front_notMem⟩
  bitmap := fun j hj => by
    rw [getLsbD_setBit bits i hj, Bool.or_eq_true, decide_eq_true_eq, h.bitmap j hj,
      Set.mem_insert_iff, Nat.add_left_cancel_iff, or_comm]
  bound := fun j hj => by
    rcases hj with rfl | hj
    · omega
    · exact h.bound j hj

/-! ## The front item -/

/-- `k` is the length of the run of set bits at the bottom of the bitmap. -/
structure LowRun (bits : BitVec v) (k : ℕ) : Prop where
  run : ∀ i < k, bits.getLsbD i = true
  stop : bits.getLsbD k = false

theorem LowRun.le {bits : BitVec v} {k : ℕ} (h : LowRun bits k) : k ≤ v := by
  by_contra hk
  have := h.run v (by omega)
  rw [BitVec.getLsbD_of_ge bits v le_rfl] at this
  cases this

theorem LowRun.eq_zero {bits : BitVec v} {k : ℕ} (h : LowRun bits k)
    (hlow : bits.getLsbD 0 = false) : k = 0 := by
  by_contra hk
  have := h.run 0 (by omega)
  rw [hlow] at this
  cases this

/-- A bitmap that stays the same when it is shifted past its run has no run. -/
theorem LowRun.eq_zero_of_shift {bits : BitVec v} {k : ℕ} (hk : LowRun bits k)
    (h : bits >>> k = bits) : k = 0 := by
  by_contra hpos
  have hlow := hk.run 0 (Nat.pos_of_ne_zero hpos)
  have hstop := hk.stop
  rw [← h, BitVec.getLsbD_ushiftRight, Nat.add_zero, hstop] at hlow
  cases hlow

/-- The front item moves the front past the run above it; the bitmap moves one further. -/
theorem Tracks.slide {front : ℕ} {bits : BitVec v} {R : Set ℕ} (h : Tracks front bits R) {k : ℕ}
    (hk : LowRun bits k) :
    Tracks (front + 1 + k) (bits >>> (k + 1)) (insert front R) where
  below := fun j hj => by
    rcases Nat.lt_trichotomy j front with hlt | rfl | hgt
    · exact Set.mem_insert_of_mem _ (h.below j hlt)
    · exact Set.mem_insert _ _
    · have hrun := hk.run (j - front - 1) (by omega)
      rw [h.bitmap _ (BitVec.lt_of_getLsbD hrun)] at hrun
      rw [show front + 1 + (j - front - 1) = j by omega] at hrun
      exact Set.mem_insert_of_mem _ hrun
  front_notMem := by
    rw [Set.mem_insert_iff, not_or]
    refine ⟨by omega, fun hmem => ?_⟩
    have hlt : k < v := by
      have := h.bound _ hmem
      omega
    have hbit := (h.bitmap k hlt).2 hmem
    rw [hk.stop] at hbit
    cases hbit
  bitmap := fun i hi => by
    rw [BitVec.getLsbD_ushiftRight, Set.mem_insert_iff]
    rcases Nat.lt_or_ge (k + 1 + i) v with hlt | hge
    · rw [h.bitmap _ hlt, show front + 1 + (k + 1 + i) = front + 1 + k + 1 + i by omega]
      constructor
      · exact Or.inr
      · rintro (heq | hmem)
        · omega
        · exact hmem
    · rw [BitVec.getLsbD_of_ge _ _ hge]
      simp only [Bool.false_eq_true, false_iff, not_or]
      refine ⟨by omega, fun hmem => ?_⟩
      have := h.bound _ hmem
      omega
  bound := fun j hj => by
    rcases hj with rfl | hj
    · omega
    · have := h.bound j hj
      omega

/-! ## Bitmaps with a single run -/

/-- Every bit below a set bit is set: there is no gap between the items recorded. -/
def Contiguous (bits : BitVec v) : Prop :=
  ∀ j < v, bits.getLsbD j = true → ∀ i < j, bits.getLsbD i = true

instance (bits : BitVec v) : Decidable (Contiguous bits) :=
  inferInstanceAs
    (Decidable (∀ j < v, bits.getLsbD j = true → ∀ i < j, bits.getLsbD i = true))

/-- Shifting by the length of the low run leaves nothing exactly when the bitmap is contiguous. -/
theorem LowRun.shift_eq_zero_iff {bits : BitVec v} {k : ℕ} (hk : LowRun bits k) :
    bits >>> k = 0#v ↔ Contiguous bits := by
  constructor
  · intro hzero j hj hbit i hij
    by_contra hi
    -- A set bit above an unset one survives the shift.
    have hki : k ≤ i := by
      by_contra hlt
      exact hi (hk.run i (by omega))
    have hshift : (bits >>> k).getLsbD (j - k) = true := by
      rw [BitVec.getLsbD_ushiftRight, show k + (j - k) = j by omega, hbit]
    rw [hzero] at hshift
    simp at hshift
  · intro hc
    refine BitVec.eq_of_getLsbD_eq fun i hi => ?_
    rw [BitVec.getLsbD_ushiftRight, BitVec.getLsbD_zero]
    by_contra hbit
    rw [Bool.not_eq_false] at hbit
    have hlt := BitVec.lt_of_getLsbD hbit
    rcases Nat.eq_zero_or_pos i with rfl | hpos
    · rw [Nat.add_zero, hk.stop] at hbit
      cases hbit
    · have := hc _ hlt hbit k (by omega)
      rw [hk.stop] at this
      cases this

/-- One position more makes a difference exactly when something is left above the run. -/
theorem LowRun.shift_succ_eq_iff {bits : BitVec v} {k : ℕ} (hk : LowRun bits k) :
    bits >>> (k + 1) = bits >>> k ↔ Contiguous bits := by
  rw [← hk.shift_eq_zero_iff]
  constructor
  · intro heq
    -- Bit `k` is unset, and each bit above equals the one below it.
    have hall : ∀ i, (bits >>> k).getLsbD i = false := by
      intro i
      induction i with
      | zero => rw [BitVec.getLsbD_ushiftRight, Nat.add_zero, hk.stop]
      | succ i ih =>
        rw [← heq, BitVec.getLsbD_ushiftRight] at ih
        rw [BitVec.getLsbD_ushiftRight, show k + (i + 1) = k + 1 + i by omega, ih]
    exact BitVec.eq_of_getLsbD_eq fun i _ => by rw [hall i, BitVec.getLsbD_zero]
  · intro hzero
    rw [BitVec.shiftRight_add, hzero, BitVec.zero_ushiftRight]

/-! ## The highest bit -/

/-- `h` is the index of the highest set bit. -/
structure HighestBit (bits : BitVec v) (h : ℕ) : Prop where
  set : bits.getLsbD h = true
  above : ∀ j, h < j → bits.getLsbD j = false

theorem HighestBit.ne_zero {bits : BitVec v} {h : ℕ} (hbit : HighestBit bits h) : bits ≠ 0#v := by
  rintro rfl
  simpa using hbit.set

theorem HighestBit.unique {bits : BitVec v} {h h' : ℕ} (hbit : HighestBit bits h)
    (hbit' : HighestBit bits h') : h = h' := by
  rcases Nat.lt_trichotomy h h' with hlt | heq | hgt
  · have := hbit.above h' hlt
    rw [hbit'.set] at this
    cases this
  · exact heq
  · have := hbit'.above h hgt
    rw [hbit.set] at this
    cases this

/-- Counting leading zeros finds it. -/
theorem highestBit_clz {bits : BitVec v} (hne : bits ≠ 0#v) :
    HighestBit bits (v - 1 - bits.clz.toNat) := by
  have hv : 0 < v := by
    rcases Nat.eq_zero_or_pos v with rfl | hpos
    · exact absurd (BitVec.eq_nil bits) hne
    · exact hpos
  refine ⟨BitVec.getLsbD_true_clz_of_ne_zero hv hne, ?_⟩
  intro j hj
  rw [BitVec.getLsbD]
  refine Nat.testBit_lt_two_pow (lt_of_lt_of_le BitVec.toNat_lt_two_pow_sub_clz ?_)
  exact Nat.pow_le_pow_right (by decide) (by omega)

end Window
