import Mathlib

/-!
# Serial numbers

Counters that live on a circle of `2 ^ w` values. Nothing on the circle is absolutely before
anything else; what makes sense is how far a point lies *ahead* of another one, and that is what
every proof about a wrapping counter comes down to.

A counter that started at `base` and was incremented `j` times is `ahead base j`. The theorems
translate the two wrapping operations programs use, unsigned subtraction and the sign test on
the difference, into ordinary arithmetic on the counts `j`.
-/

namespace Serial

variable {w : ℕ}

/-- The point `j` steps ahead of `base`. -/
def ahead (base : BitVec w) (j : ℕ) : BitVec w := base + BitVec.ofNat w j

@[simp] theorem ahead_zero (base : BitVec w) : ahead base 0 = base := by
  simp [ahead]

theorem ahead_add (base : BitVec w) (j k : ℕ) : ahead base (j + k) = ahead (ahead base j) k := by
  simp only [ahead, BitVec.ofNat_add, BitVec.add_assoc]

theorem ahead_succ (base : BitVec w) (j : ℕ) : ahead base (j + 1) = ahead base j + 1 := by
  rw [ahead_add]
  rfl

/-- Every point is some number of steps ahead of any other. -/
theorem ahead_toNat_sub (base a : BitVec w) : ahead base (a - base).toNat = a := by
  simp only [ahead, BitVec.ofNat_toNat, BitVec.setWidth_eq]
  rw [BitVec.add_comm, BitVec.sub_add_cancel]

/-! ## Differences -/

theorem ahead_sub_base (base : BitVec w) (j : ℕ) : ahead base j - base = BitVec.ofNat w j := by
  rw [ahead, BitVec.add_comm, BitVec.add_sub_cancel]

theorem toNat_ahead_sub_base (base : BitVec w) {j : ℕ} (h : j < 2 ^ w) :
    (ahead base j - base).toNat = j := by
  rw [ahead_sub_base, BitVec.toNat_ofNat, Nat.mod_eq_of_lt h]

/-- Going forward, the unsigned difference is the number of steps. -/
theorem toNat_ahead_sub_ahead {base : BitVec w} {f j : ℕ} (hle : f ≤ j) (h : j - f < 2 ^ w) :
    (ahead base j - ahead base f).toNat = j - f := by
  have hj : ahead base j = ahead (ahead base f) (j - f) := by
    rw [← ahead_add, Nat.add_sub_cancel' hle]
  rw [hj, toNat_ahead_sub_base _ h]

/-- Going backward, the unsigned difference wraps. -/
theorem toNat_ahead_sub_ahead_of_lt {base : BitVec w} {f j : ℕ} (hlt : j < f)
    (h : f - j < 2 ^ w) : (ahead base j - ahead base f).toNat = 2 ^ w - (f - j) := by
  have hf : ahead base f - ahead base j = BitVec.ofNat w (f - j) := by
    have hsplit : ahead base f = ahead (ahead base j) (f - j) := by
      rw [← ahead_add, Nat.add_sub_cancel' hlt.le]
    rw [hsplit, ahead_sub_base]
  have hneg : ahead base j - ahead base f = -(ahead base f - ahead base j) :=
    (neg_sub (ahead base f) (ahead base j)).symm
  rw [hneg, hf, BitVec.toNat_neg, BitVec.toNat_ofNat, Nat.mod_eq_of_lt h, Nat.mod_eq_of_lt]
  omega

theorem ahead_inj {base : BitVec w} {j k : ℕ} (hj : j < 2 ^ w) (hk : k < 2 ^ w) :
    ahead base j = ahead base k ↔ j = k := by
  constructor
  · intro h
    rw [← toNat_ahead_sub_base base hj, h, toNat_ahead_sub_base base hk]
  · rintro rfl
    rfl

/-- Two counts less than a full circle apart are two points. -/
theorem ahead_ne_ahead {base : BitVec w} {j k : ℕ} (hlt : j < k) (h : k - j < 2 ^ w) :
    ahead base j ≠ ahead base k := by
  intro heq
  have hdiff := @toNat_ahead_sub_ahead w base j k hlt.le h
  rw [heq, BitVec.sub_self] at hdiff
  simp at hdiff
  omega

/-! ## The sign test -/

/-- The sign of a difference, as programs compute it: reinterpret the bits as signed. -/
theorem toInt_neg_iff_le (a : BitVec w) : a.toInt < 0 ↔ 2 ^ w ≤ 2 * a.toNat := by
  rw [BitVec.toInt_eq_toNat_cond]
  have := a.isLt
  split_ifs with h
  · omega
  · have : ((2 ^ w : ℕ) : ℤ) = 2 ^ w := by norm_cast
    omega

/-- Within half the circle the sign test orders two counters as their counts are ordered. -/
theorem toInt_ahead_sub_neg_iff {base : BitVec w} {j k : ℕ} (hjk : 2 * (k - j) ≤ 2 ^ w)
    (hkj : 2 * (j - k) < 2 ^ w) : (ahead base j - ahead base k).toInt < 0 ↔ j < k := by
  rw [toInt_neg_iff_le]
  have hpos : 0 < 2 ^ w := Nat.two_pow_pos w
  rcases Nat.lt_or_ge j k with h | h
  · rw [toNat_ahead_sub_ahead_of_lt h (by omega)]
    omega
  · rw [toNat_ahead_sub_ahead h (by omega)]
    omega

end Serial
