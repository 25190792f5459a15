import Mathlib

/-!
# Registries of identifiers

Owners hold identifiers that are issued to them and retired after use. An identifier is issued
only if nobody holds it and it was never retired; then no identifier is ever issued twice, and no
two owners hold the same one. Identifiers that must not be issued at all are retired from the
start.
-/

variable {κ ι : Type*}

/-- Who holds what, what was retired, and what was issued so far. -/
@[ext]
structure Registry (κ ι : Type*) where
  holds : κ → Option ι
  retired : Set ι
  issued : List ι

namespace Registry

/-- The identifier may be issued. -/
def Fresh (r : Registry κ ι) (i : ι) : Prop := i ∉ r.retired ∧ ∀ k, r.holds k ≠ some i

section Operations

variable [DecidableEq κ]

/-- `k` gets the identifier `i`. -/
def issue (r : Registry κ ι) (k : κ) (i : ι) : Registry κ ι where
  holds := Function.update r.holds k (some i)
  retired := r.retired
  issued := r.issued ++ [i]

/-- `k` gives up its identifier `i`, for good. -/
def retire (r : Registry κ ι) (k : κ) (i : ι) : Registry κ ι where
  holds := Function.update r.holds k none
  retired := insert i r.retired
  issued := r.issued

end Operations

structure Valid (r : Registry κ ι) : Prop where
  unique : ∀ {k k' : κ} {i : ι}, r.holds k = some i → r.holds k' = some i → k = k'
  live : ∀ {k : κ} {i : ι}, r.holds k = some i → i ∉ r.retired
  known : ∀ i ∈ r.issued, i ∈ r.retired ∨ ∃ k, r.holds k = some i
  nodup : r.issued.Nodup

variable {r : Registry κ ι}

/-- A fresh identifier was never issued. -/
theorem Valid.notMem_issued (h : r.Valid) {i : ι} (hi : r.Fresh i) : i ∉ r.issued := by
  intro hmem
  rcases h.known i hmem with hretired | ⟨k, hk⟩
  · exact hi.1 hretired
  · exact hi.2 k hk

variable [DecidableEq κ]

theorem Valid.issue (h : r.Valid) {k : κ} {i : ι} (hk : r.holds k = none) (hi : r.Fresh i) :
    (r.issue k i).Valid where
  unique := fun {a b j} ha hb => by
    simp only [Registry.issue, Function.update_apply] at ha hb
    split_ifs at ha hb with hak hbk hbk
    · rw [hak, hbk]
    · obtain rfl := Option.some.inj ha
      exact absurd hb (hi.2 b)
    · obtain rfl := Option.some.inj hb
      exact absurd ha (hi.2 a)
    · exact h.unique ha hb
  live := fun {a j} ha => by
    simp only [Registry.issue, Function.update_apply] at ha
    split_ifs at ha with hak
    · obtain rfl := Option.some.inj ha
      exact hi.1
    · exact h.live ha
  known := fun j hj => by
    rcases List.mem_append.1 hj with hj | hj
    · rcases h.known j hj with hretired | ⟨a, ha⟩
      · exact Or.inl hretired
      · refine Or.inr ⟨a, ?_⟩
        have hak : a ≠ k := fun heq => by
          rw [heq, hk] at ha
          cases ha
        exact (Function.update_of_ne hak _ _).trans ha
    · obtain rfl := List.mem_singleton.1 hj
      exact Or.inr ⟨k, Function.update_self _ _ _⟩
  nodup := List.nodup_append.2 ⟨h.nodup, List.nodup_singleton i, fun a ha b hb hab =>
    h.notMem_issued hi (List.mem_singleton.1 hb ▸ hab ▸ ha)⟩

theorem Valid.retire (h : r.Valid) {k : κ} {i : ι} (hk : r.holds k = some i) :
    (r.retire k i).Valid where
  unique := fun {a b j} ha hb => by
    simp only [Registry.retire, Function.update_apply] at ha hb
    split_ifs at ha hb
    exact h.unique ha hb
  live := fun {a j} ha hj => by
    simp only [Registry.retire, Function.update_apply] at ha
    split_ifs at ha with hak
    rcases hj with rfl | hj
    · exact hak (h.unique ha hk)
    · exact h.live ha hj
  known := fun j hj => by
    rcases h.known j hj with hretired | ⟨a, ha⟩
    · exact Or.inl (Or.inr hretired)
    · by_cases hak : a = k
      · subst hak
        exact Or.inl (Or.inl (Option.some.inj (ha.symm.trans hk)))
      · exact Or.inr ⟨a, (Function.update_of_ne hak _ _).trans ha⟩
  nodup := h.nodup

end Registry
