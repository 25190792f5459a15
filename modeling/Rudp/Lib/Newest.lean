import Mathlib

/-!
# Registers that keep the newest value

A register is offered one value after the other. It takes a value over if it is newer than the last
one it took, and drops it otherwise. What it took so far is a list in which each value is newer than
the one before.

When "newer" comes from a linear order of keys, the register holds a maximum of everything that was
offered, so it does not depend on the order of the offers or on repetitions; and the keys of what is
taken rise, so it is a sublist of any list with rising keys that contains it.
-/

namespace Newest

variable {α : Type*}

section Register

variable (newer : α → α → Bool)

/-- The value `a` is offered, after the values `taken`. -/
def offer (taken : List α) (a : α) : List α :=
  if taken.getLast?.all fun b => newer a b then taken ++ [a] else taken

/-- What a register takes from a list of offers. -/
def taken (offers : List α) : List α := offers.foldl (offer newer) []

variable {newer}

theorem taken_concat (offers : List α) (a : α) :
    taken newer (offers ++ [a]) = offer newer (taken newer offers) a := by
  rw [taken, List.foldl_concat, ← taken]

theorem taken_sublist (offers : List α) : List.Sublist (taken newer offers) offers := by
  induction offers using List.reverseRecOn with
  | nil => exact List.Sublist.refl []
  | append_singleton offers a ih =>
    rw [taken_concat, offer]
    split_ifs
    · exact ih.append_right [a]
    · exact ih.trans (List.sublist_append_left _ _)

theorem mem_offers_of_mem_taken {offers : List α} {a : α} (h : a ∈ taken newer offers) :
    a ∈ offers := (taken_sublist offers).subset h

theorem mem_offers_of_last {offers : List α} {a : α} (h : (taken newer offers).getLast? = some a) :
    a ∈ offers := mem_offers_of_mem_taken (List.mem_of_getLast? h)

/-- Each value taken is newer than the one before. -/
theorem taken_isChain (offers : List α) :
    (taken newer offers).IsChain fun b a => newer a b = true := by
  induction offers using List.reverseRecOn with
  | nil => exact List.IsChain.nil
  | append_singleton offers a ih =>
    rw [taken_concat, offer]
    split_ifs with hnewer
    · refine ih.append (List.isChain_singleton a) fun b hb c hc => ?_
      obtain rfl : a = c := Option.some.inj hc
      rw [Option.mem_def.1 hb, Option.all_some] at hnewer
      exact hnewer
    · exact ih

/-- Two notions of "newer" that agree on what is offered take the same. -/
theorem taken_congr {newer' : α → α → Bool} {offers : List α}
    (h : ∀ a ∈ offers, ∀ b ∈ offers, newer a b = newer' a b) :
    taken newer offers = taken newer' offers := by
  induction offers using List.reverseRecOn with
  | nil => rfl
  | append_singleton offers a ih =>
    have hsub := List.subset_append_left offers [a]
    rw [taken_concat, taken_concat, ← ih fun a ha b hb => h a (hsub ha) b (hsub hb), offer, offer]
    have hlast : (taken newer offers).getLast?.all (fun b => newer a b) =
        (taken newer offers).getLast?.all fun b => newer' a b := by
      cases hb : (taken newer offers).getLast? with
      | none => rfl
      | some b => exact h a (by simp) b (hsub (mem_offers_of_last hb))
    rw [hlast]

end Register

/-! ## Keys in a linear order -/

section Keys

variable {κ : Type*} [LinearOrder κ] (key : α → κ)

/-- A greater key is newer. -/
def above (a b : α) : Bool := key b < key a

variable {key}

theorem taken_pairwise (offers : List α) :
    (taken (above key) offers).Pairwise fun b a => key b < key a := by
  have hchain := @taken_isChain α (above key) offers
  simp only [above, decide_eq_true_eq] at hchain
  have htrans : Trans (fun b a => key b < key a) (fun b a => key b < key a)
      (fun b a : α => key b < key a) := ⟨fun hab hbc => lt_trans hab hbc⟩
  exact List.isChain_iff_pairwise.1 hchain

/-- **The newest offer.** Nothing that was offered is above what the register holds. -/
theorem le_last {offers : List α} {a : α} (ha : a ∈ offers) :
    ∃ b, (taken (above key) offers).getLast? = some b ∧ key a ≤ key b := by
  induction offers using List.reverseRecOn with
  | nil => cases ha
  | append_singleton offers c ih =>
    rw [taken_concat, offer]
    rcases List.mem_append.1 ha with hold | hnew
    · obtain ⟨b, hb, hle⟩ := ih hold
      split_ifs with habove
      · rw [hb, Option.all_some, above, decide_eq_true_eq] at habove
        exact ⟨c, List.getLast?_concat, hle.trans habove.le⟩
      · exact ⟨b, hb, hle⟩
    · rw [List.mem_singleton.1 hnew]
      split_ifs with habove
      · exact ⟨c, List.getLast?_concat, le_rfl⟩
      · cases hb : (taken (above key) offers).getLast? with
        | none =>
          rw [hb] at habove
          exact absurd rfl habove
        | some b =>
          rw [hb, Option.all_some, above, decide_eq_true_eq, not_lt] at habove
          exact ⟨b, rfl, habove⟩

theorem offers_eq_nil_of_last {offers : List α}
    (h : (taken (above key) offers).getLast? = none) : offers = [] := by
  refine List.eq_nil_iff_forall_not_mem.2 fun a ha => ?_
  obtain ⟨b, hb, -⟩ := @le_last α κ _ key offers a ha
  rw [hb] at h
  cases h

/-- **Convergence.** Two registers that were offered the same keys, in any order and any number of
times, hold values with the same key. -/
theorem last_key_eq {offers offers' : List α} (h : ∀ k, k ∈ offers.map key ↔ k ∈ offers'.map key) :
    (taken (above key) offers).getLast?.map key = (taken (above key) offers').getLast?.map key := by
  cases hlast : (taken (above key) offers).getLast? with
  | none =>
    have hempty : offers'.map key = [] := by
      refine List.eq_nil_iff_forall_not_mem.2 fun k hk => ?_
      rw [← h, offers_eq_nil_of_last hlast] at hk
      cases hk
    rw [List.map_eq_nil_iff.1 hempty]
    rfl
  | some a =>
    obtain ⟨a', ha', haa'⟩ := List.mem_map.1 ((h (key a)).1
      (List.mem_map_of_mem (mem_offers_of_last hlast)))
    obtain ⟨b, hb, hab⟩ := @le_last α κ _ key offers' a' ha'
    obtain ⟨b', hb', hbb'⟩ := List.mem_map.1 ((h (key b)).2
      (List.mem_map_of_mem (mem_offers_of_last hb)))
    obtain ⟨c, hc, hbc⟩ := @le_last α κ _ key offers b' hb'
    obtain rfl : a = c := Option.some.inj (hlast.symm.trans hc)
    rw [hb, Option.map_some, Option.map_some]
    exact congrArg some (le_antisymm (haa' ▸ hab) (hbb' ▸ hbc))

/-- **In order.** A list with rising keys is a sublist of any such list that contains it. -/
theorem sublist_of_rising {as source : List α} (has : as.Pairwise fun b a => key b < key a)
    (hsource : source.Pairwise fun b a => key b < key a) (hsub : as ⊆ source) :
    List.Sublist as source := by
  have hasymm : Std.Antisymm fun b a : α => key b < key a :=
    ⟨fun _ _ hab hba => absurd hab (lt_asymm hba)⟩
  have hnodup : as.Nodup := has.imp fun hlt heq => by
    rw [heq] at hlt
    exact lt_irrefl _ hlt
  exact List.sublist_of_subperm_of_pairwise (hnodup.subperm hsub) has hsource

end Keys

end Newest
