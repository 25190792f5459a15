import Mathlib

/-!
# Loops over a table

A loop over a hash map visits every key once, in an order that nobody promises. If its body rewrites
the entry of the key it visits and no other, the loop does to every entry what the body does to it
alone, and what it emits is what each entry emits, in the order of the visits. Two loops that visit
the same table in different orders therefore end in the same table, and emit the same up to order.
-/

namespace Sweep

variable {S κ σ ω : Type*}

/-- The body of a loop, at `k`, rewrites the entry of `k` and no other. -/
structure Local (Inv : S → Prop) (get : S → κ → Option σ) (update : κ → σ → σ)
    (step : S → κ → S) : Prop where
  inv : ∀ {s k}, Inv s → Inv (step s k)
  here : ∀ {s k}, Inv s → get (step s k) k = (get s k).map (update k)
  elsewhere : ∀ {s k k'}, Inv s → k' ≠ k → get (step s k) k' = get s k'

section Loop

variable {Inv : S → Prop} {get : S → κ → Option σ} {update : κ → σ → σ} {step : S → κ → S}
  {s : S} {order : List κ}

theorem Local.inv_foldl (h : Local Inv get update step) (hs : Inv s) (order : List κ) :
    Inv (order.foldl step s) := by
  induction order generalizing s with
  | nil => exact hs
  | cons k order ih => exact ih (h.inv hs)

theorem Local.get_foldl_of_notMem (h : Local Inv get update step) (hs : Inv s) {k : κ}
    (hk : k ∉ order) : get (order.foldl step s) k = get s k := by
  induction order generalizing s with
  | nil => rfl
  | cons j order ih =>
    rw [List.foldl_cons, ih (h.inv hs) fun hmem => hk (List.mem_cons_of_mem j hmem)]
    exact h.elsewhere hs fun hkj => hk (hkj ▸ List.mem_cons_self)

/-- **Tables.** The loop does to an entry what its body does to it alone. -/
theorem Local.get_foldl (h : Local Inv get update step) (hs : Inv s) (hnodup : order.Nodup)
    {k : κ} (hk : k ∈ order) : get (order.foldl step s) k = (get s k).map (update k) := by
  induction order generalizing s with
  | nil => cases hk
  | cons j order ih =>
    obtain ⟨hj, hrest⟩ := List.nodup_cons.1 hnodup
    rw [List.foldl_cons]
    rcases List.mem_cons.1 hk with rfl | hmem
    · rw [h.get_foldl_of_notMem (h.inv hs) hj, h.here hs]
    · have hne : k ≠ j := ne_of_mem_of_not_mem hmem hj
      rw [ih (h.inv hs) hrest hmem, h.elsewhere hs hne]

/-- **Output.** What the loop emits is what the entries emit, as they were before the loop. -/
theorem Local.out_foldl (h : Local Inv get update step) (hs : Inv s) (hnodup : order.Nodup)
    (out : S → List ω) (emit : κ → σ → List ω)
    (hout : ∀ {s k}, Inv s → out (step s k) = out s ++ (get s k).elim [] (emit k)) :
    out (order.foldl step s) = out s ++ order.flatMap fun k => (get s k).elim [] (emit k) := by
  induction order generalizing s with
  | nil => simp
  | cons j order ih =>
    obtain ⟨hj, hrest⟩ := List.nodup_cons.1 hnodup
    have hsame : ∀ k ∈ order, get (step s j) k = get s k := fun k hk =>
      h.elsewhere hs (ne_of_mem_of_not_mem hk hj)
    rw [List.foldl_cons, ih (h.inv hs) hrest, hout hs, List.flatMap_cons, List.append_assoc]
    congr 2
    exact List.flatMap_congr fun k hk => by rw [hsame k hk]

end Loop

/-- Only one of the keys emits anything. -/
theorem flatMap_eq_single {order : List κ} {emit : κ → List ω} {k : κ} (hnodup : order.Nodup)
    (hk : k ∈ order) (hothers : ∀ j ∈ order, j ≠ k → emit j = []) :
    order.flatMap emit = emit k := by
  induction order with
  | nil => cases hk
  | cons j order ih =>
    obtain ⟨hj, hrest⟩ := List.nodup_cons.1 hnodup
    rw [List.flatMap_cons]
    by_cases hjk : j = k
    · subst hjk
      have hnone : order.flatMap emit = [] := List.flatMap_eq_nil_iff.2 fun i hi =>
        hothers i (List.mem_cons_of_mem j hi) (ne_of_mem_of_not_mem hi hj)
      rw [hnone, List.append_nil]
    · have hmem : k ∈ order := (List.mem_cons.1 hk).resolve_left (Ne.symm hjk)
      rw [hothers j List.mem_cons_self hjk, List.nil_append]
      exact ih hrest hmem fun i hi => hothers i (List.mem_cons_of_mem j hi)

/-! ## Orders -/

/-- The order visits the keys of the table, each of them once. -/
structure Visits (order : List κ) (t : κ → Option σ) : Prop where
  nodup : order.Nodup
  mem_iff : ∀ k, k ∈ order ↔ (t k).isSome = true

theorem Visits.perm {order order' : List κ} {t : κ → Option σ} (h : Visits order t)
    (h' : Visits order' t) : order.Perm order' :=
  (List.perm_ext_iff_of_nodup h.nodup h'.nodup).2 fun k => (h.mem_iff k).trans (h'.mem_iff k).symm

/-- A loop over all keys rewrites every entry. -/
theorem Local.get_visits {Inv : S → Prop} {get : S → κ → Option σ} {update : κ → σ → σ}
    {step : S → κ → S} {s : S} {order : List κ} (h : Local Inv get update step) (hs : Inv s)
    (horder : Visits order (get s)) (k : κ) :
    get (order.foldl step s) k = (get s k).map (update k) := by
  by_cases hk : k ∈ order
  · exact h.get_foldl hs horder.nodup hk
  · have hnone : get s k = none := by
      rwa [horder.mem_iff, Bool.not_eq_true, Option.isSome_eq_false_iff,
        Option.isNone_iff_eq_none] at hk
    rw [h.get_foldl_of_notMem hs hk, hnone, Option.map_none]

/-- What the loop emits for one of the keys. -/
theorem Visits.filter_flatMap {order : List κ} {t : κ → Option σ} (h : Visits order t)
    {emit : κ → σ → List ω} {p : ω → Bool} {k : κ} (hhere : ∀ s, ∀ a ∈ emit k s, p a = true)
    (hothers : ∀ j s, j ≠ k → ∀ a ∈ emit j s, p a = false) :
    (order.flatMap fun j => (t j).elim [] (emit j)).filter p = (t k).elim [] (emit k) := by
  have hkeep : ((t k).elim [] (emit k)).filter p = (t k).elim [] (emit k) := by
    cases t k with
    | none => rfl
    | some s => exact List.filter_eq_self.2 (hhere s)
  have hdrop : ∀ j, j ≠ k → ((t j).elim [] (emit j)).filter p = [] := by
    intro j hj
    cases t j with
    | none => rfl
    | some s => exact List.filter_eq_nil_iff.2 fun a ha => Bool.eq_false_iff.1 (hothers j s hj a ha)
  rw [List.filter_flatMap]
  by_cases hk : k ∈ order
  · rw [flatMap_eq_single h.nodup hk fun j _ hj => hdrop j hj, hkeep]
  · have hnone : t k = none := by
      rwa [h.mem_iff, Bool.not_eq_true, Option.isSome_eq_false_iff, Option.isNone_iff_eq_none] at hk
    rw [hnone]
    exact List.flatMap_eq_nil_iff.2 fun j hj => hdrop j (ne_of_mem_of_not_mem hj hk)

end Sweep
