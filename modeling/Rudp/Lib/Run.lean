import Mathlib

/-!
# Runs of a step function

A program that is driven by operations is a step function `σ → ι → σ`; a run is a list of
operations, and the state it reaches is a left fold. Operations that may fail to return give a
step into `Option σ` instead.

`Along C s ops` says that every step of the run from `s` meets the condition `C`, which is about
the state *before* the step and the operation taken. The rules below turn what one step
preserves into what every run preserves.
-/

namespace Run

variable {σ ι : Type*}

/-- A log that grows at its end: an entry is an old one, or the one just added. -/
theorem getElem?_concat {log : List ι} {a b : ι} {j : ℕ} :
    (log ++ [a])[j]? = some b ↔ log[j]? = some b ∨ j = log.length ∧ a = b := by
  rcases Nat.lt_trichotomy j log.length with h | rfl | h
  · rw [List.getElem?_append_left h]
    exact ⟨Or.inl, fun hor => hor.resolve_right fun hj => by omega⟩
  · simp
  · rw [List.getElem?_eq_none (by simp; omega), List.getElem?_eq_none h.le]
    simp
    omega

/-- An entry of a log that grew at its end, with what came before it. -/
theorem concat_eq_split {log pre post : List ι} {a b : ι} (h : log ++ [a] = pre ++ b :: post) :
    pre = log ∧ b = a ∨ ∃ post', log = pre ++ b :: post' := by
  rcases List.eq_nil_or_concat post with rfl | ⟨post', c, rfl⟩
  · obtain ⟨rfl, hab⟩ := List.append_inj' h rfl
    exact Or.inl ⟨rfl, (List.singleton_inj.1 hab).symm⟩
  · refine Or.inr ⟨post', ?_⟩
    rw [List.concat_eq_append, ← List.cons_append, ← List.append_assoc] at h
    exact (List.append_inj' h rfl).1

/-- What holds after every initial part of a run: at the start, and after every initial part of
the rest. -/
theorem forall_prefix_cons {Q : List ι → Prop} {a : ι} {as : List ι} :
    (∀ bs, bs <+: a :: as → Q bs) ↔ Q [] ∧ ∀ bs, bs <+: as → Q (a :: bs) := by
  constructor
  · intro h
    exact ⟨h [] List.nil_prefix, fun bs hbs => h (a :: bs) (List.cons_prefix_cons.2 ⟨rfl, hbs⟩)⟩
  · rintro ⟨hnil, hcons⟩ bs hbs
    cases bs with
    | nil => exact hnil
    | cons b bs =>
      obtain ⟨rfl, hrest⟩ := List.cons_prefix_cons.1 hbs
      exact hcons bs hrest

/-! ## Total steps -/

section Total

variable (step : σ → ι → σ)

/-- The state a run reaches. -/
def run (s : σ) (ops : List ι) : σ := ops.foldl step s

@[simp] theorem run_nil (s : σ) : run step s [] = s := rfl

@[simp] theorem run_cons (s : σ) (op : ι) (ops : List ι) :
    run step s (op :: ops) = run step (step s op) ops := rfl

/-- Every step of the run from `s` meets the condition. -/
def Along (C : σ → ι → Prop) : σ → List ι → Prop
  | _, [] => True
  | s, op :: ops => C s op ∧ Along C (step s op) ops

instance (C : σ → ι → Prop) [∀ s op, Decidable (C s op)] :
    ∀ (s : σ) (ops : List ι), Decidable (Along step C s ops)
  | _, [] => inferInstanceAs (Decidable True)
  | s, op :: ops =>
    @instDecidableAnd _ _ (inferInstanceAs (Decidable (C s op)))
      (instDecidableAlong C (step s op) ops)

variable {step}

theorem along_append {C : σ → ι → Prop} {s : σ} {ops ops' : List ι} :
    Along step C s (ops ++ ops') ↔ Along step C s ops ∧ Along step C (run step s ops) ops' := by
  induction ops generalizing s with
  | nil => simp [Along]
  | cons op ops ih => simp only [List.cons_append, Along, run_cons, ih, and_assoc]

theorem Along.mono {C D : σ → ι → Prop} (hCD : ∀ s op, C s op → D s op) {s : σ} {ops : List ι}
    (h : Along step C s ops) : Along step D s ops := by
  induction ops generalizing s with
  | nil => trivial
  | cons op ops ih => exact ⟨hCD s op h.1, ih h.2⟩

theorem along_and {C D : σ → ι → Prop} {s : σ} {ops : List ι} :
    Along step (fun s op => C s op ∧ D s op) s ops ↔ Along step C s ops ∧ Along step D s ops := by
  induction ops generalizing s with
  | nil => simp [Along]
  | cons op ops ih => simp only [Along, ih]; tauto

/-- A condition on the operations alone. -/
theorem along_of_forall {P : ι → Prop} {ops : List ι} (h : ∀ op ∈ ops, P op) (s : σ) :
    Along step (fun _ op => P op) s ops := by
  induction ops generalizing s with
  | nil => trivial
  | cons op ops ih =>
    exact ⟨h op List.mem_cons_self, ih (fun o ho => h o (List.mem_cons_of_mem op ho)) _⟩

/-- **Run rule.** What every step preserves, every run preserves. -/
theorem invariant (Inv : σ → Prop) (hstep : ∀ s op, Inv s → Inv (step s op)) {s : σ}
    (h : Inv s) (ops : List ι) : Inv (run step s ops) := by
  induction ops generalizing s with
  | nil => exact h
  | cons op ops ih => exact ih (hstep s op h)

/-- **Conditional run rule.** What every step that meets `C` preserves, every run whose steps
all meet `C` preserves. -/
theorem Along.invariant {C : σ → ι → Prop} (Inv : σ → Prop)
    (hstep : ∀ s op, Inv s → C s op → Inv (step s op)) {s : σ} (h : Inv s) {ops : List ι}
    (hC : Along step C s ops) : Inv (run step s ops) := by
  induction ops generalizing s with
  | nil => exact h
  | cons op ops ih => exact ih (hstep s op h hC.1) hC.2

/-- **Every step.** What an invariant says of every step holds along every run. -/
theorem along_of_invariant {C : σ → ι → Prop} (Inv : σ → Prop) (hC : ∀ s op, Inv s → C s op)
    (hstep : ∀ s op, Inv s → Inv (step s op)) {s : σ} (h : Inv s) (ops : List ι) :
    Along step C s ops := by
  induction ops generalizing s with
  | nil => trivial
  | cons op ops ih => exact ⟨hC s op h, ih (hstep s op h)⟩

/-- **Last write.** What every operation leaves alone or writes is, after a run, what the last
operation that writes it has written. -/
theorem get_run {α : Type*} {get : σ → α} {write : ι → Option α}
    (h : ∀ s op, get (step s op) = (write op).getD (get s)) (s : σ) (ops : List ι) :
    get (run step s ops) = (ops.filterMap write).getLast?.getD (get s) := by
  induction ops generalizing s with
  | nil => rfl
  | cons op ops ih =>
    rw [run_cons, ih, h]
    cases hop : write op with
    | none => rw [List.filterMap_cons_none hop, Option.getD_none]
    | some value =>
      rw [List.filterMap_cons_some hop, List.getLast?_cons, Option.getD_some, Option.getD_some]

/-- **Step by step.** Two conditions that say the same of every step from a state with the invariant
say the same of every run, if the steps that meet them keep the invariant. -/
theorem along_iff_of_invariant {C D : σ → ι → Prop} (Inv : σ → Prop)
    (hiff : ∀ s op, Inv s → (C s op ↔ D s op)) (hstep : ∀ s op, Inv s → C s op → Inv (step s op))
    {s : σ} (h : Inv s) (ops : List ι) : Along step C s ops ↔ Along step D s ops := by
  induction ops generalizing s with
  | nil => exact Iff.rfl
  | cons op ops ih =>
    constructor
    · rintro ⟨hC, hrest⟩
      exact ⟨(hiff s op h).1 hC, (ih (hstep s op h hC)).1 hrest⟩
    · rintro ⟨hD, hrest⟩
      have hC := (hiff s op h).2 hD
      exact ⟨hC, (ih (hstep s op h hC)).2 hrest⟩

end Total

/-! ## What a run can still reach -/

section Reach

variable (step : σ → ι → σ)

/-- Some run whose steps all meet the condition leads from one state to the other. -/
def Reaches (C : σ → ι → Prop) (s t : σ) : Prop := ∃ ops, Along step C s ops ∧ run step s ops = t

variable {step} {C : σ → ι → Prop} {s t u : σ}

theorem Reaches.refl (s : σ) : Reaches step C s s := ⟨[], trivial, rfl⟩

theorem Reaches.single {op : ι} (h : C s op) : Reaches step C s (step s op) :=
  ⟨[op], ⟨h, trivial⟩, rfl⟩

theorem Reaches.trans (h : Reaches step C s t) (h' : Reaches step C t u) : Reaches step C s u := by
  obtain ⟨ops, hops, rfl⟩ := h
  obtain ⟨ops', hops', rfl⟩ := h'
  exact ⟨ops ++ ops', along_append.2 ⟨hops, hops'⟩, List.foldl_append⟩

/-- **Progress.** If every state with the invariant and something left can reach one with the
invariant and less left, it can reach one with nothing left. -/
theorem Reaches.of_measure (Inv : σ → Prop) (μ : σ → ℕ)
    (hstep : ∀ s, Inv s → 0 < μ s → ∃ t, Reaches step C s t ∧ Inv t ∧ μ t < μ s) (h : Inv s) :
    ∃ t, Reaches step C s t ∧ Inv t ∧ μ t = 0 := by
  induction hn : μ s using Nat.strong_induction_on generalizing s with
  | _ n ih =>
    rcases Nat.eq_zero_or_pos (μ s) with hzero | hpos
    · exact ⟨s, .refl s, h, hzero⟩
    · obtain ⟨t, hst, ht, hless⟩ := hstep s h hpos
      obtain ⟨u, htu, hu⟩ := ih (μ t) (hn ▸ hless) ht rfl
      exact ⟨u, hst.trans htu, hu⟩

end Reach

/-! ## Steps that may not return -/

section Partial

variable (step : σ → ι → Option σ)

/-- The state a run reaches, if every operation returns. -/
def runM (s : σ) (ops : List ι) : Option σ := ops.foldlM step s

@[simp] theorem runM_nil (s : σ) : runM step s [] = some s := rfl

@[simp] theorem runM_cons (s : σ) (op : ι) (ops : List ι) :
    runM step s (op :: ops) = (step s op).bind fun s' => runM step s' ops := rfl

/-- Every step of the run from `s` meets the condition, as far as the run gets. -/
def AlongM (C : σ → ι → Prop) : σ → List ι → Prop
  | _, [] => True
  | s, op :: ops => C s op ∧ ∀ s', step s op = some s' → AlongM C s' ops

instance (C : σ → ι → Prop) [∀ s op, Decidable (C s op)] :
    ∀ (s : σ) (ops : List ι), Decidable (AlongM step C s ops)
  | _, [] => inferInstanceAs (Decidable True)
  | s, op :: ops =>
    match h : step s op with
    | none => decidable_of_iff (C s op)
      ⟨fun hC => ⟨hC, fun _ hs' => nomatch h.symm.trans hs'⟩, And.left⟩
    | some t =>
      @decidable_of_iff _ (C s op ∧ AlongM step C t ops)
        ⟨fun hC => ⟨hC.1, fun _ hs' => Option.some.inj (h.symm.trans hs') ▸ hC.2⟩,
          fun hC => ⟨hC.1, hC.2 t h⟩⟩
        (@instDecidableAnd _ _ _ (instDecidableAlongM C t ops))

variable {step}

theorem runM_append_eq (s : σ) (ops ops' : List ι) :
    runM step s (ops ++ ops') = (runM step s ops).bind fun t => runM step t ops' := by
  rw [runM, List.foldlM_append]
  rfl

theorem runM_append {s s' : σ} {ops ops' : List ι} (h : runM step s (ops ++ ops') = some s') :
    ∃ t, runM step s ops = some t ∧ runM step t ops' = some s' := by
  rw [runM_append_eq] at h
  exact Option.bind_eq_some_iff.1 h

/-- **Run rule**, for operations that may not return. -/
theorem invariantM (Inv : σ → Prop) (hstep : ∀ s op s', Inv s → step s op = some s' → Inv s')
    {s s' : σ} (h : Inv s) {ops : List ι} (hrun : runM step s ops = some s') : Inv s' := by
  induction ops generalizing s with
  | nil =>
    obtain rfl : s = s' := by simpa using hrun
    exact h
  | cons op ops ih =>
    obtain ⟨t, ht, hrest⟩ := Option.bind_eq_some_iff.1 hrun
    exact ih (hstep s op t h ht) hrest

/-- **Reading first.** A run of operations that are read, whatever the state is, and then applied:
all of them are read, or the run does not return. -/
theorem runM_read {κ : Type*} {read : ι → Option κ} {apply : σ → κ → σ} (s : σ) (ops : List ι) :
    runM (fun s op => (read op).map (apply s)) s ops =
      (ops.mapM read).map fun items => items.foldl apply s := by
  induction ops generalizing s with
  | nil => rfl
  | cons op ops ih =>
    rw [runM_cons, List.mapM_cons]
    cases read op with
    | none => rfl
    | some item =>
      simp only [Option.map_some, Option.bind_some, ih]
      cases ops.mapM read <;> rfl

theorem alongM_and {C D : σ → ι → Prop} {s : σ} {ops : List ι} (hC : AlongM step C s ops)
    (hD : AlongM step D s ops) : AlongM step (fun s op => C s op ∧ D s op) s ops := by
  induction ops generalizing s with
  | nil => trivial
  | cons op ops ih => exact ⟨⟨hC.1, hD.1⟩, fun s' hs' => ih (hC.2 s' hs') (hD.2 s' hs')⟩

/-- **Every step.** What the steps that meet `R` keep, and what it says of these steps. -/
theorem AlongM.of_invariant {R C : σ → ι → Prop} (Inv : σ → Prop)
    (hC : ∀ s op, Inv s → R s op → C s op)
    (hstep : ∀ s op s', Inv s → R s op → step s op = some s' → Inv s') {s : σ} (h : Inv s)
    {ops : List ι} (hR : AlongM step R s ops) : AlongM step C s ops := by
  induction ops generalizing s with
  | nil => trivial
  | cons op ops ih =>
    exact ⟨hC s op h hR.1, fun s' hs' => ih (hstep s op s' h hR.1 hs') (hR.2 s' hs')⟩

/-- **Step by step.** Two conditions that say the same of every step from a state with the invariant
say the same of every run, if the steps that meet them keep the invariant. -/
theorem AlongM.iff_of_invariant {R C D : σ → ι → Prop} (Inv : σ → Prop)
    (hiff : ∀ s op, Inv s → R s op → (C s op ↔ D s op))
    (hstep : ∀ s op s', Inv s → R s op → C s op → step s op = some s' → Inv s') {s : σ}
    (h : Inv s) {ops : List ι} (hR : AlongM step R s ops) :
    AlongM step C s ops ↔ AlongM step D s ops := by
  constructor
  · intro hC
    refine (alongM_and hR hC).of_invariant Inv (fun s op hs hRC => (hiff s op hs hRC.1).1 hRC.2)
      (fun s op s' hs hRC => hstep s op s' hs hRC.1 hRC.2) h
  · intro hD
    refine (alongM_and hR hD).of_invariant Inv (fun s op hs hRD => (hiff s op hs hRD.1).2 hRD.2)
      (fun s op s' hs hRD => hstep s op s' hs hRD.1 ((hiff s op hs hRD.1).2 hRD.2)) h

/-! ## Runs that end

Where a step that does not return is the end of what the run is about, some runs from a state end
and others never do. -/

variable (step) in
/-- Taking the same step often enough ends the run. -/
def EndsBy (op : ι) (s : σ) : Prop := ∃ n, runM step s (List.replicate n op) = none

theorem EndsBy.of_step {op : ι} {s : σ} (h : ∀ s', step s op = some s' → EndsBy step op s') :
    EndsBy step op s := by
  cases hs : step s op with
  | none => exact ⟨1, by simp [hs]⟩
  | some s' =>
    obtain ⟨n, hn⟩ := h s' hs
    exact ⟨n + 1, by simpa [List.replicate_succ, hs] using hn⟩

/-- **Progress.** If the step, from every state with the invariant, leads to a state from which it
ends the run or makes the measure smaller, then it ends the run. -/
theorem EndsBy.of_measure {op : ι} (Inv : σ → Prop) (μ : σ → ℕ)
    (hstep : ∀ s s', Inv s → step s op = some s' → EndsBy step op s' ∨ Inv s' ∧ μ s' < μ s)
    {s : σ} (h : Inv s) : EndsBy step op s := by
  induction hn : μ s using Nat.strong_induction_on generalizing s with
  | _ n ih =>
    refine .of_step fun s' hs' => ?_
    rcases hstep s s' h hs' with hends | ⟨hinv, hless⟩
    · exact hends
    · exact ih (μ s') (hn ▸ hless) hinv rfl

/-- **No end.** If every step from a state with the invariant returns and keeps it, no run ends. -/
theorem runM_of_invariant (Inv : σ → Prop)
    (hstep : ∀ s op, Inv s → ∃ s', step s op = some s' ∧ Inv s') {s : σ} (h : Inv s)
    (ops : List ι) : ∃ s', runM step s ops = some s' ∧ Inv s' := by
  induction ops generalizing s with
  | nil => exact ⟨s, rfl, h⟩
  | cons op ops ih =>
    obtain ⟨t, ht, hinv⟩ := hstep s op h
    obtain ⟨s', hs', hinv'⟩ := ih hinv
    exact ⟨s', by simpa [ht] using hs', hinv'⟩

end Partial

end Run
