import Mathlib

/-!
# Shuffles

Several producers write into one log, in any order of turns. `IsShuffle streams log` says that the
log is made of the streams, each in its own order: nothing is lost, nothing is doubled, and no
producer's entries change places.

`Merges R producers log` says that the log is a shuffle of streams that are related to the
producers, one each. A step of one producer adds to the log what it adds to the stream of that
producer.
-/

namespace Shuffle

variable {α β : Type*}

/-- The log is made of the streams, each in its own order. -/
inductive IsShuffle : List (List α) → List α → Prop where
  | nil : IsShuffle [] []
  | join {streams : List (List α)} {log : List α} (h : IsShuffle streams log) :
      IsShuffle (streams ++ [[]]) log
  | push {streams : List (List α)} {log stream : List α} {k : ℕ} (h : IsShuffle streams log)
      (hk : streams[k]? = some stream) (a : α) :
      IsShuffle (streams.set k (stream ++ [a])) (log ++ [a])

variable {streams : List (List α)} {log stream : List α}

/-- Several entries of one stream. -/
theorem IsShuffle.extend (h : IsShuffle streams log) {k : ℕ} (hk : streams[k]? = some stream)
    (new : List α) : IsShuffle (streams.set k (stream ++ new)) (log ++ new) := by
  obtain ⟨hlt, hget⟩ := List.getElem?_eq_some_iff.1 hk
  induction new using List.reverseRecOn with
  | nil =>
    rwa [List.append_nil, List.append_nil, ← hget, List.set_getElem_self]
  | append_singleton new a ih =>
    have hlast : (streams.set k (stream ++ new))[k]? = some (stream ++ new) := by simp [hlt]
    have hpush := ih.push hlast a
    rwa [List.set_set, List.append_assoc, List.append_assoc] at hpush

/-! ## Producers -/

section Merges

variable {R : β → List α → Prop} {producers : List β}

/-- The log is a shuffle of what the producers have produced. -/
def Merges (R : β → List α → Prop) (producers : List β) (log : List α) : Prop :=
  ∃ streams, List.Forall₂ R producers streams ∧ IsShuffle streams log

theorem merges_nil : Merges R [] [] := ⟨[], .nil, .nil⟩

/-- A producer that has produced nothing yet. -/
theorem Merges.join (h : Merges R producers log) {b : β} (hb : R b []) :
    Merges R (producers ++ [b]) log := by
  obtain ⟨streams, hproducers, hlog⟩ := h
  exact ⟨streams ++ [[]], List.rel_append hproducers (.cons hb .nil), hlog.join⟩

theorem Merges.exists_stream (h : Merges R producers log) {b : β} (hb : b ∈ producers) :
    ∃ stream, R b stream := by
  obtain ⟨streams, hproducers, -⟩ := h
  obtain ⟨k, hlt, rfl⟩ := List.getElem_of_mem hb
  exact ⟨_, hproducers.get hlt (hproducers.length_eq ▸ hlt)⟩

theorem forall₂_set {bs : List β} {streams : List (List α)} (h : List.Forall₂ R bs streams)
    {b : β} {new : List α} (hb : R b new) (k : ℕ) :
    List.Forall₂ R (bs.set k b) (streams.set k new) := by
  induction h generalizing k with
  | nil => exact .nil
  | cons hhead _ ih =>
    cases k with
    | zero => exact .cons hb ‹_›
    | succ k => exact .cons hhead (ih k)

/-- One producer takes a step. -/
theorem Merges.step (h : Merges R producers log) {k : ℕ} {b b' : β} {new : List α}
    (hk : producers[k]? = some b) (hstep : ∀ stream, R b stream → R b' (stream ++ new)) :
    Merges R (producers.set k b') (log ++ new) := by
  obtain ⟨streams, hproducers, hlog⟩ := h
  obtain ⟨hlt, rfl⟩ := List.getElem?_eq_some_iff.1 hk
  have hlt' : k < streams.length := hproducers.length_eq ▸ hlt
  have hb : R producers[k] streams[k] := hproducers.get hlt hlt'
  exact ⟨streams.set k (streams[k] ++ new), forall₂_set hproducers (hstep _ hb) k,
    hlog.extend (List.getElem?_eq_getElem hlt') new⟩

end Merges

end Shuffle
