import Mathlib

/-!
# Lines

Text that is read line by line, over any alphabet. A line ends at a separator or at the end of the
text, and an empty line at the end of the text is no line. A line is stripped of what stands for
nothing at its ends, and cut at the first separator into a key and a value.
-/

namespace Lines

variable {α : Type*}

/-! ## Reading and writing lines -/

section Read

/-- Each line, and a separator after it. -/
def write (sep : α) (lines : List (List α)) : List α := lines.flatMap fun line => line ++ [sep]

theorem write_eq_intercalate (sep : α) (lines : List (List α)) :
    write sep lines = [sep].intercalate (lines ++ [[]]) := by
  induction lines with
  | nil => rfl
  | cons line lines ih =>
    rw [write, List.flatMap_cons, ← write, ih]
    cases lines <;> simp [List.intercalate]

variable [DecidableEq α]

/-- The lines of a text. What follows the last separator is a line if there is something. -/
def read (sep : α) (text : List α) : List (List α) :=
  let parts := text.splitOn sep
  if parts.getLast? = some [] then parts.dropLast else parts

variable {sep : α} {lines : List (List α)} {text : List α}

theorem splitOn_write (h : ∀ line ∈ lines, sep ∉ line) :
    (write sep lines).splitOn sep = lines ++ [[]] := by
  rw [write_eq_intercalate]
  refine List.splitOn_intercalate sep (fun line hline => ?_) (by simp)
  rcases List.mem_append.1 hline with hline | hline
  · exact h line hline
  · rw [List.mem_singleton.1 hline]
    exact List.not_mem_nil

/-- **Round trip.** What is written line by line is read line by line. -/
theorem read_write (h : ∀ line ∈ lines, sep ∉ line) : read sep (write sep lines) = lines := by
  simp [read, splitOn_write h]

/-- Without the last separator, an empty line at the end is lost, and no other. -/
theorem read_of_append_sep (h : ∀ line ∈ lines, sep ∉ line)
    (htext : text ++ [sep] = write sep lines) :
    read sep text = lines ∨ read sep text ++ [[]] = lines := by
  have hparts : text.splitOn sep ++ [[]] = lines ++ [[]] := by
    rw [← splitOn_write h, ← htext, List.splitOn_append_cons_self]
    rfl
  have hsplit : text.splitOn sep = lines := List.append_cancel_right hparts
  rw [read, hsplit]
  split_ifs with hlast
  · refine Or.inr ?_
    rcases List.eq_nil_or_concat lines with rfl | ⟨rest, line, rfl⟩
    · cases hlast
    · simp at hlast
      simp [hlast]
  · exact Or.inl rfl

end Read

/-! ## Stripping -/

section Strip

variable (p : α → Bool)

/-- The text without what stands for nothing at its ends. -/
def strip (text : List α) : List α := (text.dropWhile p).rdropWhile p

variable {p} {text before after : List α}

/-- Nothing at either end is stripped. -/
def IsStripped (p : α → Bool) (text : List α) : Prop :=
  (∀ c ∈ text.head?, p c = false) ∧ ∀ c ∈ text.getLast?, p c = false

theorem isStripped_iff : IsStripped p text ↔
    text.head?.all (fun c => !p c) = true ∧ text.getLast?.all (fun c => !p c) = true := by
  simp only [IsStripped, Option.all_eq_true, Option.mem_def, Bool.not_eq_true']

instance : Decidable (IsStripped p text) := decidable_of_iff _ isStripped_iff.symm

/-- What is around a stripped text is stripped. -/
theorem strip_pad (hbefore : ∀ c ∈ before, p c = true) (htext : IsStripped p text)
    (hafter : ∀ c ∈ after, p c = true) : strip p (before ++ text ++ after) = text := by
  have hright : (text ++ after).rdropWhile p = text.rdropWhile p := by
    have hreverse : ∀ c ∈ after.reverse, p c = true := fun c hc => hafter c (List.mem_reverse.1 hc)
    rw [List.rdropWhile, List.reverse_append, List.dropWhile_append_of_pos hreverse,
      ← List.rdropWhile]
  rw [strip, List.append_assoc, List.dropWhile_append_of_pos hbefore]
  cases text with
  | nil =>
    have hnone : after.dropWhile p = [] := List.dropWhile_eq_nil_iff.2 hafter
    rw [List.nil_append, hnone, List.rdropWhile_nil]
  | cons c rest =>
    have hhead : p c = false := htext.1 c rfl
    have hleft : (c :: rest ++ after).dropWhile p = c :: rest ++ after :=
      List.dropWhile_cons_of_neg (by simp [hhead])
    rw [hleft, hright, List.rdropWhile_eq_self_iff]
    intro hne
    simp [htext.2 _ (List.getLast?_eq_some_getLast hne)]

end Strip

/-! ## Cutting -/

section Cut

variable [DecidableEq α] (sep : α)

/-- What is before the first separator, and what is after it. -/
def cut (text : List α) : Option (List α × List α) :=
  if sep ∈ text then
    some (text.takeWhile (· != sep), (text.dropWhile (· != sep)).tail)
  else none

variable {sep} {key value : List α}

theorem cut_append (h : sep ∉ key) : cut sep (key ++ sep :: value) = some (key, value) := by
  have hkey : ∀ c ∈ key, (c != sep) = true := by
    intro c hc
    rw [bne_iff_ne]
    rintro rfl
    exact h hc
  simp [cut, List.takeWhile_append_of_pos hkey, List.dropWhile_append_of_pos hkey]

/-- Where the first separator is, is decided by the text. -/
theorem append_sep_inj {key' value' : List α} (h : sep ∉ key) (h' : sep ∉ key')
    (heq : key ++ sep :: value = key' ++ sep :: value') : key = key' ∧ value = value' := by
  have hcut : cut sep (key ++ sep :: value) = some (key, value) := cut_append h
  rw [heq, cut_append h'] at hcut
  obtain ⟨hkey, hvalue⟩ := Prod.mk.inj (Option.some.inj hcut)
  exact ⟨hkey.symm, hvalue.symm⟩

end Cut

/-! ## Fields -/

section Fields

variable {sep : α} {fields fields' : List (List α × List α)}

/-- Fields after one another, a name and a value each. -/
def writeFields (fields : List (List α × List α)) : List α :=
  fields.flatMap fun field => field.1 ++ field.2

/-- After a value comes the separator, or nothing. -/
theorem exists_writeFields_append_sep (hnames : ∀ field ∈ fields, field.1.head? = some sep) :
    ∃ rest, writeFields fields ++ [sep] = sep :: rest := by
  cases fields with
  | nil => exact ⟨[], rfl⟩
  | cons field fields =>
    obtain ⟨rest, hrest⟩ : ∃ rest, field.1 = sep :: rest :=
      ⟨_, List.eq_cons_of_mem_head? (hnames field List.mem_cons_self)⟩
    refine ⟨rest ++ (field.2 ++ writeFields fields) ++ [sep], ?_⟩
    rw [writeFields, List.flatMap_cons, hrest]
    simp [writeFields]

variable [DecidableEq α]

/-- **Fields can be told apart**, if the separator stands before every name and in no value. -/
theorem writeFields_inj (hsame : fields.map Prod.fst = fields'.map Prod.fst)
    (hnames : ∀ field ∈ fields, field.1.head? = some sep)
    (hvalues : ∀ field ∈ fields, sep ∉ field.2) (hvalues' : ∀ field ∈ fields', sep ∉ field.2)
    (h : writeFields fields = writeFields fields') : fields = fields' := by
  induction fields generalizing fields' with
  | nil =>
    cases fields' with
    | nil => rfl
    | cons => cases hsame
  | cons field fields ih =>
    cases fields' with
    | nil => cases hsame
    | cons field' fields' =>
      obtain ⟨hname, hsame⟩ := List.cons.inj hsame
      have hrest : ∀ f ∈ fields, f.1.head? = some sep := fun f hf =>
        hnames f (List.mem_cons_of_mem _ hf)
      have hrest' : ∀ f ∈ fields', f.1.head? = some sep := by
        intro f hf
        have hmem : f.1 ∈ fields.map Prod.fst := hsame ▸ List.mem_map_of_mem hf
        obtain ⟨g, hg, heq⟩ := List.mem_map.1 hmem
        exact heq ▸ hrest g hg
      obtain ⟨tail, htail⟩ := exists_writeFields_append_sep hrest
      obtain ⟨tail', htail'⟩ := exists_writeFields_append_sep hrest'
      simp only [writeFields, List.flatMap_cons, List.append_assoc, ← hname] at h
      have hcut := congrArg (· ++ [sep]) (List.append_cancel_left h)
      simp only [List.append_assoc] at hcut
      rw [← writeFields, ← writeFields, htail, htail'] at hcut
      obtain ⟨hvalue, -⟩ := append_sep_inj (hvalues field List.mem_cons_self)
        (hvalues' field' List.mem_cons_self) hcut
      have htails := List.append_cancel_left h
      rw [hvalue] at htails
      rw [Prod.ext hname hvalue, ih hsame hrest (fun f hf => hvalues f (List.mem_cons_of_mem _ hf))
        (fun f hf => hvalues' f (List.mem_cons_of_mem _ hf)) (List.append_cancel_left htails)]

end Fields

end Lines
