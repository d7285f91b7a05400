import Signpost.Proofs.Text.Ends
import Signpost.Text.Blank
set_option autoImplicit false

/-!
# Trimmed texts

A text is trimmed when it has no blank at either end.  Trimming gives such a text, and leaves one as
it is; blanks around a text do not change what trimming gives.  Nor does what follows a text that is
not blank change how far it is indented.
-/

namespace Signpost.Text

variable {s t : Text} {c : Char}

/-- The text does not begin with a blank. -/
def NoBlankFirst (t : Text) : Prop := ∀ c, t.head? = some c → isBlank c = false

/-- The text does not end with a blank. -/
def NoBlankLast (t : Text) : Prop := ∀ c, t.getLast? = some c → isBlank c = false

/-- The text has no blank at its ends. -/
structure IsTrimmed (t : Text) : Prop where
  first : NoBlankFirst t
  last : NoBlankLast t

theorem noBlankFirst_nil : NoBlankFirst [] := by simp [NoBlankFirst]

theorem noBlankFirst_cons : NoBlankFirst (c :: t) ↔ isBlank c = false := by
  simp [NoBlankFirst]

theorem NoBlankFirst.append (hs : NoBlankFirst s) (hne : s ≠ []) (t : Text) :
    NoBlankFirst (s ++ t) := by
  cases s with
  | nil => exact absurd rfl hne
  | cons c s => exact noBlankFirst_cons.mpr (noBlankFirst_cons.mp hs)

theorem NoBlankFirst.of_append (h : NoBlankFirst (s ++ t)) : NoBlankFirst s := by
  intro c hc
  exact h c (by rw [List.head?_append, hc, Option.some_or])

theorem NoBlankLast.append (ht : NoBlankLast t) (hne : t ≠ []) (s : Text) :
    NoBlankLast (s ++ t) := by
  intro c hc
  rw [List.getLast?_append_of_ne_nil _ hne] at hc
  exact ht c hc

theorem NoBlankLast.of_append (h : NoBlankLast (s ++ t)) : NoBlankLast t := by
  intro c hc
  have hne : t ≠ [] := by
    rintro rfl
    simp at hc
  exact h c (by rw [List.getLast?_append_of_ne_nil _ hne, hc])

instance (t : Text) : Decidable (NoBlankFirst t) :=
  Option.decidableForallMem t.head?

instance (t : Text) : Decidable (NoBlankLast t) :=
  Option.decidableForallMem t.getLast?

instance (t : Text) : Decidable (IsTrimmed t) :=
  decidable_of_iff (NoBlankFirst t ∧ NoBlankLast t) ⟨fun h => ⟨h.1, h.2⟩, fun h => ⟨h.1, h.2⟩⟩

/-! ## Trimming gives a trimmed text -/

theorem noBlankFirst_trimLeft (t : Text) : NoBlankFirst (trimLeft t) :=
  fun _ hc => of_head?_dropWhile hc

theorem noBlankLast_trimRight (t : Text) : NoBlankLast (trimRight t) :=
  fun _ hc => of_getLast?_dropWhileEnd hc

theorem noBlankFirst_trimRight (h : NoBlankFirst t) : NoBlankFirst (trimRight t) :=
  fun c hc => h c (head?_of_head?_dropWhileEnd hc)

theorem isTrimmed_trim (t : Text) : IsTrimmed (trim t) :=
  ⟨noBlankFirst_trimRight (noBlankFirst_trimLeft t), noBlankLast_trimRight _⟩

/-! ## Trimming leaves a trimmed text -/

theorem NoBlankFirst.trimLeft_eq (h : NoBlankFirst t) : trimLeft t = t := by
  cases t with
  | nil => rfl
  | cons c t =>
    unfold trimLeft
    rw [List.dropWhile_cons_of_neg (by simp [noBlankFirst_cons.mp h])]

theorem NoBlankLast.trimRight_eq (h : NoBlankLast t) : trimRight t = t := dropWhileEnd_eq_self h

theorem NoBlankFirst.trim_eq (h : NoBlankFirst t) : trim t = trimRight t := by
  unfold trim
  rw [h.trimLeft_eq]

theorem IsTrimmed.trim_eq (h : IsTrimmed t) : trim t = t := by
  rw [h.first.trim_eq, h.last.trimRight_eq]

/-- Trimming at the end does not reach a text that does not end with a blank. -/
theorem NoBlankLast.prefix_trimRight (h : NoBlankLast s) (hp : s <+: t) : s <+: trimRight t := by
  obtain ⟨rest, rfl⟩ := hp
  exact ⟨trimRight rest, (dropWhileEnd_append_left h rest).symm⟩

/-- What stands before a character that is no blank stays. -/
theorem trimRight_append_cons (hc : isBlank c = false) (s t : Text) :
    trimRight (s ++ c :: t) = s ++ c :: trimRight t := by
  have hlast : ∀ d, (s ++ [c]).getLast? = some d → isBlank d = false := by
    intro d hd
    rw [List.getLast?_concat, Option.some.injEq] at hd
    rw [← hd]
    exact hc
  have hstop := dropWhileEnd_append_left hlast t
  rw [List.append_assoc, List.append_assoc] at hstop
  exact hstop

/-- Nothing before a text that is not blank is trimmed at its end. -/
theorem trimRight_append_of_mem (ht : c ∈ t) (hc : isBlank c = false) (s : Text) :
    trimRight (s ++ t) = s ++ trimRight t := by
  obtain ⟨before, after, rfl⟩ := List.append_of_mem ht
  rw [← List.append_assoc, trimRight_append_cons hc, trimRight_append_cons hc, List.append_assoc]

theorem NoBlankFirst.trimRight_append (h : NoBlankFirst t) (hne : t ≠ []) (s : Text) :
    trimRight (s ++ t) = s ++ trimRight t := by
  cases t with
  | nil => exact absurd rfl hne
  | cons c t =>
    have hc := noBlankFirst_cons.mp h
    rw [trimRight_append_cons hc, ← List.nil_append (c :: t), trimRight_append_cons hc]
    rfl

theorem NoBlankFirst.trimRight_ne_nil (h : NoBlankFirst t) (hne : t ≠ []) : trimRight t ≠ [] := by
  cases t with
  | nil => exact absurd rfl hne
  | cons c t =>
    rw [← List.nil_append (c :: t), trimRight_append_cons (noBlankFirst_cons.mp h)]
    simp

/-- Trimming leaves the beginning of a text that does not begin with a blank. -/
theorem NoBlankFirst.head?_trim (h : NoBlankFirst t) (hne : trim t ≠ []) :
    (trim t).head? = t.head? := by
  rw [h.trim_eq] at hne ⊢
  obtain ⟨c, cs, hcons⟩ := List.exists_cons_of_ne_nil hne
  have hc : (trimRight t).head? = some c := by rw [hcons]; rfl
  rw [hc, head?_of_head?_dropWhileEnd hc]

/-! ## Blanks around a text -/

theorem isBlank_space : isBlank ' ' = true := by decide

theorem isBlank_of_mem_space : ∀ c ∈ [' '], isBlank c = true :=
  List.forall_mem_singleton.mpr isBlank_space

theorem trim_concat (hc : isBlank c = true) (t : Text) : trim (t ++ [c]) = trim t := by
  unfold trim trimLeft trimRight
  rw [List.dropWhile_append]
  split
  · rename_i hnil
    rw [List.isEmpty_iff.mp hnil, List.dropWhile_cons_of_pos hc]
    rfl
  · rw [dropWhileEnd_concat_of_pos hc]

theorem trim_append_blanks (hs : ∀ c ∈ s, isBlank c = true) (t : Text) :
    trim (t ++ s) = trim t := by
  induction s using List.reverseRecOn with
  | nil => rw [List.append_nil]
  | append_singleton s c ih =>
    rw [← List.append_assoc, trim_concat (hs c (by simp)), ih fun d hd => hs d (by simp [hd])]

theorem trim_cons (hc : isBlank c = true) (t : Text) : trim (c :: t) = trim t := by
  unfold trim trimLeft
  rw [List.dropWhile_cons_of_pos hc]

theorem mem_of_mem_trim (h : c ∈ trim t) : c ∈ t :=
  (List.dropWhile_suffix isBlank).mem ((List.rdropWhile_prefix isBlank (trimLeft t)).mem h)

/-- Of a text that does not begin with a blank, trimming leaves nothing only if there is nothing. -/
theorem NoBlankFirst.eq_nil_of_trim (h : NoBlankFirst t) (hnil : trim t = []) : t = [] := by
  by_contra hne
  rw [h.trim_eq] at hnil
  exact h.trimRight_ne_nil hne hnil

/-! ## Indentation -/

theorem exists_blanks_append_trimLeft (t : Text) :
    ∃ gap, t = gap ++ trimLeft t ∧ ∀ c ∈ gap, isBlank c = true :=
  ⟨t.takeWhile isBlank, List.takeWhile_append_dropWhile.symm, fun _ hc => List.mem_takeWhile_imp hc⟩

theorem isBlankText_append_of_not_blank (h : isBlankText s = false) (t : Text) :
    isBlankText (s ++ t) = false := by
  unfold isBlankText at h ⊢
  rw [List.all_append, h, Bool.false_and]

/-- Something is left of a text that is not blank. -/
theorem trim_ne_nil (h : isBlankText t = false) : trim t ≠ [] := by
  apply (noBlankFirst_trimLeft t).trimRight_ne_nil
  intro hnil
  rw [trimLeft, List.dropWhile_eq_nil_iff] at hnil
  rw [isBlankText, List.all_eq_true.mpr hnil] at h
  exact absurd h (by simp)

theorem noBlankFirst_of_indentation (h : indentation t = 0) : NoBlankFirst t := by
  cases t with
  | nil => exact noBlankFirst_nil
  | cons c t =>
    rw [noBlankFirst_cons]
    by_contra hc
    rw [indentation, List.takeWhile_cons_of_pos (by simpa using hc)] at h
    simp at h

/-- What follows a text that is not blank does not change its indentation. -/
theorem indentation_append (h : isBlankText s = false) (t : Text) :
    indentation (s ++ t) = indentation s := by
  have hstops : (s.takeWhile isBlank).length ≠ s.length := by
    intro hlength
    have hall := List.takeWhile_eq_self_iff.mp ((List.takeWhile_prefix _).eq_of_length hlength)
    rw [isBlankText, List.all_eq_true.mpr hall] at h
    exact absurd h (by simp)
  unfold indentation
  rw [List.takeWhile_append, if_neg hstops]

end Signpost.Text
