import Mathlib.Data.List.DropRight
import Signpost.Text.Basic
set_option autoImplicit false

/-!
# The ends of a text

Contexts, last words and trimmed texts are all read from the right: the longest ending of characters
of one class is taken, or dropped.  A text of that class after a text that does not end in it is cut
exactly between the two, and that is the fact which every reading from the right rests on.
-/

namespace Signpost.Text

variable {p : Char → Bool} {s t : Text} {c : Char}

/-- What the character at an end satisfies, every character that stands there does. -/
theorem forall_eq_some {P : Char → Prop} {o : Option Char} {d : Char} (ho : o = some d) (hd : P d) :
    ∀ c, o = some c → P c := by
  intro c hc
  rwa [← Option.some.inj (ho.symm.trans hc)]

theorem takeWhileEnd_eq_rtakeWhile : takeWhileEnd p t = t.rtakeWhile p := rfl

theorem dropWhileEnd_eq_rdropWhile : dropWhileEnd p t = t.rdropWhile p := rfl

/-- The two parts make up the text. -/
theorem dropWhileEnd_append_takeWhileEnd (p : Char → Bool) (t : Text) :
    dropWhileEnd p t ++ takeWhileEnd p t = t :=
  List.rdropWhile_append_rtakeWhile

theorem of_mem_takeWhileEnd (h : c ∈ takeWhileEnd p t) : p c = true :=
  List.mem_rtakeWhile_imp h

/-- What is left after dropping does not end in the class that was dropped. -/
theorem of_getLast?_dropWhileEnd (h : (dropWhileEnd p t).getLast? = some c) : p c = false := by
  have hne : dropWhileEnd p t ≠ [] := by
    intro hnil
    rw [hnil] at h
    simp at h
  have hlast := List.rdropWhile_last_not (p := p) (l := t) hne
  rw [List.getLast?_eq_some_getLast hne, Option.some.injEq] at h
  rw [← h]
  exact (Bool.not_eq_true _).mp hlast

/-- All of a text stands before its end. -/
theorem before_length (t : Text) : before t t.length = t := by
  simp [before]

/-! ## One more character -/

theorem dropWhileEnd_concat_of_pos (h : p c = true) :
    dropWhileEnd p (t ++ [c]) = dropWhileEnd p t :=
  List.rdropWhile_concat_pos p t c h

theorem dropWhileEnd_concat_of_neg (h : p c = false) :
    dropWhileEnd p (t ++ [c]) = t ++ [c] :=
  List.rdropWhile_concat_neg p t c (by simp [h])

/-! ## A text of the class, and a text that does not end in it -/

theorem takeWhileEnd_append_of_all (h : ∀ c ∈ s, p c = true) :
    takeWhileEnd p (t ++ s) = takeWhileEnd p t ++ s := by
  have hr : ∀ c ∈ s.reverse, p c = true := fun c hc => h c (List.mem_reverse.mp hc)
  unfold takeWhileEnd
  rw [List.reverse_append, List.takeWhile_append_of_pos hr, List.reverse_append,
    List.reverse_reverse]

theorem dropWhileEnd_append_of_all (h : ∀ c ∈ s, p c = true) :
    dropWhileEnd p (t ++ s) = dropWhileEnd p t := by
  have hr : ∀ c ∈ s.reverse, p c = true := fun c hc => h c (List.mem_reverse.mp hc)
  unfold dropWhileEnd
  rw [List.reverse_append, List.dropWhile_append_of_pos hr]

theorem takeWhileEnd_eq_nil (h : ∀ c, t.getLast? = some c → p c = false) :
    takeWhileEnd p t = [] := by
  rw [takeWhileEnd_eq_rtakeWhile, List.rtakeWhile_eq_nil_iff]
  intro hne
  have := h _ (List.getLast?_eq_some_getLast hne)
  simp [this]

theorem dropWhileEnd_eq_self (h : ∀ c, t.getLast? = some c → p c = false) :
    dropWhileEnd p t = t := by
  rw [dropWhileEnd_eq_rdropWhile, List.rdropWhile_eq_self_iff]
  intro hne
  have := h _ (List.getLast?_eq_some_getLast hne)
  simp [this]

/-- The ending of the class is exactly the text that was put at the end. -/
theorem takeWhileEnd_append (hs : ∀ c ∈ s, p c = true)
    (ht : ∀ c, t.getLast? = some c → p c = false) : takeWhileEnd p (t ++ s) = s := by
  rw [takeWhileEnd_append_of_all hs, takeWhileEnd_eq_nil ht, List.nil_append]

theorem dropWhileEnd_append (hs : ∀ c ∈ s, p c = true)
    (ht : ∀ c, t.getLast? = some c → p c = false) : dropWhileEnd p (t ++ s) = t := by
  rw [dropWhileEnd_append_of_all hs, dropWhileEnd_eq_self ht]

/-- Dropping stops at a text that does not end in the class. -/
theorem dropWhileEnd_append_left (hs : ∀ c, s.getLast? = some c → p c = false) (t : Text) :
    dropWhileEnd p (s ++ t) = s ++ dropWhileEnd p t := by
  induction t using List.reverseRecOn with
  | nil => rw [List.append_nil, dropWhileEnd_eq_self hs]; simp [dropWhileEnd]
  | append_singleton t c ih =>
    rw [← List.append_assoc]
    cases hc : p c with
    | true => rw [dropWhileEnd_concat_of_pos hc, dropWhileEnd_concat_of_pos hc, ih]
    | false =>
      rw [dropWhileEnd_concat_of_neg hc, dropWhileEnd_concat_of_neg hc, List.append_assoc]

/-! ## From the left -/

/-- The beginning of the class is exactly the text that was put in front. -/
theorem takeWhile_append_stop (hs : ∀ c ∈ s, p c = true)
    (ht : ∀ c, t.head? = some c → p c = false) : (s ++ t).takeWhile p = s := by
  rw [List.takeWhile_append_of_pos hs]
  cases t with
  | nil => simp
  | cons c t => simp [ht c rfl]

theorem dropWhile_append_stop (hs : ∀ c ∈ s, p c = true)
    (ht : ∀ c, t.head? = some c → p c = false) : (s ++ t).dropWhile p = t := by
  rw [List.dropWhile_append_of_pos hs]
  cases t with
  | nil => rfl
  | cons c t => simp [ht c rfl]

theorem of_head?_dropWhile (h : (t.dropWhile p).head? = some c) : p c = false := by
  have := List.head?_dropWhile_not p t
  rw [h] at this
  exact this

/-- What is left after dropping at the end begins as the text did. -/
theorem head?_of_head?_dropWhileEnd (h : (dropWhileEnd p t).head? = some c) :
    t.head? = some c := by
  rw [← dropWhileEnd_append_takeWhileEnd p t, List.head?_append, h]
  rfl

end Signpost.Text
