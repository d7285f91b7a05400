import Signpost.Text.Basic
set_option autoImplicit false

/-!
# Pieces between separators

Cutting a text at its separators gives pieces without separators, which together with the separators
make up the text again.  Pieces that have been joined are what the joined text is cut into
(`splitAtEach_joinWith`), and the last of them stands after all the others and their separators
(`joinWith_concat`).
-/

namespace Signpost.Text

variable {p : Char → Bool}

theorem splitAtEach_cons_of_pos {c : Char} (hc : p c = true) (t : Text) :
    splitAtEach p (c :: t) = [] :: splitAtEach p t := by
  rw [splitAtEach, if_pos hc]

theorem splitAtEach_cons_of_neg {c : Char} (hc : p c = false) {t piece : Text} {rest : List Text}
    (h : splitAtEach p t = piece :: rest) :
    splitAtEach p (c :: t) = (c :: piece) :: rest := by
  rw [splitAtEach, if_neg (by simp [hc]), h]

theorem splitAtEach_ne_nil (p : Char → Bool) (t : Text) : splitAtEach p t ≠ [] := by
  induction t with
  | nil => simp [splitAtEach]
  | cons c t ih =>
    cases hc : p c with
    | true => simp [splitAtEach_cons_of_pos hc]
    | false =>
      obtain ⟨piece, rest, h⟩ := List.exists_cons_of_ne_nil ih
      simp [splitAtEach_cons_of_neg hc h]

/-- A text without separators goes to the first piece of what follows. -/
theorem splitAtEach_append {s t piece : Text} {rest : List Text} (hs : ∀ c ∈ s, p c = false)
    (h : splitAtEach p t = piece :: rest) : splitAtEach p (s ++ t) = (s ++ piece) :: rest := by
  induction s with
  | nil => exact h
  | cons c s ih =>
    obtain ⟨hc, hs⟩ := List.forall_mem_cons.mp hs
    exact splitAtEach_cons_of_neg hc (ih hs)

/-- At a separator the two sides are cut on their own. -/
theorem splitAtEach_append_cons {c : Char} (hc : p c = true) (s t : Text) :
    splitAtEach p (s ++ c :: t) = splitAtEach p s ++ splitAtEach p t := by
  induction s with
  | nil => exact splitAtEach_cons_of_pos hc t
  | cons d s ih =>
    rw [List.cons_append]
    cases hd : p d with
    | true => rw [splitAtEach_cons_of_pos hd, splitAtEach_cons_of_pos hd, ih, List.cons_append]
    | false =>
      obtain ⟨piece, rest, hpieces⟩ := List.exists_cons_of_ne_nil (splitAtEach_ne_nil p s)
      rw [hpieces] at ih
      rw [splitAtEach_cons_of_neg hd hpieces, splitAtEach_cons_of_neg hd ih]
      rfl

/-- One more character goes to the last piece. -/
theorem splitAtEach_concat {c : Char} (hc : p c = false) {t last : Text} {init : List Text}
    (h : splitAtEach p t = init ++ [last]) :
    splitAtEach p (t ++ [c]) = init ++ [last ++ [c]] := by
  induction t generalizing init last with
  | nil =>
    obtain ⟨rfl, hlast⟩ : init = [] ∧ last = [] := by
      cases init with
      | nil => simpa [splitAtEach, eq_comm] using h
      | cons a init => simp [splitAtEach] at h
    simp [splitAtEach, hc, hlast]
  | cons d t ih =>
    cases hd : p d with
    | true =>
      rw [splitAtEach_cons_of_pos hd] at h
      rw [List.cons_append, splitAtEach_cons_of_pos hd]
      cases init with
      | nil => exact absurd (List.cons.inj h).2 (splitAtEach_ne_nil p t)
      | cons a init =>
        obtain ⟨rfl, hrest⟩ := List.cons.inj h
        rw [ih hrest]
        rfl
    | false =>
      obtain ⟨piece, rest, hpieces⟩ := List.exists_cons_of_ne_nil (splitAtEach_ne_nil p t)
      rw [splitAtEach_cons_of_neg hd hpieces] at h
      cases init with
      | nil =>
        obtain ⟨rfl, rfl⟩ := List.cons.inj h
        have hone : splitAtEach p t = [] ++ [piece] := hpieces
        exact splitAtEach_cons_of_neg hd (ih hone)
      | cons a init =>
        obtain ⟨rfl, rfl⟩ := List.cons.inj h
        have hmore : splitAtEach p t = (piece :: init) ++ [last] := hpieces
        exact splitAtEach_cons_of_neg hd (ih hmore)

/-- The pieces between the occurrences of a character make up the text. -/
theorem flatten_splitAtEach {c : Char} {t piece : Text} {rest : List Text}
    (h : splitAtEach (· == c) t = piece :: rest) : piece ++ rest.flatMap (c :: ·) = t := by
  induction t generalizing piece rest with
  | nil =>
    obtain ⟨rfl, rfl⟩ := List.cons.inj h
    rfl
  | cons d t ih =>
    obtain ⟨next, more, hpieces⟩ := List.exists_cons_of_ne_nil (splitAtEach_ne_nil (· == c) t)
    cases hd : d == c with
    | true =>
      rw [splitAtEach_cons_of_pos (p := (· == c)) hd, hpieces] at h
      obtain ⟨rfl, rfl⟩ := List.cons.inj h
      rw [eq_of_beq hd, List.flatMap_cons, List.cons_append, ih hpieces]
      rfl
    | false =>
      rw [splitAtEach_cons_of_neg (p := (· == c)) hd hpieces] at h
      obtain ⟨rfl, rfl⟩ := List.cons.inj h
      rw [List.cons_append, ih hpieces]

/-- The pieces have the characters of the text, without the separators. -/
theorem of_mem_splitAtEach {t piece : Text} (h : piece ∈ splitAtEach p t) :
    ∀ c ∈ piece, p c = false ∧ c ∈ t := by
  induction t generalizing piece with
  | nil =>
    rw [List.mem_singleton.mp h]
    simp
  | cons d t ih =>
    cases hd : p d with
    | true =>
      rw [splitAtEach_cons_of_pos hd] at h
      rcases List.mem_cons.mp h with rfl | h
      · simp
      · exact fun c hc => ⟨(ih h c hc).1, List.mem_cons_of_mem _ (ih h c hc).2⟩
    | false =>
      obtain ⟨first, rest, hpieces⟩ := List.exists_cons_of_ne_nil (splitAtEach_ne_nil p t)
      rw [splitAtEach_cons_of_neg hd hpieces] at h
      rw [hpieces] at ih
      rcases List.mem_cons.mp h with rfl | h
      · intro c hc
        rcases List.mem_cons.mp hc with rfl | hc
        · exact ⟨hd, List.mem_cons_self⟩
        · have := ih List.mem_cons_self c hc
          exact ⟨this.1, List.mem_cons_of_mem _ this.2⟩
      · intro c hc
        have := ih (List.mem_cons_of_mem _ h) c hc
        exact ⟨this.1, List.mem_cons_of_mem _ this.2⟩

/-- Joining pieces and cutting at the separator gives the pieces. -/
theorem splitAtEach_joinWith {c : Char} {t : Text} {ts : List Text}
    (h : ∀ piece ∈ t :: ts, c ∉ piece) : splitAtEach (· == c) (joinWith [c] (t :: ts)) = t :: ts := by
  have hpiece : ∀ piece ∈ t :: ts, ∀ d ∈ piece, (d == c) = false := by
    intro piece hmem d hd
    simpa using fun heq : d = c => h piece hmem (heq ▸ hd)
  induction ts generalizing t with
  | nil =>
    have hnil := splitAtEach_append (hpiece t List.mem_cons_self)
      (rfl : splitAtEach (· == c) [] = [[]])
    simpa [joinWith] using hnil
  | cons u ts ih =>
    obtain ⟨ht, hrest⟩ := List.forall_mem_cons.mp h
    have hcut : splitAtEach (· == c) (c :: joinWith [c] (u :: ts)) = [] :: u :: ts := by
      rw [splitAtEach_cons_of_pos (p := (· == c)) (by simp), ih hrest
        (List.forall_mem_cons.mp hpiece).2]
    have happend := splitAtEach_append (hpiece t List.mem_cons_self) hcut
    simpa [joinWith] using happend

theorem joinWith_cons {ts : List Text} (h : ts ≠ []) (sep t : Text) :
    joinWith sep (t :: ts) = t ++ sep ++ joinWith sep ts := by
  cases ts with
  | nil => exact absurd rfl h
  | cons u ts => rfl

/-- Before the last piece every piece has a separator after it. -/
theorem joinWith_concat (sep : Text) (ts : List Text) (t : Text) :
    joinWith sep (ts ++ [t]) = ts.flatMap (· ++ sep) ++ t := by
  induction ts with
  | nil => rfl
  | cons u ts ih =>
    rw [List.cons_append, joinWith_cons (by simp), ih, List.flatMap_cons, ← List.append_assoc]

end Signpost.Text
