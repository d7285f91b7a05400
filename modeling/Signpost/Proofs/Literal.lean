import Mathlib.Data.List.Induction
import Signpost.Literal
import Signpost.Text.Blank
set_option autoImplicit false

/-!
# Open literals

Where a text has come to is read from left to right, so of a text in two parts only the state after
the first matters for the second; a text that is closed does not matter at all
(`endsOpen_append_of_closed`).  Blanks neither start nor end a literal: a text is open or closed
whatever blanks follow it (`endsOpen_append_blanks`).
-/

namespace Signpost.Literal

open Text

/-- Only a quote starts a literal. -/
def State.IsQuoted : State → Prop
  | .outside => True
  | .inside q | .escaped q => isQuote q = true

theorem State.IsQuoted.next {s : State} (h : s.IsQuoted) (c : Char) : (s.next c).IsQuoted := by
  cases s with
  | outside =>
    show (if isQuote c then State.inside c else .outside).IsQuoted
    split
    · assumption
    · trivial
  | inside q =>
    show (if c = '\\' then State.escaped q else if c = q then .outside else .inside q).IsQuoted
    split
    · exact h
    · split
      · trivial
      · exact h
  | escaped q => exact h

theorem State.IsQuoted.after {s : State} (h : s.IsQuoted) (t : Text) : (s.after t).IsQuoted := by
  induction t generalizing s with
  | nil => exact h
  | cons c t ih => exact ih (h.next c)

theorem State.after_cons (s : State) (c : Char) (t : Text) :
    s.after (c :: t) = (s.next c).after t := rfl

theorem State.after_append (s : State) (t u : Text) : s.after (t ++ u) = (s.after t).after u :=
  List.foldl_append

theorem isQuote_of_isBlank {c : Char} (h : isBlank c = true) : isQuote c = false := by
  cases hq : isQuote c with
  | false => rfl
  | true =>
    have hc : c = '"' ∨ c = '\'' := by simpa [isQuote] using hq
    rcases hc with rfl | rfl <;> exact absurd h (by decide)

theorem State.IsQuoted.next_eq_outside_iff {s : State} (hs : s.IsQuoted) {c : Char}
    (hc : isBlank c = true) : s.next c = .outside ↔ s = .outside := by
  cases s with
  | outside => simp [State.next, isQuote_of_isBlank hc]
  | inside q =>
    have hquote : c ≠ q := by
      rintro rfl
      exact absurd (hs.symm.trans (isQuote_of_isBlank hc)) (by simp)
    have hbackslash : c ≠ '\\' := by
      rintro rfl
      exact absurd hc (by decide)
    simp [State.next, hquote, hbackslash]
  | escaped q => simp [State.next]

theorem State.IsQuoted.after_eq_outside_iff {s : State} (hs : s.IsQuoted) {t : Text}
    (ht : ∀ c ∈ t, isBlank c = true) : s.after t = .outside ↔ s = .outside := by
  induction t generalizing s with
  | nil => rfl
  | cons c t ih =>
    obtain ⟨hc, ht⟩ := List.forall_mem_cons.mp ht
    exact (ih (hs.next c) ht).trans (hs.next_eq_outside_iff hc)

/-- Blanks at the end of a text do not matter for whether it ends inside a literal. -/
theorem endsOpen_append_blanks {s : Text} (hs : ∀ c ∈ s, isBlank c = true) (t : Text) :
    endsOpen (t ++ s) = endsOpen t := by
  have hquoted : (State.after .outside t).IsQuoted := State.IsQuoted.after (s := .outside) trivial t
  unfold endsOpen
  rw [State.after_append, Bool.eq_iff_iff, bne_iff_ne, bne_iff_ne]
  exact not_congr (hquoted.after_eq_outside_iff hs)

/-! ## The grammar of closed texts -/

/-- What can stand between the two quotes of a literal: pairs of a backslash and any character, and
characters that are neither the quote nor a backslash. -/
inductive IsBody (quote : Char) : Text → Prop
  | nil : IsBody quote []
  | pair (c : Char) {t : Text} (rest : IsBody quote t) : IsBody quote ('\\' :: c :: t)
  | plain {c : Char} {t : Text} (ne_quote : c ≠ quote) (ne_backslash : c ≠ '\\')
      (rest : IsBody quote t) : IsBody quote (c :: t)

/-- Characters that are not quotes, and complete literals, one after the other. -/
inductive IsClosed : Text → Prop
  | nil : IsClosed []
  | plain {c : Char} {t : Text} (unquoted : isQuote c = false) (rest : IsClosed t) :
      IsClosed (c :: t)
  | literal {quote : Char} {body t : Text} (quoted : isQuote quote = true)
      (inner : IsBody quote body) (rest : IsClosed t) : IsClosed (quote :: (body ++ quote :: t))

theorem IsBody.append {quote : Char} {t u : Text} (ht : IsBody quote t) (hu : IsBody quote u) :
    IsBody quote (t ++ u) := by
  induction ht with
  | nil => exact hu
  | pair c _ ih => exact .pair c ih
  | plain hquote hbackslash _ ih => exact .plain hquote hbackslash ih

theorem IsClosed.append {t u : Text} (ht : IsClosed t) (hu : IsClosed u) : IsClosed (t ++ u) := by
  induction ht with
  | nil => exact hu
  | plain hc _ ih => exact .plain hc ih
  | literal hquote hbody _ ih =>
    rw [List.cons_append, List.append_assoc, List.cons_append]
    exact .literal hquote hbody ih

theorem ne_backslash_of_isQuote {c : Char} (h : isQuote c = true) : c ≠ '\\' := by
  rintro rfl
  exact absurd h (by decide)

/-- The form of the texts that come to a state.  One that ends inside a literal is a closed text and
after it the quote and a body that has begun; right after a backslash the pair is not complete. -/
def Reaches (t : Text) : State → Prop
  | .outside => IsClosed t
  | .inside quote => ∃ u body, t = u ++ quote :: body ∧ IsClosed u ∧ isQuote quote = true ∧
      IsBody quote body
  | .escaped quote => ∃ u body, t = u ++ quote :: (body ++ ['\\']) ∧ IsClosed u ∧
      isQuote quote = true ∧ IsBody quote body

/-- One character more has the form of the state one character further. -/
theorem Reaches.next {t : Text} {s : State} (h : Reaches t s) (c : Char) :
    Reaches (t ++ [c]) (s.next c) := by
  cases s with
  | outside =>
    have ht : IsClosed t := h
    rw [State.next]
    split
    · rename_i hc
      exact ⟨t, [], rfl, ht, hc, .nil⟩
    · rename_i hc
      exact ht.append (.plain ((Bool.not_eq_true _).mp hc) .nil)
  | inside quote =>
    obtain ⟨u, body, rfl, hu, hquote, hbody⟩ := h
    rw [State.next, List.append_assoc, List.cons_append]
    split
    · rename_i hc
      exact ⟨u, body, by rw [hc], hu, hquote, hbody⟩
    · rename_i hbackslash
      split
      · rename_i hc
        rw [hc]
        exact hu.append (.literal hquote hbody .nil)
      · rename_i hne
        exact ⟨u, body ++ [c], rfl, hu, hquote, hbody.append (.plain hne hbackslash .nil)⟩
  | escaped quote =>
    obtain ⟨u, body, rfl, hu, hquote, hbody⟩ := h
    exact ⟨u, body ++ ['\\', c], by simp, hu, hquote, hbody.append (.pair c .nil)⟩

/-- Every text has the form of the state that it comes to. -/
theorem reaches_after (t : Text) : Reaches t (State.after .outside t) := by
  induction t using List.reverseRecOn with
  | nil => exact IsClosed.nil
  | append_singleton t c ih =>
    rw [State.after_append]
    exact ih.next c

/-- Inside a literal, a body is read to its end and the literal goes on. -/
theorem IsBody.after_eq {quote : Char} {body : Text} (h : IsBody quote body) :
    State.after (.inside quote) body = .inside quote := by
  induction h with
  | nil => rfl
  | pair c _ ih => exact ih
  | plain hquote hbackslash _ ih =>
    rw [State.after_cons, State.next, if_neg hbackslash, if_neg hquote, ih]

/-- A quote outside every literal and a body after it. -/
theorem after_opening {quote : Char} {body : Text} (hquote : isQuote quote = true)
    (hbody : IsBody quote body) : State.after .outside (quote :: body) = .inside quote := by
  rw [State.after_cons, State.next, if_pos hquote, hbody.after_eq]

theorem IsClosed.after_eq {t : Text} (h : IsClosed t) : State.after .outside t = .outside := by
  induction h with
  | nil => rfl
  | plain hc _ ih => rw [State.after_cons, State.next, if_neg (by simp [hc]), ih]
  | literal hquote hbody _ ih =>
    rw [← List.cons_append, State.after_append, after_opening hquote hbody, State.after_cons,
      State.next, if_neg (ne_backslash_of_isQuote hquote), if_pos rfl, ih]

/-- The form of a text determines the state that it comes to. -/
theorem Reaches.after_eq {t : Text} {s : State} (h : Reaches t s) : State.after .outside t = s := by
  cases s with
  | outside => exact IsClosed.after_eq h
  | inside quote =>
    obtain ⟨u, body, rfl, hu, hquote, hbody⟩ := h
    rw [State.after_append, hu.after_eq, after_opening hquote hbody]
  | escaped quote =>
    obtain ⟨u, body, rfl, hu, hquote, hbody⟩ := h
    rw [State.after_append, hu.after_eq, ← List.cons_append, State.after_append,
      after_opening hquote hbody]
    rfl

theorem after_eq_iff {t : Text} {s : State} : State.after .outside t = s ↔ Reaches t s :=
  ⟨fun h => h ▸ reaches_after t, Reaches.after_eq⟩

/-! ## Open and closed texts -/

theorem endsOpen_eq_false_iff {t : Text} : endsOpen t = false ↔ IsClosed t := by
  rw [endsOpen, bne_eq_false_iff_eq]
  exact after_eq_iff

/-- An open text breaks off in a literal, possibly right after a backslash. -/
theorem endsOpen_eq_true_iff {t : Text} :
    endsOpen t = true ↔ ∃ u quote body, IsClosed u ∧ isQuote quote = true ∧ IsBody quote body ∧
      (t = u ++ quote :: body ∨ t = u ++ quote :: (body ++ ['\\'])) := by
  rw [endsOpen, bne_iff_ne]
  constructor
  · intro hopen
    have hform := reaches_after t
    cases hs : State.after .outside t with
    | outside => exact absurd hs hopen
    | inside quote =>
      rw [hs] at hform
      obtain ⟨u, body, ht, hu, hquote, hbody⟩ := hform
      exact ⟨u, quote, body, hu, hquote, hbody, .inl ht⟩
    | escaped quote =>
      rw [hs] at hform
      obtain ⟨u, body, ht, hu, hquote, hbody⟩ := hform
      exact ⟨u, quote, body, hu, hquote, hbody, .inr ht⟩
  · rintro ⟨u, quote, body, hu, hquote, hbody, ht | ht⟩ hout
    · have hinside : Reaches t (.inside quote) := ⟨u, body, ht, hu, hquote, hbody⟩
      rw [hinside.after_eq] at hout
      cases hout
    · have hescaped : Reaches t (.escaped quote) := ⟨u, body, ht, hu, hquote, hbody⟩
      rw [hescaped.after_eq] at hout
      cases hout

/-- A text without quotes is closed. -/
theorem endsOpen_of_unquoted {t : Text} (ht : ∀ c ∈ t, isQuote c = false) : endsOpen t = false := by
  rw [endsOpen_eq_false_iff]
  induction t with
  | nil => exact .nil
  | cons c t ih =>
    obtain ⟨hc, ht⟩ := List.forall_mem_cons.mp ht
    exact .plain hc (ih ht)

/-- After a closed text a literal is where it would be without that text. -/
theorem endsOpen_append_of_closed {s : Text} (hs : endsOpen s = false) (t : Text) :
    endsOpen (s ++ t) = endsOpen t := by
  have hout : State.after .outside s = .outside := by simpa [endsOpen] using hs
  unfold endsOpen
  rw [State.after_append, hout]

/-- A text is read as closed if and only if it consists of characters that are not quotes and of
complete literals.  It is read as open if and only if after such a text a literal begins and is not
completed.  What follows a closed text is open or closed as it would be alone. -/
theorem endsOpen_recognizes_open (t : Text) :
    (endsOpen t = false ↔ IsClosed t) ∧
      (endsOpen t = true ↔ ∃ u quote body, IsClosed u ∧ isQuote quote = true ∧ IsBody quote body ∧
        (t = u ++ quote :: body ∨ t = u ++ quote :: (body ++ ['\\']))) ∧
      (endsOpen t = false → ∀ following, endsOpen (t ++ following) = endsOpen following) :=
  ⟨endsOpen_eq_false_iff, endsOpen_eq_true_iff, endsOpen_append_of_closed⟩

/-- A literal with an escaped quote and the other quote in it is complete, so only the literal after
it counts; that one ends in a backslash. -/
theorem endsOpen_recognizes_open_escape :
    endsOpen "\"say \\\"it's\\\"\", " = false ∧ IsClosed "\"say \\\"it's\\\"\", " ∧
      endsOpen ("\"say \\\"it's\\\"\", " ++ "'b\\") = true := by
  obtain ⟨hclosed, _, hfollowing⟩ := endsOpen_recognizes_open "\"say \\\"it's\\\"\", "
  have hread : endsOpen "\"say \\\"it's\\\"\", " = false := by decide
  exact ⟨hread, hclosed.mp hread, (hfollowing hread "'b\\").trans (by decide)⟩

end Signpost.Literal
