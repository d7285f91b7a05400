import Signpost.Parameter
import Signpost.Proofs.Text.Trim
set_option autoImplicit false

/-!
# One parameter, read and shown

A parameter that was read from one segment can be read again from the way it is shown
(`ofSegment_render`).  Its name has neither an equals sign nor a colon, its hint no equals sign, so
that the first of each in the shown text are the ones that were put there.
-/

namespace Signpost

open Text

/-! ## Cutting at a character -/

namespace Text

variable {c : Char} {s t : Text}

theorem cutAt_append (h : c ∉ s) (t : Text) : cutAt c (s ++ c :: t) = (s, some t) := by
  induction s with
  | nil => simp [cutAt]
  | cons d s ih =>
    obtain ⟨hd, hs⟩ := not_or.mp (mt List.mem_cons.mpr h)
    simp [cutAt, Ne.symm hd, ih hs]

theorem cutAt_of_not_mem (h : c ∉ s) : cutAt c s = (s, none) := by
  induction s with
  | nil => rfl
  | cons d s ih =>
    obtain ⟨hd, hs⟩ := not_or.mp (mt List.mem_cons.mpr h)
    simp [cutAt, Ne.symm hd, ih hs]

/-- A text is cut at its first `c`, or not at all. -/
theorem eq_of_cutAt (c : Char) (t : Text) :
    c ∉ (cutAt c t).1 ∧
      (cutAt c t = (t, none) ∨ ∃ after, cutAt c t = ((cutAt c t).1, some after) ∧
        t = (cutAt c t).1 ++ c :: after) := by
  by_cases h : c ∈ t
  · obtain ⟨before, after, rfl, hbefore⟩ := List.eq_append_cons_of_mem h
    rw [cutAt_append hbefore]
    exact ⟨hbefore, .inr ⟨after, rfl, rfl⟩⟩
  · rw [cutAt_of_not_mem h]
    exact ⟨h, .inl rfl⟩

theorem mem_of_mem_cutAt {d : Char} (h : d ∈ (cutAt c t).1) : d ∈ t := by
  rcases (eq_of_cutAt c t).2 with heq | ⟨after, _, heq⟩
  · rw [heq] at h
    exact h
  · rw [heq]
    exact List.mem_append_left _ h

theorem mem_of_mem_cutAt_snd {d : Char} {after : Text} (hafter : (cutAt c t).2 = some after)
    (h : d ∈ after) : d ∈ t := by
  rcases (eq_of_cutAt c t).2 with heq | ⟨rest, hcut, heq⟩
  · rw [heq] at hafter
    simp at hafter
  · rw [hcut, Option.some.injEq] at hafter
    rw [heq]
    exact List.mem_append_right _ (List.mem_cons_of_mem _ (hafter ▸ h))

/-- The beginning of a cut text begins as the text does, if it is not empty. -/
theorem head?_cutAt (h : (cutAt c t).1 ≠ []) : (cutAt c t).1.head? = t.head? := by
  rcases (eq_of_cutAt c t).2 with heq | ⟨after, _, heq⟩
  · rw [heq]
  · conv_rhs => rw [heq, List.head?_append_of_ne_nil _ h]

theorem trimmed?_eq_some_iff {u : Text} : trimmed? t = some u ↔ trim t = u ∧ u ≠ [] := by
  unfold trimmed?
  cases trim t with
  | nil => simp
  | cons d ds =>
    constructor
    · intro h
      rw [← Option.some.inj h]
      simp
    · rintro ⟨rfl, _⟩
      rfl

end Text

namespace Parameter

variable {p : Parameter} {body : Text}

/-! ## What is read from a segment -/

theorem name_ofSegment (body : Text) :
    (ofSegment body).name = trim (cutAt ':' (cutAt '=' body).1).1 := rfl

theorem typeHint_ofSegment (body : Text) :
    (ofSegment body).typeHint = (cutAt ':' (cutAt '=' body).1).2.bind trimmed? := rfl

/-- A parameter with a name, as it can be read.  Its default may have taken in segments, and may
still end in blanks. -/
structure IsRead (p : Parameter) : Prop where
  name_ne : p.name ≠ []
  name : IsTrimmed p.name
  plain : '=' ∉ p.name ∧ ':' ∉ p.name
  hint : ∀ h, p.typeHint = some h → h ≠ [] ∧ IsTrimmed h ∧ '=' ∉ h
  default : ∀ d, p.defaultValue = some d → d ≠ [] ∧ NoBlankFirst d

theorem isTrimmed_of_trimmed? {t u : Text} (h : trimmed? t = some u) : u ≠ [] ∧ IsTrimmed u := by
  obtain ⟨rfl, hne⟩ := trimmed?_eq_some_iff.mp h
  exact ⟨hne, isTrimmed_trim t⟩

theorem isRead_ofSegment (h : (ofSegment body).name ≠ []) : IsRead (ofSegment body) where
  name_ne := h
  name := isTrimmed_trim _
  plain := by
    refine ⟨?_, ?_⟩
    · intro hmem
      exact (eq_of_cutAt '=' body).1 (mem_of_mem_cutAt (mem_of_mem_trim hmem))
    · intro hmem
      exact (eq_of_cutAt ':' (cutAt '=' body).1).1 (mem_of_mem_trim hmem)
  hint := by
    intro hint hhint
    rw [typeHint_ofSegment] at hhint
    obtain ⟨after, hafter, htrimmed⟩ := Option.bind_eq_some_iff.mp hhint
    obtain ⟨hne, htrim⟩ := isTrimmed_of_trimmed? htrimmed
    refine ⟨hne, htrim, ?_⟩
    intro hmem
    rw [← (trimmed?_eq_some_iff.mp htrimmed).1] at hmem
    exact (eq_of_cutAt '=' body).1 (mem_of_mem_cutAt_snd hafter (mem_of_mem_trim hmem))
  default := by
    intro d hd
    obtain ⟨after, _, htrimmed⟩ := Option.bind_eq_some_iff.mp hd
    obtain ⟨hne, htrim⟩ := isTrimmed_of_trimmed? htrimmed
    exact ⟨hne, htrim.first⟩

/-- A default that comes from one segment has no blanks at its end. -/
theorem noBlankLast_defaultValue_ofSegment {d : Text}
    (h : (ofSegment body).defaultValue = some d) : NoBlankLast d := by
  obtain ⟨after, _, htrimmed⟩ := Option.bind_eq_some_iff.mp h
  exact (isTrimmed_of_trimmed? htrimmed).2.last

/-- A name begins where its segment begins. -/
theorem head?_name_ofSegment (hbody : NoBlankFirst body) (h : (ofSegment body).name ≠ []) :
    (ofSegment body).name.head? = body.head? := by
  rw [name_ofSegment] at h ⊢
  have hname : (cutAt ':' (cutAt '=' body).1).1 ≠ [] := by
    intro hnil
    rw [hnil] at h
    exact h rfl
  have hleft : (cutAt '=' body).1 ≠ [] := by
    intro hnil
    rw [hnil] at hname
    exact hname rfl
  have hhead : (cutAt ':' (cutAt '=' body).1).1.head? = body.head? :=
    (head?_cutAt hname).trans (head?_cutAt hleft)
  have hfirst : NoBlankFirst (cutAt ':' (cutAt '=' body).1).1 := by
    intro c hc
    exact hbody c (hhead ▸ hc)
  rw [hfirst.head?_trim h, hhead]

/-! ## What is shown -/

/-- What is shown of a parameter before its default. -/
def label (p : Parameter) : Text :=
  p.name ++ (match p.typeHint with | none => [] | some h => ':' :: ' ' :: h)

theorem render_of_none (h : p.defaultValue = none) : p.render = p.label := by
  cases hhint : p.typeHint <;> simp [render, label, h, hhint]

theorem render_of_some {d : Text} (h : p.defaultValue = some d) :
    p.render = p.label ++ ' ' :: '=' :: ' ' :: d := by
  cases hhint : p.typeHint <;> simp [render, label, h, hhint]

namespace IsRead

theorem isTrimmed_label (h : IsRead p) : IsTrimmed p.label := by
  refine ⟨h.name.first.append h.name_ne _, ?_⟩
  unfold label
  cases hhint : p.typeHint with
  | none => simpa using h.name.last
  | some hint =>
    obtain ⟨hne, htrim, _⟩ := h.hint hint hhint
    have := htrim.last.append hne (p.name ++ [':', ' '])
    simpa using this

theorem not_mem_label (h : IsRead p) : '=' ∉ p.label := by
  unfold label
  cases hhint : p.typeHint with
  | none => simpa using h.plain.1
  | some hint => simp [h.plain.1, (h.hint hint hhint).2.2]

/-- Name and hint can be read from the label, with blanks after it or without. -/
theorem cutAt_label (h : IsRead p) (gap : Text) (hgap : ∀ c ∈ gap, isBlank c = true) :
    trim (cutAt ':' (p.label ++ gap)).1 = p.name ∧
      (cutAt ':' (p.label ++ gap)).2.bind trimmed? = p.typeHint := by
  unfold label
  cases hhint : p.typeHint with
  | none =>
    have hplain : ':' ∉ p.name ++ gap := by
      intro hmem
      rcases List.mem_append.mp hmem with hmem | hmem
      · exact h.plain.2 hmem
      · exact absurd (hgap _ hmem) (by decide)
    rw [List.append_nil, cutAt_of_not_mem hplain]
    exact ⟨(trim_append_blanks hgap _).trans h.name.trim_eq, rfl⟩
  | some hint =>
    obtain ⟨hne, htrim, _⟩ := h.hint hint hhint
    rw [List.append_assoc, List.cons_append, cutAt_append h.plain.2]
    refine ⟨h.name.trim_eq, trimmed?_eq_some_iff.mpr ⟨?_, hne⟩⟩
    rw [trim_append_blanks hgap, trim_cons isBlank_space, htrim.trim_eq]

/-- What is shown of one segment can be read again. -/
theorem ofSegment_render (h : IsRead p)
    (hlast : ∀ d, p.defaultValue = some d → NoBlankLast d) : ofSegment p.render = p := by
  cases hd : p.defaultValue with
  | none =>
    have hcut : cutAt '=' p.render = (p.label, none) := by
      rw [render_of_none hd, cutAt_of_not_mem h.not_mem_label]
    obtain ⟨hname, hhint⟩ := h.cutAt_label [] (by simp)
    rw [List.append_nil] at hname hhint
    unfold ofSegment
    rw [hcut]
    dsimp only
    rw [hname, hhint]
    cases p
    cases hd
    rfl
  | some d =>
    obtain ⟨hne, hfirst⟩ := h.default d hd
    have hplain : '=' ∉ p.label ++ [' '] := by
      simp [h.not_mem_label]
    have hcut : cutAt '=' p.render = (p.label ++ [' '], some (' ' :: d)) := by
      rw [← cutAt_append hplain, render_of_some hd]
      simp
    have hdefault : trimmed? (' ' :: d) = some d := by
      refine trimmed?_eq_some_iff.mpr ⟨?_, hne⟩
      rw [trim_cons isBlank_space, IsTrimmed.trim_eq ⟨hfirst, hlast d hd⟩]
    obtain ⟨hname, hhint⟩ := h.cutAt_label [' '] isBlank_of_mem_space
    unfold ofSegment
    rw [hcut]
    dsimp only
    rw [hname, hhint, Option.bind_some, hdefault]
    cases p
    cases hd
    rfl

/-! ### The ends of what is shown -/

theorem render_ne_nil (h : IsRead p) : p.render ≠ [] := by
  simp [render, h.name_ne]

theorem head?_render (h : IsRead p) : p.render.head? = p.name.head? := by
  unfold render
  rw [List.append_assoc, List.head?_append_of_ne_nil _ h.name_ne]

theorem noBlankFirst_render (h : IsRead p) : NoBlankFirst p.render := by
  intro c hc
  rw [h.head?_render] at hc
  exact h.name.first c hc

/-- Blanks at the end of what is shown are blanks at the end of the default. -/
theorem render_closed (h : IsRead p) : p.closed.render = trimRight p.render := by
  cases hd : p.defaultValue with
  | none =>
    have hclosed : p.closed.defaultValue = none := by simp [closed, hd]
    rw [render_of_none hclosed, render_of_none hd, h.isTrimmed_label.last.trimRight_eq]
    rfl
  | some d =>
    obtain ⟨hne, hfirst⟩ := h.default d hd
    have hclosed : p.closed.defaultValue = some (trimRight d) := by
      simp [closed, hd, hfirst.trim_eq]
    have hshown := hfirst.trimRight_append hne (p.label ++ [' ', '=', ' '])
    rw [render_of_some hclosed, render_of_some hd]
    simpa [label, closed] using hshown.symm

theorem isTrimmed_render (h : IsRead p)
    (hlast : ∀ d, p.defaultValue = some d → NoBlankLast d) : IsTrimmed p.render := by
  refine ⟨h.noBlankFirst_render, ?_⟩
  cases hd : p.defaultValue with
  | none =>
    rw [render_of_none hd]
    exact h.isTrimmed_label.last
  | some d =>
    have := (hlast d hd).append (h.default d hd).1 (p.label ++ [' ', '=', ' '])
    rw [render_of_some hd]
    simpa using this

end IsRead

/-! ## Continued defaults -/

/-- A default that can be continued is there, and it takes in the segment as it stands. -/
theorem render_absorb {s : Segment} (h : p.continuedBy s.body = true) :
    (p.absorb s).render = p.render ++ (s.delimiter ++ s.body) := by
  cases hd : p.defaultValue with
  | none => simp [continuedBy, hd] at h
  | some d =>
    have habsorbed : (p.absorb s).defaultValue = some (d ++ s.delimiter ++ s.body) := by
      simp [absorb, hd]
    rw [render_of_some habsorbed, render_of_some hd]
    simp [label, absorb]

theorem IsRead.absorb (h : IsRead p) (s : Segment) : IsRead (p.absorb s) where
  name_ne := h.name_ne
  name := h.name
  plain := h.plain
  hint := h.hint
  default := by
    intro d hd
    obtain ⟨d', hd', rfl⟩ := Option.map_eq_some_iff.mp hd
    obtain ⟨hne, hfirst⟩ := h.default d' hd'
    rw [List.append_assoc]
    exact ⟨by simp [hne], hfirst.append hne _⟩

/-- Whether a segment continues a default is seen from its first character. -/
theorem continuedBy_congr {b b' : Text} (h : b.head? = b'.head?) :
    p.continuedBy b = p.continuedBy b' := by
  unfold continuedBy
  cases b <;> cases b' <;> simp_all

/-- What is shown of a segment has its characters, and those of the layout. -/
theorem of_mem_render_ofSegment {c : Char} (h : c ∈ (ofSegment body).render) :
    c ∈ body ∨ c = ':' ∨ c = '=' ∨ c = ' ' := by
  have hafter : ∀ {t u : Text} {d : Char}, (cutAt d t).2.bind trimmed? = some u → c ∈ u →
      c ∈ t := by
    intro t u d hu hc
    obtain ⟨after, hafter, htrimmed⟩ := Option.bind_eq_some_iff.mp hu
    rw [← (trimmed?_eq_some_iff.mp htrimmed).1] at hc
    exact mem_of_mem_cutAt_snd hafter (mem_of_mem_trim hc)
  have hlabel : ∀ {c : Char}, c ∈ (cutAt '=' body).1 → c ∈ body := fun hc => mem_of_mem_cutAt hc
  unfold render at h
  rcases List.mem_append.mp h with h | h
  · rcases List.mem_append.mp h with h | h
    · exact .inl (hlabel (mem_of_mem_cutAt (mem_of_mem_trim h)))
    · cases hhint : (ofSegment body).typeHint with
      | none => simp [hhint] at h
      | some hint =>
        rw [hhint] at h
        rcases List.mem_cons.mp h with rfl | h
        · exact .inr (.inl rfl)
        · rcases List.mem_cons.mp h with rfl | h
          · exact .inr (.inr (.inr rfl))
          · exact .inl (hlabel (hafter hhint h))
  · cases hd : (ofSegment body).defaultValue with
    | none => simp [hd] at h
    | some d =>
      rw [hd] at h
      simp only [List.mem_cons] at h
      rcases h with rfl | rfl | rfl | h
      · exact .inr (.inr (.inr rfl))
      · exact .inr (.inr (.inl rfl))
      · exact .inr (.inr (.inr rfl))
      · exact .inl (hafter hd h)

end Parameter

end Signpost
