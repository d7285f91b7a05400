import Signpost.Proofs.Definition
set_option autoImplicit false

/-!
# The description of a definition

A definition takes its description from its source: the first text between two equal marks, a mark
being three quotes of one kind.  `Quotation.IsFirstIn` says which one that is.  The first mark counts
that is there again further on, whatever stands between the two, and the text ends where the mark
comes back for the first time.  A mark that is not closed is passed over, character by character, so
that the next mark may begin inside it.

There is one such quotation at most (`Quotation.IsFirstIn.unique`), and the search finds it
(`description?_eq_some_iff`).
-/

namespace Signpost

open Text

/-! ## Where a text occurs -/

/-- A text occurs in another one at its end, if at all. -/
def Text.OnlyAtEnd (mark t : Text) : Prop := ∀ l r, t = l ++ mark ++ r → r = []

section

variable {mark t body : Text}

theorem Text.startsWith_iff {p : Text} : startsWith t p = true ↔ p <+: t := by
  rw [startsWith, Option.isSome_iff_exists]
  constructor
  · rintro ⟨rest, h⟩
    exact ⟨rest, (afterPrefix?_eq_some_iff.mp h).symm⟩
  · rintro ⟨rest, h⟩
    exact ⟨rest, afterPrefix?_eq_some_iff.mpr h.symm⟩

theorem Text.onlyAtEnd_self (mark : Text) : OnlyAtEnd mark mark := by
  intro l r h
  have hlength := congrArg List.length h
  simp only [List.length_append] at hlength
  exact List.length_eq_zero_iff.mp (by omega)

theorem Text.onlyAtEnd_cons {c : Char} :
    OnlyAtEnd mark (c :: t) ↔ (mark <+: c :: t → mark = c :: t) ∧ OnlyAtEnd mark t := by
  constructor
  · intro h
    refine ⟨?_, fun l r ht => h (c :: l) r (by rw [ht]; rfl)⟩
    rintro ⟨r, hr⟩
    obtain rfl := h [] r hr.symm
    rwa [List.append_nil] at hr
  · rintro ⟨hfirst, hrest⟩ l r ht
    cases l with
    | nil =>
      have hmark := hfirst ⟨r, ht.symm⟩
      rw [hmark, List.nil_append] at ht
      simpa using ht
    | cons d l =>
      rw [List.cons_append, List.cons_append] at ht
      exact hrest l r (List.cons.inj ht).2

/-- What precedes a mark is known by where the mark comes first. -/
theorem until?_eq_some_iff (hmark : mark ≠ []) :
    until? mark t = some body ↔ body ++ mark <+: t ∧ OnlyAtEnd mark (body ++ mark) := by
  induction t generalizing body with
  | nil => simp [until?, hmark]
  | cons c t ih =>
    rw [until?]
    split
    · rename_i hstarts
      have hfront := startsWith_iff.mp hstarts
      constructor
      · intro h
        obtain rfl := Option.some.inj h
        exact ⟨hfront, onlyAtEnd_self mark⟩
      · rintro ⟨hbody, honly⟩
        -- The mark at the front is the one at the end, so nothing is between them.
        obtain ⟨r, hr⟩ := List.prefix_of_prefix_length_le hfront hbody (by simp)
        obtain rfl := honly [] r hr.symm
        have hlength := congrArg List.length hr
        simp only [List.append_nil, List.length_append] at hlength
        exact congrArg some (List.length_eq_zero_iff.mp (by omega)).symm
    · rename_i hstarts
      have hfront : ¬ mark <+: c :: t := fun h => hstarts (startsWith_iff.mpr h)
      rw [Option.map_eq_some_iff]
      constructor
      · rintro ⟨body, hbody, rfl⟩
        obtain ⟨hrest, honly⟩ := ih.mp hbody
        have hcons : c :: body ++ mark <+: c :: t := List.cons_prefix_cons.mpr ⟨rfl, hrest⟩
        exact ⟨hcons, onlyAtEnd_cons.mpr ⟨fun h => absurd (h.trans hcons) hfront, honly⟩⟩
      · rintro ⟨hbody, honly⟩
        cases body with
        | nil => exact absurd hbody hfront
        | cons d body =>
          obtain ⟨rfl, hrest⟩ := List.cons_prefix_cons.mp hbody
          exact ⟨body, ih.mpr ⟨hrest, (onlyAtEnd_cons.mp honly).2⟩, rfl⟩

theorem until?_eq_none_iff (hmark : mark ≠ []) : until? mark t = none ↔ ¬ mark <:+: t := by
  induction t with
  | nil => simp [until?, hmark]
  | cons c t ih =>
    rw [until?, List.infix_cons_iff, not_or, ← startsWith_iff, ← ih]
    split <;> simp [*]

end

/-! ## Quotations -/

/-- A text between two marks, with what precedes it and what follows. -/
structure Quotation where
  before : Text
  mark : Text
  body : Text
  after : Text
  deriving DecidableEq, Repr, Inhabited

/-- A text begins with a mark that is there again further on. -/
def BeginsQuotation (t : Text) : Prop := ∃ mark ∈ descriptionMarks, ∃ u, t = mark ++ u ∧ mark <:+: u

/-- A quotation is the first one of a text. -/
structure Quotation.IsFirstIn (q : Quotation) (s : Text) : Prop where
  mark_mem : q.mark ∈ descriptionMarks
  eq : s = q.before ++ (q.mark ++ (q.body ++ q.mark ++ q.after))
  /-- It ends where its mark comes back for the first time. -/
  closes : OnlyAtEnd q.mark (q.body ++ q.mark)
  /-- Nowhere before it does a mark stand that is there again further on. -/
  first : ∀ l r, s = l ++ r → l.length < q.before.length → ¬ BeginsQuotation r

section

variable {mark s t body : Text} {q : Quotation}

theorem length_of_mem_descriptionMarks : ∀ mark ∈ descriptionMarks, mark.length = 3 := by decide

theorem ne_nil_of_mem_descriptionMarks (h : mark ∈ descriptionMarks) : mark ≠ [] := by
  rintro rfl
  exact absurd (length_of_mem_descriptionMarks _ h) (by decide)

/-- A text begins with one mark at most, since all are equally long. -/
theorem eq_of_mem_descriptionMarks {mark' u u' : Text} (h : mark ∈ descriptionMarks)
    (h' : mark' ∈ descriptionMarks) (heq : mark ++ u = mark' ++ u') : mark = mark' ∧ u = u' := by
  apply List.append_inj heq
  rw [length_of_mem_descriptionMarks _ h, length_of_mem_descriptionMarks _ h']

/-- The text between a mark at the front and where the mark comes first again. -/
theorem bind_until?_eq_some_iff (h : mark ∈ descriptionMarks) :
    (afterPrefix? mark t).bind (until? mark) = some body ↔
      ∃ after, t = mark ++ (body ++ mark ++ after) ∧ OnlyAtEnd mark (body ++ mark) := by
  rw [Option.bind_eq_some_iff]
  constructor
  · rintro ⟨u, hu, hbody⟩
    obtain ⟨⟨after, hafter⟩, hcloses⟩ :=
      (until?_eq_some_iff (ne_nil_of_mem_descriptionMarks h)).mp hbody
    exact ⟨after, by rw [hafter]; exact afterPrefix?_eq_some_iff.mp hu, hcloses⟩
  · rintro ⟨after, ht, hcloses⟩
    exact ⟨_, afterPrefix?_eq_some_iff.mpr ht,
      (until?_eq_some_iff (ne_nil_of_mem_descriptionMarks h)).mpr
        ⟨List.prefix_append _ after, hcloses⟩⟩

theorem descriptionHere?_eq_some_iff :
    descriptionHere? t = some body ↔
      ∃ mark ∈ descriptionMarks, ∃ after, t = mark ++ (body ++ mark ++ after) ∧
        OnlyAtEnd mark (body ++ mark) := by
  constructor
  · intro h
    obtain ⟨mark, hmark, hbody⟩ := List.exists_of_findSome?_eq_some h
    exact ⟨mark, hmark, (bind_until?_eq_some_iff hmark).mp hbody⟩
  · rintro ⟨mark, hmark, h⟩
    have hfound := (bind_until?_eq_some_iff hmark).mpr h
    cases hhere : descriptionHere? t with
    | none =>
      have hnone := List.findSome?_eq_none_iff.mp hhere mark hmark
      exact nomatch hfound.symm.trans hnone
    | some other =>
      -- Another mark would have to begin the text, too.
      obtain ⟨mark', hmark', hother⟩ := List.exists_of_findSome?_eq_some hhere
      obtain ⟨after, ht, _⟩ := h
      obtain ⟨after', ht', _⟩ := (bind_until?_eq_some_iff hmark').mp hother
      obtain ⟨rfl, _⟩ := eq_of_mem_descriptionMarks hmark hmark' (ht.symm.trans ht')
      exact hother.symm.trans hfound

theorem descriptionHere?_eq_none_iff : descriptionHere? t = none ↔ ¬ BeginsQuotation t := by
  unfold descriptionHere? BeginsQuotation
  rw [List.findSome?_eq_none_iff, not_exists]
  refine forall_congr' fun mark => ?_
  rw [not_and]
  refine imp_congr_right fun hmark => ?_
  rw [Option.bind_eq_none_iff, not_exists]
  refine forall_congr' fun u => ?_
  rw [afterPrefix?_eq_some_iff, until?_eq_none_iff (ne_nil_of_mem_descriptionMarks hmark), not_and]

namespace Quotation

/-- A quotation at the front of a text is the first one. -/
theorem isFirstIn_nil {after : Text} (h : mark ∈ descriptionMarks)
    (hcloses : OnlyAtEnd mark (body ++ mark)) :
    IsFirstIn ⟨[], mark, body, after⟩ (mark ++ (body ++ mark ++ after)) :=
  ⟨h, rfl, hcloses, fun _ _ _ hlt => absurd hlt (Nat.not_lt_zero _)⟩

/-- Where no quotation begins, the first one is that of the rest. -/
theorem isFirstIn_cons {c : Char} (h : ¬ BeginsQuotation (c :: s)) :
    IsFirstIn { q with before := c :: q.before } (c :: s) ↔ IsFirstIn q s := by
  constructor
  · intro hq
    refine ⟨hq.mark_mem, (List.cons.inj hq.eq).2, hq.closes, fun l r hs hlt => ?_⟩
    exact hq.first (c :: l) r (by rw [hs]; rfl) (Nat.succ_lt_succ hlt)
  · intro hq
    refine ⟨hq.mark_mem, congrArg (c :: ·) hq.eq, hq.closes, fun l r hs hlt => ?_⟩
    cases l with
    | nil =>
      rw [List.nil_append] at hs
      rwa [← hs]
    | cons d l => exact hq.first l r (List.cons.inj hs).2 (Nat.lt_of_succ_lt_succ hlt)

namespace IsFirstIn

theorem beginsQuotation (h : q.IsFirstIn s) :
    BeginsQuotation (q.mark ++ (q.body ++ q.mark ++ q.after)) :=
  ⟨q.mark, h.mark_mem, _, rfl, q.body, q.after, rfl⟩

theorem descriptionHere?_eq (h : q.IsFirstIn s) :
    descriptionHere? (q.mark ++ (q.body ++ q.mark ++ q.after)) = some q.body :=
  descriptionHere?_eq_some_iff.mpr ⟨q.mark, h.mark_mem, q.after, rfl, h.closes⟩

theorem length_before_le {q' : Quotation} (h : q.IsFirstIn s) (h' : q'.IsFirstIn s) :
    q.before.length ≤ q'.before.length := by
  by_contra hlt
  exact h.first _ _ h'.eq (Nat.not_le.mp hlt) h'.beginsQuotation

/-- A text has one first quotation. -/
theorem unique {q' : Quotation} (h : q.IsFirstIn s) (h' : q'.IsFirstIn s) : q = q' := by
  have hlength := Nat.le_antisymm (h.length_before_le h') (h'.length_before_le h)
  obtain ⟨hbefore, hrest⟩ := List.append_inj (h.eq.symm.trans h'.eq) hlength
  obtain ⟨hmark, htail⟩ := eq_of_mem_descriptionMarks h.mark_mem h'.mark_mem hrest
  have hbody : q.body = q'.body := by
    have hhere := h.descriptionHere?_eq
    rw [hrest, h'.descriptionHere?_eq] at hhere
    exact (Option.some.inj hhere).symm
  rw [hbody, hmark] at htail
  have hafter := List.append_cancel_left htail
  cases q
  cases q'
  simp_all

end IsFirstIn

end Quotation

/-! ## The search -/

theorem description?_eq_some_iff :
    description? s = some body ↔ ∃ q : Quotation, q.IsFirstIn s ∧ q.body = body := by
  induction s with
  | nil =>
    constructor
    · intro h
      exact nomatch h
    · rintro ⟨q, hq, _⟩
      obtain ⟨_, hrest⟩ := List.append_eq_nil_iff.mp hq.eq.symm
      exact absurd (List.append_eq_nil_iff.mp hrest).1 (ne_nil_of_mem_descriptionMarks hq.mark_mem)
  | cons c s ih =>
    rw [description?]
    cases hhere : descriptionHere? (c :: s) with
    | some other =>
      obtain ⟨mark, hmark, after, hs, hcloses⟩ := descriptionHere?_eq_some_iff.mp hhere
      have hfirst : Quotation.IsFirstIn ⟨[], mark, other, after⟩ (c :: s) := by
        rw [hs]
        exact Quotation.isFirstIn_nil hmark hcloses
      constructor
      · intro h
        exact ⟨_, hfirst, Option.some.inj h⟩
      · rintro ⟨q, hq, rfl⟩
        rw [hq.unique hfirst]
    | none =>
      have hnot := descriptionHere?_eq_none_iff.mp hhere
      rw [ih]
      constructor
      · rintro ⟨q, hq, rfl⟩
        exact ⟨_, (Quotation.isFirstIn_cons hnot).mpr hq, rfl⟩
      · rintro ⟨q, hq, rfl⟩
        obtain ⟨before, mark, body, after⟩ := q
        cases before with
        | nil => exact absurd (hq.eq ▸ hq.beginsQuotation) hnot
        | cons d before =>
          obtain rfl : c = d := (List.cons.inj hq.eq).1
          exact ⟨⟨before, mark, body, after⟩, (Quotation.isFirstIn_cons hnot).mp hq, rfl⟩

theorem description?_eq_none_iff :
    description? s = none ↔ ¬ ∃ q : Quotation, q.IsFirstIn s := by
  rw [Option.eq_none_iff_forall_ne_some, not_exists]
  constructor
  · intro h q hq
    exact h q.body (description?_eq_some_iff.mpr ⟨q, hq, rfl⟩)
  · intro h body hbody
    obtain ⟨q, hq, _⟩ := description?_eq_some_iff.mp hbody
    exact h q hq

end

namespace Definition

/-- The description of a definition whose header was read is the first quotation of its source, which
has one at most; without one, it is empty. -/
theorem description_ofBlock_first {d : Dialect} {blocked : List Text} {block : Text}
    (h : (ofBlock d blocked block).isDegenerate = false) :
    (∀ q : Quotation, q.IsFirstIn (trim block) →
      (ofBlock d blocked block).description = some q.body) ∧
    (∀ q q' : Quotation, q.IsFirstIn (trim block) → q'.IsFirstIn (trim block) → q = q') ∧
    ((¬ ∃ q : Quotation, q.IsFirstIn (trim block)) →
      (ofBlock d blocked block).description = some []) := by
  have hdescription : (ofBlock d blocked block).description =
      some ((description? (trim block)).getD []) := by
    rw [isDegenerate_ofBlock] at h
    rw [description_ofBlock]
    cases hparse : Header.parse? d (trim block) with
    | none => rw [hparse] at h; exact nomatch h
    | some header => rfl
  refine ⟨fun q hq => ?_, fun q q' hq hq' => hq.unique hq', fun hnone => ?_⟩
  · rw [hdescription, description?_eq_some_iff.mpr ⟨q, hq, rfl⟩]
    rfl
  · rw [hdescription, description?_eq_none_iff.mpr hnone]
    rfl

/-- Three quotes that nothing closes are passed over, and of four in a row the last belongs to the
text; where no mark is there again, the description is empty. -/
theorem description_ofBlock_first_passed_over :
    let block : Text := "\n  def f(a=\"\"\"b\"): ''''it''' '''no'''\n"
    let bare : Text := "def f(): \"\"\"it'''"
    ((ofBlock {} [] block).isDegenerate = false ∧
      ∃ q : Quotation, q.IsFirstIn (trim block) ∧ q.body = "'it" ∧
        (ofBlock {} [] block).description = some q.body) ∧
    (ofBlock {} [] bare).isDegenerate = false ∧
      (¬ ∃ q : Quotation, q.IsFirstIn (trim bare)) ∧
        (ofBlock {} [] bare).description = some [] := by
  intro block bare
  have hblock : (ofBlock {} [] block).isDegenerate = false := by decide +kernel
  have hbare : (ofBlock {} [] bare).isDegenerate = false := by decide +kernel
  have hbody : description? (trim block) = some "'it" := by decide +kernel
  have hnone : description? (trim bare) = none := by decide +kernel
  obtain ⟨q, hq, hq_body⟩ := description?_eq_some_iff.mp hbody
  have hnot := description?_eq_none_iff.mp hnone
  exact ⟨⟨hblock, q, hq, hq_body, (description_ofBlock_first hblock).1 q hq⟩, hbare, hnot,
    (description_ofBlock_first hbare).2.2 hnot⟩

end Definition

end Signpost
