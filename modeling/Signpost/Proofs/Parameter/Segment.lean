import Signpost.Parameter
import Signpost.Proofs.Text.Split
import Signpost.Proofs.Text.Trim
set_option autoImplicit false

/-!
# Segments of a parameter list

Cutting a list at its commas and putting the segments together again are inverse to each other, once
it is said which blanks belong to which segment: those around a comma are its own, and between two
commas with nothing but blanks they belong to the first (`Chain`).  Every list is cut into such a
chain (`chain_segments`), and every chain is what its text is cut into (`segments_of_chain`).  The
segments keep every character of the list (`textOf_segments`).
-/

namespace Signpost

open Text

namespace Parameter

/-! ## Chains -/

/-- The text that segments make up. -/
def textOf (l : List Segment) : Text := l.flatMap fun s => s.delimiter ++ s.body

/-- The segments can follow a segment with this body.  Blanks before a comma belong to the comma,
unless another comma has taken them. -/
inductive Chain : Text → List Segment → Prop
  | last {body : Text} (plain : ',' ∉ body) : Chain body []
  | cons {body next left right : Text} {rest : List Segment} (plain : ',' ∉ body)
      (last : NoBlankLast body) (hleft : ∀ c ∈ left, isBlank c = true)
      (hright : ∀ c ∈ right, isBlank c = true) (hempty : body = [] → left = [])
      (first : NoBlankFirst next) (following : Chain next rest) :
      Chain body (⟨left ++ ',' :: right, next⟩ :: rest)

theorem Chain.plain {body : Text} {l : List Segment} (h : Chain body l) : ',' ∉ body := by
  cases h with
  | last plain => exact plain
  | cons plain => exact plain

theorem Chain.uncons {body : Text} {s : Segment} {rest : List Segment}
    (h : Chain body (s :: rest)) : NoBlankFirst s.body ∧ Chain s.body rest := by
  cases h with
  | cons _ _ _ _ _ first following => exact ⟨first, following⟩

theorem Chain.noBlankLast {body : Text} {l : List Segment} (h : Chain body l) (hne : l ≠ []) :
    NoBlankLast body := by
  cases h with
  | last => exact absurd rfl hne
  | cons _ last => exact last

theorem ne_comma_of_isBlank {c : Char} (h : isBlank c = true) : (c == ',') = false := by
  cases hc : c == ',' with
  | false => rfl
  | true =>
    rw [eq_of_beq hc] at h
    exact absurd h (by decide)

theorem ne_comma_of_plain {t : Text} (h : ',' ∉ t) : ∀ c ∈ t, (c == ',') = false := by
  intro c hc
  simp only [beq_eq_false_iff_ne, ne_eq]
  rintro rfl
  exact h hc

theorem plain_trimRight {t : Text} (h : ',' ∉ t) : ',' ∉ trimRight t :=
  fun hmem => h ((List.rdropWhile_prefix isBlank t).mem hmem)

theorem plain_trimLeft {t : Text} {rest : List Text} (h : ∀ u ∈ t :: rest, ',' ∉ u) :
    ∀ u ∈ trimLeft t :: rest, ',' ∉ u := by
  obtain ⟨ht, hrest⟩ := List.forall_mem_cons.mp h
  exact List.forall_mem_cons.mpr ⟨fun hmem => ht ((List.dropWhile_suffix isBlank).mem hmem), hrest⟩

/-- A chain is cut where it was put together. -/
theorem Chain.splitAtEach {body : Text} {l : List Segment} (h : Chain body l) :
    ∃ piece rest, splitAtEach (· == ',') (body ++ textOf l) = piece :: rest ∧
      (∀ delimiter, segmentsOf delimiter piece rest = ⟨delimiter, body⟩ :: l) ∧
      (NoBlankFirst body → NoBlankFirst piece) := by
  induction h with
  | @last body plain =>
    refine ⟨body, [], ?_, fun _ => rfl, id⟩
    have := splitAtEach_append (ne_comma_of_plain plain) (t := []) rfl
    simpa [textOf] using this
  | @cons body next left right rest plain last hleft hright hempty first _ ih =>
    obtain ⟨piece, pieces, hcut, hsegments, hpiece⟩ := ih
    have hpiece := hpiece first
    refine ⟨body ++ left, (right ++ piece) :: pieces, ?_, ?_, ?_⟩
    · have htext : body ++ textOf (⟨left ++ ',' :: right, next⟩ :: rest) =
          (body ++ left) ++ ',' :: (right ++ (next ++ textOf rest)) := by
        simp [textOf]
      have hafter := splitAtEach_append (fun c hc => ne_comma_of_isBlank (hright c hc)) hcut
      have hcomma := Text.splitAtEach_cons_of_pos (p := (· == ',')) (c := ',') (by decide)
        (right ++ (next ++ textOf rest))
      rw [hafter] at hcomma
      have hbefore : ∀ c ∈ body ++ left, (c == ',') = false := by
        intro c hc
        rcases List.mem_append.mp hc with hc | hc
        · exact ne_comma_of_plain plain c hc
        · exact ne_comma_of_isBlank (hleft c hc)
      rw [htext, splitAtEach_append hbefore hcomma, List.append_nil]
    · intro delimiter
      rw [segmentsOf]
      have hbody : trimRight (body ++ left) = body := dropWhileEnd_append hleft last
      rw [hbody, takeWhileEnd_append hleft last, takeWhile_append_stop hright hpiece]
      have hnext : trimLeft (right ++ piece) = piece := dropWhile_append_stop hright hpiece
      rw [hnext, hsegments]
    · intro hbody
      by_cases hne : body = []
      · rw [hempty hne, hne]
        exact noBlankFirst_nil
      · exact hbody.append hne left

/-- The text of a chain is cut into the chain. -/
theorem segments_of_chain {body : Text} {l : List Segment} (h : Chain body l) :
    segments (body ++ textOf l) = ⟨[], body⟩ :: l := by
  obtain ⟨piece, rest, hcut, hsegments, _⟩ := h.splitAtEach
  unfold segments
  rw [hcut]
  exact hsegments []

/-! ## Every list is cut into a chain -/

/-- The delimiter that is cut out between two pieces. -/
def delimiterBetween (piece next : Text) : Text :=
  takeWhileEnd isBlank piece ++ ',' :: next.takeWhile isBlank

/-- A chain goes on to the left with the piece before its first comma. -/
theorem Chain.cons_piece {piece body : Text} {l : List Segment} (hpiece : ',' ∉ piece)
    (hempty : trimRight piece = [] → takeWhileEnd isBlank piece = []) (hbody : NoBlankFirst body)
    (h : Chain body l) (next : Text) :
    Chain (trimRight piece) (⟨delimiterBetween piece next, body⟩ :: l) :=
  .cons (plain_trimRight hpiece) (noBlankLast_trimRight piece) (fun _ hc => of_mem_takeWhileEnd hc)
    (fun _ hc => List.mem_takeWhile_imp hc) hempty hbody h

/-- What follows a comma is a chain. -/
theorem chain_segmentsOf : ∀ (rest : List Text) (delimiter piece : Text), NoBlankFirst piece →
    (∀ t ∈ piece :: rest, ',' ∉ t) →
    ∃ body l, segmentsOf delimiter piece rest = ⟨delimiter, body⟩ :: l ∧ NoBlankFirst body ∧
      Chain body l := by
  intro rest
  induction rest with
  | nil =>
    intro delimiter piece hfirst hplain
    exact ⟨piece, [], rfl, hfirst, .last (hplain piece List.mem_cons_self)⟩
  | cons next rest ih =>
    intro delimiter piece hfirst hplain
    obtain ⟨hpiece, hplain⟩ := List.forall_mem_cons.mp hplain
    obtain ⟨body, l, hsegments, hbody, hchain⟩ := ih (delimiterBetween piece next) (trimLeft next)
      (noBlankFirst_trimLeft next) (plain_trimLeft hplain)
    refine ⟨trimRight piece, ⟨delimiterBetween piece next, body⟩ :: l,
      congrArg (List.cons _) hsegments, noBlankFirst_trimRight hfirst,
      hchain.cons_piece hpiece ?_ hbody next⟩
    intro hnil
    have hempty : piece = [] := by
      by_contra hne
      exact hfirst.trimRight_ne_nil hne hnil
    rw [hempty]
    rfl

theorem plain_of_mem_splitAtEach {t piece : Text} (h : piece ∈ splitAtEach (· == ',') t) :
    ',' ∉ piece := by
  intro hmem
  have := (of_mem_splitAtEach h _ hmem).1
  simp at this

/-- Every list is cut into a chain, apart from an empty first segment with blanks before its
comma. -/
theorem chain_segments (t : Text) :
    ∃ body l, segments t = ⟨[], body⟩ :: l ∧ (trim body ≠ [] → Chain body l) ∧
      ∀ s rest, l = s :: rest → Chain s.body rest := by
  obtain ⟨piece, rest, hcut⟩ := List.exists_cons_of_ne_nil (splitAtEach_ne_nil (· == ',') t)
  have hplain : ∀ u ∈ piece :: rest, ',' ∉ u := fun u hu => plain_of_mem_splitAtEach (hcut ▸ hu)
  unfold segments
  rw [hcut]
  cases rest with
  | nil => exact ⟨piece, [], rfl, fun _ => .last (hplain piece List.mem_cons_self), by simp⟩
  | cons next rest =>
    obtain ⟨hpiece, hplain⟩ := List.forall_mem_cons.mp hplain
    obtain ⟨body, l, hsegments, hbody, hchain⟩ :=
      chain_segmentsOf rest (delimiterBetween piece next) (trimLeft next)
        (noBlankFirst_trimLeft next) (plain_trimLeft hplain)
    refine ⟨trimRight piece, ⟨delimiterBetween piece next, body⟩ :: l,
      congrArg (List.cons _) hsegments, ?_, ?_⟩
    · intro htrim
      refine hchain.cons_piece hpiece ?_ hbody next
      intro hnil
      rw [hnil] at htrim
      exact absurd rfl htrim
    · intro s more heq
      obtain ⟨rfl, rfl⟩ := List.cons.inj heq
      exact hchain

/-- A text that does not begin with a blank is cut into a chain throughout. -/
theorem chain_segments_of_noBlankFirst {t : Text} (h : NoBlankFirst t) :
    ∃ body l, segments t = ⟨[], body⟩ :: l ∧ NoBlankFirst body ∧ Chain body l := by
  obtain ⟨piece, rest, hcut⟩ := List.exists_cons_of_ne_nil (splitAtEach_ne_nil (· == ',') t)
  have hplain : ∀ u ∈ piece :: rest, ',' ∉ u := fun u hu => plain_of_mem_splitAtEach (hcut ▸ hu)
  have hfirst : NoBlankFirst piece := by
    intro c hc
    have htext := flatten_splitAtEach hcut
    cases piece with
    | nil => simp at hc
    | cons e piece =>
      rw [← htext] at h
      exact h c hc
  unfold segments
  rw [hcut]
  exact chain_segmentsOf rest [] piece hfirst hplain

/-! ## Nothing is lost -/

theorem textOf_append (l l' : List Segment) : textOf (l ++ l') = textOf l ++ textOf l' :=
  List.flatMap_append

theorem textOf_segmentsOf : ∀ (rest : List Text) (delimiter piece : Text),
    textOf (segmentsOf delimiter piece rest) =
      delimiter ++ (piece ++ rest.flatMap (',' :: ·)) := by
  intro rest
  induction rest with
  | nil => simp [segmentsOf, textOf]
  | cons next rest ih =>
    intro delimiter piece
    have hpiece : trimRight piece ++ takeWhileEnd isBlank piece = piece :=
      dropWhileEnd_append_takeWhileEnd isBlank piece
    have hnext : next.takeWhile isBlank ++ trimLeft next = next :=
      List.takeWhile_append_dropWhile
    calc textOf (segmentsOf delimiter piece (next :: rest))
        = delimiter ++ trimRight piece ++
            textOf (segmentsOf (delimiterBetween piece next) (trimLeft next) rest) := rfl
      _ = delimiter ++ ((trimRight piece ++ takeWhileEnd isBlank piece) ++
            ',' :: ((next.takeWhile isBlank ++ trimLeft next) ++ rest.flatMap (',' :: ·))) := by
          rw [ih]
          simp [delimiterBetween]
      _ = delimiter ++ (piece ++ (next :: rest).flatMap (',' :: ·)) := by
          rw [hpiece, hnext]
          rfl

/-- The segments of a list make up the list. -/
theorem textOf_segments (t : Text) : textOf (segments t) = t := by
  obtain ⟨piece, rest, hcut⟩ := List.exists_cons_of_ne_nil (splitAtEach_ne_nil (· == ',') t)
  unfold segments
  rw [hcut]
  exact (textOf_segmentsOf rest [] piece).trans (flatten_splitAtEach hcut)

/-! ## The characters of segments -/

/-- A class of characters that has the comma and those of a list has those of its segments. -/
theorem forall_mem_segmentsOf {P : Char → Prop} (hcomma : P ',') :
    ∀ (rest : List Text) (delimiter piece : Text), (∀ c ∈ delimiter, P c) →
      (∀ t ∈ piece :: rest, ∀ c ∈ t, P c) →
      ∀ s ∈ segmentsOf delimiter piece rest, ∀ c ∈ s.delimiter ++ s.body, P c := by
  intro rest
  induction rest with
  | nil =>
    intro delimiter piece hdelimiter hpieces s hs c hc
    rw [List.mem_singleton.mp hs] at hc
    rcases List.mem_append.mp hc with hc | hc
    · exact hdelimiter c hc
    · exact hpieces piece List.mem_cons_self c hc
  | cons next rest ih =>
    intro delimiter piece hdelimiter hpieces s hs c hc
    obtain ⟨hpiece, hpieces⟩ := List.forall_mem_cons.mp hpieces
    obtain ⟨hnext, hrest⟩ := List.forall_mem_cons.mp hpieces
    rcases List.mem_cons.mp hs with rfl | hs
    · rcases List.mem_append.mp hc with hc | hc
      · exact hdelimiter c hc
      · exact hpiece c ((List.rdropWhile_prefix isBlank piece).mem hc)
    · refine ih (delimiterBetween piece next) (trimLeft next) ?_ ?_ s hs c hc
      · intro d hd
        rcases List.mem_append.mp hd with hd | hd
        · exact hpiece d ((List.rtakeWhile_suffix isBlank piece).mem hd)
        · rcases List.mem_cons.mp hd with rfl | hd
          · exact hcomma
          · exact hnext d ((List.takeWhile_prefix isBlank).mem hd)
      · exact List.forall_mem_cons.mpr
          ⟨fun d hd => hnext d ((List.dropWhile_suffix isBlank).mem hd), hrest⟩

theorem forall_mem_segments {P : Char → Prop} (hcomma : P ',') {t : Text} (ht : ∀ c ∈ t, P c) :
    ∀ s ∈ segments t, ∀ c ∈ s.delimiter ++ s.body, P c := by
  obtain ⟨piece, rest, hcut⟩ := List.exists_cons_of_ne_nil (splitAtEach_ne_nil (· == ',') t)
  unfold segments
  rw [hcut]
  refine forall_mem_segmentsOf hcomma rest [] piece (by simp) ?_
  intro u hu c hc
  rw [← hcut] at hu
  exact ht c (of_mem_splitAtEach hu c hc).2

end Parameter

end Signpost
