import Signpost.Proofs.Parameter.Reading
import Signpost.Proofs.Parameter.Segment
set_option autoImplicit false

/-!
# Parameter lists, read and shown

A list that was read and shown is read again as it was, if every parameter has a name
(`parse_renderList`).  What is shown is a chain of segments again (`shownAfter`): the segments that
continue a default stand as they were, and every other one is shown anew behind a comma and a space.
Since a parameter is shown with its name first, it begins as its segment did, and so nothing new
continues a default.

The last default has lost the blanks at its end.  That is no loss, for blanks at the end of a list
mean nothing (`parse_trimRight`).
-/

namespace Signpost.Parameter

open Text

/-! ## Blanks at the end -/

/-- `s'` is `s` with one more blank at the end, which its delimiter takes if the body is empty. -/
def Extends (c : Char) (s s' : Segment) : Prop :=
  s.body = [] ∧ s' = ⟨s.delimiter ++ [c], []⟩ ∨ s.body ≠ [] ∧ s' = ⟨s.delimiter, s.body ++ [c]⟩

section

variable {c : Char} {s s' : Segment}

theorem Extends.head?_body (h : Extends c s s') : s'.body.head? = s.body.head? := by
  rcases h with ⟨hnil, rfl⟩ | ⟨hne, rfl⟩
  · rw [hnil]
  · exact List.head?_append_of_ne_nil _ hne

theorem Extends.text_eq (h : Extends c s s') :
    s'.delimiter ++ s'.body = s.delimiter ++ s.body ++ [c] := by
  rcases h with ⟨hnil, rfl⟩ | ⟨_, rfl⟩
  · simp [hnil]
  · simp

theorem Extends.trim_body (hc : isBlank c = true) (h : Extends c s s') :
    trim s'.body = trim s.body := by
  rcases h with ⟨hnil, rfl⟩ | ⟨_, rfl⟩
  · rw [hnil]
  · exact trim_concat hc s.body

theorem Extends.closed_absorb (hc : isBlank c = true) (h : Extends c s s') (p : Parameter) :
    (p.absorb s').closed = (p.absorb s).closed := by
  unfold absorb closed
  cases p.defaultValue with
  | none => rfl
  | some d =>
    have htext : d ++ s'.delimiter ++ s'.body = d ++ s.delimiter ++ s.body ++ [c] := by
      rw [List.append_assoc, h.text_eq]
      simp
    simp only [Option.map_some]
    rw [htext, trim_concat hc]

theorem parseSegments_extends (hc : isBlank c = true) (h : Extends c s s') (blocked : List Text) :
    ∀ (front : List Segment) (current : Option Parameter),
      parseSegments blocked current (front ++ [s']) =
        parseSegments blocked current (front ++ [s]) := by
  intro front
  induction front with
  | nil =>
    intro current
    cases current with
    | none => simp only [List.nil_append, parseSegments, h.trim_body hc]
    | some p =>
      simp only [List.nil_append, parseSegments, h.trim_body hc, h.closed_absorb hc,
        continuedBy_congr h.head?_body]
  | cons f front ih =>
    intro current
    cases current with
    | none => simp only [List.cons_append, parseSegments, ih]
    | some p => simp only [List.cons_append, parseSegments, ih]

end

/-- The segments before the last comma do not depend on what follows it. -/
theorem segmentsOf_concat : ∀ (mid : List Text) (delimiter piece : Text),
    ∃ front before, ∀ last, segmentsOf delimiter piece (mid ++ [last]) =
      front ++ [⟨delimiterBetween before last, trimLeft last⟩] := by
  intro mid
  induction mid with
  | nil =>
    intro delimiter piece
    exact ⟨[⟨delimiter, trimRight piece⟩], piece, fun _ => rfl⟩
  | cons next mid ih =>
    intro delimiter piece
    obtain ⟨front, before, hfront⟩ := ih (delimiterBetween piece next) (trimLeft next)
    exact ⟨⟨delimiter, trimRight piece⟩ :: front, before,
      fun last => congrArg (List.cons _) (hfront last)⟩

theorem extends_concat {c : Char} (hc : isBlank c = true) (before last : Text) :
    Extends c ⟨delimiterBetween before last, trimLeft last⟩
      ⟨delimiterBetween before (last ++ [c]), trimLeft (last ++ [c])⟩ := by
  by_cases hnil : trimLeft last = []
  · have hall : ∀ d ∈ last, isBlank d = true := List.dropWhile_eq_nil_iff.mp hnil
    refine .inl ⟨hnil, ?_⟩
    have htake : (last ++ [c]).takeWhile isBlank = last.takeWhile isBlank ++ [c] := by
      rw [List.takeWhile_append_of_pos hall, List.takeWhile_eq_self_iff.mpr hall,
        List.takeWhile_cons_of_pos hc, List.takeWhile_nil]
    have hdrop : trimLeft (last ++ [c]) = [] := by
      unfold trimLeft
      rw [List.dropWhile_append_of_pos hall, List.dropWhile_cons_of_pos hc, List.dropWhile_nil]
    rw [hdrop, delimiterBetween, htake]
    simp [delimiterBetween]
  · refine .inr ⟨hnil, ?_⟩
    have hdrop : trimLeft (last ++ [c]) = trimLeft last ++ [c] := by
      unfold trimLeft at hnil ⊢
      rw [List.dropWhile_append, if_neg (by simpa using hnil)]
    have htake : (last ++ [c]).takeWhile isBlank = last.takeWhile isBlank := by
      have hsplit := List.takeWhile_append_dropWhile (p := isBlank) (l := last ++ [c])
      have hsplit' := List.takeWhile_append_dropWhile (p := isBlank) (l := last)
      unfold trimLeft at hdrop
      rw [hdrop, ← List.append_assoc] at hsplit
      exact List.append_cancel_right ((List.append_cancel_right hsplit).trans hsplit'.symm)
    rw [hdrop, delimiterBetween, htake]
    rfl

/-- One more blank at the end of a list changes nothing. -/
theorem parse_concat {c : Char} (hc : isBlank c = true) (t : Text) (blocked : List Text) :
    parse (t ++ [c]) blocked = parse t blocked := by
  have hne := splitAtEach_ne_nil (· == ',') t
  have hcut := (List.dropLast_append_getLast hne).symm
  have hcut' := splitAtEach_concat (p := (· == ',')) (ne_comma_of_isBlank hc) hcut
  generalize (splitAtEach (· == ',') t).dropLast = init at hcut hcut'
  generalize (splitAtEach (· == ',') t).getLast hne = last at hcut hcut'
  unfold parse segments
  rw [hcut, hcut']
  cases init with
  | nil =>
    simp only [List.nil_append, segmentsOf, parseSegments, trim_concat hc]
  | cons piece mid =>
    obtain ⟨front, before, hfront⟩ := segmentsOf_concat mid [] piece
    show parseSegments blocked none (segmentsOf [] piece (mid ++ [last ++ [c]])) =
      parseSegments blocked none (segmentsOf [] piece (mid ++ [last]))
    rw [hfront, hfront]
    exact parseSegments_extends hc (extends_concat hc before last) blocked front none

theorem parse_trimRight (t : Text) (blocked : List Text) :
    parse (trimRight t) blocked = parse t blocked := by
  have happend : ∀ blanks : Text, (∀ c ∈ blanks, isBlank c = true) →
      parse (trimRight t ++ blanks) blocked = parse (trimRight t) blocked := by
    intro blanks hblanks
    induction blanks using List.reverseRecOn with
    | nil => rw [List.append_nil]
    | append_singleton blanks c ih =>
      rw [← List.append_assoc, parse_concat (hblanks c (by simp)),
        ih fun d hd => hblanks d (by simp [hd])]
  have hsplit := dropWhileEnd_append_takeWhileEnd isBlank t
  conv_rhs => rw [← hsplit]
  exact (happend _ fun c hc => of_mem_takeWhileEnd hc).symm

/-! ## What is shown after a parameter -/

/-- The segments that are shown after a parameter whose default may still be continued. -/
def shownAfter (p : Parameter) : List Segment → List Segment
  | [] => []
  | s :: rest =>
    if p.continuedBy s.body then s :: shownAfter (p.absorb s) rest
    else
      match trim s.body with
      | [] => shownAfter p rest
      | c :: cs =>
        ⟨[',', ' '], (ofSegment (c :: cs)).render⟩ :: shownAfter (ofSegment (c :: cs)) rest

section

variable {p : Parameter} {s : Segment} {rest : List Segment}

theorem shownAfter_of_continuedBy (h : p.continuedBy s.body = true) :
    shownAfter p (s :: rest) = s :: shownAfter (p.absorb s) rest := by
  rw [shownAfter, if_pos h]

theorem shownAfter_of_empty (h : p.continuedBy s.body = false) (hnil : trim s.body = []) :
    shownAfter p (s :: rest) = shownAfter p rest := by
  rw [shownAfter, if_neg (by simp [h]), hnil]

theorem shownAfter_of_new (h : p.continuedBy s.body = false) (hne : trim s.body ≠ []) :
    shownAfter p (s :: rest) =
      ⟨[',', ' '], (ofSegment (trim s.body)).render⟩ ::
        shownAfter (ofSegment (trim s.body)) rest := by
  rw [shownAfter, if_neg (by simp [h])]
  cases ht : trim s.body with
  | nil => exact absurd ht hne
  | cons c cs => rfl

theorem parseSegments_of_continuedBy (h : p.continuedBy s.body = true) :
    parseSegments [] (some p) (s :: rest) = parseSegments [] (some (p.absorb s)) rest := by
  rw [parseSegments, if_pos h]

theorem parseSegments_of_empty (h : p.continuedBy s.body = false) (hnil : trim s.body = []) :
    parseSegments [] (some p) (s :: rest) = parseSegments [] (some p) rest := by
  rw [parseSegments, if_neg (by simp [h]), hnil]

theorem parseSegments_of_new (h : p.continuedBy s.body = false) (hne : trim s.body ≠ [])
    (rest : List Segment) :
    parseSegments [] (some p) (s :: rest) =
      p :: parseSegments [] (some (ofSegment (trim s.body))) rest := by
  rw [parseSegments, if_neg (by simp [h])]
  cases ht : trim s.body with
  | nil => exact absurd ht hne
  | cons c cs => rfl

theorem parseSegments_none_of_empty (hnil : trim s.body = []) :
    parseSegments [] none (s :: rest) = parseSegments [] none rest := by
  rw [parseSegments, hnil]

theorem parseSegments_none_of_new (hne : trim s.body ≠ []) (rest : List Segment) :
    parseSegments [] none (s :: rest) = parseSegments [] (some (ofSegment (trim s.body))) rest := by
  rw [parseSegments]
  cases ht : trim s.body with
  | nil => exact absurd ht hne
  | cons c cs => rfl

end

/-- Reading goes on in one of three ways: a segment continues the default, is empty, or starts a new
parameter. -/
theorem reading_induction {motive : Parameter → List Segment → Prop} (nil : ∀ p, motive p [])
    (continued : ∀ p s rest, p.continuedBy s.body = true → motive (p.absorb s) rest →
      motive p (s :: rest))
    (empty : ∀ p s rest, p.continuedBy s.body = false → trim s.body = [] → motive p rest →
      motive p (s :: rest))
    (new : ∀ p s rest, p.continuedBy s.body = false → trim s.body ≠ [] →
      motive (ofSegment (trim s.body)) rest → motive p (s :: rest)) :
    ∀ p l, motive p l := by
  intro p l
  induction l generalizing p with
  | nil => exact nil p
  | cons s rest ih =>
    cases h : p.continuedBy s.body with
    | true => exact continued p s rest h (ih _)
    | false =>
      by_cases hnil : trim s.body = []
      · exact empty p s rest h hnil (ih p)
      · exact new p s rest h hnil (ih _)

/-- The parameter that is being read is among those that are read, with its name. -/
theorem exists_mem_parseSegments (p : Parameter) (l : List Segment) :
    ∃ q ∈ parseSegments [] (some p) l, q.name = p.name := by
  induction p, l using reading_induction with
  | nil p => exact ⟨p.closed, by simp [parseSegments, unlessBlocked], rfl⟩
  | continued p s rest h ih =>
    rw [parseSegments_of_continuedBy h]
    exact ih
  | empty p s rest h hnil ih =>
    rw [parseSegments_of_empty h hnil]
    exact ih
  | new p s rest h hne _ =>
    rw [parseSegments_of_new h hne]
    exact ⟨p, List.mem_cons_self, rfl⟩

/-- All that is read has names. -/
def Named (p : Parameter) (l : List Segment) : Prop :=
  ∀ q ∈ parseSegments [] (some p) l, q.name ≠ []

theorem Named.name_ne {p : Parameter} {l : List Segment} (h : Named p l) : p.name ≠ [] := by
  obtain ⟨q, hq, hname⟩ := exists_mem_parseSegments p l
  rw [← hname]
  exact h q hq

section

variable {p : Parameter} {s : Segment} {rest : List Segment}

theorem Named.of_continuedBy (hnamed : Named p (s :: rest)) (h : p.continuedBy s.body = true) :
    Named (p.absorb s) rest := by
  intro q hq
  rw [← parseSegments_of_continuedBy h] at hq
  exact hnamed q hq

theorem Named.of_empty (hnamed : Named p (s :: rest)) (h : p.continuedBy s.body = false)
    (hnil : trim s.body = []) : Named p rest := by
  intro q hq
  rw [← parseSegments_of_empty h hnil] at hq
  exact hnamed q hq

theorem Named.of_new (hnamed : Named p (s :: rest)) (h : p.continuedBy s.body = false)
    (hne : trim s.body ≠ []) : Named (ofSegment (trim s.body)) rest := by
  intro q hq
  refine hnamed q ?_
  rw [parseSegments_of_new h hne]
  exact List.mem_cons_of_mem _ hq

end

/-- A new parameter is shown without a comma. -/
theorem plain_render {body : Text} (h : ',' ∉ body) : ',' ∉ (ofSegment (trim body)).render := by
  intro hmem
  rcases of_mem_render_ofSegment hmem with hbody | hother
  · exact h (mem_of_mem_trim hbody)
  · exact absurd hother (by decide)

theorem ofSegment_render_ofSegment {body : Text} (h : (ofSegment body).name ≠ []) :
    ofSegment (ofSegment body).render = ofSegment body :=
  (isRead_ofSegment h).ofSegment_render fun _ hd => noBlankLast_defaultValue_ofSegment hd

/-- A new parameter is shown as a trimmed text. -/
theorem isTrimmed_render_ofSegment {body : Text} (h : (ofSegment body).name ≠ []) :
    IsTrimmed (ofSegment body).render :=
  (isRead_ofSegment h).isTrimmed_render fun _ hd => noBlankLast_defaultValue_ofSegment hd

/-- What is shown of a parameter is read as that parameter, after another one. -/
theorem parseSegments_render {p : Parameter} {body delimiter : Text}
    (hname : (ofSegment body).name ≠ []) (h : p.continuedBy (ofSegment body).render = false)
    (l : List Segment) :
    parseSegments [] (some p) (⟨delimiter, (ofSegment body).render⟩ :: l) =
      p :: parseSegments [] (some (ofSegment body)) l := by
  have htrim := (isTrimmed_render_ofSegment hname).trim_eq
  have hne : trim (ofSegment body).render ≠ [] := by
    rw [htrim]
    exact (isRead_ofSegment hname).render_ne_nil
  have hnew := parseSegments_of_new (s := ⟨delimiter, (ofSegment body).render⟩) h hne l
  rw [hnew, htrim, ofSegment_render_ofSegment hname]

/-- What is shown of a parameter is read as that parameter, at the beginning. -/
theorem parseSegments_render_first {body delimiter : Text} (hname : (ofSegment body).name ≠ [])
    (l : List Segment) :
    parseSegments [] none (⟨delimiter, (ofSegment body).render⟩ :: l) =
      parseSegments [] (some (ofSegment body)) l := by
  have htrim := (isTrimmed_render_ofSegment hname).trim_eq
  have hne : trim (ofSegment body).render ≠ [] := by
    rw [htrim]
    exact (isRead_ofSegment hname).render_ne_nil
  have hnew := parseSegments_none_of_new (s := ⟨delimiter, (ofSegment body).render⟩) hne l
  rw [hnew, htrim, ofSegment_render_ofSegment hname]

/-- What is shown after a chain's first segment is a chain, behind the text that is shown for it. -/
theorem chain_shownAfter {p : Parameter} {l : List Segment} {body shown : Text}
    (h : Chain body l) (hplain : ',' ∉ shown) (hlast : l ≠ [] → NoBlankLast shown)
    (hempty : shown = [] → body = []) (hnamed : Named p l) : Chain shown (shownAfter p l) := by
  induction p, l using reading_induction generalizing body shown with
  | nil p => exact .last hplain
  | continued p s rest hcontinued ih =>
    rw [shownAfter_of_continuedBy hcontinued]
    cases h with
    | cons _ _ hleft hright hnone first following =>
      refine .cons hplain (hlast (by simp)) hleft hright (fun hnil => hnone (hempty hnil)) first ?_
      exact ih following following.plain following.noBlankLast id
        (hnamed.of_continuedBy hcontinued)
  | empty p s rest hcontinued hnil ih =>
    obtain ⟨first, following⟩ := h.uncons
    rw [shownAfter_of_empty hcontinued hnil]
    exact ih following hplain (fun _ => hlast (by simp)) (fun _ => first.eq_nil_of_trim hnil)
      (hnamed.of_empty hcontinued hnil)
  | new p s rest hcontinued hne ih =>
    rw [shownAfter_of_new hcontinued hne]
    have hnew := hnamed.of_new hcontinued hne
    have hread := isRead_ofSegment hnew.name_ne
    obtain ⟨_, following⟩ := h.uncons
    have hleft : ∀ c ∈ ([] : Text), isBlank c = true := by simp
    refine .cons hplain (hlast (by simp)) hleft isBlank_of_mem_space (fun _ => rfl)
      hread.noBlankFirst_render ?_
    exact ih following (plain_render following.plain)
      (fun _ => (isTrimmed_render_ofSegment hnew.name_ne).last)
      (fun hnil => absurd hnil hread.render_ne_nil) hnew

/-- What is shown is read as what it was shown for. -/
theorem parseSegments_shownAfter {p : Parameter} {l : List Segment} {body : Text}
    (h : Chain body l) (hnamed : Named p l) :
    parseSegments [] (some p) (shownAfter p l) = parseSegments [] (some p) l := by
  induction p, l using reading_induction generalizing body with
  | nil p => rfl
  | continued p s rest hcontinued ih =>
    rw [shownAfter_of_continuedBy hcontinued, parseSegments_of_continuedBy hcontinued,
      parseSegments_of_continuedBy hcontinued]
    exact ih h.uncons.2 (hnamed.of_continuedBy hcontinued)
  | empty p s rest hcontinued hnil ih =>
    rw [shownAfter_of_empty hcontinued hnil, parseSegments_of_empty hcontinued hnil]
    exact ih h.uncons.2 (hnamed.of_empty hcontinued hnil)
  | new p s rest hcontinued hne ih =>
    obtain ⟨first, following⟩ := h.uncons
    have hnew := hnamed.of_new hcontinued hne
    have hread := isRead_ofSegment hnew.name_ne
    -- The name comes first, so the shown text begins as the segment did.
    have hhead : (ofSegment (trim s.body)).render.head? = s.body.head? := by
      rw [hread.head?_render, head?_name_ofSegment (isTrimmed_trim _).first hnew.name_ne,
        first.head?_trim hne]
    have hshown : p.continuedBy (ofSegment (trim s.body)).render = false := by
      rw [continuedBy_congr hhead, hcontinued]
    rw [shownAfter_of_new hcontinued hne, parseSegments_of_new hcontinued hne,
      parseSegments_render hnew.name_ne hshown, ih following hnew]

theorem renderList_cons (p : Parameter) {ps : List Parameter} (h : ps ≠ []) :
    renderList (p :: ps) = p.render ++ ([',', ' '] ++ renderList ps) := by
  cases ps with
  | nil => exact absurd rfl h
  | cons q ps => simp [renderList, joinWith]

/-- A list is shown segment by segment, without the blanks at its end. -/
theorem renderList_parseSegments {p : Parameter} {l : List Segment} (hread : IsRead p)
    (hnamed : Named p l) :
    renderList (parseSegments [] (some p) l) = trimRight (p.render ++ textOf (shownAfter p l)) := by
  induction p, l using reading_induction with
  | nil p =>
    show renderList [p.closed] = trimRight (p.render ++ [])
    rw [List.append_nil, ← hread.render_closed]
    rfl
  | continued p s rest hcontinued ih =>
    rw [parseSegments_of_continuedBy hcontinued, shownAfter_of_continuedBy hcontinued,
      ih (hread.absorb s) (hnamed.of_continuedBy hcontinued), render_absorb hcontinued]
    simp [textOf]
  | empty p s rest hcontinued hnil ih =>
    rw [parseSegments_of_empty hcontinued hnil, shownAfter_of_empty hcontinued hnil,
      ih hread (hnamed.of_empty hcontinued hnil)]
  | new p s rest hcontinued hne ih =>
    have hnew := hnamed.of_new hcontinued hne
    have hnext := isRead_ofSegment hnew.name_ne
    have hsome : parseSegments [] (some (ofSegment (trim s.body))) rest ≠ [] := by
      obtain ⟨q, hq, _⟩ := exists_mem_parseSegments (ofSegment (trim s.body)) rest
      exact List.ne_nil_of_mem hq
    have hfirst := hnext.noBlankFirst_render.append hnext.render_ne_nil
      (textOf (shownAfter (ofSegment (trim s.body)) rest))
    rw [parseSegments_of_new hcontinued hne, shownAfter_of_new hcontinued hne,
      renderList_cons p hsome, ih hnext hnew, ← List.append_assoc,
      ← hfirst.trimRight_append (by simp [hnext.render_ne_nil])]
    simp [textOf]

/-! ## The round trip -/

/-- Reading starts with a segment that a chain follows. -/
structure Starts (l : List Segment) (s : Segment) (rest : List Segment) : Prop where
  chain : Chain s.body rest
  parse_eq : parseSegments [] none l = parseSegments [] (some (ofSegment (trim s.body))) rest
  subset : ∀ s' ∈ s :: rest, s' ∈ l

theorem Starts.cons_empty {l rest : List Segment} {s first : Segment} (h : Starts l s rest)
    (hnil : trim first.body = []) : Starts (first :: l) s rest where
  chain := h.chain
  parse_eq := by rw [parseSegments_none_of_empty hnil, h.parse_eq]
  subset := fun s' hs' => List.mem_cons_of_mem _ (h.subset s' hs')

theorem eq_nil_or_starts : ∀ (l : List Segment),
    (∀ s rest, l = s :: rest → Chain s.body rest) →
    parseSegments [] none l = [] ∨ ∃ s rest, Starts l s rest := by
  intro l
  induction l with
  | nil => exact fun _ => .inl rfl
  | cons s rest ih =>
    intro h
    have hchain := h s rest rfl
    by_cases hnil : trim s.body = []
    · have hrest : ∀ s' rest', rest = s' :: rest' → Chain s'.body rest' := by
        rintro s' rest' rfl
        exact hchain.uncons.2
      rcases ih hrest with hnone | ⟨s', rest', hstarts⟩
      · exact .inl (by rw [parseSegments_none_of_empty hnil, hnone])
      · exact .inr ⟨s', rest', hstarts.cons_empty hnil⟩
    · exact .inr ⟨s, rest, hchain, parseSegments_none_of_new hnil rest, fun _ hs => hs⟩

/-- A list has no parameter, or a first one. -/
theorem parse_eq_nil_or_starts (t : Text) :
    parse t [] = [] ∨ ∃ s rest, Starts (segments t) s rest := by
  obtain ⟨body, l, hsegments, hfirst, hrest⟩ := chain_segments t
  unfold parse
  rw [hsegments]
  by_cases hnil : trim body = []
  · rcases eq_nil_or_starts l hrest with hnone | ⟨s, rest, hstarts⟩
    · exact .inl (by rw [parseSegments_none_of_empty hnil, hnone])
    · exact .inr ⟨s, rest, hstarts.cons_empty hnil⟩
  · exact .inr ⟨⟨[], body⟩, l, hfirst hnil, parseSegments_none_of_new hnil l, fun _ hs => hs⟩

theorem Starts.named {t : Text} {s : Segment} {rest : List Segment}
    (h : Starts (segments t) s rest) (hnames : ∀ p ∈ parse t [], p.name ≠ []) :
    Named (ofSegment (trim s.body)) rest := by
  intro q hq
  rw [← h.parse_eq] at hq
  exact hnames q hq

/-- A list that was read and shown is read again as it was. -/
theorem parse_renderList (t : Text) (hnames : ∀ p ∈ parse t [], p.name ≠ []) :
    parse (renderList (parse t [])) [] = parse t [] := by
  rcases parse_eq_nil_or_starts t with hnil | ⟨s, rest, hstarts⟩
  · rw [hnil]
    rfl
  · have hnamed := hstarts.named hnames
    have hread := isRead_ofSegment hnamed.name_ne
    have hshown : Chain (ofSegment (trim s.body)).render
        (shownAfter (ofSegment (trim s.body)) rest) :=
      chain_shownAfter hstarts.chain (plain_render hstarts.chain.plain)
        (fun _ => (isTrimmed_render_ofSegment hnamed.name_ne).last)
        (fun hnil => absurd hnil hread.render_ne_nil) hnamed
    have hparse : parse t [] = parseSegments [] (some (ofSegment (trim s.body))) rest :=
      hstarts.parse_eq
    rw [hparse, renderList_parseSegments hread hnamed, parse_trimRight]
    unfold parse
    rw [segments_of_chain hshown, parseSegments_render_first hnamed.name_ne,
      parseSegments_shownAfter hstarts.chain hnamed]

/-! ## The characters that are shown -/

section

variable {P : Char → Prop} (hlayout : ∀ c ∈ [',', ' ', ':', '='], P c)
include hlayout

theorem forall_mem_render {body : Text} (hbody : ∀ c ∈ body, P c) :
    ∀ c ∈ (ofSegment (trim body)).render, P c := by
  intro c hc
  rcases of_mem_render_ofSegment hc with hmem | hmem
  · exact hbody c (mem_of_mem_trim hmem)
  · rcases hmem with rfl | rfl | rfl <;> exact hlayout _ (by simp)

theorem forall_mem_shownAfter {p : Parameter} {l : List Segment}
    (hl : ∀ s ∈ l, ∀ c ∈ s.delimiter ++ s.body, P c) :
    ∀ c ∈ textOf (shownAfter p l), P c := by
  induction p, l using reading_induction with
  | nil p => simp [shownAfter, textOf]
  | continued p s rest hcontinued ih =>
    obtain ⟨hs, hrest⟩ := List.forall_mem_cons.mp hl
    rw [shownAfter_of_continuedBy hcontinued, textOf, List.flatMap_cons]
    exact List.forall_mem_append.mpr ⟨hs, ih hrest⟩
  | empty p s rest hcontinued hnil ih =>
    rw [shownAfter_of_empty hcontinued hnil]
    exact ih (List.forall_mem_cons.mp hl).2
  | new p s rest hcontinued hne ih =>
    obtain ⟨hs, hrest⟩ := List.forall_mem_cons.mp hl
    rw [shownAfter_of_new hcontinued hne, textOf, List.flatMap_cons]
    refine List.forall_mem_append.mpr ⟨List.forall_mem_append.mpr ⟨?_, ?_⟩, ih hrest⟩
    · intro c hc
      exact hlayout c (List.mem_of_mem_take (i := 2) hc)
    · exact forall_mem_render hlayout (List.forall_mem_append.mp hs).2

/-- A list is shown with its own characters, and those of the layout. -/
theorem forall_mem_renderList {t : Text} (ht : ∀ c ∈ t, P c)
    (hnames : ∀ p ∈ parse t [], p.name ≠ []) : ∀ c ∈ renderList (parse t []), P c := by
  rcases parse_eq_nil_or_starts t with hnil | ⟨s, rest, hstarts⟩
  · rw [hnil]
    simp [renderList, joinWith]
  · have hsegments := forall_mem_segments (hlayout ',' (by simp)) ht
    have hnamed := hstarts.named hnames
    have hparse : parse t [] = parseSegments [] (some (ofSegment (trim s.body))) rest :=
      hstarts.parse_eq
    obtain ⟨hs, hrest⟩ := List.forall_mem_cons.mp
      fun s' hs' => hsegments s' (hstarts.subset s' hs')
    rw [hparse, renderList_parseSegments (isRead_ofSegment hnamed.name_ne) hnamed]
    intro c hc
    refine List.forall_mem_append.mpr ⟨?_, ?_⟩ c ((List.rdropWhile_prefix isBlank _).mem hc)
    · exact forall_mem_render hlayout (List.forall_mem_append.mp hs).2
    · exact forall_mem_shownAfter hlayout hrest

end

end Signpost.Parameter
