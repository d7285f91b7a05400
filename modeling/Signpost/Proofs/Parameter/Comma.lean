import Signpost.Proofs.Literal
import Signpost.Proofs.Parameter.Blocked
import Signpost.Proofs.Parameter.RoundTrip
set_option autoImplicit false

/-!
# Commas with nothing between them

A comma at the end of a list, or a second one after a comma, makes an empty segment.  After a
parameter without a default such a segment is passed over.  After a default it counts as one that
continues the default, as a segment does that starts with a quote, and so the default takes in the
comma.

So an additional comma is without effect exactly if the parameter before it has no default or is
blocked; otherwise that one default grows by the comma, and nothing else changes
(`parse_additional_comma`).
-/

namespace Signpost.Parameter

open Text

/-! ## What a comma adds to the segments -/

/-- The segments that follow a comma.  `blanks` are those before the comma, and `t` is what stands
after it. -/
def segmentsAfterComma (blanks t : Text) : List Segment :=
  match splitAtEach (· == ',') t with
  | [] => []
  | next :: rest => segmentsOf (blanks ++ ',' :: next.takeWhile isBlank) (trimLeft next) rest

/-- More pieces leave all segments as they are, apart from the blanks at the end of the last one:
these go to the comma. -/
theorem segmentsOf_append : ∀ (rest : List Text) (delimiter piece : Text),
    ∃ front last, (front = [] ∧ last.body = piece ∨ NoBlankFirst last.body) ∧
      segmentsOf delimiter piece rest = front ++ [last] ∧
      ∀ next more, segmentsOf delimiter piece (rest ++ next :: more) =
        front ++ ⟨last.delimiter, trimRight last.body⟩ ::
          segmentsOf (delimiterBetween last.body next) (trimLeft next) more := by
  intro rest
  induction rest with
  | nil =>
    intro delimiter piece
    exact ⟨[], ⟨delimiter, piece⟩, .inl ⟨rfl, rfl⟩, rfl, fun _ _ => rfl⟩
  | cons q rest ih =>
    intro delimiter piece
    obtain ⟨front, last, hfirst, hsegments, hmore⟩ :=
      ih (delimiterBetween piece q) (trimLeft q)
    refine ⟨⟨delimiter, trimRight piece⟩ :: front, last, .inr ?_,
      congrArg (List.cons _) hsegments, fun next more => congrArg (List.cons _) (hmore next more)⟩
    rcases hfirst with ⟨_, hbody⟩ | hfirst
    · rw [hbody]
      exact noBlankFirst_trimLeft q
    · exact hfirst

theorem segments_append_comma (u : Text) :
    ∃ front last, (front = [] ∨ NoBlankFirst last.body) ∧ segments u = front ++ [last] ∧
      ∀ v, segments (u ++ ',' :: v) =
        front ++ ⟨last.delimiter, trimRight last.body⟩ ::
          segmentsAfterComma (takeWhileEnd isBlank last.body) v := by
  obtain ⟨piece, rest, hcut⟩ := List.exists_cons_of_ne_nil (splitAtEach_ne_nil (· == ',') u)
  obtain ⟨front, last, hfirst, hsegments, hmore⟩ := segmentsOf_append rest [] piece
  refine ⟨front, last, hfirst.imp_left And.left, ?_, ?_⟩
  · unfold segments
    rw [hcut]
    exact hsegments
  · intro v
    obtain ⟨next, more, hnext⟩ := List.exists_cons_of_ne_nil (splitAtEach_ne_nil (· == ',') v)
    have hboth := splitAtEach_append_cons (p := (· == ',')) (c := ',') (by decide) u v
    rw [hcut, hnext, List.cons_append] at hboth
    unfold segments segmentsAfterComma
    rw [hboth, hnext]
    exact hmore next more

/-- What follows a comma is one segment with the comma in its delimiter, and others that do not
depend on the blanks before the comma. -/
theorem exists_segmentsAfterComma (t : Text) :
    ∃ right next more, NoBlankFirst next ∧
      ∀ blanks, segmentsAfterComma blanks t = ⟨blanks ++ ',' :: right, next⟩ :: more := by
  obtain ⟨piece, rest, hcut⟩ := List.exists_cons_of_ne_nil (splitAtEach_ne_nil (· == ',') t)
  unfold segmentsAfterComma
  rw [hcut]
  cases rest with
  | nil => exact ⟨_, _, [], noBlankFirst_trimLeft piece, fun _ => rfl⟩
  | cons q rest =>
    exact ⟨_, _, _, noBlankFirst_trimRight (noBlankFirst_trimLeft piece), fun _ => rfl⟩

/-- A second comma makes an empty segment. -/
theorem segmentsAfterComma_comma (blanks t : Text) :
    segmentsAfterComma blanks (',' :: t) = ⟨blanks ++ [','], []⟩ :: segmentsAfterComma [] t := by
  obtain ⟨next, more, hnext⟩ := List.exists_cons_of_ne_nil (splitAtEach_ne_nil (· == ',') t)
  have hboth := splitAtEach_cons_of_pos (p := (· == ',')) (c := ',') (by decide) t
  unfold segmentsAfterComma
  rw [hboth, hnext]
  rfl

/-! ## The parameter before the comma -/

/-- A default, if there is one, has a text that begins with no blank. -/
def HasText (p : Parameter) : Prop := ∀ d, p.defaultValue = some d → d ≠ [] ∧ NoBlankFirst d

theorem hasText_ofSegment (body : Text) : HasText (ofSegment body) := by
  intro d hd
  obtain ⟨after, _, htrimmed⟩ := Option.bind_eq_some_iff.mp hd
  obtain ⟨hne, htrim⟩ := isTrimmed_of_trimmed? htrimmed
  exact ⟨hne, htrim.first⟩

theorem HasText.absorb {p : Parameter} (h : HasText p) (s : Segment) : HasText (p.absorb s) := by
  intro d hd
  obtain ⟨d', hd', rfl⟩ := Option.map_eq_some_iff.mp hd
  obtain ⟨hne, hfirst⟩ := h d' hd'
  rw [List.append_assoc]
  exact ⟨by simp [hne], hfirst.append hne _⟩

theorem hasText_next {current : Option Parameter} (h : ∀ p ∈ current, HasText p) (s : Segment) :
    ∀ p ∈ next current s, HasText p := by
  intro p hp
  unfold next at hp
  split at hp
  · split at hp
    · simp at hp
    · rw [← Option.some.inj hp]
      exact hasText_ofSegment _
  · rename_i q
    split at hp
    · rw [← Option.some.inj hp]
      exact (h q rfl).absorb s
    · split at hp
      · rw [← Option.some.inj hp]
        exact h q rfl
      · rw [← Option.some.inj hp]
        exact hasText_ofSegment _

theorem hasText_foldl_next (l : List Segment) {current : Option Parameter}
    (h : ∀ p ∈ current, HasText p) : ∀ p ∈ l.foldl next current, HasText p := by
  induction l generalizing current with
  | nil => exact h
  | cons s l ih => exact ih (hasText_next h s)

/-- Once a parameter has begun, there is one that may be continued. -/
theorem finished_eq_nil {l : List Segment} {current : Option Parameter}
    (h : l.foldl next current = none) : current = none ∧ finished current l = [] := by
  induction l generalizing current with
  | nil => exact ⟨h, rfl⟩
  | cons s l ih =>
    obtain ⟨hnext, hfinished⟩ := ih h
    cases current with
    | none => exact ⟨rfl, hfinished⟩
    | some p =>
      simp only [next] at hnext
      split_ifs at hnext

/-- Blanks at the end of the last segment are not read. -/
theorem parseSegments_trimRight {front : List Segment} {last : Segment}
    (h : front = [] ∨ NoBlankFirst last.body) :
    parseSegments [] none (front ++ [⟨last.delimiter, trimRight last.body⟩]) =
      parseSegments [] none (front ++ [last]) := by
  have htrim : trim (trimRight last.body) = trim last.body := by
    have hsplit := dropWhileEnd_append_takeWhileEnd isBlank last.body
    conv_rhs => rw [← hsplit]
    exact (trim_append_blanks (fun _ hc => of_mem_takeWhileEnd hc) _).symm
  rw [parseSegments_append, parseSegments_append]
  congr 1
  cases hcurrent : front.foldl next none with
  | none => simp only [parseSegments, htrim]
  | some p =>
    have hfirst : NoBlankFirst last.body := by
      rcases h with rfl | hfirst
      · simp at hcurrent
      · exact hfirst
    have hhead : (trimRight last.body).head? = last.body.head? := by
      by_cases hnil : last.body = []
      · rw [hnil]
        rfl
      · have hne := hfirst.trimRight_ne_nil hnil
        rw [← hfirst.trim_eq] at hne ⊢
        exact hfirst.head?_trim hne
    have hclosed : (p.absorb ⟨last.delimiter, trimRight last.body⟩).closed =
        (p.absorb last).closed := by
      unfold absorb closed
      cases p.defaultValue with
      | none => rfl
      | some d =>
        have hsplit := dropWhileEnd_append_takeWhileEnd isBlank last.body
        have htext : d ++ last.delimiter ++ last.body =
            d ++ last.delimiter ++ trimRight last.body ++ takeWhileEnd isBlank last.body := by
          rw [List.append_assoc _ (trimRight last.body)]
          exact congrArg _ hsplit.symm
        simp only [Option.map_some]
        rw [htext, trim_append_blanks fun _ hc => of_mem_takeWhileEnd hc]
    simp only [parseSegments, htrim, hclosed, continuedBy_congr hhead]

/-- A list, with a comma after it or without: what is finished before the comma, and the parameter
that the comma follows. -/
theorem exists_parse_comma (u : Text) :
    ∃ done current blanks, (∀ p ∈ current, HasText p) ∧ (current = none → done = []) ∧
      (∀ c ∈ blanks, isBlank c = true) ∧
      parse u [] = done ++ (current.map closed).toList ∧
      ∀ v, parse (u ++ ',' :: v) [] =
        done ++ parseSegments [] current (segmentsAfterComma blanks v) := by
  obtain ⟨front, last, hfirst, hsegments, hmore⟩ := segments_append_comma u
  -- The segments of `u`, the last without the blanks that a comma would take.
  let before := front ++ [⟨last.delimiter, trimRight last.body⟩]
  have hread : ∀ l, parseSegments [] none (before ++ l) =
      finished none before ++ parseSegments [] (before.foldl next none) l := by
    intro l
    rw [parseSegments_append]
    simp
  refine ⟨finished none before, before.foldl next none, takeWhileEnd isBlank last.body,
    hasText_foldl_next before (by simp), fun hnone => (finished_eq_nil hnone).2,
    fun _ hc => of_mem_takeWhileEnd hc, ?_, ?_⟩
  · have hwhole := hread []
    rw [List.append_nil, parseSegments_nil] at hwhole
    unfold parse
    rw [hsegments, ← parseSegments_trimRight hfirst, hwhole]
    simp
  · intro v
    have htext : segments (u ++ ',' :: v) =
        before ++ segmentsAfterComma (takeWhileEnd isBlank last.body) v := by
      rw [hmore]
      simp [before]
    unfold parse
    rw [htext, hread]

/-- A parameter without a default does not look at delimiters. -/
theorem parseSegments_of_no_default {current : Option Parameter}
    (h : ∀ p ∈ current, p.defaultValue = none) (delimiter delimiter' body : Text)
    (l : List Segment) :
    parseSegments [] current (⟨delimiter, body⟩ :: l) =
      parseSegments [] current (⟨delimiter', body⟩ :: l) := by
  cases current with
  | none => rfl
  | some p => simp only [parseSegments, continuedBy, h p rfl, Bool.false_eq_true, if_false]

/-- After a parameter without a default an empty segment is passed over. -/
theorem parseSegments_of_empty_segment {current : Option Parameter}
    (h : ∀ p ∈ current, p.defaultValue = none) (delimiter : Text) (l : List Segment) :
    parseSegments [] current (⟨delimiter, []⟩ :: l) = parseSegments [] current l := by
  cases current with
  | none => rfl
  | some p =>
    have hnot : p.continuedBy [] = false := by simp [continuedBy, h p rfl]
    exact parseSegments_of_empty (s := ⟨delimiter, []⟩) hnot rfl

/-! ## One comma more in a default -/

/-- `q` is `p` with one comma more in its default.  What stands before the comma is a closed text,
perhaps with blanks after it. -/
def CommaMore (p q : Parameter) : Prop :=
  ∃ before blanks after, p.defaultValue = some (before ++ after) ∧
    q = { p with defaultValue := some (before ++ blanks ++ ',' :: after) } ∧
    before ≠ [] ∧ NoBlankFirst before ∧ Literal.endsOpen before = false ∧
    ∀ c ∈ blanks, isBlank c = true

namespace CommaMore

variable {p q : Parameter}

theorem name_eq (h : CommaMore p q) : q.name = p.name := by
  obtain ⟨_, _, _, _, rfl, _⟩ := h
  rfl

theorem ne (h : CommaMore p q) : q ≠ p := by
  obtain ⟨before, blanks, after, hd, rfl, _⟩ := h
  intro heq
  have hdefault := congrArg defaultValue heq
  have hlength := congrArg List.length (Option.some.inj (hdefault.trans hd))
  simp only [List.length_append, List.length_cons] at hlength
  omega

/-- The comma does not change whether the default is open. -/
theorem continuedBy_eq (h : CommaMore p q) (body : Text) :
    q.continuedBy body = p.continuedBy body := by
  obtain ⟨before, blanks, after, hd, rfl, _, _, hclosed, hblanks⟩ := h
  have hcomma : Literal.endsOpen (blanks ++ [',']) = false := by
    refine Literal.endsOpen_of_unquoted ?_
    intro c hc
    rcases List.mem_append.mp hc with hc | hc
    · exact Literal.isQuote_of_isBlank (hblanks c hc)
    · rw [List.mem_singleton.mp hc]
      decide
  have htext : before ++ blanks ++ ',' :: after = before ++ (blanks ++ [','] ++ after) := by simp
  have hopen : Literal.endsOpen (before ++ blanks ++ ',' :: after) =
      Literal.endsOpen (before ++ after) := by
    rw [htext, Literal.endsOpen_append_of_closed hclosed, Literal.endsOpen_append_of_closed hcomma,
      Literal.endsOpen_append_of_closed hclosed]
  simp only [continuedBy, hd, hopen]

theorem absorb (h : CommaMore p q) (s : Segment) : CommaMore (p.absorb s) (q.absorb s) := by
  obtain ⟨before, blanks, after, hd, rfl, hne, hfirst, hclosed, hblanks⟩ := h
  refine ⟨before, blanks, after ++ s.delimiter ++ s.body, ?_, ?_, hne, hfirst, hclosed, hblanks⟩
  · simp [Parameter.absorb, hd]
  · simp [Parameter.absorb]

/-- Blanks at the end may be those before the comma. -/
theorem closed (h : CommaMore p q) : CommaMore p.closed q.closed := by
  obtain ⟨before, blanks, after, hd, rfl, hne, hfirst, hclosed, hblanks⟩ := h
  have hplain : trim (before ++ after) = trimRight (before ++ after) :=
    (hfirst.append hne after).trim_eq
  have hcomma : trim (before ++ blanks ++ ',' :: after) =
      before ++ blanks ++ ',' :: trimRight after := by
    rw [List.append_assoc, (hfirst.append hne _).trim_eq, ← List.append_assoc,
      trimRight_append_cons (by decide)]
  by_cases hafter : ∀ c ∈ after, isBlank c = true
  · have hnil : trimRight after = [] := dropWhileEnd_append (t := []) hafter (by simp)
    have hbefore : trimRight (before ++ after) = trimRight before :=
      dropWhileEnd_append_of_all hafter
    have hsplit : trimRight before ++ takeWhileEnd isBlank before = before :=
      dropWhileEnd_append_takeWhileEnd isBlank before
    refine ⟨trimRight before, takeWhileEnd isBlank before ++ blanks, [], ?_, ?_,
      hfirst.trimRight_ne_nil hne, noBlankFirst_trimRight hfirst, ?_, ?_⟩
    · simp [Parameter.closed, hd, hplain, hbefore]
    · simp only [Parameter.closed, Option.map_some, hcomma, hnil]
      rw [← List.append_assoc, hsplit]
    · have hblank : ∀ c ∈ takeWhileEnd isBlank before, isBlank c = true :=
        fun c hc => of_mem_takeWhileEnd hc
      rw [← Literal.endsOpen_append_blanks hblank, hsplit, hclosed]
    · intro c hc
      exact (List.mem_append.mp hc).elim (fun hc => of_mem_takeWhileEnd hc) (hblanks c)
  · obtain ⟨c, hmem, hc⟩ : ∃ c ∈ after, isBlank c = false := by simpa using hafter
    have hright : trimRight (before ++ after) = before ++ trimRight after :=
      trimRight_append_of_mem hmem hc before
    refine ⟨before, blanks, trimRight after, ?_, ?_, hne, hfirst, hclosed, hblanks⟩
    · simp [Parameter.closed, hd, hplain, hright]
    · simp only [Parameter.closed, Option.map_some, hcomma]

/-- What is read from there on has the comma in its first default, and no other difference. -/
theorem parseSegments (h : CommaMore p q) (l : List Segment) :
    ∃ p' q' rest, CommaMore p' q' ∧ p'.name = p.name ∧
      parseSegments [] (some p) l = p' :: rest ∧ parseSegments [] (some q) l = q' :: rest := by
  induction p, l using reading_induction generalizing q with
  | nil p => exact ⟨p.closed, q.closed, [], h.closed, rfl, rfl, rfl⟩
  | continued p s rest hcontinued ih =>
    rw [parseSegments_of_continuedBy hcontinued,
      parseSegments_of_continuedBy ((h.continuedBy_eq s.body).trans hcontinued)]
    exact ih (h.absorb s)
  | empty p s rest hcontinued hnil ih =>
    rw [parseSegments_of_empty hcontinued hnil,
      parseSegments_of_empty ((h.continuedBy_eq s.body).trans hcontinued) hnil]
    exact ih h
  | new p s rest hcontinued hne _ =>
    rw [parseSegments_of_new hcontinued hne,
      parseSegments_of_new ((h.continuedBy_eq s.body).trans hcontinued) hne]
    exact ⟨p, q, _, h, rfl, rfl, rfl⟩

end CommaMore

/-- A default takes in an empty segment with its comma. -/
theorem commaMore_absorb {p : Parameter} {d blanks : Text} (hd : p.defaultValue = some d)
    (htext : HasText p) (hclosed : Literal.endsOpen d = false)
    (hblanks : ∀ c ∈ blanks, isBlank c = true) : CommaMore p (p.absorb ⟨blanks ++ [','], []⟩) := by
  obtain ⟨hne, hfirst⟩ := htext d hd
  exact ⟨d, blanks, [], by simp [hd], by simp [Parameter.absorb, hd], hne, hfirst, hclosed, hblanks⟩

/-- Two commas after a default give one comma more than a single one. -/
theorem parseSegments_commas {p : Parameter} {d blanks : Text} (hd : p.defaultValue = some d)
    (htext : HasText p) (hclosed : Literal.endsOpen d = false)
    (hblanks : ∀ c ∈ blanks, isBlank c = true) (t : Text) :
    ∃ p' q' rest, CommaMore p' q' ∧ p'.name = p.name ∧
      parseSegments [] (some p) (segmentsAfterComma blanks t) = p' :: rest ∧
      parseSegments [] (some p) (segmentsAfterComma blanks (',' :: t)) = q' :: rest := by
  obtain ⟨right, next, more, hnext, hsegments⟩ := exists_segmentsAfterComma t
  have hmore := commaMore_absorb hd htext hclosed hblanks
  have hempty : p.continuedBy [] = true := by simp [continuedBy, hd]
  rw [segmentsAfterComma_comma, parseSegments_of_continuedBy (s := ⟨_, []⟩) hempty, hsegments,
    hsegments, List.nil_append]
  cases hcontinued : p.continuedBy next with
  | true =>
    -- Both commas stand between the default and the segment that continues it.
    have hboth : CommaMore (p.absorb ⟨blanks ++ ',' :: right, next⟩)
        ((p.absorb ⟨blanks ++ [','], []⟩).absorb ⟨',' :: right, next⟩) := by
      obtain ⟨hne, hfirst⟩ := htext d hd
      refine ⟨d ++ blanks, [], ',' :: (right ++ next), by simp [Parameter.absorb, hd],
        by simp [Parameter.absorb, hd], by simp [hne], hfirst.append hne blanks, ?_, by simp⟩
      rw [Literal.endsOpen_append_blanks hblanks, hclosed]
    rw [parseSegments_of_continuedBy (s := ⟨_, next⟩) hcontinued,
      parseSegments_of_continuedBy (s := ⟨_, next⟩) ((hmore.continuedBy_eq next).trans hcontinued)]
    exact hboth.parseSegments more
  | false =>
    have hne : trim next ≠ [] := by
      intro hnil
      rw [hnext.eq_nil_of_trim hnil, hempty] at hcontinued
      simp at hcontinued
    rw [parseSegments_of_new (s := ⟨_, next⟩) hcontinued hne,
      parseSegments_of_new (s := ⟨_, next⟩) ((hmore.continuedBy_eq next).trans hcontinued) hne]
    exact ⟨p, _, _, hmore, rfl, rfl, rfl⟩

/-! ## An additional comma -/

section

variable {blocked : List Text} {p q : Parameter}

theorem filter_of_kept (h : p.name ∉ blocked) (front back : List Parameter) :
    (front ++ p :: back).filter (·.name ∉ blocked) =
      front.filter (·.name ∉ blocked) ++ p :: back.filter (·.name ∉ blocked) := by
  simp [h]

/-- In a blocked parameter the comma is not seen. -/
theorem CommaMore.filter_eq (hmore : CommaMore p q) (h : p.name ∈ blocked)
    (front back : List Parameter) :
    (front ++ p :: back).filter (·.name ∉ blocked) =
      (front ++ q :: back).filter (·.name ∉ blocked) := by
  simp [h, hmore.name_eq]

end

/-- The default of the last parameter, if it has one, does not end inside a string. -/
def ClosesLast (t : Text) : Prop :=
  ∀ p ∈ (parse t []).getLast?, ∀ d ∈ p.defaultValue, Literal.endsOpen d = false

/-- The last parameter has a default and is not blocked. -/
def EndsInDefault (t : Text) (blocked : List Text) : Prop :=
  ∃ p ∈ (parse t []).getLast?, p.defaultValue.isSome = true ∧ p.name ∉ blocked

instance (t : Text) : Decidable (ClosesLast t) :=
  haveI (p : Parameter) : Decidable (∀ d ∈ p.defaultValue, Literal.endsOpen d = false) :=
    Option.decidableForallMem p.defaultValue
  Option.decidableForallMem _

instance (t : Text) (blocked : List Text) : Decidable (EndsInDefault t blocked) :=
  Option.decidableExistsMem _

/-- The parameter that a comma would follow is the last one, and closed. -/
theorem ClosesLast.endsOpen_eq {u : Text} (hu : ClosesLast u) {done : List Parameter}
    {p : Parameter} (hparse : parse u [] = done ++ [p.closed]) (htext : HasText p) {d : Text}
    (hd : p.defaultValue = some d) : Literal.endsOpen d = false := by
  have hlast : (parse u []).getLast? = some p.closed := by simp [hparse]
  have hclosed : p.closed.defaultValue = some (trimRight d) := by
    simp [closed, hd, (htext d hd).2.trim_eq]
  have hsplit : trimRight d ++ takeWhileEnd isBlank d = d :=
    dropWhileEnd_append_takeWhileEnd isBlank d
  have hblanks : ∀ c ∈ takeWhileEnd isBlank d, isBlank c = true :=
    fun c hc => of_mem_takeWhileEnd hc
  rw [← hsplit, Literal.endsOpen_append_blanks hblanks]
  exact hu p.closed hlast (trimRight d) hclosed

theorem endsInDefault_iff {u : Text} {done : List Parameter} {p : Parameter}
    (hparse : parse u [] = done ++ [p.closed]) (blocked : List Text) :
    EndsInDefault u blocked ↔ p.defaultValue.isSome = true ∧ p.name ∉ blocked := by
  simp [EndsInDefault, hparse, closed]

/-- A comma after a parameter without a default, or before every parameter, is not read. -/
theorem parse_comma_of_no_default {u : Text} {done : List Parameter} {current : Option Parameter}
    {blanks : Text} (hparse : parse u [] = done ++ (current.map closed).toList)
    (hcomma : ∀ v, parse (u ++ ',' :: v) [] =
      done ++ parseSegments [] current (segmentsAfterComma blanks v))
    (h : ∀ p ∈ current, p.defaultValue = none) (v : Text) :
    parse (u ++ [',']) [] = parse u [] ∧
      parse (u ++ ',' :: ',' :: v) [] = parse (u ++ ',' :: v) [] := by
  obtain ⟨right, next, more, _, hsegments⟩ := exists_segmentsAfterComma v
  refine ⟨?_, ?_⟩
  · have hone : segmentsAfterComma blanks [] = [⟨blanks ++ [','], []⟩] := rfl
    rw [hcomma, hone, parseSegments_of_empty_segment h, parseSegments_nil, hparse]
    simp
  · rw [hcomma, hcomma, segmentsAfterComma_comma, parseSegments_of_empty_segment h, hsegments,
      hsegments, parseSegments_of_no_default h (blanks ++ ',' :: right)]

/-- After a default, a comma at the end of the list is taken into it, and so is one of two commas
before more segments. -/
theorem parse_comma_of_default {u : Text} {done : List Parameter} {p : Parameter} {d blanks : Text}
    (hcomma : ∀ v, parse (u ++ ',' :: v) [] =
      done ++ parseSegments [] (some p) (segmentsAfterComma blanks v))
    (hd : p.defaultValue = some d) (htext : HasText p) (hclosed : Literal.endsOpen d = false)
    (hblanks : ∀ c ∈ blanks, isBlank c = true) (v : Text) :
    (∃ q, CommaMore p.closed q ∧ parse (u ++ [',']) [] = done ++ [q]) ∧
      ∃ p' q' rest, CommaMore p' q' ∧ p'.name = p.name ∧
        parse (u ++ ',' :: v) [] = done ++ p' :: rest ∧
        parse (u ++ ',' :: ',' :: v) [] = done ++ q' :: rest := by
  have hmore : CommaMore p (p.absorb ⟨blanks ++ [','], []⟩) :=
    commaMore_absorb hd htext hclosed hblanks
  have hempty : p.continuedBy [] = true := by simp [continuedBy, hd]
  have hone : segmentsAfterComma blanks [] = [⟨blanks ++ [','], []⟩] := rfl
  obtain ⟨p', q', rest, hmore', hname, honce, htwice⟩ :=
    parseSegments_commas hd htext hclosed hblanks v
  refine ⟨⟨_, hmore.closed, ?_⟩, p', q', rest, hmore', hname, ?_, ?_⟩
  · rw [hcomma, hone, parseSegments_of_continuedBy (s := ⟨_, []⟩) hempty, parseSegments_nil]
    simp
  · rw [hcomma, honce]
  · rw [hcomma, htwice]

/-- A comma at the end of a list, or a second one after a comma, is not read if the parameter before
it has no default or is blocked.  Otherwise the default takes it in, and that is all it does. -/
theorem parse_additional_comma {u : Text} (hu : ClosesLast u) (blocked : List Text) (v : Text) :
    (¬ EndsInDefault u blocked →
      parse (u ++ [',']) blocked = parse u blocked ∧
        parse (u ++ ',' :: ',' :: v) blocked = parse (u ++ ',' :: v) blocked) ∧
    (EndsInDefault u blocked →
      ∃ front,
        (∃ p q, CommaMore p q ∧ parse u blocked = front ++ [p] ∧
          parse (u ++ [',']) blocked = front ++ [q]) ∧
        ∃ p q back, CommaMore p q ∧ parse (u ++ ',' :: v) blocked = front ++ p :: back ∧
          parse (u ++ ',' :: ',' :: v) blocked = front ++ q :: back) := by
  obtain ⟨done, current, blanks, htext, hstart, hblanks, hparse, hcomma⟩ := exists_parse_comma u
  have hfilter : ∀ t, parse t blocked = (parse t []).filter (·.name ∉ blocked) :=
    fun t => parseSegments_eq_filter blocked none (segments t)
  simp only [hfilter]
  by_cases hnone : ∀ p ∈ current, p.defaultValue = none
  · obtain ⟨hend, htwo⟩ := parse_comma_of_no_default hparse hcomma hnone v
    refine ⟨fun _ => ⟨congrArg _ hend, congrArg _ htwo⟩, fun hends => ?_⟩
    cases current with
    | none =>
      obtain ⟨p, hp, _⟩ := hends
      simp [hparse, hstart rfl] at hp
    | some p =>
      have hsome := ((endsInDefault_iff hparse blocked).mp hends).1
      simp [hnone p rfl] at hsome
  · obtain ⟨p, rfl, d, hd⟩ : ∃ p, current = some p ∧ ∃ d, p.defaultValue = some d := by
      simp only [not_forall] at hnone
      obtain ⟨p, hp, hdefault⟩ := hnone
      exact ⟨p, hp, Option.ne_none_iff_exists'.mp hdefault⟩
    have hends := endsInDefault_iff hparse blocked
    have hclosed := hu.endsOpen_eq hparse (htext p rfl) hd
    obtain ⟨⟨q, hlast, hend⟩, p', q', rest, hmore, hname, honce, htwice⟩ :=
      parse_comma_of_default hcomma hd (htext p rfl) hclosed hblanks v
    have hwhole : parse u [] = done ++ [p.closed] := hparse
    rw [hwhole, hend, honce, htwice]
    refine ⟨fun hnot => ?_, fun hkept => ?_⟩
    · have hblocked : p.name ∈ blocked := by
        by_contra hkept
        exact hnot (hends.mpr ⟨by simp [hd], hkept⟩)
      exact ⟨(hlast.filter_eq hblocked done []).symm,
        (hmore.filter_eq (hname ▸ hblocked) done rest).symm⟩
    · have hkept : p.closed.name ∉ blocked := (hends.mp hkept).2
      have hkept' : p'.name ∉ blocked := hname ▸ hkept
      exact ⟨done.filter (·.name ∉ blocked),
        ⟨_, _, hlast, filter_of_kept hkept done [], filter_of_kept (hlast.name_eq ▸ hkept) done []⟩,
        p', q', rest.filter (·.name ∉ blocked), hmore, filter_of_kept hkept' done rest,
        filter_of_kept (hmore.name_eq ▸ hkept') done rest⟩

/-- After a string with a comma of its own, in a list whose last parameter is blocked or not. -/
theorem parse_additional_comma_string :
    let u : Text := "a, b: str = ',' "
    let v : Text := "'x', c"
    ClosesLast u ∧
      (¬ EndsInDefault u ["b"] ∧ parse (u ++ [',']) ["b"] = parse u ["b"] ∧
        parse (u ++ ',' :: ',' :: v) ["b"] = parse (u ++ ',' :: v) ["b"]) ∧
      EndsInDefault u [] ∧
        ∃ front, (∃ p q, CommaMore p q ∧ parse u [] = front ++ [p] ∧
            parse (u ++ [',']) [] = front ++ [q]) ∧
          ∃ p q back, CommaMore p q ∧ parse (u ++ ',' :: v) [] = front ++ p :: back ∧
            parse (u ++ ',' :: ',' :: v) [] = front ++ q :: back := by
  intro u v
  have hu : ClosesLast u := by decide +kernel
  have hblocked : ¬ EndsInDefault u ["b"] := by decide +kernel
  have hkept : EndsInDefault u [] := by decide +kernel
  exact ⟨hu, ⟨hblocked, (parse_additional_comma hu ["b"] v).1 hblocked⟩, hkept,
    (parse_additional_comma hu [] v).2 hkept⟩

/-- A comma at the end becomes part of the default before it, and so does the first of two. -/
theorem parse_comma_after_default :
    let u : Text := "a=1"
    ClosesLast u ∧
      (parse (u ++ [',']) [] = [⟨"a", none, some "1,"⟩] ∧ parse (u ++ [',']) [] ≠ parse u []) ∧
      parse (u ++ ',' :: ',' :: "b") [] = [⟨"a", none, some "1,"⟩, ⟨"b", none, none⟩] ∧
      parse (u ++ ',' :: ',' :: "b") [] ≠ parse (u ++ ',' :: "b") [] := by
  decide +kernel

end Signpost.Parameter
