import Signpost.Proofs.Literal
import Signpost.Proofs.Parameter.RoundTrip
set_option autoImplicit false

/-!
# Well-formed parameters are read back

A list of well-formed parameters is read from the way it is shown (`parse_renderList_of_wellFormed`).
The commas of a default are what makes this more than a matter of cutting: each of them ends a
segment, and only because it stands inside a string is the segment after it glued back.

So a parameter is looked at as its segments are: first `opening`, which is all that can be read from
the first of them, and then its `continuation`, which the reading takes in piece by piece.
-/

namespace Signpost.Parameter

open Text

/-! ## Well-formed parameters -/

/-- Every comma of a text stands inside a string literal. -/
def CommasInside (t : Text) : Prop :=
  ∀ n, n < t.length → t[n]? = some ',' → Literal.endsOpen (t.take n) = true

instance (t : Text) : Decidable (CommasInside t) :=
  inferInstanceAs (Decidable (∀ n, n < t.length → _ → _))

theorem CommasInside.endsOpen {s t : Text} (h : CommasInside (s ++ ',' :: t)) :
    Literal.endsOpen s = true := by
  have := h s.length (by simp) (by simp)
  rwa [List.take_left] at this

/-- A parameter whose parts can be told apart when it is shown in a list. -/
structure WellFormed (p : Parameter) : Prop where
  name_ne : p.name ≠ []
  name : IsTrimmed p.name
  plain : ',' ∉ p.name ∧ ':' ∉ p.name ∧ '=' ∉ p.name
  unquoted : ∀ c, p.name.head? = some c → Literal.isQuote c = false
  hint : ∀ h, p.typeHint = some h → h ≠ [] ∧ IsTrimmed h ∧ ',' ∉ h ∧ '=' ∉ h
  default : ∀ d, p.defaultValue = some d →
    d ≠ [] ∧ IsTrimmed d ∧ Literal.endsOpen d = false ∧ CommasInside d

/-- All that makes a parameter well formed, one thing after the other. -/
theorem wellFormed_iff {p : Parameter} :
    p.WellFormed ↔ p.name ≠ [] ∧ IsTrimmed p.name ∧
      (',' ∉ p.name ∧ ':' ∉ p.name ∧ '=' ∉ p.name) ∧
      (∀ c ∈ p.name.head?, Literal.isQuote c = false) ∧
      (∀ h ∈ p.typeHint, h ≠ [] ∧ IsTrimmed h ∧ ',' ∉ h ∧ '=' ∉ h) ∧
      ∀ d ∈ p.defaultValue, d ≠ [] ∧ IsTrimmed d ∧ Literal.endsOpen d = false ∧ CommasInside d :=
  ⟨fun h => ⟨h.1, h.2, h.3, h.4, h.5, h.6⟩,
    fun h => ⟨h.1, h.2.1, h.2.2.1, h.2.2.2.1, h.2.2.2.2.1, h.2.2.2.2.2⟩⟩

-- Without its own instance the condition on the first character is decided for every character.
instance (p : Parameter) : Decidable p.WellFormed :=
  haveI : Decidable (∀ c ∈ p.name.head?, Literal.isQuote c = false) :=
    Option.decidableForallMem p.name.head?
  decidable_of_iff' _ wellFormed_iff

/-! ## The segments of a parameter -/

/-- What stands before the first comma of a default. -/
def firstPiece (d : Text) : Text := ((segments d).head?.map Segment.body).getD []

/-- A parameter as it is read from its first segment. -/
def opening (p : Parameter) : Parameter := { p with defaultValue := p.defaultValue.map firstPiece }

/-- The segments of a parameter after the first. -/
def continuation (p : Parameter) : List Segment :=
  match p.defaultValue with
  | none => []
  | some d => (segments d).tail

/-- The segments of the parameters that are shown after another one. -/
def listSegments (ps : List Parameter) : List Segment :=
  ps.flatMap fun p => ⟨[',', ' '], p.opening.render⟩ :: p.continuation

theorem render_opening_of_none {p : Parameter} (h : p.defaultValue = none) :
    p.opening.render = p.label ∧ p.continuation = [] := by
  have hopening : p.opening.defaultValue = none := by simp [opening, h]
  exact ⟨render_of_none hopening, by simp [continuation, h]⟩

theorem render_opening_of_some {p : Parameter} {d : Text} (h : p.defaultValue = some d) :
    p.opening.render = p.label ++ [' ', '=', ' '] ++ firstPiece d ∧
      p.continuation = (segments d).tail := by
  have hopening : p.opening.defaultValue = some (firstPiece d) := by simp [opening, h]
  exact ⟨(render_of_some hopening).trans (by simp [label, opening]), by simp [continuation, h]⟩

/-- A default with its commas inside strings is a chain, and its first piece is not empty. -/
theorem chain_segments_of_default {d : Text} (hne : d ≠ []) (first : NoBlankFirst d)
    (hcommas : CommasInside d) :
    ∃ l, segments d = ⟨[], firstPiece d⟩ :: l ∧ firstPiece d ≠ [] ∧ NoBlankFirst (firstPiece d) ∧
      Chain (firstPiece d) l ∧ firstPiece d ++ textOf l = d := by
  obtain ⟨body, l, hsegments, hfirst, hchain⟩ := chain_segments_of_noBlankFirst first
  have hbody : firstPiece d = body := by simp [firstPiece, hsegments]
  have htext : body ++ textOf l = d := by
    have := textOf_segments d
    rwa [hsegments, textOf, List.flatMap_cons, List.nil_append] at this
  rw [hbody]
  refine ⟨l, hsegments, ?_, hfirst, hchain, htext⟩
  -- Before a comma at the very beginning there is no string that could be open.
  rintro rfl
  cases hchain with
  | last => exact hne htext.symm
  | @cons _ next left right rest _ _ _ _ hempty =>
    have hcomma : d = [] ++ ',' :: (right ++ next ++ textOf rest) := by
      rw [← htext, hempty rfl]
      simp [textOf]
    rw [hcomma] at hcommas
    exact absurd hcommas.endsOpen (by decide)

/-- A chain goes on with one more segment behind a comma and a space. -/
theorem Chain.append {body : Text} {l : List Segment} (h : Chain body l)
    (last : NoBlankLast (body ++ textOf l)) {next : Text} {rest : List Segment}
    (first : NoBlankFirst next) (following : Chain next rest) :
    Chain body (l ++ ⟨[',', ' '], next⟩ :: rest) := by
  induction h with
  | last plain =>
    rw [textOf, List.flatMap_nil, List.append_nil] at last
    have hleft : ∀ c ∈ ([] : Text), isBlank c = true := by simp
    exact .cons plain last hleft isBlank_of_mem_space (fun _ => rfl) first following
  | @cons body next' left right l plain hlast hleft hright hempty first' _ ih =>
    refine .cons plain hlast hleft hright hempty first' (ih ?_)
    have htext : body ++ textOf (⟨left ++ ',' :: right, next'⟩ :: l) =
        (body ++ left ++ ',' :: right) ++ (next' ++ textOf l) := by simp [textOf]
    rw [htext] at last
    exact last.of_append

/-- A chain whose first segment is not empty can begin with more text. -/
theorem Chain.prepend {body : Text} {l : List Segment} (h : Chain body l) (hne : body ≠ [])
    {s : Text} (hs : ',' ∉ s) : Chain (s ++ body) l := by
  have happend : ∀ {t : Text}, ',' ∉ t → ',' ∉ s ++ t := by
    intro t ht hmem
    exact (List.mem_append.mp hmem).elim hs ht
  cases h with
  | last plain => exact .last (happend plain)
  | cons plain last hleft hright _ first following =>
    exact .cons (happend plain) (last.append hne s) hleft hright (by simp [hne]) first following

namespace WellFormed

variable {p : Parameter}

theorem isRead (h : WellFormed p) : IsRead p where
  name_ne := h.name_ne
  name := h.name
  plain := ⟨h.plain.2.2, h.plain.2.1⟩
  hint := fun t ht => ⟨(h.hint t ht).1, (h.hint t ht).2.1, (h.hint t ht).2.2.2⟩
  default := fun d hd => ⟨(h.default d hd).1, (h.default d hd).2.1.first⟩

theorem isTrimmed_render (h : WellFormed p) : IsTrimmed p.render :=
  h.isRead.isTrimmed_render fun d hd => (h.default d hd).2.1.last

theorem closed_eq (h : WellFormed p) : p.closed = p := by
  obtain ⟨name, hint, default⟩ := p
  cases default with
  | none => rfl
  | some d => simp [closed, (h.default d rfl).2.1.trim_eq]

theorem plain_label (h : WellFormed p) : ',' ∉ p.label := by
  unfold label
  cases hhint : p.typeHint with
  | none => simpa using h.plain.1
  | some hint => simp [h.plain.1, (h.hint hint hhint).2.2.1]

/-! ### What is read from the first segment -/

theorem chain_default (h : WellFormed p) {d : Text} (hd : p.defaultValue = some d) :
    ∃ l, segments d = ⟨[], firstPiece d⟩ :: l ∧ firstPiece d ≠ [] ∧ NoBlankFirst (firstPiece d) ∧
      Chain (firstPiece d) l ∧ firstPiece d ++ textOf l = d := by
  obtain ⟨hne, htrim, _, hcommas⟩ := h.default d hd
  exact chain_segments_of_default hne htrim.first hcommas

theorem isRead_opening (h : WellFormed p) : IsRead p.opening where
  name_ne := h.name_ne
  name := h.name
  plain := h.isRead.plain
  hint := h.isRead.hint
  default := by
    intro t ht
    obtain ⟨d, hd, rfl⟩ := Option.map_eq_some_iff.mp ht
    obtain ⟨_, _, hne, hfirst, _⟩ := h.chain_default hd
    exact ⟨hne, hfirst⟩

/-- Before a comma the blanks belong to the comma, and the whole default is trimmed. -/
theorem noBlankLast_opening (h : WellFormed p) {t : Text} (ht : p.opening.defaultValue = some t) :
    NoBlankLast t := by
  obtain ⟨d, hd, rfl⟩ := Option.map_eq_some_iff.mp ht
  obtain ⟨l, _, _, _, hchain, htext⟩ := h.chain_default hd
  cases l with
  | nil =>
    rw [textOf, List.flatMap_nil, List.append_nil] at htext
    rw [htext]
    exact (h.default d hd).2.1.last
  | cons s l => exact hchain.noBlankLast (by simp)

theorem ofSegment_opening (h : WellFormed p) :
    trim p.opening.render = p.opening.render ∧ ofSegment p.opening.render = p.opening := by
  have hlast : ∀ t, p.opening.defaultValue = some t → NoBlankLast t :=
    fun _ ht => h.noBlankLast_opening ht
  exact ⟨(h.isRead_opening.isTrimmed_render hlast).trim_eq, h.isRead_opening.ofSegment_render hlast⟩

/-! ### What is shown is cut into the segments -/

theorem render_eq (h : WellFormed p) : p.render = p.opening.render ++ textOf p.continuation := by
  cases hd : p.defaultValue with
  | none =>
    obtain ⟨hopening, hcontinuation⟩ := render_opening_of_none hd
    rw [hopening, hcontinuation, render_of_none hd, textOf, List.flatMap_nil, List.append_nil]
  | some d =>
    obtain ⟨l, hsegments, _, _, _, htext⟩ := h.chain_default hd
    obtain ⟨hopening, hcontinuation⟩ := render_opening_of_some hd
    rw [hopening, hcontinuation, hsegments, List.tail_cons, List.append_assoc, htext,
      render_of_some hd]
    simp

theorem chain_render (h : WellFormed p) : Chain p.opening.render p.continuation := by
  cases hd : p.defaultValue with
  | none =>
    obtain ⟨hopening, hcontinuation⟩ := render_opening_of_none hd
    rw [hopening, hcontinuation]
    exact .last h.plain_label
  | some d =>
    obtain ⟨l, hsegments, hne, _, hchain, _⟩ := h.chain_default hd
    obtain ⟨hopening, hcontinuation⟩ := render_opening_of_some hd
    rw [hopening, hcontinuation, hsegments, List.tail_cons]
    exact hchain.prepend hne (by simp [h.plain_label])

/-! ### The segments are read as the parameter -/

/-- A default takes in its segments, each behind a comma inside a string. -/
theorem parseSegments_continued (name : Text) (hint : Option Text) {body : Text}
    {l : List Segment} (h : Chain body l) (more : List Segment) :
    ∀ before : Text, CommasInside (before ++ body ++ textOf l) →
      parseSegments [] (some ⟨name, hint, some (before ++ body)⟩) (l ++ more) =
        parseSegments [] (some ⟨name, hint, some (before ++ body ++ textOf l)⟩) more := by
  induction h with
  | last => simp [textOf]
  | @cons body next left right rest _ _ hleft _ _ _ _ ih =>
    intro before hcommas
    have htext : before ++ body ++ textOf (⟨left ++ ',' :: right, next⟩ :: rest) =
        before ++ body ++ (left ++ ',' :: right) ++ next ++ textOf rest := by simp [textOf]
    have hopen : Literal.endsOpen (before ++ body) = true := by
      have hcut : before ++ body ++ (left ++ ',' :: right) ++ next ++ textOf rest =
          (before ++ body ++ left) ++ ',' :: (right ++ next ++ textOf rest) := by simp
      rw [htext, hcut] at hcommas
      rw [← Literal.endsOpen_append_blanks hleft, hcommas.endsOpen]
    have hcontinued : continuedBy ⟨name, hint, some (before ++ body)⟩ next = true := by
      simp [continuedBy, hopen]
    rw [htext] at hcommas ⊢
    rw [List.cons_append, parseSegments_of_continuedBy hcontinued]
    exact ih (before ++ body ++ (left ++ ',' :: right)) hcommas

theorem parseSegments_opening (h : WellFormed p) (more : List Segment) :
    parseSegments [] (some p.opening) (p.continuation ++ more) =
      parseSegments [] (some p) more := by
  obtain ⟨name, hint, default⟩ := p
  cases default with
  | none => rfl
  | some d =>
    obtain ⟨l, hsegments, _, _, hchain, htext⟩ := h.chain_default rfl
    have hcontinuation : continuation ⟨name, hint, some d⟩ = l := by
      simp [continuation, hsegments]
    have hcommas : CommasInside ([] ++ firstPiece d ++ textOf l) := by
      rw [List.nil_append, htext]
      exact (h.default d rfl).2.2.2
    have := parseSegments_continued name hint hchain more [] hcommas
    rw [List.nil_append, htext] at this
    rw [hcontinuation]
    exact this

/-- A name does not continue a default that is closed. -/
theorem not_continuedBy (h : WellFormed p) {q : Parameter} (hq : WellFormed q) :
    p.continuedBy q.opening.render = false := by
  have hhead : q.opening.render.head? = q.name.head? := hq.isRead_opening.head?_render
  rw [continuedBy_congr hhead]
  obtain ⟨c, cs, hname⟩ := List.exists_cons_of_ne_nil hq.name_ne
  have hquote := hq.unquoted c (by rw [hname]; rfl)
  unfold continuedBy
  rw [hname]
  cases hd : p.defaultValue with
  | none => rfl
  | some d => simp [hquote, (h.default d hd).2.2.1]

/-- The next parameter's first segment starts a parameter. -/
theorem parseSegments_next (h : WellFormed p) {q : Parameter} (hq : WellFormed q)
    (l : List Segment) :
    parseSegments [] (some p) (⟨[',', ' '], q.opening.render⟩ :: l) =
      p :: parseSegments [] (some q.opening) l := by
  obtain ⟨htrim, hread⟩ := hq.ofSegment_opening
  have hne : trim q.opening.render ≠ [] := by
    rw [htrim]
    exact hq.isRead_opening.render_ne_nil
  have hnew := parseSegments_of_new (s := ⟨[',', ' '], q.opening.render⟩) (h.not_continuedBy hq)
    hne l
  rw [hnew, htrim, hread]

end WellFormed

/-! ## Lists -/

variable {p : Parameter} {ps : List Parameter}

theorem renderList_eq_append (h : ∀ q ∈ ps, WellFormed q) :
    renderList (p :: ps) = p.render ++ textOf (listSegments ps) := by
  induction ps generalizing p with
  | nil => simp [renderList, joinWith, listSegments, textOf]
  | cons q ps ih =>
    obtain ⟨hq, hps⟩ := List.forall_mem_cons.mp h
    rw [renderList_cons p (List.cons_ne_nil q ps), ih hps, hq.render_eq]
    simp [listSegments, textOf]

theorem chain_listSegments (hp : WellFormed p) (h : ∀ q ∈ ps, WellFormed q) :
    Chain p.opening.render (p.continuation ++ listSegments ps) := by
  induction ps generalizing p with
  | nil => simpa [listSegments] using hp.chain_render
  | cons q ps ih =>
    obtain ⟨hq, hps⟩ := List.forall_mem_cons.mp h
    have hlast : NoBlankLast (p.opening.render ++ textOf p.continuation) :=
      hp.render_eq ▸ hp.isTrimmed_render.last
    exact hp.chain_render.append hlast hq.isRead_opening.noBlankFirst_render (ih hq hps)

theorem parseSegments_listSegments (hp : WellFormed p) (h : ∀ q ∈ ps, WellFormed q) :
    parseSegments [] (some p) (listSegments ps) = p :: ps := by
  induction ps generalizing p with
  | nil =>
    show [p.closed] = [p]
    rw [hp.closed_eq]
  | cons q ps ih =>
    obtain ⟨hq, hps⟩ := List.forall_mem_cons.mp h
    show parseSegments [] (some p)
      (⟨[',', ' '], q.opening.render⟩ :: (q.continuation ++ listSegments ps)) = p :: q :: ps
    rw [hp.parseSegments_next hq, hq.parseSegments_opening, ih hq hps]

/-- A list of well-formed parameters is read back from the way it is shown. -/
theorem parse_renderList_of_wellFormed (ps : List Parameter) (h : ∀ p ∈ ps, WellFormed p) :
    parse (renderList ps) [] = ps := by
  cases ps with
  | nil => rfl
  | cons p ps =>
    obtain ⟨hp, hps⟩ := List.forall_mem_cons.mp h
    obtain ⟨htrim, hread⟩ := hp.ofSegment_opening
    have hne : trim p.opening.render ≠ [] := by
      rw [htrim]
      exact hp.isRead_opening.render_ne_nil
    have htext : renderList (p :: ps) =
        p.opening.render ++ textOf (p.continuation ++ listSegments ps) := by
      rw [renderList_eq_append hps, hp.render_eq, textOf_append, List.append_assoc]
    unfold parse
    rw [htext, segments_of_chain (chain_listSegments hp hps), parseSegments_none_of_new hne, htrim,
      hread, hp.parseSegments_opening, parseSegments_listSegments hp hps]

/-- Commas side by side in a string, an escaped quote, the other quote, and marks that mean
something outside a string only. -/
theorem parse_renderList_of_wellFormed_strings :
    let ps : List Parameter :=
      [⟨"a", some "dict[str: 'x]", some "f(' ,, , = : \\', ' + \",'\")"⟩, ⟨"b c", none, none⟩,
        ⟨"*d", none, some "'=,\t'"⟩]
    (∀ p ∈ ps, WellFormed p) ∧
      renderList ps = "a: dict[str: 'x] = f(' ,, , = : \\', ' + \",'\"), b c, *d = '=,\t'" ∧
      parse (renderList ps) [] = ps := by
  intro ps
  have h : ∀ p ∈ ps, WellFormed p := by decide +kernel
  exact ⟨h, by decide +kernel, parse_renderList_of_wellFormed ps h⟩

end Signpost.Parameter
