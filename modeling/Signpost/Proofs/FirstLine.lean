import Signpost.Proofs.Overrun
set_option autoImplicit false

/-!
# Headers on their first line

A header should be decided by the first line of its block: a definition whose parameters need more
lines is degenerate.  Parameters do lie on one line.  But the blanks between the parts of a header
may be line breaks, in three places: after the keyword, after the name, and in a class before the
colon.

`Spells` says how a header is written, from its keyword to what closes it.  Whatever begins with a
header so written is read as that header, or as one whose parameters run on to a later parenthesis
(`Spells.parse?_eq`).  So a block and its first line agree if the header that is read in the block
is written on its first line, and only then (`overLines_iff`).  Otherwise the block has a definition
that its first line does not give (`ofBlock_firstLine`).
-/

namespace Signpost

open Text

/-! ## The first line of a text -/

namespace Text

/-- A text up to its first line feed. -/
def firstLine (t : Text) : Text := t.takeWhile (· ≠ '\n')

variable {p t : Text}

theorem isPrefix_firstLine (t : Text) : firstLine t <+: t := List.takeWhile_prefix _

theorem not_mem_firstLine (t : Text) : '\n' ∉ firstLine t := by
  intro h
  have hne := List.mem_takeWhile_imp h
  simp at hne

theorem prefix_firstLine_iff : p <+: firstLine t ↔ p <+: t ∧ '\n' ∉ p := by
  constructor
  · intro h
    exact ⟨h.trans (isPrefix_firstLine t), fun hmem => not_mem_firstLine t (h.mem hmem)⟩
  · rintro ⟨⟨rest, rfl⟩, hline⟩
    have hall : ∀ c ∈ p, decide (c ≠ '\n') = true := by
      intro c hc
      simp only [decide_eq_true_eq]
      rintro rfl
      exact hline hc
    rw [firstLine, List.takeWhile_append_of_pos hall]
    exact List.prefix_append p _

theorem noBlankFirst_firstLine (h : NoBlankFirst t) : NoBlankFirst (firstLine t) := by
  obtain ⟨rest, hrest⟩ := isPrefix_firstLine t
  rw [← hrest] at h
  exact h.of_append

end Text

namespace Header

/-! ## What closes a header -/

/-- What a header of some kind has after its name, blanks apart: its parameters in parentheses, with
a colon in a class, or only the colon. -/
inductive Closing : Kind → Text → Text → Prop
  | func {t : Text} (line : '\n' ∉ t) : Closing .func t ('(' :: (t ++ [')']))
  | cls {t gap : Text} (line : '\n' ∉ t) (blank : ∀ c ∈ gap, isBlank c = true) :
    Closing .cls t ('(' :: (t ++ ')' :: (gap ++ [':'])))
  | bare : Closing .cls [] [':']

/-- Parameters that were read as `t` are read as `t'`: as the same, or on to a later parenthesis. -/
def RunsOn (t t' : Text) : Prop := t' = t ∨ ∃ excess, t' = t ++ ')' :: excess

theorem RunsOn.antisymm {t t' : Text} (h : RunsOn t t') (h' : RunsOn t' t) : t = t' := by
  rcases h with rfl | ⟨excess, rfl⟩
  · rfl
  · rcases h' with h' | ⟨excess', h'⟩
    · exact h'
    · have hlength := congrArg List.length h'
      simp only [List.length_append, List.length_cons] at hlength
      omega

section

variable {kind : Kind} {t u closing rest : Text}

theorem Closing.noBlankLast (h : Closing kind t closing) : NoBlankLast closing := by
  have hclose : NoBlankLast [')'] := by decide
  have hcolon : NoBlankLast [':'] := by decide
  cases h with
  | func _ => exact hclose.append (List.cons_ne_nil _ _) ('(' :: t)
  | @cls _ gap _ _ =>
    have hlast := hcolon.append (List.cons_ne_nil _ _) ('(' :: (t ++ ')' :: gap))
    simpa using hlast
  | bare => exact hcolon

theorem Closing.ne_nil (h : Closing kind t closing) : closing ≠ [] := by
  cases h <;> simp

/-- Blanks after the name do not matter. -/
theorem parameterText?_append_of_blank (kind : Kind) (hgap : ∀ c ∈ u, isBlank c = true) :
    parameterText? kind (u ++ t) = parameterText? kind t := by
  have htrim : trimLeft (u ++ t) = trimLeft t := List.dropWhile_append_of_pos hgap
  cases kind with
  | func => rw [parameterText?, functionParameters?, functionParameters?, htrim]
  | cls => rw [parameterText?, classParameters?, classParameters?, htrim]

theorem runsOn_beforeLastClose {accepts : Text → Bool} (ht : '\n' ∉ t) (hu : accepts u = true) :
    ∃ t', beforeLastClose accepts (t ++ ')' :: u) = some t' ∧ RunsOn t t' := by
  rw [beforeLastClose_close ht hu]
  cases beforeLastClose accepts u with
  | none => exact ⟨t, rfl, .inl rfl⟩
  | some excess => exact ⟨_, rfl, .inr ⟨excess, rfl⟩⟩

theorem Closing.parameterText?_eq (h : Closing kind t closing) (rest : Text) :
    ∃ t', parameterText? kind (closing ++ rest) = some t' ∧ RunsOn t t' := by
  cases h with
  | func hline =>
    rw [List.cons_append, List.append_assoc, parameterText?_open]
    exact runsOn_beforeLastClose hline rfl
  | @cls t gap hline hblank =>
    have hcolon : colonFollows (gap ++ ([':'] ++ rest)) = true := by
      rw [colonFollows, trimLeft, List.dropWhile_append_of_pos hblank]
      rfl
    rw [List.cons_append, List.append_assoc, parameterText?_open, List.cons_append,
      List.append_assoc]
    exact runsOn_beforeLastClose hline hcolon
  | bare => exact ⟨[], rfl, .inl rfl⟩

/-- Parameters are read from a parenthesis on, and in a class there may be none before the colon. -/
theorem parameterText?_cases (hfirst : NoBlankFirst u) (h : parameterText? kind u = some t) :
    (∃ v, u = '(' :: v ∧ beforeLastClose (canClose kind) v = some t) ∨
      ∃ v, kind = .cls ∧ u = ':' :: v ∧ t = [] := by
  cases kind with
  | func =>
    rw [parameterText?, functionParameters?, hfirst.trimLeft_eq] at h
    split at h
    · rename_i v
      exact .inl ⟨v, rfl, h⟩
    · simp at h
  | cls =>
    rw [parameterText?, classParameters?, hfirst.trimLeft_eq] at h
    split at h
    · rename_i v
      exact .inl ⟨v, rfl, h⟩
    · rename_i v
      exact .inr ⟨v, rfl, rfl, (Option.some.inj h).symm⟩
    · simp at h

/-- A parenthesis that can end the parameters is that of a closing. -/
theorem exists_closing_of_canClose (ht : '\n' ∉ t) (h : canClose kind u = true) :
    ∃ closing more, '(' :: (t ++ ')' :: u) = closing ++ more ∧ Closing kind t closing := by
  cases kind with
  | func => exact ⟨_, u, by simp, .func ht⟩
  | cls =>
    obtain ⟨gap, hsplit, hgap⟩ := exists_blanks_append_trimLeft u
    have hcolon : (trimLeft u).head? = some ':' := by simpa [canClose, colonFollows] using h
    obtain ⟨more, hmore⟩ := List.head?_eq_some_iff.mp hcolon
    refine ⟨_, more, ?_, .cls ht hgap⟩
    rw [hsplit, hmore]
    simp

/-- Parameters that are read are closed in one of these ways. -/
theorem exists_closing (h : parameterText? kind rest = some t) :
    ∃ space closing more, rest = space ++ closing ++ more ∧ (∀ c ∈ space, isBlank c = true) ∧
      Closing kind t closing := by
  have hline := not_mem_of_parameterText? h
  obtain ⟨space, hsplit, hspace⟩ := exists_blanks_append_trimLeft rest
  rw [hsplit, parameterText?_append_of_blank kind hspace] at h
  have hclosing : ∃ closing more, trimLeft rest = closing ++ more ∧ Closing kind t closing := by
    rcases parameterText?_cases (noBlankFirst_trimLeft rest) h with ⟨v, hopen, hclose⟩ | hbare
    · obtain ⟨after, rfl, haccepts⟩ := exists_close_of_beforeLastClose hclose
      rw [hopen]
      exact exists_closing_of_canClose hline haccepts
    · obtain ⟨more, rfl, hcolon, rfl⟩ := hbare
      exact ⟨[':'], more, hcolon, .bare⟩
  obtain ⟨closing, more, heq, hclosing⟩ := hclosing
  refine ⟨space, closing, more, ?_, hspace, hclosing⟩
  rw [List.append_assoc, ← heq]
  exact hsplit

end

/-! ## How a header is written -/

/-- The text is the header as it is written, from its keyword to what closes it. -/
def Spells (d : Dialect) (h : Header) (spelling : Text) : Prop :=
  ∃ space closing, Begins (d.keyword h.kind) h.name (space ++ closing) spelling ∧
    (∀ c ∈ space, isBlank c = true) ∧ Closing h.kind h.parameterText closing

section

variable {d : Dialect} {h : Header} {keyword name a b source spelling : Text}

/-- The part of a text that decides how it begins; what stands after it may be anything. -/
theorem Begins.exists_front (h : Begins keyword name (a ++ b) source) (ha : a ≠ []) :
    ∃ front, source = front ++ b ∧ ∀ b', Begins keyword name (a ++ b') (front ++ b') := by
  obtain ⟨gap, rfl, hne, hgap⟩ := h.exists_gap
  refine ⟨keyword ++ gap ++ name ++ a, by simp, fun b' => ?_⟩
  refine ⟨⟨gap, by simp, hne, hgap⟩, h.name_ne, h.isWordChar_name, fun c hc => ?_⟩
  rw [List.head?_append_of_ne_nil _ ha] at hc
  exact h.stops c (by rw [List.head?_append_of_ne_nil _ ha, hc])

theorem Spells.noBlankLast (hs : Spells d h spelling) : NoBlankLast spelling := by
  obtain ⟨space, closing, hbegins, _, hclosing⟩ := hs
  obtain ⟨gap, rfl, _, _⟩ := hbegins.exists_gap
  have hne : space ++ closing ≠ [] := List.append_ne_nil_of_right_ne_nil space hclosing.ne_nil
  exact (hclosing.noBlankLast.append hclosing.ne_nil space).append hne _

/-- What begins with a header is read as that header, but its parameters may run on. -/
theorem Spells.parse?_eq (hs : Spells d h spelling) (valid : d.Valid) (hp : spelling <+: source) :
    ∃ t, parse? d source = some ⟨h.kind, h.name, t⟩ ∧ RunsOn h.parameterText t := by
  obtain ⟨space, closing, hbegins, hspace, hclosing⟩ := hs
  obtain ⟨more, rfl⟩ := hp
  have hwhole : Begins (d.keyword h.kind) h.name ((space ++ closing) ++ []) spelling := by
    rwa [List.append_nil]
  obtain ⟨front, hfront, hany⟩ := hwhole.exists_front (by simp [hclosing.ne_nil])
  rw [List.append_nil] at hfront
  obtain ⟨t, ht, hruns⟩ := hclosing.parameterText?_eq more
  refine ⟨t, ?_, hruns⟩
  rw [hfront, (hany more).parse?_eq valid, List.append_assoc,
    parameterText?_append_of_blank _ hspace, ht]
  rfl

/-- A header that is read is written at the front. -/
theorem exists_spells (valid : d.Valid) (hparse : parse? d source = some h) :
    ∃ spelling, Spells d h spelling ∧ spelling <+: source := by
  obtain ⟨rest, hbegins, htext⟩ := (parse?_eq_some_iff valid).mp hparse
  obtain ⟨space, closing, more, rfl, hspace, hclosing⟩ := exists_closing htext
  obtain ⟨front, rfl, hany⟩ := hbegins.exists_front (by simp [hclosing.ne_nil])
  have hfront := hany []
  rw [List.append_nil, List.append_nil] at hfront
  exact ⟨front, ⟨space, closing, hfront, hspace, hclosing⟩, List.prefix_append front more⟩

end

/-! ## Headers that need more lines -/

/-- The header that is read in a text is not written on its first line. -/
def OverLines (d : Dialect) (source : Text) : Prop :=
  ∃ h, parse? d source = some h ∧ ¬ ∃ spelling, Spells d h spelling ∧ spelling <+: firstLine source

section

variable {d : Dialect} {h : Header} {name source spelling t t' : Text}

theorem isPrefix_trim_firstLine (hsource : NoBlankFirst source) :
    trim (firstLine source) <+: firstLine source := by
  rw [(noBlankFirst_firstLine hsource).trim_eq]
  exact List.rdropWhile_prefix isBlank (firstLine source)

theorem Spells.prefix_trim_firstLine (hs : Spells d h spelling) (hsource : NoBlankFirst source)
    (hp : spelling <+: firstLine source) : spelling <+: trim (firstLine source) := by
  rw [(noBlankFirst_firstLine hsource).trim_eq]
  exact hs.noBlankLast.prefix_trimRight hp

/-- A header that the first line gives is written there, and the whole text gives it too, but its
parameters may run on. -/
theorem exists_spells_firstLine (valid : d.Valid) (hsource : NoBlankFirst source)
    (hline : parse? d (trim (firstLine source)) = some h) :
    (∃ spelling, Spells d h spelling ∧ spelling <+: firstLine source) ∧
      ∃ t, parse? d source = some ⟨h.kind, h.name, t⟩ ∧ RunsOn h.parameterText t := by
  obtain ⟨spelling, hs, hp⟩ := exists_spells valid hline
  have hp := hp.trans (isPrefix_trim_firstLine hsource)
  exact ⟨⟨spelling, hs, hp⟩, hs.parse?_eq valid (prefix_firstLine_iff.mp hp).1⟩

/-- If it is not over lines that a header is written, the first line decides it. -/
theorem parse?_firstLine (valid : d.Valid) (hsource : NoBlankFirst source)
    (hover : ¬ OverLines d source) : parse? d (trim (firstLine source)) = parse? d source := by
  cases hparse : parse? d source with
  | none =>
    cases hline : parse? d (trim (firstLine source)) with
    | none => rfl
    | some h =>
      obtain ⟨_, t, ht, _⟩ := exists_spells_firstLine valid hsource hline
      exact absurd (hparse.symm.trans ht) (Option.some_ne_none _).symm
  | some h =>
    obtain ⟨spelling, hs, hp⟩ :
        ∃ spelling, Spells d h spelling ∧ spelling <+: firstLine source := by
      by_contra hnone
      exact hover ⟨h, hparse, hnone⟩
    obtain ⟨t, hline, hruns⟩ := hs.parse?_eq valid (hs.prefix_trim_firstLine hsource hp)
    -- The line may read on from what is written, and the text from the line; but the text reads
    -- what is written.
    obtain ⟨_, t', ht', hruns'⟩ := exists_spells_firstLine valid hsource hline
    have hsame : h.parameterText = t' :=
      congrArg Header.parameterText (Option.some.inj (hparse.symm.trans ht'))
    rw [hline, ← hruns.antisymm (hsame ▸ hruns')]

/-- The parameters of a function end on the first line if they begin there. -/
theorem exists_spells_func (valid : d.Valid)
    (hs : Spells d ⟨.func, name, t⟩ spelling) (hp : spelling <+: firstLine source)
    (hparse : parse? d source = some ⟨.func, name, t'⟩) :
    ∃ spelling', Spells d ⟨.func, name, t'⟩ spelling' ∧ spelling' <+: firstLine source := by
  obtain ⟨⟨rest, rfl⟩, hline⟩ := prefix_firstLine_iff.mp hp
  obtain ⟨space, closing, hbegins, hspace, hclosing⟩ := hs
  cases hclosing with
  | func _ =>
  have hopen : space ++ '(' :: (t ++ [')']) = (space ++ ['(']) ++ (t ++ [')']) := by simp
  rw [hopen] at hbegins
  obtain ⟨front, rfl, hany⟩ := hbegins.exists_front (by simp)
  rw [List.append_assoc, (hany _).parse?_eq valid, Option.map_eq_some_iff] at hparse
  obtain ⟨v, hv, heq⟩ := hparse
  obtain rfl : v = t' := congrArg Header.parameterText heq
  rw [List.append_assoc, parameterText?_append_of_blank _ hspace, List.singleton_append,
    parameterText?_open] at hv
  obtain ⟨after, hafter, _⟩ := exists_close_of_beforeLastClose hv
  have hv_line := not_mem_of_beforeLastClose hv
  refine ⟨front ++ (v ++ [')']), ⟨space, '(' :: (v ++ [')']), ?_, hspace, .func hv_line⟩, ?_⟩
  · have hfront := hany (v ++ [')'])
    simpa using hfront
  · rw [prefix_firstLine_iff]
    refine ⟨⟨after, ?_⟩, ?_⟩
    · rw [List.append_assoc, List.append_assoc, List.append_assoc, hafter, List.singleton_append]
    · simp only [List.mem_append, not_or] at hline ⊢
      exact ⟨hline.1, hv_line, by decide⟩

/-- A header that is written over lines is lost on the first line, or it is a class whose parameters
run on to a parenthesis that is closed there. -/
theorem OverLines.exists_header (valid : d.Valid) (hsource : NoBlankFirst source)
    (hover : OverLines d source) :
    ∃ h, parse? d source = some h ∧
      (parse? d (trim (firstLine source)) = none ∨
        ∃ t excess, h.kind = .cls ∧ h.parameterText = t ++ ')' :: excess ∧
          parse? d (trim (firstLine source)) = some ⟨.cls, h.name, t⟩) := by
  obtain ⟨h, hparse, hnot⟩ := hover
  refine ⟨h, hparse, ?_⟩
  cases hline : parse? d (trim (firstLine source)) with
  | none => exact .inl rfl
  | some h' =>
    obtain ⟨⟨spelling, hs, hp⟩, t, ht, hruns⟩ := exists_spells_firstLine valid hsource hline
    obtain rfl : h = ⟨h'.kind, h'.name, t⟩ := Option.some.inj (hparse.symm.trans ht)
    rcases hruns with rfl | ⟨excess, rfl⟩
    · exact absurd ⟨spelling, hs, hp⟩ hnot
    · obtain ⟨kind, name, own⟩ := h'
      cases kind with
      | func => exact absurd (exists_spells_func valid hs hp hparse) hnot
      | cls => exact .inr ⟨own, excess, rfl, rfl, rfl⟩

/-- It is just the headers over lines that the first line does not give. -/
theorem overLines_iff (valid : d.Valid) (hsource : NoBlankFirst source) :
    OverLines d source ↔ parse? d (trim (firstLine source)) ≠ parse? d source := by
  constructor
  · intro hover hsame
    obtain ⟨h, hparse, hnone | ⟨t, excess, _, htext, hline⟩⟩ := hover.exists_header valid hsource
    · exact absurd (hsame.symm.trans hnone) (by simp [hparse])
    · have hcut : h.parameterText = t :=
        congrArg Header.parameterText (Option.some.inj ((hsame.trans hparse).symm.trans hline))
      rw [hcut] at htext
      simp at htext
  · exact not_imp_comm.mp (parse?_firstLine valid hsource)

end

end Header

namespace Definition

open Header

variable {d : Dialect} {blocked : List Text} {block block' : Text} {h : Header}

/-- What a definition says of its header, if that is `h`. -/
structure Says (d : Dialect) (blocked : List Text) (h : Header) (definition : Definition) :
    Prop where
  name : definition.name = some h.name
  kind : definition.kind = some h.kind
  keyword : definition.keyword = some (d.keyword h.kind)
  parameters : definition.parameters = some (Parameter.parse h.parameterText blocked)

/-- Two definitions say the same of their headers.  Degenerate ones do: they say nothing. -/
structure SameHeader (a b : Definition) : Prop where
  name : a.name = b.name
  kind : a.kind = b.kind
  keyword : a.keyword = b.keyword
  parameters : a.parameters = b.parameters

theorem says_ofBlock (hparse : parse? d (trim block) = some h) :
    Says d blocked h (ofBlock d blocked block) where
  name := by rw [name_ofBlock, hparse, Option.map_some]
  kind := by rw [kind_ofBlock, hparse, Option.map_some]
  keyword := by rw [keyword_ofBlock, hparse, Option.map_some]
  parameters := by rw [parameters_ofBlock, hparse, Option.map_some]

theorem Says.isDegenerate_eq {definition : Definition} (hown : Says d blocked h definition) :
    definition.isDegenerate = false := by
  rw [isDegenerate, hown.name, Option.isNone_some]

theorem sameHeader_ofBlock (hparse : parse? d (trim block) = parse? d (trim block')) :
    SameHeader (ofBlock d blocked block) (ofBlock d blocked block') where
  name := by rw [name_ofBlock, name_ofBlock, hparse]
  kind := by rw [kind_ofBlock, kind_ofBlock, hparse]
  keyword := by rw [keyword_ofBlock, keyword_ofBlock, hparse]
  parameters := by rw [parameters_ofBlock, parameters_ofBlock, hparse]

/-- Parameters that are not closed on their line are not read. -/
theorem isDegenerate_of_unclosed (valid : d.Valid) {kind : Kind} {name space t body : Text}
    (hbegins : Begins (d.keyword kind) name (space ++ '(' :: (t ++ '\n' :: body)) (trim block))
    (hspace : ∀ c ∈ space, isBlank c = true) (ht : '\n' ∉ t) (hopen : ')' ∉ t) :
    (ofBlock d blocked block).isDegenerate = true := by
  have hbody : ∀ c, ('\n' :: body).head? = some c → c = '\n' := fun c hc =>
    (Option.some.inj hc).symm
  have hnone : beforeLastClose (canClose kind) (t ++ '\n' :: body) = none := by
    rw [beforeLastClose_eq_none_iff ht hbody]
    rintro s u rfl
    simp at hopen
  rw [isDegenerate_ofBlock, hbegins.parse?_eq valid, parameterText?_append_of_blank kind hspace,
    parameterText?_open, hnone]
  rfl

/-- A header that is written on the first line is read in the block and on that line. -/
theorem isDegenerate_of_spells (valid : d.Valid) {spelling : Text} (hs : Spells d h spelling)
    (hp : spelling <+: firstLine (trim block)) :
    (ofBlock d blocked block).isDegenerate = false ∧
      (ofBlock d blocked (firstLine (trim block))).isDegenerate = false := by
  have hsource : NoBlankFirst (trim block) := (isTrimmed_trim block).first
  obtain ⟨_, hparse, _⟩ := hs.parse?_eq valid (prefix_firstLine_iff.mp hp).1
  obtain ⟨_, hline, _⟩ := hs.parse?_eq valid (hs.prefix_trim_firstLine hsource hp)
  exact ⟨(says_ofBlock hparse).isDegenerate_eq, (says_ofBlock hline).isDegenerate_eq⟩

/-- The first line of a block decides its header, unless the header that is read in the block is
written over lines.  Then the block has a definition, and its first line has none, or that of a
class whose parameters end at an earlier parenthesis.  A header that is written on the first line is
always read; parameters are never read over lines. -/
theorem ofBlock_firstLine (d : Dialect) (valid : d.Valid) (blocked : List Text) (block : Text) :
    let own := ofBlock d blocked block
    let line := ofBlock d blocked (firstLine (trim block))
    (¬ OverLines d (trim block) → SameHeader own line) ∧
      (OverLines d (trim block) → own.isDegenerate = false ∧
        (line.isDegenerate = true ∨ ∃ name t excess,
          Says d blocked ⟨.cls, name, t⟩ line ∧
            Says d blocked ⟨.cls, name, t ++ ')' :: excess⟩ own)) ∧
      (∀ h spelling, Spells d h spelling → spelling <+: firstLine (trim block) →
        own.isDegenerate = false ∧ line.isDegenerate = false) ∧
      ∀ kind name space t body,
        Begins (d.keyword kind) name (space ++ '(' :: (t ++ '\n' :: body)) (trim block) →
        (∀ c ∈ space, isBlank c = true) → '\n' ∉ t → ')' ∉ t → own.isDegenerate = true := by
  intro own line
  have hsource : NoBlankFirst (trim block) := (isTrimmed_trim block).first
  refine ⟨?_, ?_, ?_, ?_⟩
  · intro hover
    exact sameHeader_ofBlock (parse?_firstLine valid hsource hover).symm
  · intro hover
    obtain ⟨⟨kind, name, text⟩, hparse, hline⟩ := hover.exists_header valid hsource
    refine ⟨(says_ofBlock hparse).isDegenerate_eq, ?_⟩
    rcases hline with hnone | ⟨t, excess, rfl, rfl, hline⟩
    · left
      show (ofBlock d blocked _).isDegenerate = true
      rw [isDegenerate_ofBlock, hnone, Option.isNone_none]
    · exact .inr ⟨name, t, excess, says_ofBlock hline, says_ofBlock hparse⟩
  · intro h spelling hs hp
    exact isDegenerate_of_spells valid hs hp
  · intro kind name space t body hbegins hspace ht hopen
    exact isDegenerate_of_unclosed valid hbegins hspace ht hopen

/-- A function on its line, a class whose colon comes on the next line, and a function whose
parameters go on there. -/
theorem ofBlock_firstLine_three :
    let func : Text := "  def f (a) -> b:\n  (c)\n"
    let cls : Text := "class A(x): # (y)\n:"
    let unclosed : Text := "def g(a,\n  b): pass"
    Dialect.Valid {} ∧
      (¬ OverLines {} (trim func) ∧
        SameHeader (ofBlock {} [] func) (ofBlock {} [] (firstLine (trim func))) ∧
        (ofBlock {} [] func).isDegenerate = false ∧
        (ofBlock {} [] (firstLine (trim func))).isDegenerate = false) ∧
      (OverLines {} (trim cls) ∧ (ofBlock {} [] cls).isDegenerate = false ∧
        ((ofBlock {} [] (firstLine (trim cls))).isDegenerate = true ∨ ∃ name t excess,
          Says {} [] ⟨.cls, name, t⟩ (ofBlock {} [] (firstLine (trim cls))) ∧
            Says {} [] ⟨.cls, name, t ++ ')' :: excess⟩ (ofBlock {} [] cls))) ∧
      (ofBlock {} [] unclosed).isDegenerate = true := by
  intro func cls unclosed
  have valid := Dialect.valid_default
  obtain ⟨hsame, _, hread, _⟩ := ofBlock_firstLine {} valid [] func
  obtain ⟨_, hcls, _, _⟩ := ofBlock_firstLine {} valid [] cls
  obtain ⟨_, _, _, hunclosed⟩ := ofBlock_firstLine {} valid [] unclosed
  have hon : ¬ OverLines {} (trim func) := by
    rw [overLines_iff valid (isTrimmed_trim func).first]
    decide +kernel
  have hspells : Spells {} ⟨.func, "f", "a"⟩ "def f (a)" :=
    ⟨" ", "(a)", begins_of_named? (by decide +kernel), isBlank_of_mem_space, .func (by decide)⟩
  have hline : ("def f (a)" : Text) <+: firstLine (trim func) := by decide +kernel
  have hover : OverLines {} (trim cls) := by
    rw [overLines_iff valid (isTrimmed_trim cls).first]
    decide +kernel
  have hbegins : Begins (Dialect.keyword {} .func) "g" ([] ++ '(' :: ("a," ++ '\n' :: "  b): pass"))
      (trim unclosed) := begins_of_named? (by decide +kernel)
  exact ⟨valid, ⟨hon, hsame hon, hread _ _ hspells hline⟩, ⟨hover, hcls hover⟩,
    hunclosed .func "g" [] "a," "  b): pass" hbegins (by simp) (by decide) (by decide)⟩

/-- A parenthesis on the next line gives a function that its first line does not have, a colon there
gives a class, and a colon there gives a class other parameters. -/
theorem ofBlock_over_lines :
    let onLine (block : Text) := ofBlock {} [] (firstLine (trim block))
    Dialect.Valid {} ∧
      ((ofBlock {} [] "def f\n  (a): pass").isDegenerate = false ∧
        (onLine "def f\n  (a): pass").isDegenerate = true) ∧
      ((ofBlock {} [] "class A\n  :").isDegenerate = false ∧
        (onLine "class A\n  :").isDegenerate = true) ∧
      (ofBlock {} [] "class A(x): # (y)\n:").parameters ≠
        (onLine "class A(x): # (y)\n:").parameters :=
  ⟨Dialect.valid_default, by decide +kernel⟩

end Definition

end Signpost
