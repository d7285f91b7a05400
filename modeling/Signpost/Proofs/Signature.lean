import Signpost.Proofs.Definition
import Signpost.Proofs.Parameter.RoundTrip
set_option autoImplicit false

/-!
# Signatures can be read

The signature of a definition, with a colon after it, is a header again, and says what the header of
the definition said (`ofBlock_signature`).  A header may be odd: its parameters may contain closing
parentheses, and strings that never end.  The signature ends with a parenthesis of its own, and it
is the last one on the line, since no parameter goes over the end of a line.
-/

namespace Signpost

open Text

namespace Header

/-! ## The last closing parenthesis -/

/-- A closing parenthesis after which nothing else closes is the last one. -/
theorem beforeLastClose_append {accepts : Text → Bool} {t u : Text} (ht : '\n' ∉ t)
    (hu : beforeLastClose accepts u = none) (haccepts : accepts u = true) :
    beforeLastClose accepts (t ++ ')' :: u) = some t := by
  induction t with
  | nil => simp [beforeLastClose, hu, haccepts]
  | cons c t ih =>
    obtain ⟨hc, ht⟩ := not_or.mp (mt List.mem_cons.mpr ht)
    simp [beforeLastClose, Ne.symm hc, ih ht]

/-- What is found lies on one line. -/
theorem not_mem_of_beforeLastClose {accepts : Text → Bool} {t u : Text}
    (h : beforeLastClose accepts t = some u) : '\n' ∉ u := by
  induction t generalizing u with
  | nil => simp [beforeLastClose] at h
  | cons c t ih =>
    rw [beforeLastClose] at h
    split at h
    · simp at h
    · rename_i hc
      split at h
      · rename_i v hv
        rw [← Option.some.inj h]
        simpa [Ne.symm hc] using ih hv
      · split at h
        · rw [← Option.some.inj h]
          simp
        · simp at h

theorem not_mem_of_parameterText? {kind : Kind} {rest t : Text}
    (h : parameterText? kind rest = some t) : '\n' ∉ t := by
  cases kind with
  | func =>
    have h : functionParameters? rest = some t := h
    unfold functionParameters? at h
    split at h
    · exact not_mem_of_beforeLastClose h
    · simp at h
  | cls =>
    have h : classParameters? rest = some t := h
    unfold classParameters? at h
    split at h
    · exact not_mem_of_beforeLastClose h
    · rw [← Option.some.inj h]
      simp
    · simp at h

/-- Parameters in parentheses before a colon are read in a header of either kind. -/
theorem parameterText?_parenthesized (kind : Kind) {t : Text} (ht : '\n' ∉ t) :
    parameterText? kind ('(' :: (t ++ [')', ':'])) = some t := by
  have hopen : NoBlankFirst ('(' :: (t ++ [')', ':'])) := noBlankFirst_cons.mpr (by decide)
  cases kind with
  | func =>
    rw [parameterText?, functionParameters?, hopen.trimLeft_eq]
    exact beforeLastClose_append ht rfl rfl
  | cls =>
    rw [parameterText?, classParameters?, hopen.trimLeft_eq]
    exact beforeLastClose_append ht rfl (by decide)

/-- A keyword, a space and a name before an opening parenthesis. -/
theorem begins_opened (keyword : Text) {name : Text} (hne : name ≠ [])
    (hname : ∀ c ∈ name, isWordChar c = true) (t : Text) :
    Begins keyword name ('(' :: t) (keyword ++ ' ' :: (name ++ '(' :: t)) where
  exists_gap := ⟨[' '], by simp, by simp, isBlank_of_mem_space⟩
  name_ne := hne
  isWordChar_name := hname
  stops := by
    intro c hc
    rw [← Option.some.inj hc]
    decide

/-- A header in its plainest form. -/
def shown (d : Dialect) (kind : Kind) (name parameters : Text) : Text :=
  d.keyword kind ++ ' ' :: (name ++ '(' :: (parameters ++ [')', ':']))

theorem parse?_shown {d : Dialect} (valid : d.Valid) (kind : Kind) {name t : Text} (hne : name ≠ [])
    (hname : ∀ c ∈ name, isWordChar c = true) (ht : '\n' ∉ t) :
    parse? d (trim (shown d kind name t)) = some ⟨kind, name, t⟩ := by
  have htrim : IsTrimmed (shown d kind name t) := by
    obtain ⟨hkeyword, hplain⟩ := valid.not_isBlank kind
    refine ⟨?_, ?_⟩
    · refine NoBlankFirst.append ?_ hkeyword _
      exact fun c hc => hplain c (List.mem_of_head? hc)
    · have hcolon : NoBlankLast [':'] := by
        intro c hc
        rw [← Option.some.inj hc]
        decide
      have := hcolon.append (by simp) (d.keyword kind ++ ' ' :: (name ++ '(' :: (t ++ [')'])))
      simpa [shown] using this
  rw [htrim.trim_eq, parse?_eq_some_iff valid]
  exact ⟨_, begins_opened _ hne hname _, parameterText?_parenthesized kind ht⟩

end Header

namespace Definition

/-- A signature with a colon is a header in its plainest form. -/
theorem signature_ofBlock {d : Dialect} {block : Text} {h : Header}
    (hparse : Header.parse? d (trim block) = some h) :
    (ofBlock d [] block).signature ++ [':'] =
      Header.shown d h.kind h.name (Parameter.renderList (Parameter.parse h.parameterText [])) := by
  unfold signature parameterList
  rw [keyword_ofBlock, name_ofBlock, parameters_ofBlock, hparse]
  simp [Header.shown]

/-- A signature is read as the definition that it is the signature of. -/
theorem ofBlock_signature {d : Dialect} (valid : d.Valid) (block : Text)
    (hread : (ofBlock d [] block).isDegenerate = false)
    (hnames : ∀ p ∈ (ofBlock d [] block).parameterList, p.name ≠ []) :
    let own := ofBlock d [] block
    let again := ofBlock d [] (own.signature ++ [':'])
    again.isDegenerate = false ∧ again.name = own.name ∧ again.kind = own.kind ∧
      again.keyword = own.keyword ∧ again.parameters = own.parameters := by
  intro own again
  rw [isDegenerate_ofBlock, Option.isNone_eq_false_iff, Option.isSome_iff_exists] at hread
  obtain ⟨h, hparse⟩ := hread
  obtain ⟨rest, hbegins, htext⟩ := (Header.parse?_eq_some_iff valid).mp hparse
  have hnames : ∀ p ∈ Parameter.parse h.parameterText [], p.name ≠ [] := by
    rw [parameterList, parameters_ofBlock, hparse] at hnames
    exact hnames
  have hbreak : '\n' ∉ Parameter.renderList (Parameter.parse h.parameterText []) := by
    have hplain : ∀ c ∈ h.parameterText, c ≠ '\n' :=
      fun c hc hbreak => Header.not_mem_of_parameterText? htext (hbreak ▸ hc)
    intro hmem
    exact Parameter.forall_mem_renderList (P := (· ≠ '\n')) (by simp) hplain hnames _ hmem rfl
  have hagain : Header.parse? d (trim (own.signature ++ [':'])) =
      some ⟨h.kind, h.name, Parameter.renderList (Parameter.parse h.parameterText [])⟩ := by
    rw [signature_ofBlock hparse]
    exact Header.parse?_shown valid h.kind hbegins.name_ne hbegins.isWordChar_name hbreak
  refine ⟨?_, ?_, ?_, ?_, ?_⟩
  · rw [isDegenerate_ofBlock, hagain]
    rfl
  · rw [name_ofBlock, name_ofBlock, hagain, hparse]
    rfl
  · rw [kind_ofBlock, kind_ofBlock, hagain, hparse]
    rfl
  · rw [keyword_ofBlock, keyword_ofBlock, hagain, hparse]
    rfl
  · rw [parameters_ofBlock, parameters_ofBlock, hagain, hparse]
    exact congrArg some (Parameter.parse_renderList h.parameterText hnames)

/-- Glued strings, empty pieces, a string that never ends, and a parenthesis inside the list. -/
theorem ofBlock_signature_odd :
    let block : Text := "class  K ( a='x , y',, f(b) : t=\"open) , ): # end\n  pass"
    let own := Definition.ofBlock {} [] block
    let again := Definition.ofBlock {} [] (own.signature ++ [':'])
    Dialect.Valid {} ∧ own.isDegenerate = false ∧ (∀ p ∈ own.parameterList, p.name ≠ []) ∧
      own.signature = "class K(a = 'x , y',, f(b): t = \"open) ,)" ∧
      again.name = some "K".toList ∧ again.kind = some .cls ∧
      again.parameters = own.parameters := by
  intro block own again
  have hread : own.isDegenerate = false := by decide +kernel
  have hnames : ∀ p ∈ own.parameterList, p.name ≠ [] := by decide +kernel
  have hkind : own.kind = some .cls := by decide +kernel
  have hname : own.name = some "K".toList := by decide +kernel
  obtain ⟨_, hname', hkind', _, hparameters⟩ :=
    ofBlock_signature Dialect.valid_default block hread hnames
  exact ⟨Dialect.valid_default, hread, hnames, by decide +kernel, hname'.trans hname,
    hkind'.trans hkind, hparameters⟩

end Definition

end Signpost
