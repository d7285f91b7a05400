import Signpost.Proofs.Session
import Signpost.Proofs.Text.Trim
set_option autoImplicit false

/-!
# The alphabet of paths

Names are words, of letters and numerals of all scripts: headers, the word at the cursor and the last
word of a path read them so.  The path before a dot is read in ASCII.  So it begins, at the earliest,
after the last character of a name that is not ASCII, and it is the name that the others see exactly
when all of the name is ASCII (`contextOf_name`).
-/

namespace Signpost

open Query Text

theorem Text.takeWhileEnd_eq_self_iff {p : Char → Bool} {t : Text} :
    takeWhileEnd p t = t ↔ ∀ c ∈ t, p c = true := by
  rw [takeWhileEnd_eq_rtakeWhile, List.rtakeWhile_eq_self_iff]

/-- A name after a keyword and a space is the name in the header. -/
theorem Header.start?_of_isName {d : Dialect} (valid : d.Valid) (kind : Kind) {name rest : Text}
    (hname : IsName name) (hrest : ∀ c, rest.head? = some c → isWordChar c = false) :
    Header.start? d (d.keyword kind ++ ' ' :: (name ++ rest)) = some (kind, name) := by
  obtain ⟨hkeyword, hplain⟩ := valid.not_isBlank kind
  have hfirst : NoBlankFirst (d.keyword kind ++ ' ' :: (name ++ rest)) :=
    NoBlankFirst.append (fun c hc => hplain c (List.mem_of_head? hc)) hkeyword _
  rw [start?_eq_some_iff valid, hfirst.trimLeft_eq]
  exact ⟨rest,
    { exists_gap := ⟨[' '], by simp, by simp, isBlank_of_mem_space⟩
      name_ne := hname.ne_nil
      isWordChar_name := hname.isWordChar
      stops := hrest }⟩

namespace Query

/-- The path before a dot after a name is the ending of the name that is ASCII. -/
theorem contextOf_eq_takeWhileEnd {name pre : Text} (hname : IsName name) (hpre : CanPrecede pre) :
    contextOf (pre ++ name ++ ['.']) = takeWhileEnd isPathNameChar name := by
  -- What stands before the ending belongs to the name, and is neither ASCII nor a dot.
  have hstop : ∀ c, (pre ++ dropWhileEnd isPathNameChar name).getLast? = some c →
      isPathChar c = false := by
    intro c hc
    by_cases hnil : dropWhileEnd isPathNameChar name = []
    · rw [hnil, List.append_nil] at hc
      exact hpre.isPathChar hc
    · rw [List.getLast?_append_of_ne_nil _ hnil] at hc
      have hmem : c ∈ name := by
        rw [← dropWhileEnd_append_takeWhileEnd isPathNameChar name]
        exact List.mem_append_left _ (List.mem_of_getLast? hc)
      have hdot : c ≠ '.' := by
        rintro rfl
        exact absurd (hname.isWordChar _ hmem) (by decide)
      rw [← Bool.not_eq_true, isPathChar_iff, of_getLast?_dropWhileEnd hc]
      simp [hdot]
  have hending : ∀ c ∈ takeWhileEnd isPathNameChar name, isPathChar c = true ∧ c ≠ '.' := by
    intro c hc
    have hchar := of_mem_takeWhileEnd hc
    exact ⟨isPathChar_iff.mpr (.inl hchar), ne_dot_of_isPathNameChar hchar⟩
  have hcontext := contextOf_append hstop hending
  rwa [List.append_assoc pre, dropWhileEnd_append_takeWhileEnd] at hcontext

/-- The path before a dot after a name is the ending of the name that is ASCII.  That is the name
which the word at the cursor, the last word of the path and a header have there if and only if all of
it is ASCII. -/
theorem contextOf_name {name pre : Text} (hname : IsName name) (hpre : CanPrecede pre) :
    contextOf (pre ++ name ++ ['.']) = takeWhileEnd isPathNameChar name ∧
      (contextOf (pre ++ name ++ ['.']) = name ↔ ∀ c ∈ name, isPathNameChar c = true) ∧
      (∀ column : Int, pre.length ≤ column → column ≤ (pre ++ name).length →
        (wordAt (pre ++ name ++ ['.']) column).map (·.text (pre ++ name ++ ['.'])) = some name) ∧
      (splitPath (pre ++ name ++ ['.'])).2 = name ∧
      ∀ d : Dialect, d.Valid →
        Header.start? d (d.classKeyword ++ ' ' :: (name ++ [':'])) = some (.cls, name) := by
  have hcontext := contextOf_eq_takeWhileEnd hname hpre
  have hbefore : ∀ c, pre.getLast? = some c → isWordChar c = false := fun c hc => (hpre c hc).1
  have hdot : ∀ c, ['.'].head? = some c → isWordChar c = false :=
    forall_eq_some rfl (by decide)
  have hcolon : ∀ c, [':'].head? = some c → isWordChar c = false :=
    forall_eq_some rfl (by decide)
  refine ⟨hcontext, ?_, ?_, ?_, ?_⟩
  · rw [hcontext, takeWhileEnd_eq_self_iff]
  · intro column hstart hstop
    rw [List.length_append, Int.natCast_add] at hstop
    rw [List.append_assoc, wordAt_append hbefore hname.ne_nil hname.isWordChar hdot hstart hstop,
      Option.map_some, text_append]
  · rw [splitPath_word hbefore hname.ne_nil hname.isWordChar (.inl rfl)]
  · intro d valid
    exact Header.start?_of_isName valid .cls hname hcolon

/-- A name in which an accent follows ASCII letters, and ASCII letters follow the accent. -/
theorem contextOf_name_accent :
    IsName "caféX" ∧ CanPrecede "g(" ∧ contextOf "g(caféX." = "X" ∧
      (wordAt "g(caféX." 4).map (·.text "g(caféX.") = some "caféX" ∧
      (splitPath "g(caféX.").2 = "caféX" ∧
      Header.start? {} "class caféX:" = some (Kind.cls, "caféX".toList) := by
  have hname : IsName "caféX" := ⟨by decide, List.all_eq_true.mp (by decide +kernel)⟩
  have hpre : CanPrecede "g(" := forall_eq_some (d := '(') (by decide) (by decide)
  obtain ⟨hcontext, _, hword, hlast, hheader⟩ := contextOf_name hname hpre
  exact ⟨hname, hpre, hcontext.trans (by decide), hword 4 (by decide) (by decide), hlast,
    hheader {} Dialect.valid_default⟩

end Query

/-- A class whose name is not ASCII is not seen before the dot, so its method is not found; under an
ASCII name it is. -/
theorem Session.hoverIn_beyond_ascii :
    let index : Index := .build {} [] "class é:\n  def f(a): 0\nclass e:\n  def f(a): 0\n"
    IsName "é" ∧ CanPrecede [] ∧ (Table.get? index "é").isSome ∧ contextOf ("é" ++ ['.']) = [] ∧
      ¬ (∀ name pre, IsName name → CanPrecede pre → contextOf (pre ++ name ++ ['.']) = name) ∧
      hoverIn index {} "é.f" 3 = none ∧
      (hoverIn index {} "e.f" 3).map (·.signature) = some "def f(a)" := by
  intro index
  have hname : IsName "é" := ⟨by decide, List.all_eq_true.mp (by decide +kernel)⟩
  have hpre : CanPrecede [] := by simp [CanPrecede]
  refine ⟨hname, hpre, by decide +kernel, by decide +kernel, ?_, by decide +kernel,
    by decide +kernel⟩
  intro h
  exact absurd (h "é" [] hname hpre) (by decide +kernel)

end Signpost
