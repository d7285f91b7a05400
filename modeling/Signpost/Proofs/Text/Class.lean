import Signpost.Text.Blank
import Signpost.Text.Identifier
import Signpost.Text.Word
import Signpost.Query.Token
set_option autoImplicit false

/-!
# Classes of characters

Blanks separate, words and identifiers are what they separate: the classes have no character in
common.  That is why a keyword ends at the first blank, and a name where the next blank stands.
-/

namespace Signpost.Text

/-- Tables without a common code point. -/
def areDisjoint (t u : List (Nat × Nat)) : Bool :=
  t.all fun r => u.all fun s => r.2 < s.1 || s.2 < r.1

theorem inRanges_eq_false_of_areDisjoint {t u : List (Nat × Nat)} (h : areDisjoint t u = true)
    {n : Nat} (hn : inRanges t n = true) : inRanges u n = false := by
  simp only [areDisjoint, inRanges, List.all_eq_true, List.any_eq_true, Bool.and_eq_true,
    Bool.or_eq_true, decide_eq_true_eq] at h hn
  obtain ⟨r, hr, hlow, hhigh⟩ := hn
  simp only [inRanges, List.any_eq_false, Bool.and_eq_true, decide_eq_true_eq]
  rintro s hs ⟨hlow', hhigh'⟩
  have := h r hr s hs
  omega

theorem areDisjoint_blank_letter : areDisjoint blankRanges letterRanges = true := by
  decide +kernel

theorem areDisjoint_blank_numeral : areDisjoint blankRanges numeralRanges = true := by
  decide +kernel

theorem areDisjoint_blank_letterlike : areDisjoint blankRanges letterlikeRanges = true := by
  decide +kernel

theorem areDisjoint_blank_continuing : areDisjoint blankRanges continuingRanges = true := by
  decide +kernel

/-- What holds below `0x80` is a matter of looking at 128 characters. -/
theorem forall_ascii {P : Char → Prop} (h : ∀ n < 0x80, P (Char.ofNat n)) {c : Char}
    (hc : c.toNat < 0x80) : P c := by
  have := h c.toNat hc
  rwa [Char.ofNat_toNat] at this

/-! ## Blanks -/

theorem isWordChar_of_isBlank {c : Char} (h : isBlank c = true) : isWordChar c = false := by
  by_cases hc : c.toNat < 0x80
  · exact forall_ascii (P := fun c => isBlank c = true → isWordChar c = false)
      (by decide +kernel) hc h
  · have hletter := inRanges_eq_false_of_areDisjoint areDisjoint_blank_letter h
    have hnumeral := inRanges_eq_false_of_areDisjoint areDisjoint_blank_numeral h
    have hunderscore : c ≠ '_' := by
      rintro rfl
      exact hc (by decide)
    simp [isWordChar, isLetter, isNumeral, hc, hletter, hnumeral, hunderscore]

theorem isIdentifierRest_of_isBlank {c : Char} (h : isBlank c = true) :
    isIdentifierRest c = false := by
  by_cases hc : c.toNat < 0x80
  · exact forall_ascii (P := fun c => isBlank c = true → isIdentifierRest c = false)
      (by decide +kernel) hc h
  · have hletter := inRanges_eq_false_of_areDisjoint areDisjoint_blank_letter h
    have hletterlike := inRanges_eq_false_of_areDisjoint areDisjoint_blank_letterlike h
    have hcontinuing := inRanges_eq_false_of_areDisjoint areDisjoint_blank_continuing h
    simp [isIdentifierRest, isIdentifierStart, isLetter, hc, hletter, hletterlike, hcontinuing]

theorem not_isBlank_of_isWordChar {c : Char} (h : isWordChar c = true) : isBlank c = false := by
  cases hb : isBlank c with
  | false => rfl
  | true => rw [isWordChar_of_isBlank hb] at h; exact absurd h (by simp)

/-! ## Identifiers -/

theorem isIdentifierRest_of_isIdentifierStart {c : Char} (h : isIdentifierStart c = true) :
    isIdentifierRest c = true := by
  by_cases hc : c.toNat < 0x80
  · exact forall_ascii (P := fun c => isIdentifierStart c = true → isIdentifierRest c = true)
      (by decide +kernel) hc h
  · simp [isIdentifierRest, hc, h]

/-- An identifier is a text without blanks, and it is not empty. -/
theorem not_isBlank_of_isIdentifier {t : Text} (h : isIdentifier t = true) :
    t ≠ [] ∧ ∀ c ∈ t, isBlank c = false := by
  cases t with
  | nil => simp [isIdentifier] at h
  | cons c cs =>
    simp only [isIdentifier, Bool.and_eq_true, List.all_eq_true] at h
    refine ⟨by simp, ?_⟩
    intro d hd
    have hrest : isIdentifierRest d = true := by
      rcases List.mem_cons.mp hd with rfl | hd
      · exact isIdentifierRest_of_isIdentifierStart h.1
      · exact h.2 d hd
    cases hb : isBlank d with
    | false => rfl
    | true => rw [isIdentifierRest_of_isBlank hb] at hrest; exact absurd hrest (by simp)

/-! ## Paths -/

/-- A dotted path is made of word characters and dots. -/
theorem isWordChar_of_isPathChar {c : Char} (h : Query.isPathChar c = true) (hdot : c ≠ '.') :
    isWordChar c = true := by
  have hc : c.toNat < 0x80 := by
    delta Query.isPathChar Char.isAlphanum Char.isAlpha Char.isUpper Char.isLower Char.isDigit at h
    simp only [Bool.or_eq_true, Bool.and_eq_true, decide_eq_true_eq, beq_iff_eq, ge_iff_le,
      UInt32.le_iff_toNat_le] at h
    show c.val.toNat < 0x80
    rcases h with (((h | h) | h) | rfl) | rfl
    · exact Nat.lt_of_le_of_lt h.2 (by decide)
    · exact Nat.lt_of_le_of_lt h.2 (by decide)
    · exact Nat.lt_of_le_of_lt h.2 (by decide)
    · decide
    · decide
  exact forall_ascii (P := fun c => Query.isPathChar c = true → c ≠ '.' → isWordChar c = true)
    (by decide +kernel) hc h hdot

end Signpost.Text
