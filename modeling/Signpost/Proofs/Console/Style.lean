import Signpost.Console.Markup
set_option autoImplicit false

/-!
# Styles that are one word

A lower-case word that means nothing else in a style is its own name, whether it is a colour or
describes no style at all.
-/

namespace Signpost.Console

open Text

/-- The words with a meaning of their own in a style. -/
def reservedWords : List Text := [Style.plainName, "on", "not", "link"]

/-- A word that is in lower case and neither an attribute, nor with a meaning of its own in a style,
nor the code of a colour. -/
structure IsStyleWord (w : Text) : Prop where
  words_eq : styleWords w = [w]
  trim_eq : trim w = w
  lower_eq : lower w = w
  not_reserved : reservedWords.contains w = false
  not_attribute : attribute? w = none
  not_hexadecimal : w.head? ≠ some '#'
  not_number : between? "color" w = none
  not_parts : between? "rgb" w = none

instance (w : Text) : Decidable (IsStyleWord w) :=
  decidable_of_iff
    (styleWords w = [w] ∧ trim w = w ∧ lower w = w ∧ reservedWords.contains w = false ∧
      attribute? w = none ∧ w.head? ≠ some '#' ∧ between? "color" w = none ∧
      between? "rgb" w = none)
    ⟨fun h => ⟨h.1, h.2.1, h.2.2.1, h.2.2.2.1, h.2.2.2.2.1, h.2.2.2.2.2.1, h.2.2.2.2.2.2.1,
        h.2.2.2.2.2.2.2⟩,
      fun h => ⟨h.words_eq, h.trim_eq, h.lower_eq, h.not_reserved, h.not_attribute,
        h.not_hexadecimal, h.not_number, h.not_parts⟩⟩

namespace IsStyleWord

variable {w : Text}

/-- A word is a colour or none; only the codes of colours have numbers to check. -/
theorem checkColour_eq (h : IsStyleWord w) :
    checkColour w = .ok () ∨ checkColour w = .error .notStyle := by
  unfold checkColour
  rw [h.not_number, h.not_parts]
  split
  · exact .inl rfl
  · right
    split
    · exact absurd rfl h.not_hexadecimal
    · contradiction
    · contradiction
    · rfl

theorem ne_reserved (h : IsStyleWord w) :
    w ≠ Style.plainName ∧ w ≠ "on" ∧ w ≠ "not" ∧ w ≠ "link" := by
  have hnot : w ∉ reservedWords := by
    rw [← List.contains_iff_mem, h.not_reserved]
    exact Bool.false_ne_true
  simpa [reservedWords] using hnot

/-- Reading the word as a style makes it the colour, or fails. -/
theorem ofWords_eq (h : IsStyleWord w) :
    Style.ofWords {} [w] = .ok { colour := w } ∨ Style.ofWords {} [w] = .error .notStyle := by
  obtain ⟨_, hon, hnot, hlink⟩ := h.ne_reserved
  unfold Style.ofWords
  rw [h.lower_eq, if_neg hon, if_neg hnot, if_neg hlink, h.not_attribute]
  rcases h.checkColour_eq with hcolour | hcolour
  · rw [hcolour]
    exact .inl rfl
  · rw [hcolour]
    exact .inr rfl

/-- A style with a colour and nothing else is written as that colour. -/
theorem text_colour (w : Text) : ({ colour := some w } : Style).text = w := by
  have hnone : attributeNames.flatMap (fun _ => ([] : List Text)) = [] := rfl
  simp [Style.text, Style.words, Table.get?, hnone, joinWith]

/-- The word is the name of its style. -/
theorem tagStyle_eq (h : IsStyleWord w) : tagStyle w = .ok w := by
  have hname : styleName w = .ok w := by
    unfold styleName
    rw [h.trim_eq, if_neg h.ne_reserved.1, h.words_eq]
    rcases h.ofWords_eq with hstyle | hstyle
    · rw [hstyle]
      exact congrArg Except.ok (text_colour w)
    · rw [hstyle]
      exact congrArg Except.ok h.lower_eq
  rw [tagStyle, hname]
  rfl

end IsStyleWord

end Signpost.Console
