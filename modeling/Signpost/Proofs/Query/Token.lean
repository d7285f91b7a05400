import Signpost.Proofs.Text.Class
import Signpost.Proofs.Text.Ends
set_option autoImplicit false

/-!
# Tokens where they stand

A word is found from every column that it covers, both ends included, whatever stands around it
(`wordAt_append`).  The path to its left is read from the right, up to the first character that no
path has, so what stands before the path does not matter either.
-/

namespace Signpost.Query

open Text

/-! ## The word at a column -/

theorem wordsFrom_cons_of_pos {c : Char} (hc : isWordChar c = true) (offset : Nat)
    (begun : Option Nat) (cs : Text) :
    wordsFrom offset begun (c :: cs) =
      wordsFrom (offset + 1) (some (begun.getD offset)) cs := by
  cases begun <;> simp [wordsFrom, hc]

theorem wordsFrom_cons_of_neg {c : Char} (hc : isWordChar c = false) (offset : Nat)
    (begun : Option Nat) (cs : Text) :
    wordsFrom offset begun (c :: cs) =
      (begun.map fun s => ⟨s, offset⟩).toList ++ wordsFrom (offset + 1) none cs := by
  cases begun <;> simp [wordsFrom, hc]

/-- The words of a text that does not end in a word end before the text does, so that a search for a
later column passes over them. -/
theorem spanAt_wordsFrom_append {column : Int} {r : Text} : ∀ (l : Text) (offset : Nat)
    (begun : Option Nat), (∀ c, l.getLast? = some c → isWordChar c = false) →
      (l = [] → begun = none) → (∀ s, begun = some s → s ≤ offset) →
      (offset : Int) + l.length ≤ column →
      spanAt column (wordsFrom offset begun (l ++ r)) =
        spanAt column (wordsFrom (offset + l.length) none r) := by
  intro l
  induction l with
  | nil =>
    intro offset begun _ hnil _ _
    rw [hnil rfl]
    rfl
  | cons c cs ih =>
    intro offset begun hlast _ hbegun hcolumn
    have hlength : offset + (c :: cs).length = offset + 1 + cs.length := by
      rw [List.length_cons]
      omega
    have hcolumn' : ((offset + 1 : Nat) : Int) + cs.length ≤ column := by
      rw [List.length_cons] at hcolumn
      omega
    have hlast' : ∀ d, cs.getLast? = some d → isWordChar d = false := by
      intro d hd
      exact hlast d (by rw [List.getLast?_cons, hd]; rfl)
    rw [hlength, List.cons_append]
    cases hc : isWordChar c with
    | true =>
      -- The text goes on, for it does not end in this character.
      have hne : cs ≠ [] := by
        rintro rfl
        rw [hlast c rfl] at hc
        simp at hc
      rw [wordsFrom_cons_of_pos hc]
      refine ih _ _ hlast' (fun h => absurd h hne) ?_ hcolumn'
      intro s hs
      rw [← Option.some.inj hs]
      cases hb : begun with
      | none => simp
      | some s' => exact Nat.le_succ_of_le (hbegun s' hb)
    | false =>
      rw [wordsFrom_cons_of_neg hc]
      have hrest := ih (offset + 1) none hlast' (fun _ => rfl) (by simp) hcolumn'
      cases hb : begun with
      | none => exact hrest
      | some s =>
        have hs := hbegun s hb
        have hstop : ¬ ((s : Int) ≤ column ∧ column ≤ offset) := by omega
        have hstart : ¬ column < s := by omega
        show spanAt column (⟨s, offset⟩ :: _) = _
        rw [spanAt, if_neg hstop, if_neg hstart]
        exact hrest

/-- A word that has begun ends where its characters end. -/
theorem wordsFrom_word {r : Text} (hr : ∀ c, r.head? = some c → isWordChar c = false) :
    ∀ (w : Text) (offset start : Nat), (∀ c ∈ w, isWordChar c = true) →
      ∃ rest, wordsFrom offset (some start) (w ++ r) = ⟨start, offset + w.length⟩ :: rest := by
  intro w
  induction w with
  | nil =>
    intro offset start _
    cases r with
    | nil => exact ⟨[], rfl⟩
    | cons c cs => exact ⟨wordsFrom (offset + 1) none cs, wordsFrom_cons_of_neg (hr c rfl) _ _ _⟩
  | cons c cs ih =>
    intro offset start hw
    obtain ⟨rest, hrest⟩ := ih (offset + 1) start fun d hd => hw d (List.mem_cons_of_mem _ hd)
    refine ⟨rest, ?_⟩
    rw [List.cons_append, wordsFrom_cons_of_pos (hw c List.mem_cons_self), Option.getD_some, hrest,
      List.length_cons, Nat.add_right_comm, Nat.add_assoc]

/-- A word is at every column from its start to its end. -/
theorem wordAt_append {l w r : Text} (hl : ∀ c, l.getLast? = some c → isWordChar c = false)
    (hne : w ≠ []) (hw : ∀ c ∈ w, isWordChar c = true)
    (hr : ∀ c, r.head? = some c → isWordChar c = false) {column : Int}
    (hstart : l.length ≤ column) (hstop : column ≤ l.length + w.length) :
    wordAt (l ++ (w ++ r)) column = some ⟨l.length, l.length + w.length⟩ := by
  unfold wordAt words
  rw [spanAt_wordsFrom_append l 0 none hl (fun _ => rfl) (by simp) (by omega), Nat.zero_add]
  cases w with
  | nil => exact absurd rfl hne
  | cons c cs =>
    obtain ⟨rest, hrest⟩ := wordsFrom_word hr cs (l.length + 1) l.length
      fun d hd => hw d (List.mem_cons_of_mem _ hd)
    have hlength : l.length + 1 + cs.length = l.length + (c :: cs).length := by
      rw [List.length_cons]
      omega
    have htouched : (l.length : Int) ≤ column ∧
        column ≤ ((l.length + (c :: cs).length : Nat) : Int) := by omega
    rw [List.cons_append, wordsFrom_cons_of_pos (hw c List.mem_cons_self), Option.getD_none, hrest,
      hlength, spanAt, if_pos htouched]

theorem text_append (l w r : Text) :
    Span.text ⟨l.length, l.length + w.length⟩ (l ++ (w ++ r)) = w := by
  unfold Span.text
  rw [← List.append_assoc, ← List.length_append, List.take_left, List.drop_left]

/-- A word of a line: a stretch of word characters that cannot be made longer. -/
structure IsWord (line : Text) (span : Span) : Prop where
  start_lt_stop : span.start < span.stop
  stop_le : span.stop ≤ line.length
  isWordChar : ∀ c ∈ span.text line, isWordChar c = true
  /-- It begins where it stands. -/
  before : ∀ c, (line.take span.start).getLast? = some c → Text.isWordChar c = false
  /-- It ends where it stands. -/
  after : ∀ c, (line.drop span.stop).head? = some c → Text.isWordChar c = false

namespace IsWord

variable {line : Text} {span : Span}

theorem length_take_start (h : IsWord line span) : (line.take span.start).length = span.start := by
  have hstop := h.stop_le
  have hstart := h.start_lt_stop
  rw [List.length_take]
  omega

theorem length_text (h : IsWord line span) :
    (line.take span.start).length + (span.text line).length = span.stop := by
  have hstop := h.stop_le
  have hstart := h.start_lt_stop
  rw [h.length_take_start, Span.text, List.length_drop, List.length_take]
  omega

theorem text_ne_nil (h : IsWord line span) : span.text line ≠ [] := by
  have hlength := h.length_text
  have hstart := h.start_lt_stop
  rw [h.length_take_start] at hlength
  apply List.ne_nil_of_length_pos
  omega

theorem take_append_text (h : IsWord line span) :
    line.take span.start ++ span.text line = line.take span.stop := by
  have hstart := h.start_lt_stop
  have htake : (line.take span.stop).take span.start = line.take span.start := by
    rw [List.take_take, Nat.min_eq_left (Nat.le_of_lt hstart)]
  rw [← htake]
  exact List.take_append_drop span.start (line.take span.stop)

/-- A word is found from every column that it touches. -/
theorem wordAt_eq (h : IsWord line span) {column : Int} (hstart : span.start ≤ column)
    (hstop : column ≤ span.stop) : wordAt line column = some span := by
  have hline : line.take span.start ++ (span.text line ++ line.drop span.stop) = line := by
    rw [← List.append_assoc, h.take_append_text, List.take_append_drop]
  have hlength := h.length_text
  have hleft : ((line.take span.start).length : Int) ≤ column := by
    rw [h.length_take_start]
    exact hstart
  have hright : column ≤ (line.take span.start).length + (span.text line).length := by omega
  have hword := wordAt_append h.before h.text_ne_nil h.isWordChar h.after hleft hright
  rwa [hline, hlength, h.length_take_start] at hword

end IsWord

/-! ## Paths -/

/-- A character of a name in a path: an ASCII letter or digit, or the underscore. -/
def isPathNameChar (c : Char) : Bool := c.isAlphanum || c == '_'

theorem isPathChar_iff {c : Char} : isPathChar c = true ↔ isPathNameChar c = true ∨ c = '.' := by
  simp [isPathChar, isPathNameChar]

theorem ne_dot_of_isPathNameChar {c : Char} (h : isPathNameChar c = true) : c ≠ '.' := by
  rintro rfl
  exact absurd h (by decide)

/-- The path before dots, whatever stands before the path. -/
theorem contextOf_append_dots {l path dots : Text}
    (hl : ∀ c, l.getLast? = some c → isPathChar c = false)
    (hpath : ∀ c ∈ path, isPathChar c = true) (hlast : ∀ c, path.getLast? = some c → c ≠ '.')
    (hdots : ∀ c ∈ dots, c = '.') : contextOf (l ++ path ++ dots) = path := by
  have htake : takeWhileEnd isPathChar (l ++ (path ++ dots)) = path ++ dots := by
    refine takeWhileEnd_append ?_ hl
    intro c hc
    rcases List.mem_append.mp hc with hc | hc
    · exact hpath c hc
    · rw [hdots c hc]
      decide
  unfold contextOf
  rw [List.append_assoc, htake]
  refine dropWhileEnd_append ?_ ?_
  · intro c hc
    simpa using hdots c hc
  · intro c hc
    simpa using hlast c hc

/-- The path before a dot, whatever stands before the path. -/
theorem contextOf_append {l path : Text} (hl : ∀ c, l.getLast? = some c → isPathChar c = false)
    (hpath : ∀ c ∈ path, isPathChar c = true ∧ c ≠ '.') :
    contextOf (l ++ path ++ ['.']) = path :=
  contextOf_append_dots hl (fun c hc => (hpath c hc).1)
    (fun c hc => (hpath c (List.mem_of_getLast? hc)).2) (by simp)

theorem withoutTrigger_concat {c : Char} (h : c = '.' ∨ c = '(') (t : Text) :
    withoutTrigger (t ++ [c]) = t := by
  simp [withoutTrigger, h]

/-- A text that ends in a word has no line feed at its end. -/
theorem withoutFinalBreak_of_word {l w : Text} (hne : w ≠ [])
    (hw : ∀ c ∈ w, isWordChar c = true) : withoutFinalBreak (l ++ w) = l ++ w := by
  unfold withoutFinalBreak
  split
  · rename_i cs hreverse
    have hlast : (l ++ w).getLast? = some '\n' := by
      rw [← List.head?_reverse, hreverse]
      rfl
    rw [List.getLast?_append_of_ne_nil _ hne] at hlast
    exact absurd (hw _ (List.mem_of_getLast? hlast)) (by decide)
  · rfl

theorem withoutTrigger_of_word {l w : Text} (hne : w ≠ [])
    (hw : ∀ c ∈ w, isWordChar c = true) : withoutTrigger (l ++ w) = l ++ w := by
  obtain ⟨w, c, rfl⟩ := List.eq_nil_or_concat w |>.resolve_left hne
  have hc : isWordChar c = true := hw c (by simp)
  have hdot : c ≠ '.' := by rintro rfl; exact absurd hc (by decide)
  have hopen : c ≠ '(' := by rintro rfl; exact absurd hc (by decide)
  simp [withoutTrigger, hdot, hopen]

/-- A path that ends in a word is split before the word. -/
theorem splitPath_of_word {l w : Text} (hl : ∀ c, l.getLast? = some c → isWordChar c = false)
    (hne : w ≠ []) (hw : ∀ c ∈ w, isWordChar c = true) :
    splitPath (l ++ w) = (contextOf l, w) := by
  unfold splitPath trailingWord
  rw [withoutTrigger_of_word hne hw, withoutFinalBreak_of_word hne hw]
  dsimp only
  rw [dropWhileEnd_append hw hl, takeWhileEnd_append hw hl]

/-- A path that ends in a word and a trigger is split before the word. -/
theorem splitPath_word {l w : Text} (hl : ∀ c, l.getLast? = some c → isWordChar c = false)
    (hne : w ≠ []) (hw : ∀ c ∈ w, isWordChar c = true) {c : Char} (hc : c = '.' ∨ c = '(') :
    splitPath (l ++ w ++ [c]) = (contextOf l, w) := by
  unfold splitPath trailingWord
  rw [withoutTrigger_concat hc, withoutFinalBreak_of_word hne hw]
  dsimp only
  rw [dropWhileEnd_append hw hl, takeWhileEnd_append hw hl]

end Signpost.Query
