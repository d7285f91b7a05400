import Signpost.Proofs.Query.Token
set_option autoImplicit false

/-!
# The words of a line

The spans that a line is cut into are words of it, each as long as it can be
(`isWord_of_mem_words`).  So what a column finds is a word that it touches, and since a word is found
from every column that it touches (`IsWord.wordAt_eq`), a column touches one word at most and the
search never ends too early: it finds nothing only where no word is touched (`wordAt_eq_some_iff`).
-/

namespace Signpost.Query

open Text

/-- A column is at a character of a span, or right behind its last one. -/
def Span.Touches (span : Span) (column : Int) : Prop :=
  (span.start : Int) ≤ column ∧ column ≤ span.stop

instance (span : Span) (column : Int) : Decidable (span.Touches column) :=
  inferInstanceAs (Decidable (_ ∧ _))

variable {line : Text} {span : Span} {column : Int}

/-! ## Every span is a word -/

/-- Word characters between others are a word. -/
theorem isWord_append {l w r : Text} (hl : ∀ c, l.getLast? = some c → isWordChar c = false)
    (hne : w ≠ []) (hw : ∀ c ∈ w, isWordChar c = true)
    (hr : ∀ c, r.head? = some c → isWordChar c = false) :
    IsWord (l ++ (w ++ r)) ⟨l.length, l.length + w.length⟩ where
  start_lt_stop := Nat.lt_add_of_pos_right (List.length_pos_iff.mpr hne)
  stop_le := by
    simp only [List.length_append]
    omega
  isWordChar := by
    rw [text_append]
    exact hw
  before := by
    rw [List.take_left]
    exact hl
  after := by
    have hdrop : (l ++ (w ++ r)).drop (l.length + w.length) = r := by
      rw [← List.append_assoc, ← List.length_append, List.drop_left]
    rw [hdrop]
    exact hr

/-- The text read so far is `l` and after it the word `w` that has begun, if `w` is not empty: then
`begun` is where it begins. -/
theorem isWord_of_mem_wordsFrom {l w : Text} {begun : Option Nat}
    (hl : ∀ c, l.getLast? = some c → isWordChar c = false) (hw : ∀ c ∈ w, isWordChar c = true)
    (hbegun : begun = if w = [] then none else some l.length) {t : Text}
    (h : span ∈ wordsFrom (l.length + w.length) begun t) : IsWord (l ++ (w ++ t)) span := by
  induction t generalizing l w begun with
  | nil =>
    by_cases hne : w = []
    · rw [hbegun, if_pos hne] at h
      simp [wordsFrom] at h
    · rw [hbegun, if_neg hne] at h
      obtain rfl := List.mem_singleton.mp h
      exact isWord_append hl hne hw (by simp)
  | cons c cs ih =>
    cases hc : isWordChar c with
    | true =>
      rw [wordsFrom_cons_of_pos hc] at h
      have hstart : begun.getD (l.length + w.length) = l.length := by
        rw [hbegun]
        by_cases hne : w = [] <;> simp [hne]
      have hw' : ∀ d ∈ w ++ [c], isWordChar d = true :=
        List.forall_mem_append.mpr ⟨hw, List.forall_mem_singleton.mpr hc⟩
      have hlength : l.length + w.length + 1 = l.length + (w ++ [c]).length := by simp [Nat.add_assoc]
      rw [hstart, hlength] at h
      have hword := ih hl hw' (by rw [if_neg (by simp)]) h
      rwa [List.append_assoc, List.singleton_append] at hword
    | false =>
      rw [wordsFrom_cons_of_neg hc, List.mem_append] at h
      rcases h with h | h
      · by_cases hne : w = []
        · rw [hbegun, if_pos hne] at h
          simp at h
        · rw [hbegun, if_neg hne] at h
          obtain rfl : span = ⟨l.length, l.length + w.length⟩ := by simpa using h
          exact isWord_append hl hne hw (forall_eq_some rfl hc)
      · have hlast : ∀ d, (l ++ w ++ [c]).getLast? = some d → isWordChar d = false :=
          forall_eq_some List.getLast?_concat hc
        have hlength : (l ++ w ++ [c]).length + ([] : Text).length = l.length + w.length + 1 := by
          simp [Nat.add_assoc]
        rw [← hlength] at h
        have hword := ih hlast (by simp) (if_pos rfl).symm h
        simpa using hword

theorem isWord_of_mem_words (h : span ∈ words line) : IsWord line span :=
  isWord_of_mem_wordsFrom (l := []) (w := []) (by simp) (by simp) rfl h

/-! ## The search -/

theorem of_spanAt_eq_some {spans : List Span} (h : spanAt column spans = some span) :
    span ∈ spans ∧ span.Touches column := by
  induction spans with
  | nil => cases h
  | cons s spans ih =>
    rw [spanAt] at h
    split at h
    · rename_i htouches
      obtain rfl := Option.some.inj h
      exact ⟨List.mem_cons_self, htouches⟩
    · split at h
      · cases h
      · obtain ⟨hmem, htouches⟩ := ih h
        exact ⟨List.mem_cons_of_mem _ hmem, htouches⟩

theorem wordAt_eq_some_iff :
    wordAt line column = some span ↔ IsWord line span ∧ span.Touches column := by
  constructor
  · intro h
    obtain ⟨hmem, htouches⟩ := of_spanAt_eq_some h
    exact ⟨isWord_of_mem_words hmem, htouches⟩
  · rintro ⟨hword, hstart, hstop⟩
    exact hword.wordAt_eq hstart hstop

/-- Stopping early is the same as looking at every word. -/
theorem wordAt_eq_find? (line : Text) (column : Int) :
    wordAt line column = (words line).find? fun span => decide (span.Touches column) := by
  cases hfind : (words line).find? fun span => decide (span.Touches column) with
  | none =>
    rw [List.find?_eq_none] at hfind
    refine Option.eq_none_iff_forall_ne_some.mpr fun span h => ?_
    obtain ⟨hmem, htouches⟩ := of_spanAt_eq_some h
    exact hfind span hmem (decide_eq_true htouches)
  | some span =>
    have htouches := List.find?_some hfind
    rw [decide_eq_true_eq] at htouches
    exact wordAt_eq_some_iff.mpr ⟨isWord_of_mem_words (List.mem_of_find?_eq_some hfind), htouches⟩

/-- A column finds exactly the word that it touches: there is one at most, and nothing is found only
where there is none, for a search that looks at every word would find the same. -/
theorem wordAt_finds_touched (line : Text) (column : Int) :
    (∀ span, wordAt line column = some span ↔ IsWord line span ∧ span.Touches column) ∧
      (∀ span other, IsWord line span → span.Touches column → IsWord line other →
        other.Touches column → span = other) ∧
      (wordAt line column = none ↔ ¬ ∃ span, IsWord line span ∧ span.Touches column) ∧
      wordAt line column = (words line).find? fun span => decide (span.Touches column) := by
  refine ⟨fun _ => wordAt_eq_some_iff, ?_, ?_, wordAt_eq_find? line column⟩
  · intro span other hspan hleft hother hright
    have hfound := wordAt_eq_some_iff.mpr ⟨hspan, hleft⟩
    rw [wordAt_eq_some_iff.mpr ⟨hother, hright⟩] at hfound
    exact (Option.some.inj hfound).symm
  · rw [Option.eq_none_iff_forall_ne_some, not_exists]
    exact forall_congr' fun span => not_congr wordAt_eq_some_iff

/-- A cursor between two words that a dot divides touches the one before the dot, right behind its
end, and from a column before the line or beyond it nothing is found. -/
example :
    wordAt "ab.c" 2 = some ⟨0, 2⟩ ∧ wordAt "ab.c" 3 = some ⟨3, 4⟩ ∧ wordAt "ab.c" 4 = some ⟨3, 4⟩ ∧
      wordAt "ab.c" (-1) = none ∧ wordAt "ab.c" 5 = none := by
  decide +kernel

end Signpost.Query
