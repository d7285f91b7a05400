import Mathlib.Data.List.TakeWhile
import Signpost.Block
import Signpost.Proofs.Text.Trim
set_option autoImplicit false

/-!
# Lines of joined texts

A text that ends with a line break has its last line finished, so what follows it starts a line of
its own (`exists_lines_append`).  A carriage return and a line feed are a single break together, also
when they come from two texts; then the second text has an empty line more on its own.

Blank lines at the end of a block disappear when the block is trimmed.  So a block does not depend on
what follows it, if that begins at the left margin (`trim_text_append`).
-/

namespace Signpost.Text

/-! ## Cutting into lines -/

/-- The last line of a text is finished. -/
def EndsLine (t : Text) : Prop := ∀ c, t.getLast? = some c → isLineBreak c = true

instance (t : Text) : Decidable (EndsLine t) :=
  Option.decidableForallMem t.getLast?

theorem lines_cons_of_break {c : Char} (hc : isLineBreak c = true) {t : Text}
    (h : ¬ (c = '\r' ∧ t.head? = some '\n')) : lines (c :: t) = [] :: lines t := by
  rw [lines, if_pos hc]
  rintro cs rfl rfl
  exact h ⟨rfl, rfl⟩

theorem lines_cons_of_plain {c : Char} (hc : isLineBreak c = false) {t line : Text}
    {rest : List Text} (h : lines t = line :: rest) : lines (c :: t) = (c :: line) :: rest := by
  rw [lines, if_neg (by simp [hc]), h]
  rintro cs rfl
  exact absurd hc (by decide)

theorem getLast?_cons_of_some {c e : Char} {t : Text} (h : t.getLast? = some e) :
    (c :: t).getLast? = some e := by
  have hne : t ≠ [] := by
    rintro rfl
    simp at h
  rw [← List.singleton_append, List.getLast?_append_of_ne_nil _ hne, h]

theorem EndsLine.of_cons {c : Char} {t : Text} (h : EndsLine (c :: t)) : EndsLine t :=
  fun e he => h e (getLast?_cons_of_some he)

/-- Only the empty text has no lines. -/
theorem lines_ne_nil {t : Text} (h : t ≠ []) : lines t ≠ [] := by
  cases t with
  | nil => exact absurd rfl h
  | cons c t =>
    rw [lines.eq_def]
    split
    · contradiction
    · simp
    · split
      · simp
      · split <;> simp

/-- The lines of a text whose last line is finished stand before those of the text that follows,
which may lose an empty first one. -/
theorem exists_lines_append {s : Text} (hs : EndsLine s) (t : Text) :
    ∃ ms, lines (s ++ t) = lines s ++ ms ∧ (lines t = ms ∨ lines t = [] :: ms) := by
  fun_induction lines s with
  | case1 => exact ⟨lines t, rfl, .inl rfl⟩
  | case2 s ih =>
    obtain ⟨ms, happend, hms⟩ := ih hs.of_cons.of_cons
    refine ⟨ms, ?_, hms⟩
    show [] :: lines (s ++ t) = _
    rw [happend]
    rfl
  | case3 c s hpair hbreak ih =>
    by_cases hshared : c = '\r' ∧ (s ++ t).head? = some '\n'
    · -- The carriage return is the last character, and the line feed after it no break of its own.
      obtain ⟨rfl, hhead⟩ := hshared
      cases s with
      | cons e s => exact (hpair s rfl (by rw [Option.some.inj hhead])).elim
      | nil =>
        cases t with
        | nil => simp at hhead
        | cons e t =>
          obtain rfl : e = '\n' := Option.some.inj hhead
          exact ⟨lines t, rfl, .inr rfl⟩
    · obtain ⟨ms, happend, hms⟩ := ih hs.of_cons
      refine ⟨ms, ?_, hms⟩
      rw [List.cons_append, lines_cons_of_break hbreak hshared, happend]
      rfl
  | case4 c s hpair hplain hnil _ =>
    -- The character is the last one, and ends no line.
    have hs' : s = [] := by
      by_contra hne
      exact lines_ne_nil hne hnil
    rw [hs'] at hs
    exact absurd (hs c rfl) hplain
  | case5 c s hpair hplain line rest hlines ih =>
    obtain ⟨ms, happend, hms⟩ := ih hs.of_cons
    have hplain : isLineBreak c = false := (Bool.not_eq_true _).mp hplain
    refine ⟨ms, ?_, hms⟩
    rw [hlines] at happend
    exact lines_cons_of_plain hplain happend

/-! ## Joined lines -/

/-- No line holds a line break. -/
theorem not_isLineBreak_of_mem_lines {t : Text} :
    ∀ line ∈ lines t, ∀ c ∈ line, isLineBreak c = false := by
  fun_induction lines t with
  | case1 => simp
  | case2 t ih => exact List.forall_mem_cons.mpr ⟨by simp, ih⟩
  | case3 c t _ _ ih => exact List.forall_mem_cons.mpr ⟨by simp, ih⟩
  | case4 c t _ hplain _ _ => simpa using hplain
  | case5 c t _ hplain line rest hlines ih =>
    rw [hlines] at ih
    obtain ⟨hline, hrest⟩ := List.forall_mem_cons.mp ih
    refine List.forall_mem_cons.mpr ⟨List.forall_mem_cons.mpr ⟨?_, hline⟩, hrest⟩
    exact (Bool.not_eq_true _).mp hplain

/-- A text without a break is the line that a line feed after it ends. -/
theorem lines_append_feed {l : Text} (hl : ∀ c ∈ l, isLineBreak c = false) (t : Text) :
    lines (l ++ '\n' :: t) = l :: lines t := by
  induction l with
  | nil => exact lines_cons_of_break (by decide) (by simp)
  | cons c l ih =>
    obtain ⟨hc, hl⟩ := List.forall_mem_cons.mp hl
    exact lines_cons_of_plain hc (ih hl)

/-- A text without a break is a single line, unless it is empty. -/
theorem lines_of_no_break {l : Text} (hne : l ≠ []) (hl : ∀ c ∈ l, isLineBreak c = false) :
    lines l = [l] := by
  induction l with
  | nil => exact absurd rfl hne
  | cons c l ih =>
    obtain ⟨hc, hl⟩ := List.forall_mem_cons.mp hl
    cases l with
    | nil => simp [lines, hc]
    | cons e l => exact lines_cons_of_plain hc (ih (List.cons_ne_nil e l) hl)

/-- Joining lines and cutting the text again gives the lines, but for an empty last one: the line
feed before it becomes a final break. -/
theorem lines_unlines {ls : List Text} (h : ∀ line ∈ ls, ∀ c ∈ line, isLineBreak c = false) :
    ls = lines (unlines ls) ∨ ls = lines (unlines ls) ++ [[]] := by
  induction ls with
  | nil => exact .inl rfl
  | cons l ls ih =>
    obtain ⟨hl, hls⟩ := List.forall_mem_cons.mp h
    cases ls with
    | nil =>
      cases l with
      | nil => exact .inr rfl
      | cons c l => exact .inl (lines_of_no_break (List.cons_ne_nil c l) hl).symm
    | cons m ms =>
      have hcut : lines (unlines (l :: m :: ms)) = l :: lines (unlines (m :: ms)) := by
        show lines (l ++ ['\n'] ++ unlines (m :: ms)) = _
        rw [List.append_assoc]
        exact lines_append_feed hl _
      rw [hcut, List.cons_append]
      exact (ih hls).imp (congrArg (l :: ·)) (congrArg (l :: ·))

/-! ## Blank lines at the end -/

/-- The first line that is not blank, if there is one, stands at the left margin. -/
def BeginsAtMargin (ls : List Text) : Prop :=
  ∀ line, ls.find? (!isBlankText ·) = some line → indentation line = 0

instance (ls : List Text) : Decidable (BeginsAtMargin ls) :=
  inferInstanceAs (Decidable (∀ line ∈ ls.find? (!isBlankText ·), indentation line = 0))

theorem BeginsAtMargin.of_blank {line : Text} {ls : List Text} (h : BeginsAtMargin (line :: ls))
    (hblank : isBlankText line = true) : BeginsAtMargin ls := by
  intro first hfirst
  exact h first (by rw [List.find?_cons_of_neg (by simp [hblank]), hfirst])

theorem BeginsAtMargin.indentation_eq {line : Text} {ls : List Text}
    (h : BeginsAtMargin (line :: ls)) (hblank : isBlankText line = false) : indentation line = 0 :=
  h line (List.find?_cons_of_pos (by simp [hblank]))

/-- A block takes in no more than blank lines of what begins at the margin. -/
theorem BeginsAtMargin.isBlankText_of_stays {ls : List Text} (h : BeginsAtMargin ls)
    (depth : Nat) : ∀ l ∈ ls.takeWhile (Block.stays depth), isBlankText l = true := by
  induction ls with
  | nil => simp
  | cons line ls ih =>
    cases hblank : isBlankText line with
    | true =>
      rw [List.takeWhile_cons_of_pos (by simp [Block.stays, hblank])]
      exact List.forall_mem_cons.mpr ⟨hblank, ih (h.of_blank hblank)⟩
    | false =>
      have hstop : Block.stays depth line = false := by
        simp [Block.stays, hblank, h.indentation_eq hblank]
      rw [List.takeWhile_cons_of_neg (by simp [hstop])]
      simp

theorem unlines_cons (l : Text) (ms : List Text) :
    unlines (l :: ms) = l ++ ms.flatMap ('\n' :: ·) := by
  induction ms generalizing l with
  | nil => simp [unlines, joinWith]
  | cons m ms ih =>
    show l ++ ['\n'] ++ unlines (m :: ms) = _
    rw [ih]
    simp

theorem unlines_append {ls : List Text} (hne : ls ≠ []) (ms : List Text) :
    unlines (ls ++ ms) = unlines ls ++ ms.flatMap ('\n' :: ·) := by
  obtain ⟨l, ls, rfl⟩ := List.exists_cons_of_ne_nil hne
  rw [List.cons_append, unlines_cons, unlines_cons, List.flatMap_append, List.append_assoc]

/-- Blank lines at the end are trimmed away. -/
theorem trim_unlines_append {ls : List Text} (hne : ls ≠ []) {ms : List Text}
    (h : ∀ m ∈ ms, isBlankText m = true) : trim (unlines (ls ++ ms)) = trim (unlines ls) := by
  rw [unlines_append hne]
  apply trim_append_blanks
  intro c hc
  obtain ⟨m, hm, hc⟩ := List.mem_flatMap.mp hc
  rcases List.mem_cons.mp hc with rfl | hc
  · decide
  · exact List.all_eq_true.mp (h m hm) c hc

/-- What begins at the margin adds nothing to a block before it. -/
theorem trim_text_append {ms : List Text} (h : BeginsAtMargin ms) (header : Text)
    (following : List Text) :
    trim (Block.text header (following ++ ms)) = trim (Block.text header following) := by
  unfold Block.text Block.linesOf
  by_cases hall : ∀ l ∈ following, Block.stays (indentation header) l = true
  · rw [List.takeWhile_append_of_pos hall, List.takeWhile_eq_self_iff.mpr hall, ← List.cons_append]
    exact trim_unlines_append (List.cons_ne_nil header following) (h.isBlankText_of_stays _)
  · have hlength : (following.takeWhile (Block.stays (indentation header))).length ≠
        following.length := by
      intro hlength
      have hsame := (List.takeWhile_prefix _).eq_of_length hlength
      exact hall (List.takeWhile_eq_self_iff.mp hsame)
    rw [List.takeWhile_append, if_neg hlength]

end Signpost.Text
