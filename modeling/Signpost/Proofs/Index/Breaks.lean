import Signpost.Proofs.Index.Append
set_option autoImplicit false

/-!
# Line breaks

An index depends on the lines of its source and on nothing else about the breaks between them: a
source may be written anew with a line feed after every line but the last (`build_unlines_lines`).

What is written anew can have one line less, for the line feed before an empty last line becomes the
break that ends the line before it.  The builder does not notice: it passes over blank lines, and the
blocks that are still open at the end take such a line in and lose it when they are trimmed.
-/

namespace Signpost.Index

open Text

/-- Blank lines begin at the margin, for nothing in them stands anywhere else. -/
theorem beginsAtMargin_of_blank {ms : List Text} (h : ∀ m ∈ ms, isBlankText m = true) :
    BeginsAtMargin ms := by
  intro line hline
  have hfound := List.find?_some hline
  rw [h line (List.mem_of_find?_eq_some hline)] at hfound
  exact absurd hfound (by decide)

/-- The builder passes over blank lines. -/
theorem Builder.run_of_blank (d : Dialect) (blocked : List Text) {ms : List Text}
    (h : ∀ m ∈ ms, isBlankText m = true) (number : Nat) (b : Builder) :
    run d blocked number ms b = b := by
  induction ms generalizing number with
  | nil => rfl
  | cons m ms ih =>
    obtain ⟨hm, hms⟩ := List.forall_mem_cons.mp h
    show run d blocked (number + 1) ms (b.step d blocked number m ms) = b
    rw [step_of_blank hm, ih hms]

/-- Blank lines at the end of a source change nothing. -/
theorem scan_of_blank_lines (d : Dialect) (blocked : List Text) {source longer : Text}
    {ms : List Text} (h : lines longer = lines source ++ ms)
    (hms : ∀ m ∈ ms, isBlankText m = true) :
    scan d blocked longer = scan d blocked source := by
  unfold scan
  rw [h, Builder.run_append d blocked _ (beginsAtMargin_of_blank hms),
    Builder.run_of_blank d blocked hms]

/-- A source whose lines are joined with line feeds has the same index as before, down to the
sources and descriptions in it, and the same headers that cannot be read. -/
theorem build_unlines_lines (d : Dialect) (blocked : List Text) (source : Text) :
    build d blocked (unlines (lines source)) = build d blocked source ∧
      unread d blocked (unlines (lines source)) = unread d blocked source := by
  have hscan : scan d blocked (unlines (lines source)) = scan d blocked source := by
    rcases lines_unlines (not_isLineBreak_of_mem_lines (t := source)) with hsame | hless
    · unfold scan
      rw [← hsame]
    · have hempty : ∀ m ∈ [([] : Text)], isBlankText m = true :=
        List.forall_mem_singleton.mpr rfl
      exact (scan_of_blank_lines d blocked hless hempty).symm
  unfold build unread
  rw [hscan]
  exact ⟨rfl, rfl⟩

end Signpost.Index
