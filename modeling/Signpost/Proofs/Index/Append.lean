import Signpost.Proofs.Index.Step
import Signpost.Proofs.Text.Lines
set_option autoImplicit false

/-!
# Sources one after the other

The index of two sources, one after the other, is the index of the first with the entries of the
second put in (`build_append`).  The second has to begin at the left margin: its first header then
closes every block of the first, and from there on the builder does what it does with the second
source alone (`Over`).

Before that, blank lines of the second source may still belong to the last block of the first, but
they are trimmed away.
-/

namespace Signpost.Index

open Text

theorem ofBlock_congr {block block' : Text} (h : trim block = trim block') (d : Dialect)
    (blocked : List Text) :
    Definition.ofBlock d blocked block = Definition.ofBlock d blocked block' := by
  unfold Definition.ofBlock
  rw [h]

namespace Builder

/-! ## The first source -/

theorem step_append (d : Dialect) (blocked : List Text) (number : Nat) (line : Text)
    (following : List Text) {ms : List Text} (h : BeginsAtMargin ms) (b : Builder) :
    b.step d blocked number line (following ++ ms) = b.step d blocked number line following := by
  unfold step
  rw [ofBlock_congr (trim_text_append h line following)]

/-- The lines of the first source are taken in as if nothing followed them. -/
theorem run_append (d : Dialect) (blocked : List Text) (ls : List Text) {ms : List Text}
    (h : BeginsAtMargin ms) (number : Nat) (b : Builder) :
    run d blocked number (ls ++ ms) b =
      run d blocked (number + ls.length) ms (run d blocked number ls b) := by
  induction ls generalizing number b with
  | nil => rfl
  | cons line ls ih =>
    show run d blocked (number + 1) (ls ++ ms) (b.step d blocked number line (ls ++ ms)) = _
    rw [step_append d blocked number line ls h, ih, List.length_cons, Nat.add_assoc number 1,
      Nat.add_comm 1]
    rfl

/-! ## The second source -/

/-- A builder has done on top of an index what another builder has done on its own. -/
structure Over (index : Index) (b own : Builder) : Prop where
  index_eq : b.index = Table.update index own.index
  opened_eq : b.opened = own.opened
  consistent : own.Consistent

namespace Over

variable {index : Index} {b own : Builder}

theorem start (b : Builder) : Over b.index (b.closeTo 0) {} where
  index_eq := rfl
  opened_eq := opened_closeTo_zero b
  consistent := consistent_nil

theorem closeTo (h : Over index b own) (depth : Nat) :
    Over index (b.closeTo depth) (own.closeTo depth) where
  index_eq := h.index_eq
  opened_eq := congrArg (List.dropWhile _) h.opened_eq
  consistent := h.consistent.closeTo depth

theorem enter (h : Over index b own) (kind : Kind) (name : Text) (definition : Definition)
    (number number' : Nat) :
    Over index (b.enter kind name number definition) (own.enter kind name number' definition) where
  index_eq := by
    show Table.insert b.index name definition = _
    rw [h.index_eq, ← Table.update_insert h.consistent.nodup]
    rfl
  opened_eq := congrArg (List.cons _) h.opened_eq
  consistent := h.consistent.enter kind name number' definition

theorem enterNested (h : Over index b own) (depth : Nat) (kind : Kind) (name : Text)
    (definition : Definition) :
    Over index (b.enterNested depth kind name definition)
      (own.enterNested depth kind name definition) where
  index_eq := by
    rcases method_or_other kind own with ⟨above, owner, rfl, hopened⟩ | hother
    · have hmem : owner ∈ Table.keys own.index :=
        h.consistent.mem_keys _ (by rw [hopened]; exact List.mem_singleton_self _) owner rfl
      rw [index_enterNested_of_method (h.opened_eq.trans hopened),
        index_enterNested_of_method hopened, h.index_eq,
        Table.update_modify h.consistent.nodup hmem]
    · rw [index_enterNested_of_other (h.opened_eq ▸ hother), index_enterNested_of_other hother,
        h.index_eq]
  opened_eq := congrArg (List.cons _) h.opened_eq
  consistent := h.consistent.enterNested depth kind name definition

/-- Both builders do the same with a line. -/
theorem step (h : Over index b own) (d : Dialect) (blocked : List Text) (line : Text)
    (following : List Text) (number number' : Nat) :
    Over index (b.step d blocked number line following)
      (own.step d blocked number' line following) := by
  cases role d line with
  | blank hblank =>
    rw [step_of_blank hblank, step_of_blank hblank]
    exact h
  | plain hblank hheader =>
    rw [step_of_plain hblank hheader, step_of_plain hblank hheader]
    exact h.closeTo _
  | top kind name hblank hheader hdepth =>
    rw [step_of_top hblank hheader hdepth, step_of_top hblank hheader hdepth]
    exact (h.closeTo 0).enter kind name _ number number'
  | nested kind name hblank hheader hdepth =>
    rw [step_of_nested hblank hheader hdepth, step_of_nested hblank hheader hdepth]
    exact (h.closeTo _).enterNested _ kind name _

theorem run (d : Dialect) (blocked : List Text) : ∀ (ls : List Text) {b own : Builder}
    (number number' : Nat), Over index b own →
      Over index (Builder.run d blocked number ls b) (Builder.run d blocked number' ls own) := by
  intro ls
  induction ls with
  | nil => exact fun _ _ h => h
  | cons line following ih =>
    intro b own number number' h
    exact ih (number + 1) (number' + 1) (h.step d blocked line following number number')

end Over

/-- A line at the left margin finds no open block. -/
theorem step_closeTo_zero (d : Dialect) (blocked : List Text) (number : Nat) {line : Text}
    (following : List Text) (hblank : isBlankText line = false) (hdepth : indentation line = 0)
    (b : Builder) :
    (b.closeTo 0).step d blocked number line following =
      b.step d blocked number line following := by
  have htwice : (b.closeTo 0).closeTo 0 = b.closeTo 0 := by
    simp [closeTo, List.dropWhile_idempotent]
  cases role d line with
  | blank hblank' => exact absurd hblank' (by simp [hblank])
  | plain _ hheader =>
    rw [step_of_plain hblank hheader, step_of_plain hblank hheader, hdepth, htwice]
  | top kind name _ hheader _ =>
    rw [step_of_top hblank hheader hdepth, step_of_top hblank hheader hdepth, htwice]
  | nested _ _ _ _ hdepth' => exact absurd hdepth hdepth'

/-- What begins at the margin is taken in on top of the index. -/
theorem index_run_of_beginsAtMargin (d : Dialect) (blocked : List Text) (ls : List Text)
    (h : BeginsAtMargin ls) (number number' : Nat) (b : Builder) :
    (run d blocked number ls b).index =
      Table.update b.index (run d blocked number' ls {}).index := by
  induction ls generalizing number number' with
  | nil => rfl
  | cons line following ih =>
    show (run d blocked _ following (b.step d blocked number line following)).index =
      Table.update b.index
        (run d blocked _ following (step d blocked number' line following {})).index
    cases hblank : isBlankText line with
    | true =>
      rw [step_of_blank hblank, step_of_blank hblank]
      exact ih (h.of_blank hblank) (number + 1) (number' + 1)
    | false =>
      have hdepth := h.indentation_eq hblank
      have hover := (Over.start b).step d blocked line following number number'
      rw [step_closeTo_zero d blocked number following hblank hdepth] at hover
      exact (Over.run d blocked following (number + 1) (number' + 1) hover).index_eq

end Builder

/-! ## Both sources -/

/-- An empty first line is not noticed. -/
theorem scan_index_of_lines_eq_cons (d : Dialect) (blocked : List Text) {source : Text}
    {ls : List Text} (h : lines source = [] :: ls) :
    (scan d blocked source).index = (Builder.run d blocked 2 ls {}).index := by
  unfold scan
  rw [h]
  rfl

theorem index_scan_append (d : Dialect) (blocked : List Text) {s t : Text} (hs : EndsLine s)
    (ht : BeginsAtMargin (lines t)) :
    (scan d blocked (s ++ t)).index =
      Table.update (scan d blocked s).index (scan d blocked t).index := by
  obtain ⟨ms, happend, hms⟩ := exists_lines_append hs t
  have hbegins : BeginsAtMargin ms := by
    rcases hms with hms | hms
    · exact hms ▸ ht
    · rw [hms] at ht
      exact ht.of_blank rfl
  have hown : ∃ number, (Builder.run d blocked number ms {}).index = (scan d blocked t).index := by
    rcases hms with hms | hms
    · exact ⟨1, by rw [scan, hms]⟩
    · exact ⟨2, (scan_index_of_lines_eq_cons d blocked hms).symm⟩
  obtain ⟨number, hown⟩ := hown
  have hindex := Builder.index_run_of_beginsAtMargin d blocked ms hbegins
    (1 + (lines s).length) number (scan d blocked s)
  rw [hown] at hindex
  rw [← hindex, scan, happend, Builder.run_append d blocked (lines s) hbegins]
  rfl

/-- The index of two sources is that of the first with the entries of the second put in: a name that
both have keeps its place and stands for what the second defines, and new names follow. -/
theorem build_append (d : Dialect) (blocked : List Text) (s t : Text) (hs : EndsLine s)
    (ht : BeginsAtMargin (lines t)) :
    let first := build d blocked s
    let second := build d blocked t
    let both := build d blocked (s ++ t)
    both = Table.update first second ∧
      Table.keys both =
        Table.keys first ++ (Table.keys second).filter (!(Table.keys first).contains ·) ∧
      ∀ name, Table.get? both name = (Table.get? second name).or (Table.get? first name) := by
  intro first second both
  have hboth : both = Table.update first second := by
    show (scan d blocked (s ++ t)).index.map _ = _
    rw [index_scan_append d blocked hs ht, Table.map_update]
    rfl
  have hnodup : (Table.keys second).Nodup := nodup_keys_build d blocked t
  refine ⟨hboth, ?_, ?_⟩
  · rw [hboth, Table.keys_update hnodup]
  · intro name
    rw [hboth, Table.get?_update hnodup]

/-- A class that is defined again after a break of two characters that the sources share. -/
theorem build_append_redefined :
    let s : Text := "class A:\n  def f(a):\ndef g()\r"
    let t : Text := "\n  \nclass A(x):\n  def h(b):\ndef k()"
    EndsLine s ∧ BeginsAtMargin (lines t) ∧
      build {} [] (s ++ t) = Table.update (build {} [] s) (build {} [] t) ∧
      Table.keys (build {} [] (s ++ t)) = ["A", "g", "k"] ∧
      ((Table.get? (build {} [] (s ++ t)) "A").bind (·.children)).map Table.keys =
        some ["h".toList] := by
  intro s t
  have hs : EndsLine s := by decide +kernel
  have ht : BeginsAtMargin (lines t) := by decide +kernel
  obtain ⟨hboth, hkeys, _⟩ := build_append {} [] s t hs ht
  exact ⟨hs, ht, hboth, by rw [hkeys]; decide +kernel, by decide +kernel⟩

end Signpost.Index
