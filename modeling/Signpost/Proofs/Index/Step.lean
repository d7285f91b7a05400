import Mathlib.Data.List.TakeWhile
import Signpost.Proofs.Table
import Signpost.Index.Build
set_option autoImplicit false

/-!
# One line of the pass

Everything the builder does with a line, by the role that the line has: it is blank, it has no
header, or it has one, at the left margin or deeper.  What is true of the whole pass is shown one
role at a time (`Role`).

The builder stays consistent: names stand once in the index, and the class of every open block is
among them (`Consistent`).
-/

namespace Signpost.Index

open Text

/-- What a line is to the builder. -/
inductive Role (d : Dialect) (line : Text) : Prop
  | blank (isBlank : isBlankText line = true)
  | plain (notBlank : isBlankText line = false) (noHeader : Header.start? d line = none)
  | top (kind : Kind) (name : Text) (notBlank : isBlankText line = false)
      (header : Header.start? d line = some (kind, name)) (depth : indentation line = 0)
  | nested (kind : Kind) (name : Text) (notBlank : isBlankText line = false)
      (header : Header.start? d line = some (kind, name)) (depth : indentation line ≠ 0)

/-- Every line has a role. -/
theorem role (d : Dialect) (line : Text) : Role d line := by
  cases hblank : isBlankText line with
  | true => exact .blank hblank
  | false =>
    cases hheader : Header.start? d line with
    | none => exact .plain hblank hheader
    | some header =>
      by_cases hdepth : indentation line = 0
      · exact .top header.1 header.2 hblank hheader hdepth
      · exact .nested header.1 header.2 hblank hheader hdepth

namespace Builder

variable {d : Dialect} {blocked : List Text} {number : Nat} {line : Text} {following : List Text}
  {kind : Kind} {name : Text} {b : Builder}

theorem step_of_blank (h : isBlankText line = true) :
    b.step d blocked number line following = b := by
  rw [step, if_pos h]

theorem step_of_plain (h : isBlankText line = false) (hheader : Header.start? d line = none) :
    b.step d blocked number line following = b.closeTo (indentation line) := by
  rw [step, if_neg (by simp [h])]
  simp only [hheader]

theorem step_of_top (h : isBlankText line = false)
    (hheader : Header.start? d line = some (kind, name)) (hdepth : indentation line = 0) :
    b.step d blocked number line following =
      (b.closeTo 0).enter kind name number
        (Definition.ofBlock d blocked (Block.text line following)) := by
  rw [step, if_neg (by simp [h])]
  simp only [hheader, hdepth, if_true]

theorem step_of_nested (h : isBlankText line = false)
    (hheader : Header.start? d line = some (kind, name)) (hdepth : indentation line ≠ 0) :
    b.step d blocked number line following =
      (b.closeTo (indentation line)).enterNested (indentation line) kind name
        (Definition.ofBlock d blocked (Block.text line following)) := by
  rw [step, if_neg (by simp [h])]
  simp only [hheader, hdepth, if_false]

/-- A line at the left margin closes everything. -/
theorem opened_closeTo_zero (b : Builder) : (b.closeTo 0).opened = [] :=
  List.dropWhile_eq_nil_iff.mpr (by simp)

theorem of_mem_opened_closeTo {depth : Nat} {o : OpenBlock} (h : o ∈ (b.closeTo depth).opened) :
    o ∈ b.opened :=
  (List.dropWhile_suffix _).mem h

/-! ## Headers that stand deeper -/

variable {depth : Nat} {definition : Definition}

/-- A function header directly inside an indexed class is put into that class. -/
theorem index_enterNested_of_method {above : Nat} {owner : Text}
    (h : b.opened = [⟨above, some owner⟩]) :
    (b.enterNested depth .func name definition).index =
      Table.modify (·.withChild name definition) b.index owner := by
  simp only [enterNested, h]

/-- Any other header that stands deeper is not indexed. -/
theorem index_enterNested_of_other
    (h : ∀ above owner, kind = .func → b.opened ≠ [⟨above, some owner⟩]) :
    (b.enterNested depth kind name definition).index = b.index := by
  unfold enterNested
  dsimp only
  split
  · rename_i hopened
    exact absurd hopened (h _ _ rfl)
  · rfl

/-- A header that stands deeper is a method of an indexed class, or it is not. -/
theorem method_or_other (kind : Kind) (b : Builder) :
    (∃ above owner, kind = .func ∧ b.opened = [⟨above, some owner⟩]) ∨
      ∀ above owner, kind = .func → b.opened ≠ [⟨above, some owner⟩] := by
  by_cases h : ∃ above owner, kind = .func ∧ b.opened = [⟨above, some owner⟩]
  · exact .inl h
  · exact .inr fun above owner hkind hopened => h ⟨above, owner, hkind, hopened⟩

/-! ## What every line keeps -/

/-- Names stand once in the index, and the class of an open block is one of them. -/
structure Consistent (b : Builder) : Prop where
  nodup : (Table.keys b.index).Nodup
  mem_keys : ∀ o ∈ b.opened, ∀ owner, o.owner = some owner → owner ∈ Table.keys b.index

theorem consistent_nil : Consistent {} := ⟨List.nodup_nil, by simp⟩

theorem Consistent.closeTo (h : b.Consistent) (depth : Nat) : (b.closeTo depth).Consistent :=
  ⟨h.nodup, fun o ho => h.mem_keys o (of_mem_opened_closeTo ho)⟩

theorem Consistent.enter (h : b.Consistent) (kind : Kind) (name : Text) (number : Nat)
    (definition : Definition) : (b.enter kind name number definition).Consistent where
  nodup := Table.nodup_keys_insert h.nodup name definition
  mem_keys := by
    intro o ho owner howner
    refine Table.mem_keys_insert.mpr ?_
    rcases List.mem_cons.mp ho with rfl | ho
    · dsimp only at howner
      split at howner
      · exact .inr (Option.some.inj howner).symm
      · simp at howner
    · exact .inl (h.mem_keys o ho owner howner)

theorem Consistent.enterNested (h : b.Consistent) (depth : Nat) (kind : Kind) (name : Text)
    (definition : Definition) : (b.enterNested depth kind name definition).Consistent := by
  have hkeys : Table.keys (b.enterNested depth kind name definition).index =
      Table.keys b.index := by
    rcases method_or_other kind b with ⟨above, owner, rfl, hopened⟩ | hother
    · rw [index_enterNested_of_method hopened, Table.keys_modify]
    · rw [index_enterNested_of_other hother]
  refine ⟨hkeys ▸ h.nodup, ?_⟩
  intro o ho owner howner
  rw [hkeys]
  rcases List.mem_cons.mp ho with rfl | ho
  · simp at howner
  · exact h.mem_keys o ho owner howner

theorem Consistent.step (h : b.Consistent) (d : Dialect) (blocked : List Text) (number : Nat)
    (line : Text) (following : List Text) :
    (b.step d blocked number line following).Consistent := by
  cases role d line with
  | blank hblank =>
    rw [step_of_blank hblank]
    exact h
  | plain hblank hheader =>
    rw [step_of_plain hblank hheader]
    exact h.closeTo _
  | top kind name hblank hheader hdepth =>
    rw [step_of_top hblank hheader hdepth]
    exact (h.closeTo _).enter kind name number _
  | nested kind name hblank hheader hdepth =>
    rw [step_of_nested hblank hheader hdepth]
    exact (h.closeTo _).enterNested _ kind name _

theorem Consistent.run (d : Dialect) (blocked : List Text) : ∀ (ls : List Text) {b : Builder}
    (number : Nat), b.Consistent → (run d blocked number ls b).Consistent := by
  intro ls
  induction ls with
  | nil => exact fun _ h => h
  | cons line following ih =>
    intro b number h
    exact ih (number + 1) (h.step d blocked number line following)

end Builder

theorem nodup_keys_build (d : Dialect) (blocked : List Text) (source : Text) :
    (Table.keys (build d blocked source)).Nodup := by
  have hscan := (Builder.Consistent.run d blocked (lines source) 1 Builder.consistent_nil).nodup
  have hkeys : Table.keys (build d blocked source) = Table.keys (scan d blocked source).index :=
    Table.keys_map _ _
  rw [hkeys]
  exact hscan

end Signpost.Index
