import Signpost.Proofs.Definition
import Signpost.Proofs.Index.Step
set_option autoImplicit false

/-!
# Names in an index

The names in an index, those of methods too, come from headers, so each is a word and none is empty.
That holds of every dialect.
-/

namespace Signpost

open Text

/-- A text that can be the name in a header. -/
structure IsName (t : Text) : Prop where
  ne_nil : t ≠ []
  isWordChar : ∀ c ∈ t, isWordChar c = true

theorem IsName.no_close {t : Text} (h : IsName t) : ')' ∉ t :=
  fun hmem => absurd (h.isWordChar _ hmem) (by decide)

theorem Header.Begins.isName {keyword name rest t : Text} (h : Begins keyword name rest t) :
    IsName name :=
  ⟨h.name_ne, h.isWordChar_name⟩

theorem Header.isName_of_start? {d : Dialect} {line name : Text} {kind : Kind}
    (h : start? d line = some (kind, name)) : IsName name := by
  unfold start? at h
  split at h
  · rename_i n r hfunc
    obtain ⟨_, rfl⟩ := Prod.mk.inj (Option.some.inj h)
    exact (begins_of_named? hfunc).isName
  · split at h
    · rename_i n r hcls
      obtain ⟨_, rfl⟩ := Prod.mk.inj (Option.some.inj h)
      exact (begins_of_named? hcls).isName
    · simp at h

namespace Definition

/-- Every method has a name that can stand in a header. -/
def HasNames (d : Definition) : Prop :=
  ∀ members, d.children = some members → ∀ e ∈ members, IsName e.1

theorem hasNames_ofBlock (d : Dialect) (blocked : List Text) (block : Text) :
    (ofBlock d blocked block).HasNames := by
  intro members h
  rw [children_ofBlock] at h
  split at h
  · rw [← Option.some.inj h]
    simp
  · simp at h

theorem HasNames.withChild {d : Definition} (h : d.HasNames) {name : Text} (hname : IsName name)
    (child : Definition) : (d.withChild name child).HasNames := by
  intro members hmembers e he
  obtain ⟨before, hbefore, rfl⟩ := Option.map_eq_some_iff.mp hmembers
  rcases Table.of_mem_insert he with he | rfl
  · exact h before hbefore e he
  · exact hname

theorem children_adoptConstructor (name : Text) (d : Definition) :
    (d.adoptConstructor name).children = d.children := by
  unfold adoptConstructor
  split
  · rfl
  · split <;> rfl

end Definition

namespace Index

/-- Every name in the index, of a definition or a method, is the name in some header. -/
def HasNames (index : Index) : Prop := ∀ e ∈ index, IsName e.1 ∧ e.2.HasNames

theorem HasNames.insert {index : Index} (h : HasNames index) {name : Text} (hname : IsName name)
    {definition : Definition} (hdefinition : definition.HasNames) :
    HasNames (Table.insert index name definition) := by
  intro e he
  rcases Table.of_mem_insert he with he | rfl
  · exact h e he
  · exact ⟨hname, hdefinition⟩

theorem HasNames.modify {index : Index} (h : HasNames index) {f : Definition → Definition}
    (hf : ∀ v : Definition, v.HasNames → (f v).HasNames) (name : Text) :
    HasNames (Table.modify f index name) := by
  intro e he
  rcases Table.of_mem_modify he with he | ⟨v, hv, he⟩
  · exact h e he
  · exact ⟨(h _ hv).1, he ▸ hf v (h _ hv).2⟩

/-- One line keeps the names. -/
theorem HasNames.step {b : Builder} (h : HasNames b.index) (d : Dialect) (blocked : List Text)
    (number : Nat) (line : Text) (following : List Text) :
    HasNames (b.step d blocked number line following).index := by
  have hdefinition := Definition.hasNames_ofBlock d blocked (Block.text line following)
  cases role d line with
  | blank hblank =>
    rw [Builder.step_of_blank hblank]
    exact h
  | plain hblank hheader =>
    rw [Builder.step_of_plain hblank hheader]
    exact h
  | top kind name hblank hheader hdepth =>
    rw [Builder.step_of_top hblank hheader hdepth]
    exact HasNames.insert h (Header.isName_of_start? hheader) hdefinition
  | nested kind name hblank hheader hdepth =>
    rw [Builder.step_of_nested hblank hheader hdepth]
    rcases Builder.method_or_other kind (b.closeTo (indentation line)) with
      ⟨above, owner, rfl, hopened⟩ | hother
    · rw [Builder.index_enterNested_of_method hopened]
      have hname := Header.isName_of_start? hheader
      exact HasNames.modify h (fun v hv => hv.withChild hname _) owner
    · rw [Builder.index_enterNested_of_other hother]
      exact h

theorem HasNames.run (d : Dialect) (blocked : List Text) : ∀ (ls : List Text) {b : Builder}
    (number : Nat), HasNames b.index → HasNames (Builder.run d blocked number ls b).index := by
  intro ls
  induction ls with
  | nil => exact fun _ h => h
  | cons line following ih =>
    intro b number h
    exact ih (number + 1) (h.step d blocked number line following)

theorem hasNames_build (d : Dialect) (blocked : List Text) (source : Text) :
    HasNames (build d blocked source) := by
  have hscan : HasNames (scan d blocked source).index :=
    HasNames.run d blocked (lines source) 1 (by simp [HasNames])
  intro finished hfinished
  obtain ⟨e, he, rfl⟩ := List.mem_map.mp hfinished
  refine ⟨(hscan e he).1, ?_⟩
  intro members hmembers
  rw [Definition.children_adoptConstructor] at hmembers
  exact (hscan e he).2 members hmembers

end Index

end Signpost
