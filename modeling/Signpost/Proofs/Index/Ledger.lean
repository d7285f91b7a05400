import Signpost.Proofs.Definition
import Signpost.Proofs.Index.Step
set_option autoImplicit false

/-!
# A pass that keeps methods apart

The builder puts a method right into its class.  The same pass can keep the methods in a ledger of
their own, by class, and give them to the classes at the end.  Then look-ups have to succeed: the
owner of a method must have a page in the ledger, and a page must belong to a class in the index.
Here a look-up that fails ends the pass without a result.

In a valid dialect none ever fails, and the result is the same index (`build?_eq_some`).  At every
moment the builder's index is the index of the ledger with its pages put in (`Joins`).
-/

namespace Signpost.Index

open Text

/-- The state of the pass. -/
structure Ledger where
  index : Index := []
  /-- The methods of each indexed class. -/
  methods : Table Text (Table Text Definition) := []
  /-- The open blocks, innermost first. -/
  opened : List OpenBlock := []

namespace Ledger

/-! ## The pass -/

/-- Closes the blocks that end before a line of this indentation. -/
def closeTo (depth : Nat) (l : Ledger) : Ledger :=
  { l with opened := l.opened.dropWhile (depth ≤ ·.depth) }

/-- Enters a definition that stands at the left margin.  What the ledger had under its name belonged
to an earlier definition. -/
def enter (kind : Kind) (name : Text) (definition : Definition) (l : Ledger) : Ledger :=
  let index := Table.insert l.index name definition
  let others := Table.erase l.methods name
  if kind = .cls ∧ ¬ definition.isDegenerate then
    { index, methods := Table.insert others name [], opened := ⟨0, some name⟩ :: l.opened }
  else
    { index, methods := others, opened := ⟨0, none⟩ :: l.opened }

/-- Enters a header that stands deeper; fails if its owner is not in the ledger. -/
def enterNested? (depth : Nat) (kind : Kind) (name : Text) (definition : Definition) (l : Ledger) :
    Option Ledger :=
  match kind, l.opened with
  | .func, [⟨_, some owner⟩] =>
    (Table.get? l.methods owner).map fun members =>
      { l with
        methods := Table.insert l.methods owner (Table.insert members name definition)
        opened := ⟨depth, none⟩ :: l.opened }
  | _, _ => some { l with opened := ⟨depth, none⟩ :: l.opened }

/-- Takes in one line; `following` are the lines after it. -/
def step? (d : Dialect) (blocked : List Text) (line : Text) (following : List Text) (l : Ledger) :
    Option Ledger :=
  if isBlankText line then some l
  else
    let depth := indentation line
    let l := l.closeTo depth
    match Header.start? d line with
    | none => some l
    | some (kind, name) =>
      let definition := Definition.ofBlock d blocked (Block.text line following)
      if depth = 0 then some (l.enter kind name definition)
      else l.enterNested? depth kind name definition

/-- Takes in lines one after the other. -/
def run? (d : Dialect) (blocked : List Text) : List Text → Ledger → Option Ledger
  | [], l => some l
  | line :: following, l => (l.step? d blocked line following).bind (run? d blocked following)

/-- A class with its methods.  Without parameters of its own it takes those of its constructor, if
that one could be read. -/
def finishClass (constructorName : Text) (members : Table Text Definition)
    (definition : Definition) : Definition :=
  let parameters :=
    match definition.parameterList,
      (Table.get? members constructorName).bind (·.parameters) with
    | [], some ps => some ps
    | _, _ => definition.parameters
  { definition with children := some members, parameters }

/-- Gives every page of the ledger to its class; fails if that is not in the index. -/
def join? (constructorName : Text) :
    Table Text (Table Text Definition) → Index → Option Index
  | [], index => some index
  | (name, members) :: pages, index =>
    (Table.get? index name).bind fun definition =>
      join? constructorName pages
        (Table.insert index name (finishClass constructorName members definition))

/-- The index of a source, unless a look-up fails. -/
def build? (d : Dialect) (blocked : List Text) (source : Text) : Option Index :=
  (run? d blocked (lines source) {}).bind fun l => join? d.constructorName l.methods l.index

/-! ## Steps -/

section

variable {d : Dialect} {blocked : List Text} {line : Text} {following : List Text} {kind : Kind}
  {name : Text} {l : Ledger}

theorem step?_of_blank (h : isBlankText line = true) :
    l.step? d blocked line following = some l := by
  rw [step?, if_pos h]

theorem step?_of_plain (h : isBlankText line = false) (hheader : Header.start? d line = none) :
    l.step? d blocked line following = some (l.closeTo (indentation line)) := by
  rw [step?, if_neg (by simp [h])]
  simp only [hheader]

theorem step?_of_top (h : isBlankText line = false)
    (hheader : Header.start? d line = some (kind, name)) (hdepth : indentation line = 0) :
    l.step? d blocked line following =
      some ((l.closeTo 0).enter kind name
        (Definition.ofBlock d blocked (Block.text line following))) := by
  rw [step?, if_neg (by simp [h])]
  simp only [hheader, hdepth, if_true]

theorem step?_of_nested (h : isBlankText line = false)
    (hheader : Header.start? d line = some (kind, name)) (hdepth : indentation line ≠ 0) :
    l.step? d blocked line following =
      (l.closeTo (indentation line)).enterNested? (indentation line) kind name
        (Definition.ofBlock d blocked (Block.text line following)) := by
  rw [step?, if_neg (by simp [h])]
  simp only [hheader, hdepth, if_false]

theorem enterNested?_of_method {depth above : Nat} {owner : Text} {definition : Definition}
    {members : Table Text Definition} (h : l.opened = [⟨above, some owner⟩])
    (hmembers : Table.get? l.methods owner = some members) :
    l.enterNested? depth .func name definition =
      some { l with
        methods := Table.insert l.methods owner (Table.insert members name definition)
        opened := ⟨depth, none⟩ :: l.opened } := by
  simp only [enterNested?, h, hmembers, Option.map_some]

theorem enterNested?_of_other {depth : Nat} {definition : Definition}
    (h : ∀ above owner, kind = .func → l.opened ≠ [⟨above, some owner⟩]) :
    l.enterNested? depth kind name definition =
      some { l with opened := ⟨depth, none⟩ :: l.opened } := by
  unfold enterNested?
  split
  · rename_i hopened
    exact absurd hopened (h _ _ rfl)
  · rfl

end

/-! ## The ledger and the builder -/

/-- A definition with its page of the ledger, if it has one. -/
def withPage (page : Option (Table Text Definition)) (definition : Definition) : Definition :=
  match page with
  | none => definition
  | some members => { definition with children := some members }

/-- The builder's index is the index of the ledger with its pages put in. -/
structure Joins (l : Ledger) (b : Builder) : Prop where
  keys_eq : Table.keys b.index = Table.keys l.index
  get?_eq : ∀ name, Table.get? b.index name =
    (Table.get? l.index name).map (withPage (Table.get? l.methods name))
  opened_eq : b.opened = l.opened
  nodup : (Table.keys l.index).Nodup
  nodup_methods : (Table.keys l.methods).Nodup
  /-- The owner of a method has a page. -/
  mem_methods : ∀ o ∈ l.opened, ∀ owner, o.owner = some owner → owner ∈ Table.keys l.methods
  /-- A page belongs to a definition. -/
  mem_index : ∀ name ∈ Table.keys l.methods, name ∈ Table.keys l.index
  /-- What has no page has no methods. -/
  children_eq : ∀ name definition, Table.get? l.methods name = none →
    Table.get? l.index name = some definition → definition.children = none

theorem joins_nil : Joins {} {} where
  keys_eq := rfl
  get?_eq := fun _ => rfl
  opened_eq := rfl
  nodup := List.nodup_nil
  nodup_methods := List.nodup_nil
  mem_methods := by simp
  mem_index := by simp [Table.keys]
  children_eq := by simp [Table.get?]

namespace Joins

variable {l : Ledger} {b : Builder}

theorem closeTo (h : Joins l b) (depth : Nat) : Joins (l.closeTo depth) (b.closeTo depth) :=
  { h with
    opened_eq := congrArg (List.dropWhile _) h.opened_eq
    mem_methods := fun o ho => h.mem_methods o ((List.dropWhile_suffix _).mem ho) }

/-- A definition is entered together with a new page, or with none, as it has methods or not. -/
theorem insert (h : Joins l b) (name : Text) (definition : Definition)
    {methods : Table Text (Table Text Definition)} {opened : List OpenBlock}
    (hmethods : (Table.keys methods).Nodup)
    (hpage : Table.get? methods name = definition.children)
    (hother : ∀ n, n ≠ name → Table.get? methods n = Table.get? l.methods n)
    (howner : ∀ o ∈ opened, ∀ owner, o.owner = some owner → owner ∈ Table.keys methods)
    (unread : List Unread) :
    Joins ⟨Table.insert l.index name definition, methods, opened⟩
      ⟨Table.insert b.index name definition, opened, unread⟩ where
  keys_eq := by
    show Table.keys (Table.insert _ _ _) = Table.keys (Table.insert _ _ _)
    rw [Table.keys_insert, Table.keys_insert, h.keys_eq]
  get?_eq := by
    intro n
    show Table.get? (Table.insert _ _ _) n = (Table.get? (Table.insert _ _ _) n).map _
    rw [Table.get?_insert, Table.get?_insert]
    by_cases hn : name = n
    · subst hn
      simp only [beq_self_eq_true, if_true, Option.map_some, hpage]
      obtain ⟨_, _, _, _, _, _, children⟩ := definition
      cases children <;> rfl
    · simp only [beq_iff_eq, hn, if_false, hother n (Ne.symm hn), h.get?_eq]
  opened_eq := rfl
  nodup := Table.nodup_keys_insert h.nodup name definition
  nodup_methods := hmethods
  mem_methods := howner
  mem_index := by
    intro n hn
    by_cases heq : n = name
    · exact Table.mem_keys_insert.mpr (.inr heq)
    · rw [Table.mem_keys_iff, hother n heq, ← Table.mem_keys_iff] at hn
      exact Table.mem_keys_insert.mpr (.inl (h.mem_index n hn))
  children_eq := by
    intro n definition' hnone hsome
    rw [Table.get?_insert] at hsome
    by_cases hn : name = n
    · subst hn
      rw [beq_self_eq_true, if_pos rfl, Option.some.injEq] at hsome
      rw [← hsome, ← hpage, hnone]
    · simp only [beq_iff_eq, hn, if_false] at hsome
      rw [hother n (Ne.symm hn)] at hnone
      exact h.children_eq n definition' hnone hsome

theorem enter (h : Joins l b) (hclosed : l.opened = []) {kind : Kind} {name : Text}
    {definition : Definition} (number : Nat)
    (hchildren : definition.children =
      if kind = .cls ∧ ¬ definition.isDegenerate then some [] else none) :
    Joins (l.enter kind name definition) (b.enter kind name number definition) := by
  have hopened : b.opened = l.opened := h.opened_eq
  have herase := Table.nodup_keys_erase h.nodup_methods name
  unfold Ledger.enter Builder.enter
  by_cases hclass : kind = .cls ∧ ¬ definition.isDegenerate
  · rw [if_pos hclass] at hchildren
    simp only [if_pos hclass, hopened, hclosed]
    refine h.insert name definition (Table.nodup_keys_insert herase name []) ?_ ?_ ?_ _
    · rw [Table.get?_insert, beq_self_eq_true, if_pos rfl, hchildren]
    · intro n hn
      simp [Table.get?_insert, Table.get?_erase h.nodup_methods, Ne.symm hn]
    · simp [Table.mem_keys_insert]
  · rw [if_neg hclass] at hchildren
    simp only [if_neg hclass, hopened, hclosed]
    refine h.insert name definition herase ?_ ?_ ?_ _
    · rw [Table.get?_erase h.nodup_methods, beq_self_eq_true, if_pos rfl, hchildren]
    · intro n hn
      simp [Table.get?_erase h.nodup_methods, Ne.symm hn]
    · simp

/-- The look-up of a method's owner succeeds. -/
theorem enterNested? (h : Joins l b) (depth : Nat) (kind : Kind) (name : Text)
    (definition : Definition) :
    ∃ l', l.enterNested? depth kind name definition = some l' ∧
      Joins l' (b.enterNested depth kind name definition) := by
  have hblocks : ∀ {methods : Table Text (Table Text Definition)},
      (∀ o ∈ l.opened, ∀ owner, o.owner = some owner → owner ∈ Table.keys methods) →
      ∀ o ∈ (⟨depth, none⟩ : OpenBlock) :: l.opened, ∀ owner, o.owner = some owner →
        owner ∈ Table.keys methods := by
    intro methods hmethods
    exact List.forall_mem_cons.mpr ⟨by simp, hmethods⟩
  rcases Builder.method_or_other kind b with ⟨above, owner, rfl, hopened⟩ | hother
  · have hopened' : l.opened = [⟨above, some owner⟩] := h.opened_eq ▸ hopened
    have howner : owner ∈ Table.keys l.methods :=
      h.mem_methods _ (by rw [hopened']; exact List.mem_singleton_self _) owner rfl
    obtain ⟨members, hmembers⟩ := Table.exists_get?_of_mem_keys howner
    have hkeys : Table.keys (Table.insert l.methods owner (Table.insert members name definition)) =
        Table.keys l.methods := Table.keys_insert_of_mem howner _
    have hindex : (b.enterNested depth .func name definition).index =
        Table.modify (·.withChild name definition) b.index owner :=
      Builder.index_enterNested_of_method hopened
    refine ⟨_, enterNested?_of_method hopened' hmembers, ?_⟩
    exact
      { keys_eq := by rw [hindex, Table.keys_modify, h.keys_eq]
        get?_eq := by
          intro n
          rw [hindex, Table.get?_modify, Table.get?_insert, h.get?_eq]
          by_cases hn : owner = n
          · subst hn
            simp only [beq_self_eq_true, if_true, hmembers, Option.map_map]
            rfl
          · simp only [beq_iff_eq, hn, if_false]
        opened_eq := congrArg (List.cons _) h.opened_eq
        nodup := h.nodup
        nodup_methods := hkeys ▸ h.nodup_methods
        mem_methods := hblocks (hkeys ▸ h.mem_methods)
        mem_index := hkeys ▸ h.mem_index
        children_eq := by
          intro n definition' hnone
          rw [Table.get?_eq_none_iff, hkeys, ← Table.get?_eq_none_iff] at hnone
          exact h.children_eq n definition' hnone }
  · refine ⟨_, enterNested?_of_other (h.opened_eq ▸ hother), ?_⟩
    have hindex : (b.enterNested depth kind name definition).index = b.index :=
      Builder.index_enterNested_of_other hother
    exact
      { h with
        keys_eq := hindex ▸ h.keys_eq
        get?_eq := hindex ▸ h.get?_eq
        opened_eq := congrArg (List.cons _) h.opened_eq
        mem_methods := hblocks h.mem_methods }

/-- One line. -/
theorem step (h : Joins l b) {d : Dialect} (valid : d.Valid) (blocked : List Text) (number : Nat)
    (line : Text) (following : List Text) :
    ∃ l', l.step? d blocked line following = some l' ∧
      Joins l' (b.step d blocked number line following) := by
  cases role d line with
  | blank hblank =>
    rw [step?_of_blank hblank, Builder.step_of_blank hblank]
    exact ⟨l, rfl, h⟩
  | plain hblank hheader =>
    rw [step?_of_plain hblank hheader, Builder.step_of_plain hblank hheader]
    exact ⟨_, rfl, h.closeTo _⟩
  | top kind name hblank hheader hdepth =>
    rw [step?_of_top hblank hheader hdepth, Builder.step_of_top hblank hheader hdepth]
    refine ⟨_, rfl, (h.closeTo 0).enter ?_ number ?_⟩
    · exact List.dropWhile_eq_nil_iff.mpr (by simp)
    · rw [Definition.children_ofBlock]
      exact ite_congr
        (propext (Definition.kind_ofBlock_text_iff blocked valid hheader following))
        (fun _ => rfl) (fun _ => rfl)
  | nested kind name hblank hheader hdepth =>
    rw [step?_of_nested hblank hheader hdepth, Builder.step_of_nested hblank hheader hdepth]
    exact (h.closeTo _).enterNested? _ kind name _

/-- The whole pass: no look-up of an owner fails. -/
theorem run {d : Dialect} (valid : d.Valid) (blocked : List Text) : ∀ (ls : List Text) {l : Ledger}
    {b : Builder} (number : Nat), Joins l b →
      ∃ l', run? d blocked ls l = some l' ∧ Joins l' (Builder.run d blocked number ls b) := by
  intro ls
  induction ls with
  | nil => exact fun _ h => ⟨_, rfl, h⟩
  | cons line following ih =>
    intro l b number h
    obtain ⟨l', hstep, hnext⟩ := h.step valid blocked number line following
    obtain ⟨final, hrun, hfinal⟩ := ih (number + 1) hnext
    refine ⟨final, ?_, hfinal⟩
    rw [run?, hstep, Option.bind_some, hrun]

end Joins

/-! ## Giving the methods to the classes -/

/-- What a class that has a page becomes in the end is what the builder makes of it. -/
theorem finishClass_eq (constructorName : Text) (members : Table Text Definition)
    (definition : Definition) :
    finishClass constructorName members definition =
      (withPage (some members) definition).adoptConstructor constructorName := by
  unfold finishClass withPage Definition.adoptConstructor
  dsimp only
  have hlist : Definition.parameterList { definition with children := some members } =
    definition.parameterList := rfl
  rw [hlist]
  cases definition.parameterList with
  | cons p ps => rfl
  | nil => cases (Table.get? members constructorName).bind (·.parameters) <;> rfl

/-- Every page finds its class, and no other definition changes. -/
theorem exists_join? (constructorName : Text) {pages : Table Text (Table Text Definition)}
    {index : Index} (hpages : (Table.keys pages).Nodup)
    (hindex : ∀ name ∈ Table.keys pages, name ∈ Table.keys index) :
    ∃ joined, join? constructorName pages index = some joined ∧
      Table.keys joined = Table.keys index ∧
      ∀ name, Table.get? joined name = (Table.get? index name).map fun definition =>
        match Table.get? pages name with
        | none => definition
        | some members => finishClass constructorName members definition := by
  induction pages generalizing index with
  | nil =>
    refine ⟨index, rfl, rfl, fun name => ?_⟩
    simp [Table.get?]
  | cons page pages ih =>
    obtain ⟨name, members⟩ := page
    obtain ⟨hname, hpages⟩ := List.nodup_cons.mp hpages
    obtain ⟨definition, hdefinition⟩ :=
      Table.exists_get?_of_mem_keys (hindex name List.mem_cons_self)
    have hkeys := Table.keys_insert_of_mem (hindex name List.mem_cons_self)
      (finishClass constructorName members definition)
    have hrest : ∀ n ∈ Table.keys pages, n ∈ Table.keys
        (Table.insert index name (finishClass constructorName members definition)) := by
      intro n hn
      rw [hkeys]
      exact hindex n (List.mem_cons_of_mem _ hn)
    obtain ⟨joined, hjoin, hjoined, hget⟩ := ih hpages hrest
    refine ⟨joined, ?_, hjoined.trans hkeys, fun n => ?_⟩
    · rw [join?, hdefinition, Option.bind_some, hjoin]
    · rw [hget, Table.get?_insert]
      by_cases hn : name = n
      · subst hn
        simp [Table.get?, Table.get?_eq_none_iff.mpr hname, hdefinition]
      · simp [Table.get?, hn]

theorem adoptConstructor_of_children {constructorName : Text} {definition : Definition}
    (h : definition.children = none) : definition.adoptConstructor constructorName = definition := by
  rw [Definition.adoptConstructor, h]

/-- No look-up fails, and the result is the index. -/
theorem build?_eq_some {d : Dialect} (valid : d.Valid) (blocked : List Text) (source : Text) :
    build? d blocked source = some (build d blocked source) := by
  obtain ⟨l, hrun, h⟩ := Joins.run valid blocked (lines source) 1 joins_nil
  obtain ⟨joined, hjoin, hkeys, hget⟩ :=
    exists_join? d.constructorName h.nodup_methods h.mem_index
  have hbuild : Table.keys (build d blocked source) = Table.keys l.index := by
    have hfinish : Table.keys (build d blocked source) =
      Table.keys (scan d blocked source).index := Table.keys_map _ _
    exact hfinish.trans h.keys_eq
  have hjoined : joined = build d blocked source := by
    refine Table.ext (hkeys.trans hbuild.symm) (hkeys ▸ h.nodup) fun name => ?_
    have hfinish : Table.get? (build d blocked source) name =
        (Table.get? (scan d blocked source).index name).map
          (·.adoptConstructor d.constructorName) := Table.get?_map _ _ _
    rw [hfinish, scan, h.get?_eq, Option.map_map, hget]
    cases hpage : Table.get? l.methods name with
    | some members =>
      congr 1
      funext definition
      exact finishClass_eq _ _ _
    | none =>
      cases hdefinition : Table.get? l.index name with
      | none => rfl
      | some definition =>
        have hchildren := h.children_eq name definition hpage hdefinition
        exact congrArg some (adoptConstructor_of_children hchildren).symm
  rw [build?, hrun, Option.bind_some, hjoin, hjoined]

end Ledger

end Signpost.Index
