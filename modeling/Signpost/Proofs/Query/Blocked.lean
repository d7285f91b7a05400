import Mathlib.Logic.Relation
import Signpost.Proofs.Table
import Signpost.Session
set_option autoImplicit false

/-!
# Blocked names

A blocked name never resolves, neither at the top nor as a member.  So what an index has under
blocked names makes no difference to what a word stands for: indexes that agree on all other names
(`Index.AgreesOutside`) resolve every word alike, but for members of the class found, some of which
may have blocked names themselves.  A hover shows no members, and so it is the same.

Any number of changes under blocked names (`Index.ChangesHidden`) keeps that agreement.
-/

namespace Signpost

open Query

/-! ## Agreement -/

/-- Two definitions differ at most in members whose names are hidden. -/
structure Definition.AgreesOutside (hidden : List Text) (d d' : Definition) : Prop where
  /-- All but the members is the same. -/
  withoutMembers : { d with children := none } = { d' with children := none }
  isSome_children : d.children.isSome = d'.children.isSome
  member : ∀ name ∉ hidden,
    d.children.bind (Table.get? · name) = d'.children.bind (Table.get? · name)

/-- Two indexes have the same under every name that is not hidden, but for hidden members. -/
def Index.AgreesOutside (hidden : List Text) (index index' : Index) : Prop :=
  ∀ name ∉ hidden,
    Option.Rel (Definition.AgreesOutside hidden) (Table.get? index name) (Table.get? index' name)

namespace Definition.AgreesOutside

variable {hidden : List Text} {d d' d'' : Definition}

theorem refl (d : Definition) : d.AgreesOutside hidden d := ⟨rfl, rfl, fun _ _ => rfl⟩

theorem trans (h : d.AgreesOutside hidden d') (h' : d'.AgreesOutside hidden d'') :
    d.AgreesOutside hidden d'' where
  withoutMembers := h.withoutMembers.trans h'.withoutMembers
  isSome_children := h.isSome_children.trans h'.isSome_children
  member name hname := (h.member name hname).trans (h'.member name hname)

/-- What is found or not found agrees with itself. -/
theorem rel_self (found : Option Definition) : Option.Rel (AgreesOutside hidden) found found := by
  cases found with
  | none => exact .none
  | some d => exact .some (refl d)

/-- A hover shows no members. -/
theorem hover_eq (h : d.AgreesOutside hidden d') : Hover.of? d = Hover.of? d' := by
  have hmembers : ∀ e : Definition, Hover.of? e = Hover.of? { e with children := none } :=
    fun _ => rfl
  rw [hmembers d, hmembers d', h.withoutMembers]

end Definition.AgreesOutside

namespace Index.AgreesOutside

variable {hidden : List Text} {index index' index'' : Index}

theorem refl (index : Index) : AgreesOutside hidden index index :=
  fun _ _ => Definition.AgreesOutside.rel_self _

theorem trans (h : AgreesOutside hidden index index') (h' : AgreesOutside hidden index' index'') :
    AgreesOutside hidden index index'' := by
  intro name hname
  have hfirst := h name hname
  have hsecond := h' name hname
  generalize Table.get? index name = found, Table.get? index' name = found',
    Table.get? index'' name = found'' at hfirst hsecond
  cases hfirst with
  | none => exact hsecond
  | some hd =>
    cases hsecond with
    | some hd' => exact .some (hd.trans hd')

end Index.AgreesOutside

/-! ## Resolution -/

section

variable {names : NameTable} {index index' : Index}

theorem Query.NameTable.not_mem_of_isBlocked {asTyped canonical : Text}
    (h : names.isBlocked asTyped canonical = false) : canonical ∉ names.blockedCanonical := by
  have := (Bool.or_eq_false_iff.mp h).2
  simpa using this

theorem Query.topLevel?_agrees (h : Index.AgreesOutside names.blockedCanonical index index')
    (token : Text) :
    Option.Rel (Definition.AgreesOutside names.blockedCanonical)
      (topLevel? index names token) (topLevel? index' names token) := by
  unfold topLevel?
  cases hblocked : names.isBlocked token (names.canonical token) with
  | true => simp [hblocked]
  | false => simpa [hblocked] using h _ (NameTable.not_mem_of_isBlocked hblocked)

/-- Both indexes resolve a token, or neither does, and to definitions that agree. -/
theorem Query.resolve_agrees (h : Index.AgreesOutside names.blockedCanonical index index')
    (token context : Text) :
    Option.Rel (Definition.AgreesOutside names.blockedCanonical)
      (resolve index names token context) (resolve index' names token context) := by
  have htop := topLevel?_agrees h token
  have howner := topLevel?_agrees h context
  unfold resolve
  generalize topLevel? index names token = top, topLevel? index' names token = top' at htop
  generalize topLevel? index names context = owner, topLevel? index' names context = owner'
    at howner
  cases htop with
  | some hd => exact .some hd
  | none =>
    cases howner with
    | none => exact .none
    | some hd =>
      -- What is left of the search looks for a member, or has no name to look for.
      cases htoken : token.isEmpty with
      | true => exact .some hd
      | false =>
        cases hblocked : names.isBlocked token (names.canonical token) with
        | true => simp [hblocked]
        | false =>
          have hmember := hd.member _ (NameTable.not_mem_of_isBlocked hblocked)
          simpa [hblocked, hmember] using Definition.AgreesOutside.rel_self _

end

/-! ## Changes -/

/-- One change to an index under a hidden name: a definition is put in or taken out, or a member of
a class is. -/
inductive Index.ChangesHidden (hidden : List Text) : Index → Index → Prop
  | put {name : Text} (hname : name ∈ hidden) (index : Index) (d : Definition) :
      ChangesHidden hidden index (Table.insert index name d)
  | drop {name : Text} (hname : name ∈ hidden) (index : Index) :
      ChangesHidden hidden index (Table.erase index name)
  | putMember {name : Text} (hname : name ∈ hidden) (index : Index) (owner : Text)
      (child : Definition) :
      ChangesHidden hidden index (Table.modify (·.withChild name child) index owner)
  | dropMember {name : Text} (hname : name ∈ hidden) (index : Index) (owner : Text) :
      ChangesHidden hidden index
        (Table.modify (fun d => { d with children := d.children.map (Table.erase · name) })
          index owner)

/-- A change to one member is seen under no other name. -/
theorem Definition.agreesOutside_of_get?_eq {hidden : List Text} {name : Text}
    (hname : name ∈ hidden) {f : Table Text Definition → Table Text Definition}
    (hf : ∀ members other, name ≠ other → Table.get? (f members) other = Table.get? members other)
    (d : Definition) :
    Definition.AgreesOutside hidden d { d with children := d.children.map f } where
  withoutMembers := rfl
  isSome_children := by simp
  member other hother := by
    have hne : name ≠ other := fun heq => hother (heq ▸ hname)
    cases d.children with
    | none => rfl
    | some members => exact (hf members other hne).symm

namespace Index

variable {hidden : List Text} {index index' : Index}

/-- A change under one key is seen under no other. -/
theorem agreesOutside_of_get?_eq {name : Text} (hname : name ∈ hidden)
    (h : ∀ other, name ≠ other → Table.get? index' other = Table.get? index other) :
    AgreesOutside hidden index index' := by
  intro other hother
  rw [h other fun heq => hother (heq ▸ hname)]
  exact Definition.AgreesOutside.rel_self _

/-- Changing a definition keeps the agreement if the definition agrees with what it becomes. -/
theorem agreesOutside_modify {f : Definition → Definition}
    (hf : ∀ d, Definition.AgreesOutside hidden d (f d)) (index : Index) (owner : Text) :
    AgreesOutside hidden index (Table.modify f index owner) := by
  intro name _
  rw [Table.get?_modify]
  by_cases h : owner = name
  · cases Table.get? index name with
    | none => simp [h]
    | some d => simpa [h] using hf d
  · simpa [h] using Definition.AgreesOutside.rel_self _

theorem ChangesHidden.agreesOutside (h : ChangesHidden hidden index index') :
    AgreesOutside hidden index index' := by
  cases h with
  | put hname _ d =>
    refine agreesOutside_of_get?_eq hname fun other hne => ?_
    simp [Table.get?_insert, hne]
  | drop hname _ => exact agreesOutside_of_get?_eq hname fun other hne => Table.get?_erase_of_ne hne _
  | putMember hname _ owner child =>
    refine agreesOutside_modify (Definition.agreesOutside_of_get?_eq hname ?_) index owner
    intro members other hne
    simp [Table.get?_insert, hne]
  | dropMember hname _ owner =>
    exact agreesOutside_modify
      (Definition.agreesOutside_of_get?_eq hname fun _ _ hne => Table.get?_erase_of_ne hne _) index
      owner

theorem agreesOutside_of_changes
    (h : Relation.ReflTransGen (ChangesHidden hidden) index index') :
    AgreesOutside hidden index index' := by
  induction h with
  | refl => exact .refl _
  | tail _ change ih => exact ih.trans change.agreesOutside

end Index

/-! ## Hovering -/

namespace Session

/-- A session with an index answers from it, and stays as it is. -/
theorem hover_of_index {s : Session} {index : Index} (h : s.store.index = some index)
    (files : FileTree) (line : Text) (column : Int) :
    s.hover files line column = .ok (s, hoverIn index s.names line column, []) := by
  have hensured : s.ensured files = .ok (s, []) := by
    simp [Session.ensured, Store.ensured, Store.isBuilt, h, Except.map]
  have hcurrent : s.store.current = index := by simp [Store.current, h]
  unfold Session.hover ensuredAt
  cases wordAt line column <;> simp [hensured, hcurrent, Except.map]

theorem hoverIn_agrees {names : NameTable} {index index' : Index}
    (h : Index.AgreesOutside names.blockedCanonical index index') (line : Text) (column : Int) :
    hoverIn index names line column = hoverIn index' names line column := by
  unfold hoverIn definitionIn
  cases wordAt line column with
  | none => rfl
  | some span =>
    have hfound := resolve_agrees h (span.text line) (contextOf (line.take span.start))
    dsimp only
    generalize resolve index names _ _ = found, resolve index' names _ _ = found' at hfound ⊢
    cases hfound with
    | none => rfl
    | some hd => exact hd.hover_eq

/-- What an index has under blocked names cannot be told from any hover: neither by comparing it
with an index that agrees on all other names, nor by changing it under blocked names. -/
theorem hover_eq_of_agreesOutside {names : NameTable} {index index' : Index}
    (h : Index.AgreesOutside names.blockedCanonical index index') (line : Text) (column : Int) :
    hoverIn index names line column = hoverIn index' names line column ∧
    (∀ changed, Relation.ReflTransGen (Index.ChangesHidden names.blockedCanonical) index changed →
      hoverIn changed names line column = hoverIn index' names line column) ∧
    ∀ (files files' : FileTree) (s s' : Session), s.names = names → s'.names = names →
      s.store.index = some index → s'.store.index = some index' →
        ∃ shown, s.hover files line column = .ok (s, shown, []) ∧
          s'.hover files' line column = .ok (s', shown, []) := by
  have hagrees := hoverIn_agrees h line column
  refine ⟨hagrees, ?_, ?_⟩
  · intro changed hchanges
    rw [← hagrees]
    exact (hoverIn_agrees (Index.agreesOutside_of_changes hchanges) line column).symm
  · intro files files' s s' hs hs' hindex hindex'
    refine ⟨hoverIn index names line column, ?_, ?_⟩
    · rw [hover_of_index hindex, hs]
    · rw [hover_of_index hindex', hs', hagrees]

/-- Without its blocked names an index shows the same under an alias; were the names not blocked, it
would show less. -/
theorem hover_eq_of_agreesOutside_alias :
    let names : NameTable := { mapping := [("cs", "A")], blockedCanonical := ["g", "h"] }
    let index : Index := .build {} [] "class A():\n  def f(a): 0\n  def g(): 1\ndef h(): 2\n"
    let index' := Table.modify
      (fun d => { d with children := d.children.map (Table.erase · "g") }) (Table.erase index "h") "A"
    Index.AgreesOutside names.blockedCanonical index index' ∧
      hoverIn index names "cs.f" 3 = hoverIn index' names "cs.f" 3 ∧
      (hoverIn index names "cs.f" 3).map (·.signature) = some "def f(a)" ∧
      (hoverIn index { names with blockedCanonical := [] } "cs.g" 3).isSome ∧
      (hoverIn index' { names with blockedCanonical := [] } "cs.g" 3).isNone := by
  intro names index index'
  have hagrees : Index.AgreesOutside names.blockedCanonical index index' :=
    Index.agreesOutside_of_changes
      (.tail (.single (.drop (by decide) index)) (.dropMember (by decide) _ "A"))
  exact ⟨hagrees, (hover_eq_of_agreesOutside hagrees "cs.f" 3).1, by decide +kernel,
    by decide +kernel, by decide +kernel⟩

end Session

end Signpost
