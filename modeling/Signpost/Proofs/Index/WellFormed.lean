import Signpost.Proofs.Index.Build
import Signpost.Proofs.Index.Ledger
import Signpost.Query.Hover
set_option autoImplicit false

/-!
# Well-formed indexes

What can be relied on in an index without looking at the source again.  Every definition comes from
a header line (`ComesFrom`): either it agrees with that header in name, kind and keyword and has
everything that a definition of its kind has, or it has its source and nothing else.  No parameter
has a blocked name, not even one that a class took over from its constructor.

The index has that for its entries and for their methods, and no look-up failed on the way to it
(`build_wellFormed`).
-/

namespace Signpost.Index

open Text

/-- A definition as the header on line `k` and its block allow it to be. -/
structure ComesFrom (d : Dialect) (blocked : List Text) (ls : List Text) (k : Nat) (kind : Kind)
    (name : Text) (definition : Definition) : Prop where
  lt : k < ls.length
  header : headerAt d ls k = some (kind, name)
  source : definition.source = trim ((Block.at? ls k).getD [])
  /-- The header could be read or not. -/
  describes : definition = .degenerate definition.source ∨ definition.Describes d kind name
  allowed : ∀ p ∈ definition.parameterList, p.name ∉ blocked

variable {d : Dialect} {blocked : List Text} {ls : List Text} {k : Nat} {kind : Kind}
  {name : Text} {definition : Definition}

/-! ## One definition -/

theorem comesFrom_definitionAt (valid : d.Valid) (hk : k < ls.length)
    (hheader : headerAt d ls k = some (kind, name)) :
    ComesFrom d blocked ls k kind name (definitionAt d blocked ls k) where
  lt := hk
  header := hheader
  source := Definition.source_ofBlock d blocked _
  describes := by
    rw [definitionAt_eq hk]
    exact Definition.ofBlock_text blocked valid hheader _
  allowed := fun _ => Definition.not_mem_blocked_ofBlock d blocked _

/-- Whichever parameters a class has in the end, they were its own or its constructor's. -/
theorem of_mem_classParameters {own : Definition} {methods : Table Text Definition} {p : Parameter}
    (h : p ∈ classParameters d own methods) :
    p ∈ own.parameterList ∨ ∃ c ∈ methods, p ∈ c.2.parameterList := by
  unfold classParameters at h
  split at h
  · rename_i q qs hown
    exact .inl (hown ▸ h)
  · split at h
    · rename_i constructor hconstructor
      split at h
      · simp at h
      · exact .inr ⟨_, Table.mem_of_get?_eq_some hconstructor, h⟩
    · simp at h

namespace ComesFrom

/-- Only classes have methods. -/
theorem children_eq_none (h : ComesFrom d blocked ls k .func name definition) :
    definition.children = none := by
  rcases h.describes with hdegenerate | hdescribes
  · rw [hdegenerate]
    rfl
  · have hnot : ¬ definition.children.isSome = true := fun hsome =>
      absurd (hdescribes.children.mp hsome) (by decide)
    simpa using hnot

/-- What has a name has a kind, and so its content is there. -/
theorem hover_eq (h : ComesFrom d blocked ls k kind name definition) :
    Query.Hover.ofAny definition = .ok (Query.Hover.of? definition) := by
  rcases h.describes with hdegenerate | hdescribes
  · rw [hdegenerate]
    rfl
  · rw [Query.Hover.ofAny, hdescribes.kind_eq, Option.isNone_some, Bool.and_false,
      if_neg Bool.false_ne_true]

/-- A class that gets its methods still agrees with its header. -/
theorem withMethods (h : ComesFrom d blocked ls k kind name definition)
    {methods : Table Text Definition}
    (hmethods : ∀ c ∈ methods, ∀ p ∈ c.2.parameterList, p.name ∉ blocked) :
    ComesFrom d blocked ls k kind name (withMethods d definition methods) := by
  unfold Index.withMethods
  split
  · rename_i hclass
    have hdescribes : definition.Describes d kind name := by
      rcases h.describes with hdegenerate | hdescribes
      · rw [hdegenerate] at hclass
        simp [Definition.degenerate] at hclass
      · exact hdescribes
    have hkind : kind = .cls := Option.some.inj (hdescribes.kind_eq.symm.trans hclass)
    exact
      { h with
        describes := .inr { hdescribes with parameters := rfl, children := by simp [hkind] }
        allowed := by
          intro p hp
          rcases of_mem_classParameters hp with hown | ⟨c, hc, hchild⟩
          · exact h.allowed p hown
          · exact hmethods c hc p hchild }
  · exact h

end ComesFrom

/-! ## The entries and their methods -/

/-- Line `i` is the last header at the left margin with this name. -/
def IsLastNamed (d : Dialect) (ls : List Text) (name : Text) (i : Nat) : Prop :=
  indentation (lineAt ls i) = 0 ∧ ∀ j ∈ topLines d ls ls.length, nameAt d ls j = name → j ≤ i

instance (name : Text) (i : Nat) : Decidable (IsLastNamed d ls name i) :=
  inferInstanceAs (Decidable (_ ∧ _))

/-- An entry is what the last header of its name makes of its block and its methods. -/
theorem exists_of_mem_build (valid : d.Valid) {source : Text} {e : Text × Definition}
    (h : e ∈ build d blocked source) :
    let ls := lines source
    ∃ i kind, i < ls.length ∧ headerAt d ls i = some (kind, e.1) ∧ IsLastNamed d ls e.1 i ∧
      e.2 = withMethods d (definitionAt d blocked ls i) (methodsAt d blocked ls ls.length i) := by
  intro ls
  obtain ⟨before, hbefore, rfl⟩ := List.mem_map.mp h
  rw [index_scan valid] at hbefore
  obtain ⟨former, later, hsplit, hlater⟩ := Table.exists_of_mem_latest hbefore
  obtain ⟨formerLines, rest, hlines, rfl, hrest⟩ := List.map_eq_append_iff.mp hsplit
  obtain ⟨i, laterLines, rfl, rfl, rfl⟩ := List.map_eq_cons_iff.mp hrest
  have hi : i ∈ topLines d ls ls.length := by
    rw [hlines]
    simp
  obtain ⟨hlt, hheader, hdepth⟩ := mem_topLines.mp hi
  obtain ⟨⟨kind, name⟩, hstart⟩ := Option.isSome_iff_exists.mp hheader
  have hname : nameAt d ls i = name := by simp [nameAt, hstart]
  refine ⟨i, kind, hlt, hname ▸ hstart, ⟨hdepth, ?_⟩, adoptConstructor_classBefore _ i⟩
  intro j hj hsame
  have hsorted : (topLines d ls ls.length).Pairwise (· < ·) :=
    List.Pairwise.filter _ List.pairwise_lt_range
  rw [hlines] at hj hsorted
  rcases List.mem_append.mp hj with hj | hj
  · exact Nat.le_of_lt ((List.pairwise_append.mp hsorted).2.2 j hj i List.mem_cons_self)
  · rcases List.mem_cons.mp hj with rfl | hj
    · exact Nat.le_refl _
    · exact absurd hsame (hlater _ (List.mem_map_of_mem hj))

theorem source_withMethods (own : Definition) (methods : Table Text Definition) :
    (withMethods d own methods).source = own.source := by
  unfold withMethods
  split <;> rfl

/-- An entry that has methods has those that were put into it. -/
theorem eq_of_children_withMethods {i : Nat} {methods members : Table Text Definition}
    (h : (withMethods d (definitionAt d blocked ls i) methods).children = some members) :
    members = methods := by
  unfold withMethods at h
  split at h
  · exact (Option.some.inj h).symm
  · rename_i hclass
    have hnone : (definitionAt d blocked ls i).children = none :=
      (Definition.children_ofBlock d blocked _).trans (if_neg hclass)
    exact absurd (hnone.symm.trans h) (by simp)

theorem comesFrom_method (valid : d.Valid) {m i : Nat} (hm : m ≤ ls.length)
    {c : Text × Definition} (h : c ∈ methodsAt d blocked ls m i) :
    ∃ j, InBlock ls i j ∧ ComesFrom d blocked ls j .func c.1 c.2 := by
  obtain ⟨j, hj, hname, hdefinition⟩ := exists_of_mem_methodsAt h
  obtain ⟨hlt, hmethod⟩ := List.mem_filter.mp hj
  obtain ⟨hin, hkind, _⟩ := of_decide_eq_true hmethod
  obtain ⟨⟨kind, name⟩, hstart, rfl⟩ := Option.map_eq_some_iff.mp hkind
  have hsame : name = c.1 := by rw [← hname, nameAt, hstart, Option.map_some, Option.getD_some]
  rw [hsame] at hstart
  refine ⟨j, hin, ?_⟩
  rw [← hdefinition]
  exact comesFrom_definitionAt valid (Nat.lt_of_lt_of_le (List.mem_range.mp hlt) hm) hstart

/-- Every entry agrees with its header line, and so do its methods with theirs. -/
theorem exists_comesFrom_of_mem_build (valid : d.Valid) {source : Text} {e : Text × Definition}
    (he : e ∈ build d blocked source) :
    let ls := lines source
    ∃ i kind, IsLastNamed d ls e.1 i ∧ ComesFrom d blocked ls i kind e.1 e.2 ∧
      ∀ members, e.2.children = some members → ∀ c ∈ members,
        c.2.children = none ∧ ∃ j, InBlock ls i j ∧ ComesFrom d blocked ls j .func c.1 c.2 := by
  intro ls
  obtain ⟨i, kind, hlt, hheader, hlast, hentry⟩ := exists_of_mem_build valid he
  have hmethods : ∀ c ∈ methodsAt d blocked ls ls.length i,
      ∃ j, InBlock ls i j ∧ ComesFrom d blocked ls j .func c.1 c.2 :=
    fun c hc => comesFrom_method valid (Nat.le_refl _) hc
  have hown : ComesFrom d blocked ls i kind e.1 (definitionAt d blocked ls i) :=
    comesFrom_definitionAt valid hlt hheader
  refine ⟨i, kind, hlast, ?_, ?_⟩
  · rw [hentry]
    refine hown.withMethods fun c hc => ?_
    obtain ⟨_, _, hchild⟩ := hmethods c hc
    exact hchild.allowed
  · intro members hmembers c hc
    have hsame : members = methodsAt d blocked ls ls.length i :=
      eq_of_children_withMethods (hentry ▸ hmembers)
    obtain ⟨j, hin, hchild⟩ := hmethods c (hsame ▸ hc)
    exact ⟨hchild.children_eq_none, j, hin, hchild⟩

/-- Every look-up on the way to the index succeeds, and every definition in the index agrees with
its header line. -/
theorem build_wellFormed (d : Dialect) (valid : d.Valid) (blocked : List Text) (source : Text) :
    let ls := lines source
    Ledger.build? d blocked source = some (build d blocked source) ∧
      ∀ e ∈ build d blocked source, ∃ i kind,
        IsLastNamed d ls e.1 i ∧ ComesFrom d blocked ls i kind e.1 e.2 ∧
          ∀ members, e.2.children = some members → ∀ c ∈ members,
            c.2.children = none ∧ ∃ j, InBlock ls i j ∧ ComesFrom d blocked ls j .func c.1 c.2 :=
  ⟨Ledger.build?_eq_some valid blocked source, fun _ he => exists_comesFrom_of_mem_build valid he⟩

/-- A class that was defined before, takes the parameters of its constructor and has a method that
cannot be read; `self` is blocked. -/
theorem build_wellFormed_redefined :
    let source : Text := "class A(a):\n  def f(b):\ndef g(\n  x)\nclass A:\n" ++
      "  def __init__(self, c):\n  def h(self"
    Dialect.Valid {} ∧
      Ledger.build? {} ["self"] source = some (build {} ["self"] source) ∧
      (∀ e ∈ build {} ["self"] source, ∃ i kind, IsLastNamed {} (lines source) e.1 i ∧
        ComesFrom {} ["self"] (lines source) i kind e.1 e.2 ∧
          ∀ members, e.2.children = some members → ∀ c ∈ members, c.2.children = none ∧
            ∃ j, InBlock (lines source) i j ∧
              ComesFrom {} ["self"] (lines source) j .func c.1 c.2) ∧
      Table.keys (build {} ["self"] source) = ["A", "g"] ∧
      (build {} ["self"] source).map (·.2.parameters) = [some [{ name := "c" }], none] ∧
      IsLastNamed {} (lines source) "A" 4 := by
  intro source
  obtain ⟨hlookups, hentries⟩ := build_wellFormed {} Dialect.valid_default ["self"] source
  exact ⟨Dialect.valid_default, hlookups, hentries, by decide +kernel, by decide +kernel,
    by decide +kernel⟩

end Signpost.Index
