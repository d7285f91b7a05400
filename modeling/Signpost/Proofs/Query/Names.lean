import Signpost.Proofs.Settings.Recheck
import Signpost.Query.Names
set_option autoImplicit false

/-!
# The two directions of a name table

The aliases of a name are those that the mapping sends to it, in the order of the mapping
(`NameTable.aliasesOf_eq`).  That holds of every mapping.  Reading a name table forwards and backwards
comes to the same only because accepted settings have no alias of itself
(`NameTable.mem_aliasesOf_iff_canonical`): it would be its own canonical name, like every token that
is no alias, and be listed among its aliases all the same.
-/

namespace Signpost

/-- An accepted alias table has every alias once, and only pairs that it may have. -/
theorem Settings.isAlias_of_checkHints {v : Value} {h : Hints} (accepted : checkHints v = .valid h) :
    (Table.keys h.mapping).Nodup ∧ ∀ e ∈ h.mapping, IsAlias e := by
  obtain ⟨entries, _, hentries⟩ := ofSection_eq_valid_iff.mp accepted
  obtain ⟨hreads, _⟩ := (hintSchema_describes.valid_iff entries h).mp hentries
  obtain ⟨hmapping, _⟩ := List.forall_mem_cons.mp hreads
  rcases Check.field_eq_valid_iff.mp hmapping with ⟨_, hbase⟩ | ⟨w, _, hvalid⟩
  · have hnil : h.mapping = [] := hbase.symm
    rw [hnil]
    exact ⟨List.nodup_nil, by simp⟩
  · obtain ⟨pairs, _, haliases, hpairs⟩ := checkMapping_eq_valid_iff.mp hvalid
    have hmapping : h.mapping = Table.ofPairs pairs := hpairs.symm
    rw [hmapping]
    exact ⟨Table.nodup_keys_ofPairs pairs, fun e he => haliases e (Table.mem_of_mem_ofPairs he)⟩

namespace Query.NameTable

variable {names : NameTable} {t c : Text}

/-! ## Backwards -/

/-- An alias goes behind those that its canonical name has, and to no other name. -/
theorem getD_get?_addAlias (inverse : Table Text (List Text)) (e : Text × Text) (c : Text) :
    (Table.get? (addAlias inverse e.1 e.2) c).getD [] =
      (Table.get? inverse c).getD [] ++ ([e].filter fun e => e.2 == c).map Prod.fst := by
  rw [addAlias, Table.get?_insert]
  by_cases hc : e.2 = c
  · simp [hc]
  · simp [hc]

theorem getD_get?_foldl_addAlias (mapping : Table Text Text) (inverse : Table Text (List Text))
    (c : Text) :
    (Table.get? (mapping.foldl (fun t e => addAlias t e.1 e.2) inverse) c).getD [] =
      (Table.get? inverse c).getD [] ++ (mapping.filter fun e => e.2 == c).map Prod.fst := by
  induction mapping generalizing inverse with
  | nil => simp
  | cons e mapping ih =>
    rw [List.foldl_cons, ih, getD_get?_addAlias, List.append_assoc, ← List.map_append,
      ← List.filter_append, List.singleton_append]

theorem aliasesOf_eq (names : NameTable) (c : Text) :
    names.aliasesOf c = (names.mapping.filter fun e => e.2 == c).map Prod.fst := by
  unfold aliasesOf inverse
  rw [getD_get?_foldl_addAlias]
  rfl

theorem mem_aliasesOf_iff : t ∈ names.aliasesOf c ↔ (t, c) ∈ names.mapping := by
  simp [aliasesOf_eq]

theorem aliasesOf_sublist_keys (names : NameTable) (c : Text) :
    (names.aliasesOf c).Sublist (Table.keys names.mapping) := by
  rw [aliasesOf_eq]
  exact List.filter_sublist.map Prod.fst

/-! ## Forwards -/

/-- A token stands for another name only if the mapping says so. -/
theorem canonical_eq_iff (hdistinct : ∀ e ∈ names.mapping, e.1 ≠ e.2) :
    names.canonical t = c ∧ t ≠ c ↔ Table.get? names.mapping t = some c := by
  unfold canonical
  cases hget : Table.get? names.mapping t with
  | none => simp
  | some canonical =>
    have hne : t ≠ canonical := hdistinct _ (Table.mem_of_get?_eq_some hget)
    simp only [Option.getD_some, Option.some.injEq]
    constructor
    · exact fun h => h.1
    · rintro rfl
      exact ⟨rfl, hne⟩

theorem mem_aliasesOf_iff_canonical (hkeys : (Table.keys names.mapping).Nodup)
    (hdistinct : ∀ e ∈ names.mapping, e.1 ≠ e.2) :
    t ∈ names.aliasesOf c ↔ names.canonical t = c ∧ t ≠ c := by
  rw [mem_aliasesOf_iff, canonical_eq_iff hdistinct, Table.get?_eq_some_iff hkeys]

/-- With an accepted mapping, the aliases of a name are exactly the other tokens that stand for it,
each once and in the order of the mapping; and every alias is one of exactly one name. -/
theorem aliasesOf_inverts_canonical {v : Value} {h : Settings.Hints}
    (accepted : Settings.checkHints v = .valid h) {names : NameTable}
    (hnames : names.mapping = h.mapping) :
    (∀ t c, t ∈ names.aliasesOf c ↔ names.canonical t = c ∧ t ≠ c) ∧
      (∀ c, (names.aliasesOf c).Nodup ∧ (names.aliasesOf c).Sublist (Table.keys names.mapping)) ∧
      ∀ t ∈ Table.keys names.mapping, ∃! c, t ∈ names.aliasesOf c := by
  obtain ⟨hkeys, haliases⟩ := Settings.isAlias_of_checkHints accepted
  rw [← hnames] at hkeys haliases
  have hdistinct : ∀ e ∈ names.mapping, e.1 ≠ e.2 := fun e he => (haliases e he).2.2
  refine ⟨fun _ _ => mem_aliasesOf_iff_canonical hkeys hdistinct, fun c => ?_, fun t ht => ?_⟩
  · have hsublist := aliasesOf_sublist_keys names c
    exact ⟨hsublist.nodup hkeys, hsublist⟩
  · obtain ⟨c, hc⟩ := Table.exists_get?_of_mem_keys ht
    refine ⟨c, mem_aliasesOf_iff.mpr (Table.mem_of_get?_eq_some hc), fun c' hc' => ?_⟩
    have hother := (Table.get?_eq_some_iff hkeys).mpr (mem_aliasesOf_iff.mp hc')
    exact Option.some.inj (hother.symm.trans hc)

/-- Two names that stand for each other, and two more aliases, one of them of an alias: a token is
translated once and not further. -/
theorem aliasesOf_inverts_canonical_swap :
    let pairs : List (Text × Text) := [("a", "b"), ("c", "b"), ("b", "a"), ("d", "c")]
    let v : Value := .map [(.str "mapping", .map (pairs.map fun e => (.str e.1, .str e.2)))]
    let names : NameTable := { mapping := pairs }
    Settings.checkHints v = .valid { mapping := pairs } ∧
      names.aliasesOf "b" = (["a", "c"] : List Text) ∧ names.canonical "d" = "c" ∧
      (("a" : Text) ∈ names.aliasesOf "b" ↔ names.canonical "a" = "b" ∧ ("a" : Text) ≠ "b") ∧
      (names.aliasesOf "b").Nodup ∧ ∃! c, ("d" : Text) ∈ names.aliasesOf c := by
  intro pairs v names
  have accepted : Settings.checkHints v = .valid { mapping := pairs } := rfl
  have hnames : names.mapping = pairs := rfl
  obtain ⟨hinverse, hordered, hone⟩ := aliasesOf_inverts_canonical accepted hnames
  exact ⟨accepted, rfl, rfl, hinverse "a" "b", (hordered "b").1, hone "d" (by decide)⟩

end Query.NameTable

end Signpost
