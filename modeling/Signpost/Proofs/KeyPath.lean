import Signpost.Proofs.Merge
set_option autoImplicit false

/-!
# Key paths

A path of keys leads into a value, map by map (`Value.at?`).  What a merge has at a path comes from
one side alone, unless both have maps there: the side above counts if it has something there, and
the side below shows through where the path meets nothing above it but maps (`Value.ShowsThrough`).
Where both sides have maps the merge has the two merged (`Value.bind_at?_overlay_maps`), and there
the keys of the side below come first and then the new ones (`Value.keys_merge`).
-/

namespace Signpost

namespace Value

/-- What is found when keys are followed from a value, one after the other. -/
def at? : Value → List Key → Option Value
  | v, [] => some v
  | .map entries, k :: path => (Table.get? entries k).bind fun v => v.at? path
  | _, _ :: _ => none

/-- A value says nothing about a path: there is nothing at its end, and what is met on the way there
is maps. -/
def ShowsThrough (v : Value) (path : List Key) : Prop :=
  v.at? path = none ∧ ∀ front, front <+: path → front ≠ path → ∀ w ∈ v.at? front, w.IsMap

/-! ## Following keys -/

@[simp] theorem at?_nil (v : Value) : v.at? [] = some v := by
  unfold at?
  rfl

theorem at?_map_cons (entries : Entries) (k : Key) (path : List Key) :
    (Value.map entries).at? (k :: path) = (Table.get? entries k).bind fun v => v.at? path := rfl

theorem at?_cons_of_not_isMap {v : Value} (h : ¬ v.IsMap) (k : Key) (path : List Key) :
    v.at? (k :: path) = none := by
  cases v with
  | map entries => exact absurd trivial h
  | _ => rfl

/-- Only the entries of a map lead further. -/
theorem bind_at?_cons (v : Option Value) (k : Key) (path : List Key) :
    (v.bind fun w => w.at? (k :: path)) =
      (Table.get? (entriesOf v) k).bind fun w => w.at? path := by
  match v with
  | none => rfl
  | some (.map entries) => rfl
  | some .null | some (.bool _) | some (.int _) | some (.str _) | some (.list _) => rfl

theorem not_showsThrough_nil (v : Value) : ¬ v.ShowsThrough [] := by
  rintro ⟨hnone, _⟩
  simp at hnone

/-- Nothing shows through a value that is no map. -/
theorem ShowsThrough.isMap {v : Value} {path : List Key} (h : v.ShowsThrough path) : v.IsMap := by
  have hne : [] ≠ path := by
    rintro rfl
    exact not_showsThrough_nil v h
  exact h.2 [] List.nil_prefix hne v (at?_nil v)

/-- A path shows through a map if what follows the first key shows through the entry under it, where
there is one. -/
theorem showsThrough_map_cons {entries : Entries} {k : Key} {path : List Key} :
    (Value.map entries).ShowsThrough (k :: path) ↔
      ∀ w ∈ Table.get? entries k, w.ShowsThrough path := by
  unfold ShowsThrough
  rw [at?_map_cons]
  cases hget : Table.get? entries k with
  | none =>
    refine iff_of_true ⟨rfl, fun front hfront _ w hw => ?_⟩ fun w hw => nomatch hw
    rcases List.prefix_cons_iff.mp hfront with rfl | ⟨rest, rfl, _⟩
    · obtain rfl := Option.some.inj hw
      trivial
    · rw [at?_map_cons, hget] at hw
      exact nomatch hw
  | some v =>
    have hthrough : ∀ front, (Value.map entries).at? (k :: front) = v.at? front := by
      intro front
      rw [at?_map_cons, hget, Option.bind_some]
    constructor
    · rintro ⟨hnone, hmaps⟩ w hw
      obtain rfl := Option.some.inj hw
      refine ⟨hnone, fun front hfront hne w hw => ?_⟩
      exact hmaps (k :: front) (List.cons_prefix_cons.mpr ⟨rfl, hfront⟩) (by simpa using hne) w
        (hthrough front ▸ hw)
    · intro h
      obtain ⟨hnone, hmaps⟩ := h v rfl
      refine ⟨hnone, fun front hfront hne w hw => ?_⟩
      rcases List.prefix_cons_iff.mp hfront with rfl | ⟨rest, rfl, hrest⟩
      · obtain rfl := Option.some.inj hw
        trivial
      · exact hmaps rest hrest (by simpa using hne) w (hthrough rest ▸ hw)

/-! ## What a merge has at a path -/

theorem hasDistinctKeys_of_get? {entries : Entries} (h : HasDistinctKeys (.map entries)) (k : Key) :
    ∀ v ∈ Table.get? entries k, HasDistinctKeys v := by
  intro v hv
  obtain ⟨a, ha⟩ := Table.exists_mem_of_get? hv
  exact (hasDistinctKeys_map_iff.mp h).2 _ ha

/-- Something else than a map is found at a path if the side above has it there, or the side below
has it there and shows through. -/
theorem bind_at?_overlay {v : Value} (hv : ¬ v.IsMap) (path : List Key) (below : Option Value)
    {above : Option Value} (h : ∀ w ∈ above, HasDistinctKeys w) :
    ((overlay below above).bind fun w => w.at? path) = some v ↔
      (above.bind fun w => w.at? path) = some v ∨
        (∀ w ∈ above, w.ShowsThrough path) ∧ (below.bind fun w => w.at? path) = some v := by
  induction path generalizing below above with
  | nil =>
    cases above with
    | none => simp [overlay]
    | some w =>
      by_cases hw : w.IsMap
      · have hmerged : mergedOver below w ≠ v := fun heq => hv (heq ▸ isMap_mergedOver.mpr hw)
        have hne : w ≠ v := fun heq => hv (heq ▸ hw)
        simp [overlay, hmerged, hne, not_showsThrough_nil]
      · simp [overlay, mergedOver_of_not_isMap hw, not_showsThrough_nil]
  | cons k path ih =>
    rw [bind_at?_cons, bind_at?_cons, bind_at?_cons]
    cases above with
    | none => simp [overlay, Table.get?]
    | some w =>
      by_cases hw : w.IsMap
      · obtain ⟨entries, rfl⟩ := isMap_iff.mp hw
        have hentries := h _ rfl
        have hkeys := (hasDistinctKeys_map_iff.mp hentries).1
        rw [entriesOf_overlay (by simpa using hkeys) (by simpa using hw), entriesOf_map,
          get?_merge hkeys, ih _ (hasDistinctKeys_of_get? hentries k)]
        simp [showsThrough_map_cons]
      · have hhidden : ¬ w.ShowsThrough (k :: path) := fun hthrough => hw hthrough.isMap
        rw [entriesOf_overlay_of_not_isMap hw, entriesOf_of_not_isMap hw]
        simp [Table.get?, hhidden]

/-- Where both sides have maps, the merge has the two merged. -/
theorem bind_at?_overlay_maps {path : List Key} (below : Option Value) {above : Option Value}
    {lower upper : Entries} (h : ∀ w ∈ above, HasDistinctKeys w)
    (hlower : (below.bind fun w => w.at? path) = some (.map lower))
    (hupper : (above.bind fun w => w.at? path) = some (.map upper)) :
    ((overlay below above).bind fun w => w.at? path) = some (.map (merge lower upper)) := by
  induction path generalizing below above with
  | nil =>
    obtain ⟨w, rfl, hw⟩ := Option.bind_eq_some_iff.mp hupper
    obtain ⟨u, rfl, hu⟩ := Option.bind_eq_some_iff.mp hlower
    rw [at?_nil] at hw hu
    obtain rfl := Option.some.inj hw
    obtain rfl := Option.some.inj hu
    simp [overlay, mergedOver]
  | cons k path ih =>
    rw [bind_at?_cons] at hlower hupper ⊢
    cases above with
    | none => simp [Table.get?] at hupper
    | some w =>
      by_cases hw : w.IsMap
      · obtain ⟨entries, rfl⟩ := isMap_iff.mp hw
        have hentries := h _ rfl
        have hkeys := (hasDistinctKeys_map_iff.mp hentries).1
        rw [entriesOf_map] at hupper
        rw [entriesOf_overlay (by simpa using hkeys) (by simpa using hw), entriesOf_map,
          get?_merge hkeys]
        exact ih _ (hasDistinctKeys_of_get? hentries k) hlower hupper
      · simp [entriesOf_of_not_isMap hw, Table.get?] at hupper

/-! ## The keys of a merge -/

/-- The keys of the side below stay in their places, and the new ones come after them in theirs. -/
theorem keys_merge {above : Entries} (h : above.HasDistinctKeys) (base : Entries) :
    Table.keys (merge base above) =
      Table.keys base ++ (Table.keys above).filter fun k => !Table.contains base k := by
  induction above generalizing base with
  | nil => simp [Table.keys]
  | cons e rest ih =>
    obtain ⟨k, v⟩ := e
    obtain ⟨hk, hrest⟩ := Table.hasDistinctKeys_cons.mp h
    have hkeys : Table.keys ((k, v) :: rest) = k :: Table.keys rest := rfl
    have hcontains : ∀ n ∈ Table.keys rest,
        (!Table.contains (Table.insert base k (mergedOver (Table.get? base k) v)) n) =
          !Table.contains base n := by
      intro n hn
      rw [Table.contains, Table.get?_insert, hk n hn, if_neg Bool.false_ne_true, Table.contains]
    rw [merge_cons, ih hrest, List.filter_congr hcontains, hkeys]
    cases hold : Table.contains base k with
    | true =>
      rw [Table.keys_insert_of_old (Table.contains_iff.mp hold),
        List.filter_cons_of_neg (by simp [hold])]
    | false =>
      have hnew : ∀ a ∈ Table.keys base, (a == k) = false := by
        simpa using Table.contains_iff.not.mp (by simp [hold])
      rw [Table.insert_of_new hnew, List.filter_cons_of_pos (by simp [hold]), Table.keys,
        List.map_append, List.append_assoc]
      rfl

/-! ## Two maps -/

theorem HasDistinctKeys.of_at? {v w : Value} {path : List Key} (h : HasDistinctKeys v)
    (hw : v.at? path = some w) : HasDistinctKeys w := by
  induction path generalizing v with
  | nil =>
    rw [at?_nil] at hw
    exact Option.some.inj hw ▸ h
  | cons k path ih =>
    by_cases hmap : v.IsMap
    · obtain ⟨entries, rfl⟩ := isMap_iff.mp hmap
      rw [at?_map_cons] at hw
      obtain ⟨u, hu, hw⟩ := Option.bind_eq_some_iff.mp hw
      exact ih (hasDistinctKeys_of_get? h k u hu) hw
    · rw [at?_cons_of_not_isMap hmap] at hw
      exact nomatch hw

/-- One map put over another, path by path.  Something else than a map is found at a path exactly if
the map above has it there, or if it says nothing about the path and the map below has it there.
Where both have maps, the keys of the lower one come first, in their order, and then the new keys of
the upper one in theirs. -/
theorem at?_merge {base above : Entries} (h : HasDistinctKeys (.map above)) (path : List Key) :
    (∀ v : Value, ¬ v.IsMap →
      ((Value.map (merge base above)).at? path = some v ↔
        (Value.map above).at? path = some v ∨
          (Value.map above).ShowsThrough path ∧ (Value.map base).at? path = some v)) ∧
    ∀ lower upper, (Value.map base).at? path = some (.map lower) →
      (Value.map above).at? path = some (.map upper) →
        ∃ merged, (Value.map (merge base above)).at? path = some (.map merged) ∧
          Table.keys merged =
            Table.keys lower ++ (Table.keys upper).filter fun k => !Table.contains lower k := by
  have habove : ∀ w ∈ some (Value.map above), HasDistinctKeys w := by
    rintro w ⟨⟩
    exact h
  have hmerge :
      overlay (some (.map base)) (some (.map above)) = some (.map (merge base above)) := by
    rw [overlay, mergedOver]
  constructor
  · intro v hv
    have hoverlay := bind_at?_overlay hv path (some (.map base)) habove
    rw [hmerge] at hoverlay
    simpa using hoverlay
  · intro lower upper hlower hupper
    have hmaps := bind_at?_overlay_maps (some (.map base)) habove hlower hupper
    rw [hmerge] at hmaps
    have hkeys := (hasDistinctKeys_map_iff.mp (h.of_at? hupper)).1
    exact ⟨_, hmaps, keys_merge hkeys lower⟩

/-- A number hides a map, a map hides a number, and two maps are merged. -/
theorem at?_merge_mixed :
    let base : Entries :=
      [(.str "a", .map [(.str "x", .int 1), (.str "y", .map [(.str "z", .int 2)])]),
       (.str "b", .int 3)]
    let above : Entries :=
      [(.str "b", .map [(.str "c", .int 4)]),
       (.str "a", .map [(.str "w", .int 5), (.str "y", .int 6)])]
    HasDistinctKeys (.map above) ∧
      (Value.map (merge base above)).at? [.str "a", .str "x"] = some (.int 1) ∧
      (Value.map (merge base above)).at? [.str "a", .str "y"] = some (.int 6) ∧
      (Value.map (merge base above)).at? [.str "a", .str "y", .str "z"] ≠ some (.int 2) ∧
      (Value.map (merge base above)).at? [.str "b"] ≠ some (.int 3) ∧
      ∃ merged, (Value.map (merge base above)).at? [.str "a"] = some (.map merged) ∧
        Table.keys merged = [.str "x", .str "y", .str "w"] := by
  intro base above
  have hnumbers : ∀ {entries : Entries}, (∀ e ∈ entries, ∃ i, e.2 = .int i) →
      (Table.keys entries).Pairwise (fun k l => (k == l) = false) →
        HasDistinctKeys (.map entries) := by
    refine fun hints hkeys => .map hkeys fun e he => ?_
    obtain ⟨i, hi⟩ := hints e he
    exact hi ▸ .int i
  have hinner : ∀ e ∈ above, HasDistinctKeys e.2 :=
    List.forall_mem_cons.mpr ⟨hnumbers (by simp) (by decide),
      List.forall_mem_singleton.mpr (hnumbers (by simp) (by decide))⟩
  have habove : HasDistinctKeys (.map above) :=
    .map (by unfold Table.HasDistinctKeys; decide) hinner
  have hpath := @at?_merge base above habove
  have hthrough : (Value.map above).ShowsThrough [.str "a", .str "x"] := by
    refine showsThrough_map_cons.mpr fun w hw => ?_
    obtain rfl := Option.some.inj hw
    exact showsThrough_map_cons.mpr fun w hw => nomatch hw
  have hhidden : ¬ (Value.map above).ShowsThrough [.str "a", .str "y", .str "z"] := fun h =>
    (h.2 [.str "a", .str "y"] (by decide) (by decide) (.int 6) rfl).elim
  have hmap : ¬ (Value.map above).ShowsThrough [.str "b"] := fun h => nomatch h.1
  obtain ⟨merged, hmerged, hkeys⟩ := (hpath [.str "a"]).2 _ _ rfl rfl
  refine ⟨habove, ((hpath _).1 _ id).mpr (.inr ⟨hthrough, rfl⟩), ((hpath _).1 _ id).mpr (.inl rfl),
    fun h => ?_, fun h => ?_, merged, hmerged, hkeys.trans (by decide)⟩
  · rcases ((hpath _).1 _ id).mp h with h | ⟨h, _⟩
    · exact nomatch h
    · exact hhidden h
  · rcases ((hpath _).1 _ id).mp h with h | ⟨h, _⟩
    · exact nomatch h
    · exact hmap h

end Value

end Signpost
