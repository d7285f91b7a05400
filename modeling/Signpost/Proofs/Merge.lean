import Signpost.Proofs.Value
set_option autoImplicit false

/-!
# What is found after a merge

Values with distinct keys can be merged entry by entry: what is found under a key afterwards is what
one side says put over what the other says (`Value.get?_merge`), and a map that is put over nothing
stays as it is (`Value.nil_merge`).

What is put over something is either a map, and then the two are merged (`Value.entriesOf_overlay`),
or it counts alone (`Value.overlay_eq_or`).
-/

namespace Signpost

namespace Value

/-- What is found where two sides have something to say, the one above and the one below. -/
def overlay (below above : Option Value) : Option Value :=
  match above with
  | none => below
  | some v => some (mergedOver below v)

theorem mergedOver_none (v : Value) : mergedOver none v = v := by
  cases v <;> simp [mergedOver]

@[simp] theorem merge_nil (base : Entries) : merge base [] = base := by
  rw [merge]

theorem merge_cons (base : Entries) (k : Key) (v : Value) (rest : Entries) :
    merge base ((k, v) :: rest) =
      merge (Table.insert base k (mergedOver (Table.get? base k) v)) rest := by
  rw [merge]

theorem hasDistinctKeys_merge {base : Entries} (h : base.HasDistinctKeys) (above : Entries) :
    (merge base above).HasDistinctKeys := by
  induction above generalizing base with
  | nil => rwa [merge_nil]
  | cons e rest ih =>
    rw [merge_cons]
    exact ih (h.insert _ _)

theorem get?_merge {above : Entries} (h : above.HasDistinctKeys) (base : Entries) (k : Key) :
    Table.get? (merge base above) k = overlay (Table.get? base k) (Table.get? above k) := by
  induction above generalizing base with
  | nil => rw [merge_nil, Table.get?, overlay]
  | cons e rest ih =>
    obtain ⟨a, v⟩ := e
    obtain ⟨ha, hrest⟩ := Table.hasDistinctKeys_cons.mp h
    rw [merge_cons, ih hrest, Table.get?_insert, Table.get?]
    by_cases hk : (a == k) = true
    · have hnew : ∀ b ∈ Table.keys rest, (b == k) = false := by
        intro b hb
        rw [← BEq.congr_right hk, BEq.comm]
        exact ha b hb
      rw [if_pos hk, if_pos hk, Table.get?_of_new hnew, Table.get?_congr hk]
      rfl
    · rw [if_neg hk, if_neg hk]

theorem lookup_merge {above : Entries} (h : above.HasDistinctKeys) (base : Entries) (name : Text) :
    lookup (merge base above) name = overlay (lookup base name) (lookup above name) :=
  get?_merge h base (.str name)

/-- What is put over other keys comes after them. -/
theorem merge_eq_append {base above : Entries} (h : Table.HasDistinctKeys (base ++ above)) :
    merge base above = base ++ above := by
  induction above generalizing base with
  | nil => rw [merge_nil, List.append_nil]
  | cons e rest ih =>
    obtain ⟨k, v⟩ := e
    have hnew : ∀ a ∈ Table.keys base, (a == k) = false := by
      intro a ha
      rw [Table.HasDistinctKeys, Table.keys, List.map_append, List.pairwise_append] at h
      exact h.2.2 a ha k List.mem_cons_self
    rw [merge_cons, Table.get?_of_new hnew, mergedOver_none, Table.insert_of_new hnew]
    rw [List.append_cons] at h
    rw [ih h, List.append_assoc, List.singleton_append]

theorem nil_merge {above : Entries} (h : above.HasDistinctKeys) : merge [] above = above := by
  have happend : Table.HasDistinctKeys ([] ++ above) := h
  exact merge_eq_append happend

/-! ## Maps and other values -/

theorem mergedOver_map {above : Entries} (h : above.HasDistinctKeys) (below : Option Value) :
    mergedOver below (.map above) = .map (merge (entriesOf below) above) := by
  match below with
  | some (.map entries) => rw [mergedOver, entriesOf_map]
  | none => rw [mergedOver_none, entriesOf_none, nil_merge h]
  | some .null | some (.bool _) | some (.int _) | some (.str _) | some (.list _) =>
    simp [mergedOver, Value.entriesOf, nil_merge h]

theorem mergedOver_of_not_isMap {v : Value} (h : ¬ v.IsMap) (below : Option Value) :
    mergedOver below v = v := by
  cases v with
  | map entries => exact absurd trivial h
  | _ => simp [mergedOver]

mutual

/-- Merging adds no key twice, however deep. -/
theorem HasDistinctKeys.mergedOver {below : Option Value}
    (hbelow : ∀ v ∈ below, HasDistinctKeys v) :
    ∀ {v : Value}, HasDistinctKeys v → HasDistinctKeys (Value.mergedOver below v)
  | .map above, h => by
    rw [mergedOver_map (hasDistinctKeys_map_iff.mp h).1]
    exact HasDistinctKeys.merge (HasDistinctKeys.entriesOf hbelow) h
  | .null, h | .bool _, h | .int _, h | .str _, h | .list _, h => by
    simpa [Value.mergedOver] using h

theorem HasDistinctKeys.merge {base : Entries} (hbase : HasDistinctKeys (.map base)) :
    ∀ {above : List (Key × Value)}, HasDistinctKeys (.map above) →
      HasDistinctKeys (.map (Value.merge base above))
  | [], _ => by rwa [merge_nil]
  | (k, v) :: rest, h => by
    obtain ⟨hkeys, hvalues⟩ := hasDistinctKeys_map_iff.mp h
    obtain ⟨hv, hrest⟩ := List.forall_mem_cons.mp hvalues
    have hover : HasDistinctKeys (Value.mergedOver (Table.get? base k) v) := by
      refine HasDistinctKeys.mergedOver (fun w hw => ?_) hv
      obtain ⟨a, ha⟩ := Table.exists_mem_of_get? hw
      exact (hasDistinctKeys_map_iff.mp hbase).2 _ ha
    rw [merge_cons]
    exact HasDistinctKeys.merge (hbase.insert k hover)
      (.map (Table.hasDistinctKeys_cons.mp hkeys).2 hrest)

end

/-! ## Several sources -/

theorem overlay_eq_none_iff {below above : Option Value} :
    overlay below above = none ↔ above = none ∧ below = none := by
  cases above <;> simp [overlay]

theorem isMap_mergedOver {below : Option Value} {v : Value} :
    (mergedOver below v).IsMap ↔ v.IsMap := by
  by_cases h : v.IsMap
  · obtain ⟨above, rfl⟩ := isMap_iff.mp h
    match below with
    | some (.map entries) => simp [mergedOver, IsMap]
    | none | some .null | some (.bool _) | some (.int _) | some (.str _) | some (.list _) =>
      simp [mergedOver, IsMap]
  · rw [mergedOver_of_not_isMap h]

/-- A map comes out only where a map is above, if anything is. -/
theorem isMap_of_overlay {below above : Option Value} (h : ∀ v ∈ overlay below above, v.IsMap) :
    ∀ v ∈ above, v.IsMap := by
  rintro v rfl
  exact isMap_mergedOver.mp (h _ rfl)

/-- Where no map comes out, what is above counts, if there is anything. -/
theorem overlay_eq_or {below above : Option Value} (h : ∀ v ∈ overlay below above, ¬ v.IsMap) :
    overlay below above = above.or below := by
  cases above with
  | none => rfl
  | some v =>
    have hv : ¬ v.IsMap := isMap_mergedOver.not.mp (h _ rfl)
    rw [overlay, mergedOver_of_not_isMap hv, Option.some_or]

/-- Put together in two steps, no map comes out either: of four values the first one counts. -/
theorem overlay_overlay_eq_or {first second third fourth : Option Value}
    (h : ∀ v ∈ overlay (overlay fourth third) (overlay second first), ¬ v.IsMap) :
    overlay (overlay fourth third) (overlay second first) =
      (first.or second).or (third.or fourth) := by
  have houter := overlay_eq_or h
  rw [houter] at h ⊢
  cases habove : overlay second first with
  | none =>
    obtain ⟨hfirst, hsecond⟩ := overlay_eq_none_iff.mp habove
    rw [habove, Option.none_or] at h
    rw [hfirst, hsecond, overlay_eq_or h, Option.none_or, Option.none_or, Option.none_or]
  | some v =>
    rw [habove, Option.some_or] at h
    have hinner : overlay second first = first.or second := overlay_eq_or (habove ▸ h)
    rw [← hinner, habove, Option.some_or, Option.some_or]

/-- Maps that are put over each other are merged. -/
theorem entriesOf_overlay {below above : Option Value}
    (hkeys : (entriesOf above).HasDistinctKeys) (hmap : ∀ v ∈ above, v.IsMap) :
    entriesOf (overlay below above) = merge (entriesOf below) (entriesOf above) := by
  cases above with
  | none => exact (merge_nil _).symm
  | some v =>
    obtain ⟨entries, rfl⟩ := isMap_iff.mp (hmap v rfl)
    rw [entriesOf_map] at hkeys
    rw [overlay, mergedOver_map hkeys, entriesOf_map, entriesOf_map]

/-- Something else than a map hides the entries below it. -/
theorem entriesOf_overlay_of_not_isMap {below : Option Value} {v : Value} (h : ¬ v.IsMap) :
    entriesOf (overlay below (some v)) = [] := by
  rw [overlay, mergedOver_of_not_isMap h, entriesOf_of_not_isMap h]

end Value

end Signpost