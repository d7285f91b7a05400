import Signpost.Proofs.Table
import Signpost.Value
set_option autoImplicit false

/-!
# Values and their keys

Values can be told apart (`Value.same_iff`).  A value has distinct keys (`Value.HasDistinctKeys`)
when no map in it, however deep, has two keys for the same entry.  Tables keep it that way: a key that
matches an old one gives it a new value, and any other key is added at the end.
-/

namespace Signpost

namespace Table

variable {α β : Type} [BEq α]

/-- No two keys stand for the same entry. -/
def HasDistinctKeys (t : Table α β) : Prop := (keys t).Pairwise fun a b => (a == b) = false

theorem hasDistinctKeys_nil : HasDistinctKeys ([] : Table α β) := List.Pairwise.nil

theorem hasDistinctKeys_cons {a : α} {b : β} {t : Table α β} :
    HasDistinctKeys ((a, b) :: t) ↔ (∀ k ∈ keys t, (a == k) = false) ∧ HasDistinctKeys t :=
  List.pairwise_cons

/-! Keys need not be equal to stand for the same entry, so a key is new if it matches none. -/

section

variable {t : Table α β} {k : α}

theorem get?_of_new (h : ∀ a ∈ keys t, (a == k) = false) : get? t k = none := by
  induction t with
  | nil => rfl
  | cons e t ih =>
    obtain ⟨ha, ht⟩ := List.forall_mem_cons.mp h
    rw [get?, ha, if_neg Bool.false_ne_true, ih ht]

theorem insert_of_new (h : ∀ a ∈ keys t, (a == k) = false) (v : β) :
    insert t k v = t ++ [(k, v)] := by
  induction t with
  | nil => rfl
  | cons e t ih =>
    obtain ⟨ha, ht⟩ := List.forall_mem_cons.mp h
    rw [insert, ha, if_neg Bool.false_ne_true, ih ht, List.cons_append]

theorem keys_insert_of_old (h : ∃ a ∈ keys t, (a == k) = true) (v : β) :
    keys (insert t k v) = keys t := by
  induction t with
  | nil => simp [keys] at h
  | cons e t ih =>
    obtain ⟨a, b⟩ := e
    rw [insert]
    split
    · rfl
    · rename_i ha
      have hrest : ∃ a ∈ keys t, (a == k) = true := by
        obtain ⟨n, hn, hk⟩ := h
        rcases List.mem_cons.mp hn with rfl | hn
        · exact absurd hk ha
        · exact ⟨n, hn, hk⟩
      exact congrArg (a :: ·) (ih hrest)

theorem contains_iff : contains t k = true ↔ ∃ a ∈ keys t, (a == k) = true := by
  induction t with
  | nil => simp [contains, get?, keys]
  | cons e t ih =>
    obtain ⟨a, b⟩ := e
    have hkeys : keys ((a, b) :: t) = a :: keys t := rfl
    rw [contains] at ih
    rw [contains, get?, hkeys, List.exists_mem_cons_iff, ← ih]
    cases a == k <;> simp

theorem HasDistinctKeys.insert (h : t.HasDistinctKeys) (k : α) (v : β) :
    (insert t k v).HasDistinctKeys := by
  by_cases hold : ∃ a ∈ keys t, (a == k) = true
  · rw [HasDistinctKeys, keys_insert_of_old hold]
    exact h
  · have hnew : ∀ a ∈ keys t, (a == k) = false := by simpa using hold
    rw [insert_of_new hnew, HasDistinctKeys, keys, List.map_append, List.pairwise_append]
    exact ⟨h, List.pairwise_singleton _ _, fun a ha b hb => List.mem_singleton.mp hb ▸ hnew a ha⟩

theorem exists_mem_of_get? {v : β} (h : get? t k = some v) : ∃ a, (a, v) ∈ t := by
  induction t with
  | nil => simp [get?] at h
  | cons e t ih =>
    obtain ⟨a, b⟩ := e
    rw [get?] at h
    split at h
    · obtain rfl := Option.some.inj h
      exact ⟨a, List.mem_cons_self⟩
    · obtain ⟨a', ha'⟩ := ih h
      exact ⟨a', List.mem_cons_of_mem _ ha'⟩

/-- No other value comes in than the new one. -/
theorem of_mem_insert_value {v : β} {e : α × β} (h : e ∈ Table.insert t k v) :
    e.2 = v ∨ e ∈ t := by
  induction t with
  | nil => exact .inl (by rw [List.mem_singleton.mp h])
  | cons e' t ih =>
    obtain ⟨a, b⟩ := e'
    rw [Table.insert] at h
    split at h
    · rcases List.mem_cons.mp h with rfl | h
      · exact .inl rfl
      · exact .inr (List.mem_cons_of_mem _ h)
    · rcases List.mem_cons.mp h with rfl | h
      · exact .inr List.mem_cons_self
      · exact (ih h).imp id (List.mem_cons_of_mem _)

end

theorem HasDistinctKeys.update {t : Table α β} (h : t.HasDistinctKeys) (u : Table α β) :
    (update t u).HasDistinctKeys := by
  induction u generalizing t with
  | nil => exact h
  | cons e u ih => exact ih (h.insert e.1 e.2)

theorem hasDistinctKeys_ofPairs (pairs : List (α × β)) : (ofPairs pairs).HasDistinctKeys :=
  hasDistinctKeys_nil.update pairs

theorem exists_mem_of_mem_update {t u : Table α β} {e : α × β} (h : e ∈ update t u) :
    e ∈ t ∨ ∃ a, (a, e.2) ∈ u := by
  induction u generalizing t with
  | nil => exact .inl h
  | cons e' u ih =>
    rw [update_cons] at h
    rcases ih h with h | ⟨a, ha⟩
    · rcases of_mem_insert_value h with heq | h
      · exact .inr ⟨e'.1, heq ▸ List.mem_cons_self⟩
      · exact .inl h
    · exact .inr ⟨a, List.mem_cons_of_mem _ ha⟩

theorem exists_mem_of_mem_ofPairs {pairs : List (α × β)} {e : α × β} (h : e ∈ ofPairs pairs) :
    ∃ a, (a, e.2) ∈ pairs :=
  (exists_mem_of_mem_update h).resolve_left List.not_mem_nil

end Table

namespace Key

/-- What a key counts as: a truth value counts as its number. -/
def counted : Key → Key
  | .bool b => .int (if b then 1 else 0)
  | k => k

theorem beq_iff {k l : Key} : (k == l) = true ↔ k.counted = l.counted := by
  have hsame : (k == l) = k.same l := rfl
  rw [hsame]
  cases k <;> cases l <;> simp [same, number?, counted]

instance : EquivBEq Key where
  rfl := beq_iff.mpr rfl
  symm h := beq_iff.mpr (beq_iff.mp h).symm
  trans h h' := beq_iff.mpr ((beq_iff.mp h).trans (beq_iff.mp h'))

/-! A text stands for no other entry than its own. -/

theorem beq_str_iff {k : Key} {t : Text} : (k == .str t) = true ↔ k = .str t := by
  have hsame : (k == .str t) = k.same (.str t) := rfl
  rw [hsame]
  cases k <;> simp [same, number?]

end Key

deriving instance DecidableEq for Key

namespace Value

/-! ## Equality -/

mutual

/-- Whether two values are equal. -/
def same : Value → Value → Bool
  | .null, .null => true
  | .bool b, .bool c => b == c
  | .int i, .int j => i == j
  | .str t, .str u => t == u
  | .list vs, .list ws => sameItems vs ws
  | .map es, .map fs => sameEntries es fs
  | _, _ => false

/-- Whether two lists have equal items. -/
def sameItems : List Value → List Value → Bool
  | [], [] => true
  | v :: vs, w :: ws => same v w && sameItems vs ws
  | _, _ => false

/-- Whether two maps have equal entries in the same order. -/
def sameEntries : List (Key × Value) → List (Key × Value) → Bool
  | [], [] => true
  | (k, v) :: es, (l, w) :: fs => decide (k = l) && same v w && sameEntries es fs
  | _, _ => false

end

mutual

theorem same_iff : ∀ {v w : Value}, same v w = true ↔ v = w
  | .null, w | .bool _, w | .int _, w | .str _, w => by cases w <;> simp [same]
  | .list vs, w => by cases w <;> simp [same, sameItems_iff]
  | .map es, w => by cases w <;> simp [same, sameEntries_iff]

theorem sameItems_iff : ∀ {vs ws : List Value}, sameItems vs ws = true ↔ vs = ws
  | [], ws => by cases ws <;> simp [sameItems]
  | v :: vs, ws => by cases ws <;> simp [sameItems, same_iff, sameItems_iff]

theorem sameEntries_iff : ∀ {es fs : List (Key × Value)}, sameEntries es fs = true ↔ es = fs
  | [], fs => by cases fs <;> simp [sameEntries]
  | (k, v) :: es, fs => by
    rcases fs with _ | ⟨⟨l, w⟩, fs⟩ <;> simp [sameEntries, same_iff, sameEntries_iff, and_assoc]

end

instance : DecidableEq Value := fun _ _ => decidable_of_iff _ same_iff

/-! ## Distinct keys -/

/-- No map in a value has two keys for the same entry. -/
inductive HasDistinctKeys : Value → Prop
  | null : HasDistinctKeys .null
  | bool (b : Bool) : HasDistinctKeys (.bool b)
  | int (i : Int) : HasDistinctKeys (.int i)
  | str (t : Text) : HasDistinctKeys (.str t)
  | list {items : List Value} (h : ∀ v ∈ items, HasDistinctKeys v) : HasDistinctKeys (.list items)
  | map {entries : List (Key × Value)} (keys : Table.HasDistinctKeys entries)
      (h : ∀ e ∈ entries, HasDistinctKeys e.2) : HasDistinctKeys (.map entries)

theorem hasDistinctKeys_map_iff {entries : Entries} :
    HasDistinctKeys (.map entries) ↔
      entries.HasDistinctKeys ∧ ∀ e ∈ entries, HasDistinctKeys e.2 := by
  constructor
  · rintro (_ | _ | _ | _ | _ | ⟨keys, h⟩)
    exact ⟨keys, h⟩
  · rintro ⟨keys, h⟩
    exact .map keys h

theorem hasDistinctKeys_map_nil : HasDistinctKeys (.map []) :=
  .map Table.hasDistinctKeys_nil fun _ he => absurd he List.not_mem_nil

theorem HasDistinctKeys.insert {entries : Entries} (h : HasDistinctKeys (.map entries)) (k : Key)
    {v : Value} (hv : HasDistinctKeys v) : HasDistinctKeys (.map (Table.insert entries k v)) := by
  obtain ⟨hkeys, hvalues⟩ := hasDistinctKeys_map_iff.mp h
  refine .map (hkeys.insert k v) fun e he => ?_
  rcases Table.of_mem_insert_value he with heq | he
  · rwa [heq]
  · exact hvalues e he

/-! ## Looking up -/

theorem lookup_cons (k : Key) (v : Value) (entries : Entries) (name : Text) :
    lookup ((k, v) :: entries) name = if k == .str name then some v else lookup entries name := rfl

/-! ## Maps and other values -/

/-- The value is a map. -/
def IsMap : Value → Prop
  | .map _ => True
  | _ => False

instance : DecidablePred IsMap
  | .map _ => .isTrue trivial
  | .null | .bool _ | .int _ | .str _ | .list _ => .isFalse id

theorem isMap_iff {v : Value} : v.IsMap ↔ ∃ entries, v = .map entries := by
  cases v <;> simp [IsMap]

/-- The entries of a map; of anything else, and of nothing, there are none. -/
def entriesOf : Option Value → Entries
  | some (.map entries) => entries
  | _ => []

@[simp] theorem entriesOf_none : entriesOf none = [] := rfl

@[simp] theorem entriesOf_map (entries : Entries) : entriesOf (some (.map entries)) = entries := rfl

theorem entriesOf_of_not_isMap {v : Value} (h : ¬ v.IsMap) : entriesOf (some v) = [] := by
  cases v with
  | map entries => exact absurd trivial h
  | _ => rfl

theorem HasDistinctKeys.entriesOf {v : Option Value} (h : ∀ w ∈ v, HasDistinctKeys w) :
    HasDistinctKeys (.map (entriesOf v)) := by
  match v with
  | some (.map entries) => exact h _ rfl
  | none | some .null | some (.bool _) | some (.int _) | some (.str _) | some (.list _) =>
    exact hasDistinctKeys_map_nil

end Value

end Signpost
