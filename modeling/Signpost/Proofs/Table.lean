import Mathlib.Data.List.Induction
import Mathlib.Data.List.Nodup
import Signpost.Table
set_option autoImplicit false

/-!
# Tables by key

A table without repeated keys is known by two things: its keys in order, and what is found under
each of them (`ext`).  Every operation says what it does to both.

`update` puts one table into another: a key that both have stays where it was and takes the new
value (`keys_update`, `get?_update`).

`latest` describes a table without a history: the entries of a list, each key where it first
appears, with the value that it has last.  Putting one more entry in is `insert` (`latest_concat`).
-/

namespace Signpost.Table

variable {α β γ : Type}

theorem keys_map (f : β → γ) (t : Table α β) : keys (t.map fun e => (e.1, f e.2)) = keys t := by
  simp [keys]

variable [BEq α]

/-- The entries that a list gives last, each where its key first appears. -/
def latest (es : List (α × β)) : Table α β :=
  (es.map Prod.fst).eraseDups.filterMap fun k => es.reverse.find? (·.1 == k)

theorem update_cons (t : Table α β) (e : α × β) (u : Table α β) :
    update t (e :: u) = update (insert t e.1 e.2) u := rfl

/-! ## What is found under a key -/

/-- Keys that stand for the same entry need not be equal for this. -/
theorem get?_insert [EquivBEq α] (t : Table α β) (k n : α) (v : β) :
    get? (insert t k v) n = if k == n then some v else get? t n := by
  induction t with
  | nil => rfl
  | cons e t ih =>
    obtain ⟨a, b⟩ := e
    rw [insert]
    split
    · rename_i hk
      rw [get?, get?, BEq.congr_left hk]
      split <;> rfl
    · rename_i hk
      rw [get?, get?, ih]
      by_cases hn : (a == n) = true
      · have hkn : ¬ (k == n) = true := fun h => hk (BEq.trans hn (BEq.symm h))
        rw [if_pos hn, if_neg hkn, if_pos hn]
      · rw [if_neg hn, if_neg hn]

theorem get?_congr [EquivBEq α] {k n : α} (h : (k == n) = true) (t : Table α β) :
    get? t k = get? t n := by
  induction t with
  | nil => rfl
  | cons e t ih => rw [get?, get?, BEq.congr_right h, ih]

variable [LawfulBEq α]

theorem get?_eq_none_iff {t : Table α β} {k : α} : get? t k = none ↔ k ∉ keys t := by
  induction t with
  | nil => simp [get?, keys]
  | cons e t ih =>
    obtain ⟨a, b⟩ := e
    by_cases h : a = k
    · simp [get?, keys, h]
    · simpa [get?, keys, h, Ne.symm h] using ih

theorem get?_modify (f : β → β) (t : Table α β) (k n : α) :
    get? (modify f t k) n = if k == n then (get? t n).map f else get? t n := by
  induction t with
  | nil => simp [modify, get?]
  | cons e t ih =>
    obtain ⟨a, b⟩ := e
    by_cases hk : a = k
    · subst hk
      by_cases hn : a = n <;> simp [modify, get?, hn]
    · by_cases hn : a = n
      · subst hn
        simp [modify, get?, hk, Ne.symm hk]
      · simp [modify, get?, hk, hn, ih]

theorem get?_map (f : β → γ) (t : Table α β) (k : α) :
    get? (t.map fun e => (e.1, f e.2)) k = (get? t k).map f := by
  induction t with
  | nil => rfl
  | cons e t ih =>
    obtain ⟨a, b⟩ := e
    by_cases hk : a = k
    · simp [get?, hk]
    · simpa [get?, hk] using ih

theorem get?_erase {t : Table α β} (h : (keys t).Nodup) (k n : α) :
    get? (erase t k) n = if k == n then none else get? t n := by
  induction t with
  | nil => simp [erase, get?]
  | cons e t ih =>
    obtain ⟨a, b⟩ := e
    obtain ⟨ha, ht⟩ := List.nodup_cons.mp h
    by_cases hk : a = k
    · subst hk
      by_cases hn : a = n
      · subst hn
        simp [erase, get?_eq_none_iff.mpr ha]
      · simp [erase, get?, hn]
    · by_cases hn : a = n
      · subst hn
        simp [erase, get?, hk, Ne.symm hk]
      · simp [erase, get?, hk, hn, ih ht]

/-- Taking a key out is seen under no other key. -/
theorem get?_erase_of_ne {k n : α} (h : k ≠ n) (t : Table α β) :
    get? (erase t k) n = get? t n := by
  induction t with
  | nil => rfl
  | cons e t ih =>
    obtain ⟨a, b⟩ := e
    by_cases hk : a = k
    · subst hk
      simp [erase, get?, h]
    · simp [erase, get?, hk, ih]

/-! ## The keys -/

theorem mem_keys_iff {t : Table α β} {k : α} : k ∈ keys t ↔ (get? t k).isSome = true := by
  rw [Option.isSome_iff_ne_none, ne_eq, get?_eq_none_iff, Classical.not_not]

theorem nodup_keys_erase {t : Table α β} (h : (keys t).Nodup) (k : α) :
    (keys (erase t k)).Nodup := by
  induction t with
  | nil => exact h
  | cons e t ih =>
    obtain ⟨a, b⟩ := e
    obtain ⟨ha, ht⟩ := List.nodup_cons.mp h
    by_cases hk : a = k
    · simpa [erase, hk, keys] using ht
    · have hcons : keys (erase ((a, b) :: t) k) = a :: keys (erase t k) := by
        simp [erase, hk, keys]
      rw [hcons]
      refine List.nodup_cons.mpr ⟨?_, ih ht⟩
      rw [mem_keys_iff, get?_erase ht]
      have hnone := get?_eq_none_iff.mpr ha
      simp [hnone]

theorem keys_modify (f : β → β) (t : Table α β) (k : α) : keys (modify f t k) = keys t := by
  induction t with
  | nil => rfl
  | cons e t ih =>
    obtain ⟨a, b⟩ := e
    by_cases hk : a = k
    · simp [modify, keys, hk]
    · simpa [modify, keys, hk] using ih

theorem keys_insert_of_mem {t : Table α β} {k : α} (h : k ∈ keys t) (v : β) :
    keys (insert t k v) = keys t := by
  induction t with
  | nil => simp [keys] at h
  | cons e t ih =>
    obtain ⟨a, b⟩ := e
    by_cases hk : a = k
    · simp [insert, keys, hk]
    · have ht : k ∈ keys t := by simpa [keys, Ne.symm hk] using h
      simpa [insert, keys, hk] using ih ht

theorem insert_of_not_mem {t : Table α β} {k : α} (h : k ∉ keys t) (v : β) :
    insert t k v = t ++ [(k, v)] := by
  induction t with
  | nil => rfl
  | cons e t ih =>
    obtain ⟨a, b⟩ := e
    simp only [keys, List.map_cons, List.mem_cons, not_or] at h
    simp [insert, Ne.symm h.1, ih h.2]

theorem keys_insert_of_not_mem {t : Table α β} {k : α} (h : k ∉ keys t) (v : β) :
    keys (insert t k v) = keys t ++ [k] := by
  rw [insert_of_not_mem h]
  exact List.map_append

theorem keys_insert (t : Table α β) (k : α) (v : β) :
    keys (insert t k v) = if k ∈ keys t then keys t else keys t ++ [k] := by
  split
  · rename_i hk
    exact keys_insert_of_mem hk v
  · rename_i hk
    exact keys_insert_of_not_mem hk v

theorem mem_keys_insert {t : Table α β} {k n : α} {v : β} :
    n ∈ keys (insert t k v) ↔ n ∈ keys t ∨ n = k := by
  by_cases hk : k ∈ keys t
  · rw [keys_insert_of_mem hk]
    refine ⟨Or.inl, ?_⟩
    rintro (hn | rfl)
    · exact hn
    · exact hk
  · rw [keys_insert_of_not_mem hk, List.mem_append, List.mem_singleton]

theorem nodup_keys_insert {t : Table α β} (h : (keys t).Nodup) (k : α) (v : β) :
    (keys (insert t k v)).Nodup := by
  by_cases hk : k ∈ keys t
  · rwa [keys_insert_of_mem hk]
  · rw [keys_insert_of_not_mem hk, ← List.concat_eq_append]
    exact h.concat hk

theorem exists_get?_of_mem_keys {t : Table α β} {k : α} (h : k ∈ keys t) :
    ∃ v, get? t k = some v := by
  cases hv : get? t k with
  | none => exact absurd h (get?_eq_none_iff.mp hv)
  | some v => exact ⟨v, rfl⟩

/-! ## The entries -/

theorem mem_of_get?_eq_some {t : Table α β} {k : α} {v : β} (h : get? t k = some v) :
    (k, v) ∈ t := by
  induction t with
  | nil => simp [get?] at h
  | cons e t ih =>
    obtain ⟨a, b⟩ := e
    by_cases hk : a = k
    · have hv : b = v := by simpa [get?, hk] using h
      simp [hk, hv]
    · exact List.mem_cons_of_mem _ (ih (by simpa [get?, hk] using h))

/-- A table is the set of what is found under its keys. -/
theorem get?_eq_some_iff {t : Table α β} (h : (keys t).Nodup) {k : α} {v : β} :
    get? t k = some v ↔ (k, v) ∈ t := by
  refine ⟨mem_of_get?_eq_some, fun hmem => ?_⟩
  induction t with
  | nil => simp at hmem
  | cons e t ih =>
    obtain ⟨a, b⟩ := e
    obtain ⟨ha, ht⟩ := List.nodup_cons.mp h
    rcases List.mem_cons.mp hmem with heq | hmem
    · obtain ⟨rfl, rfl⟩ := Prod.mk.inj heq
      simp [get?]
    · have hne : a ≠ k := by
        rintro rfl
        exact ha (List.mem_map.mpr ⟨_, hmem, rfl⟩)
      rw [get?, if_neg (by simpa using hne)]
      exact ih ht hmem

theorem of_mem_insert {t : Table α β} {k : α} {v : β} {e : α × β} (h : e ∈ insert t k v) :
    e ∈ t ∨ e = (k, v) := by
  induction t with
  | nil => exact .inr (by simpa [insert] using h)
  | cons e' t ih =>
    obtain ⟨a, b⟩ := e'
    by_cases hk : a = k
    · rw [insert, if_pos (by simpa using hk), hk] at h
      rcases List.mem_cons.mp h with rfl | h
      · exact .inr rfl
      · exact .inl (List.mem_cons_of_mem _ h)
    · rw [insert, if_neg (by simpa using hk)] at h
      rcases List.mem_cons.mp h with rfl | h
      · exact .inl List.mem_cons_self
      · exact (ih h).imp (List.mem_cons_of_mem _) id

theorem of_mem_modify {f : β → β} {t : Table α β} {k : α} {e : α × β} (h : e ∈ modify f t k) :
    e ∈ t ∨ ∃ v, (e.1, v) ∈ t ∧ f v = e.2 := by
  induction t with
  | nil => simp [modify] at h
  | cons e' t ih =>
    obtain ⟨a, b⟩ := e'
    by_cases hk : a = k
    · rw [modify, if_pos (by simpa using hk)] at h
      rcases List.mem_cons.mp h with rfl | h
      · exact .inr ⟨b, by simp, rfl⟩
      · exact .inl (List.mem_cons_of_mem _ h)
    · rw [modify, if_neg (by simpa using hk)] at h
      rcases List.mem_cons.mp h with rfl | h
      · exact .inl List.mem_cons_self
      · rcases ih h with h | ⟨v, hv, hf⟩
        · exact .inl (List.mem_cons_of_mem _ h)
        · exact .inr ⟨v, List.mem_cons_of_mem _ hv, hf⟩

/-! ## Equal tables -/

/-- A table is its keys in order and what is found under each. -/
theorem ext {t u : Table α β} (hkeys : keys t = keys u) (hnodup : (keys t).Nodup)
    (hget : ∀ k, get? t k = get? u k) : t = u := by
  induction t generalizing u with
  | nil =>
    cases u with
    | nil => rfl
    | cons e u => simp [keys] at hkeys
  | cons e t ih =>
    obtain ⟨a, b⟩ := e
    cases u with
    | nil => simp [keys] at hkeys
    | cons e' u =>
      obtain ⟨a', b'⟩ := e'
      simp only [keys, List.map_cons, List.cons.injEq, List.nodup_cons] at hkeys hnodup
      obtain ⟨rfl, hkeys⟩ := hkeys
      have hb : b = b' := by simpa [get?] using hget a
      subst hb
      have htail : ∀ k, get? t k = get? u k := by
        intro k
        by_cases h : a = k
        · subst h
          have hu : a ∉ keys u := by rw [keys, ← hkeys]; exact hnodup.1
          rw [get?_eq_none_iff.mpr hnodup.1, get?_eq_none_iff.mpr hu]
        · simpa [get?, h] using hget k
      rw [ih hkeys hnodup.2 htail]

/-! ## The latest entries -/

theorem nodup_eraseDups (l : List α) : l.eraseDups.Nodup := by
  match l with
  | [] => simp
  | a :: l =>
    have hshorter := nodup_eraseDups (l.filter fun b => !b == a)
    rw [List.eraseDups_cons, List.nodup_cons, List.mem_eraseDups]
    exact ⟨by simp, hshorter⟩
termination_by l.length
decreasing_by exact Nat.lt_succ_of_le (List.length_filter_le _ _)

theorem find?_reverse_eq_none {es : List (α × β)} {k : α} (h : k ∉ es.map Prod.fst) :
    es.reverse.find? (·.1 == k) = none := by
  rw [List.find?_eq_none]
  intro e he
  have hne : e.1 ≠ k := fun heq =>
    h (heq ▸ List.mem_map_of_mem (List.mem_reverse.mp he))
  simp [hne]

theorem find?_reverse_of_mem {es : List (α × β)} {k : α} (h : k ∈ es.map Prod.fst) :
    ∃ v, es.reverse.find? (·.1 == k) = some (k, v) := by
  cases hf : es.reverse.find? (·.1 == k) with
  | none =>
    obtain ⟨e, he, rfl⟩ := List.mem_map.mp h
    simpa using List.find?_eq_none.mp hf e (List.mem_reverse.mpr he)
  | some e =>
    have hk : e.1 = k := by simpa using List.find?_some hf
    exact ⟨e.2, by rw [← hk]⟩

/-- What is done to every value is done to a value that is put in. -/
theorem map_insert (f : β → γ) (t : Table α β) (k : α) (v : β) :
    (insert t k v).map (fun e => (e.1, f e.2)) =
      insert (t.map fun e => (e.1, f e.2)) k (f v) := by
  induction t with
  | nil => rfl
  | cons e t ih =>
    obtain ⟨a, b⟩ := e
    by_cases hk : a = k
    · simp [insert, hk]
    · simp [insert, hk, ih]

theorem keys_latest (es : List (α × β)) : keys (latest es) = (es.map Prod.fst).eraseDups := by
  have hfound : ∀ k ∈ (es.map Prod.fst).eraseDups,
      (es.reverse.find? (·.1 == k)).map Prod.fst = some k := by
    intro k hk
    obtain ⟨v, hv⟩ := find?_reverse_of_mem (List.mem_eraseDups.mp hk)
    rw [hv]
    rfl
  unfold keys latest
  rw [List.map_filterMap, List.filterMap_congr hfound, List.filterMap_some]

theorem nodup_keys_latest (es : List (α × β)) : (keys (latest es)).Nodup := by
  rw [keys_latest]
  exact nodup_eraseDups _

/-- Looking up in a table that is made key by key. -/
theorem get?_filterMap {f : α → Option (α × β)} (hf : ∀ k e, f k = some e → e.1 = k) (k : α)
    (l : List α) : get? (l.filterMap f) k = if k ∈ l then (f k).map Prod.snd else none := by
  induction l with
  | nil => rfl
  | cons a l ih =>
    cases ha : f a with
    | none =>
      rw [List.filterMap_cons_none ha, ih]
      by_cases hk : a = k
      · subst hk
        simp [ha]
      · simp [Ne.symm hk]
    | some e =>
      have he : e.1 = a := hf a e ha
      rw [List.filterMap_cons_some ha]
      by_cases hk : a = k
      · subst hk
        simp [get?, he, ha]
      · simp [get?, he, hk, Ne.symm hk, ih]

/-- Under each key stands what the list gives for it last. -/
theorem get?_latest (es : List (α × β)) (k : α) :
    get? (latest es) k = (es.reverse.find? (·.1 == k)).map Prod.snd := by
  have hf : ∀ k e, es.reverse.find? (·.1 == k) = some e → e.1 = k := by
    intro k e h
    simpa using List.find?_some h
  unfold latest
  rw [get?_filterMap hf]
  by_cases hk : k ∈ es.map Prod.fst
  · rw [if_pos (List.mem_eraseDups.mpr hk)]
  · rw [if_neg (fun h => hk (List.mem_eraseDups.mp h)), find?_reverse_eq_none hk]
    rfl

/-- What stands in the table is the last entry of the list with its key. -/
theorem exists_of_mem_latest {es : List (α × β)} {e : α × β} (h : e ∈ latest es) :
    ∃ before after, es = before ++ e :: after ∧ ∀ e' ∈ after, e'.1 ≠ e.1 := by
  obtain ⟨k, _, hfind⟩ := List.mem_filterMap.mp h
  obtain ⟨hk, after, before, hreverse, hafter⟩ := List.find?_eq_some_iff_append.mp hfind
  refine ⟨before.reverse, after.reverse, ?_, ?_⟩
  · rw [← List.reverse_reverse es, hreverse]
    simp
  · intro e' he'
    have hne := hafter e' (List.mem_reverse.mp he')
    rw [eq_of_beq hk]
    simpa using hne

/-- One more entry is an insertion. -/
theorem latest_concat (es : List (α × β)) (k : α) (v : β) :
    latest (es ++ [(k, v)]) = insert (latest es) k v := by
  have hmem : k ∈ keys (latest es) ↔ k ∈ es.map Prod.fst := by
    rw [keys_latest, List.mem_eraseDups]
  refine ext ?_ (nodup_keys_latest _) ?_
  · rw [keys_latest, List.map_append, List.eraseDups_append]
    by_cases hk : k ∈ es.map Prod.fst
    · rw [keys_insert_of_mem (hmem.mpr hk), keys_latest]
      have hnone : ([(k, v)].map Prod.fst).removeAll (es.map Prod.fst) = [] := by
        simpa [List.removeAll] using hk
      rw [hnone]
      simp
    · rw [keys_insert_of_not_mem (fun h => hk (hmem.mp h)), keys_latest]
      have hone : ([(k, v)].map Prod.fst).removeAll (es.map Prod.fst) = [k] := by
        simpa [List.removeAll] using hk
      rw [hone]
      simp [List.eraseDups_cons]
  · intro n
    rw [get?_insert, get?_latest, get?_latest, List.reverse_append]
    by_cases hn : k = n
    · subst hn
      simp
    · simp [hn]

/-- What is done to every value is done to the latest values. -/
theorem latest_map (f : β → γ) (es : List (α × β)) :
    latest (es.map fun e => (e.1, f e.2)) = (latest es).map fun e => (e.1, f e.2) := by
  induction es using List.reverseRecOn with
  | nil => rfl
  | append_singleton es e ih =>
    rw [List.map_append, List.map_singleton, latest_concat, ih, latest_concat, map_insert]

/-! ## Changing a value -/

theorem modify_eq_insert {f : β → β} {t : Table α β} {k : α} {v : β} (h : get? t k = some v) :
    modify f t k = insert t k (f v) := by
  induction t with
  | nil => simp [get?] at h
  | cons e t ih =>
    obtain ⟨a, b⟩ := e
    by_cases hk : a = k
    · have hv : b = v := by simpa [get?, hk] using h
      simp [modify, insert, hk, hv]
    · simp [modify, insert, hk, ih (by simpa [get?, hk] using h)]

theorem insert_insert_self (t : Table α β) (k : α) (v w : β) :
    insert (insert t k v) k w = insert t k w := by
  induction t with
  | nil => simp [insert]
  | cons e t ih =>
    obtain ⟨a, b⟩ := e
    by_cases hk : a = k
    · simp [insert, hk]
    · simp [insert, hk, ih]

theorem modify_insert_self (f : β → β) (t : Table α β) (k : α) (v : β) :
    modify f (insert t k v) k = insert t k (f v) := by
  have hv : get? (insert t k v) k = some v := by simp [get?_insert]
  rw [modify_eq_insert hv, insert_insert_self]

/-! ## Putting a whole table in -/

/-- A value that is given in place can be given before or after another one. -/
theorem insert_comm_of_mem {t : Table α β} {k n : α} (hk : k ∈ keys t) (hne : k ≠ n) (v w : β) :
    insert (insert t k v) n w = insert (insert t n w) k v := by
  induction t with
  | nil => simp [keys] at hk
  | cons e t ih =>
    obtain ⟨a, b⟩ := e
    by_cases ha : a = k
    · subst ha
      simp [insert, hne]
    · have ht : k ∈ keys t := by simpa [keys, Ne.symm ha] using hk
      by_cases hn : a = n
      · subst hn
        simp [insert, ha]
      · simp [insert, ha, hn, ih ht]

theorem update_insert_of_not_mem {t u : Table α β} {k : α} (hk : k ∈ keys t) (hu : k ∉ keys u)
    (v : β) : update (insert t k v) u = insert (update t u) k v := by
  induction u generalizing t with
  | nil => rfl
  | cons e u ih =>
    obtain ⟨a, b⟩ := e
    simp only [keys, List.map_cons, List.mem_cons, not_or] at hu
    rw [update_cons, update_cons, insert_comm_of_mem hk hu.1,
      ih (mem_keys_insert.mpr (.inl hk)) hu.2]

/-- One more entry in the table that is put in is one more entry in the end. -/
theorem update_insert {u : Table α β} (hu : (keys u).Nodup) (t : Table α β) (k : α) (v : β) :
    update t (insert u k v) = insert (update t u) k v := by
  induction u generalizing t with
  | nil => rfl
  | cons e u ih =>
    obtain ⟨a, b⟩ := e
    obtain ⟨ha, hu⟩ := List.nodup_cons.mp hu
    by_cases hk : a = k
    · subst hk
      have hmem : a ∈ keys (insert t a b) := mem_keys_insert.mpr (.inr rfl)
      rw [insert, if_pos (by simp), update_cons, update_cons, ← update_insert_of_not_mem hmem ha,
        insert_insert_self]
    · rw [insert, if_neg (by simpa using hk), update_cons, update_cons, ih hu]

theorem get?_update {u : Table α β} (hu : (keys u).Nodup) (t : Table α β) (k : α) :
    get? (update t u) k = (get? u k).or (get? t k) := by
  induction u generalizing t with
  | nil => rfl
  | cons e u ih =>
    obtain ⟨a, b⟩ := e
    obtain ⟨ha, hu⟩ := List.nodup_cons.mp hu
    rw [update_cons, ih hu, get?_insert]
    by_cases hk : a = k
    · subst hk
      rw [get?_eq_none_iff.mpr ha]
      simp [get?]
    · simp [get?, hk]

/-- The keys that are new follow the others. -/
theorem keys_update {u : Table α β} (hu : (keys u).Nodup) (t : Table α β) :
    keys (update t u) = keys t ++ (keys u).filter (!(keys t).contains ·) := by
  induction u generalizing t with
  | nil => simp [update, keys]
  | cons e u ih =>
    obtain ⟨a, b⟩ := e
    obtain ⟨ha, hu⟩ := List.nodup_cons.mp hu
    have hcons : keys ((a, b) :: u) = a :: keys u := rfl
    rw [update_cons, ih hu, hcons]
    by_cases hmem : a ∈ keys t
    · rw [keys_insert_of_mem hmem, List.filter_cons_of_neg (by simpa using hmem)]
    · have hsame : (keys u).filter (!(keys t ++ [a]).contains ·) =
          (keys u).filter (!(keys t).contains ·) := by
        apply List.filter_congr
        intro n hn
        have hne : n ≠ a := fun heq => ha (heq ▸ hn)
        simp [hne]
      rw [keys_insert_of_not_mem hmem, hsame, List.filter_cons_of_pos (by simpa using hmem)]
      simp

theorem update_modify {f : β → β} {u : Table α β} (hu : (keys u).Nodup) {k : α} (hk : k ∈ keys u)
    (t : Table α β) : update t (modify f u k) = modify f (update t u) k := by
  obtain ⟨v, hv⟩ := exists_get?_of_mem_keys hk
  have hboth : get? (update t u) k = some v := by rw [get?_update hu, hv, Option.some_or]
  rw [modify_eq_insert hv, modify_eq_insert hboth, update_insert hu]

/-- What is done to every value is done to the values that are put in. -/
theorem map_update (f : β → γ) (t u : Table α β) :
    (update t u).map (fun e => (e.1, f e.2)) =
      update (t.map fun e => (e.1, f e.2)) (u.map fun e => (e.1, f e.2)) := by
  induction u generalizing t with
  | nil => rfl
  | cons e u ih => rw [update_cons, ih, map_insert, List.map_cons, update_cons]

/-! ## Tables of pairs -/

theorem nodup_keys_update {t : Table α β} (h : (keys t).Nodup) (u : Table α β) :
    (keys (update t u)).Nodup := by
  induction u generalizing t with
  | nil => exact h
  | cons e u ih => exact ih (nodup_keys_insert h e.1 e.2)

theorem of_mem_update {t u : Table α β} {e : α × β} (h : e ∈ update t u) : e ∈ t ∨ e ∈ u := by
  induction u generalizing t with
  | nil => exact .inl h
  | cons e' u ih =>
    rcases ih h with h | h
    · rcases of_mem_insert h with h | rfl
      · exact .inl h
      · exact .inr List.mem_cons_self
    · exact .inr (List.mem_cons_of_mem _ h)

theorem nodup_keys_ofPairs (pairs : List (α × β)) : (keys (ofPairs pairs)).Nodup :=
  nodup_keys_update (by simp [keys]) pairs

theorem mem_of_mem_ofPairs {pairs : List (α × β)} {e : α × β} (h : e ∈ ofPairs pairs) :
    e ∈ pairs := by
  simpa using of_mem_update h

/-- A list of pairs in which no key comes twice is a table. -/
theorem ofPairs_eq_self {pairs : List (α × β)} (h : (keys pairs).Nodup) :
    ofPairs pairs = pairs := by
  refine ext ?_ (nodup_keys_ofPairs pairs) fun k => ?_
  · rw [ofPairs, keys_update h, List.filter_eq_self.mpr (by simp [keys])]
    rfl
  · rw [ofPairs, get?_update h]
    simp [get?]

end Signpost.Table
