import Signpost.Proofs.Merge
import Signpost.Proofs.Outcome
import Signpost.Settings.Load
set_option autoImplicit false

/-!
# The sources of settings have distinct keys

Every reader keeps one entry for each key: of two that stand for the same entry, the later one
counts.  So whatever a settings file holds, and whatever the environment sets, has distinct keys,
and can be merged entry by entry.
-/

namespace Signpost

open Value

/-- All values of some entries have distinct keys. -/
def Value.HaveDistinctKeys (entries : List (Key × Value)) : Prop :=
  ∀ e ∈ entries, HasDistinctKeys e.2

theorem Value.hasDistinctKeys_ofPairs {pairs : List (Key × Value)} (h : HaveDistinctKeys pairs) :
    HasDistinctKeys (.map (Table.ofPairs pairs)) := by
  refine .map (Table.hasDistinctKeys_ofPairs pairs) fun e he => ?_
  obtain ⟨a, ha⟩ := Table.exists_mem_of_mem_ofPairs he
  exact h (a, e.2) ha

/-- Two parts have been read exactly if both have. -/
theorem Unread.both_eq_ok_iff {α β : Type} {x : Except Unread α} {y : Except Unread β} {p : α × β} :
    Unread.both x y = .ok p ↔ x = .ok p.1 ∧ y = .ok p.2 := by
  obtain ⟨a, b⟩ := p
  cases x <;> cases y <;> simp [Unread.both]

/-! ## Settings files -/

namespace Yaml.Node

theorem hasDistinctKeys_of_scalarValue {t : Text} {isPlain : Bool} {v : Value}
    (h : scalarValue t isPlain = .ok v) : HasDistinctKeys v := by
  have hplain : plainValue t = .ok v → HasDistinctKeys v := by
    intro hvalue
    unfold plainValue at hvalue
    repeat' split at hvalue
    · exact Except.ok.inj hvalue ▸ .null
    · exact Except.ok.inj hvalue ▸ .bool _
    · exact Except.ok.inj hvalue ▸ .bool _
    · simp at hvalue
    · obtain ⟨i, _, rfl⟩ := map_eq_ok_iff.mp hvalue
      exact .int i
    · exact Except.ok.inj hvalue ▸ .str _
  unfold scalarValue at h
  split at h
  · split at h
    · simp at h
    · exact hplain h
  · exact Except.ok.inj h ▸ .str t

mutual

theorem hasDistinctKeys_of_value :
    ∀ {n : Node} {v : Value}, value n = .ok v → HasDistinctKeys v
  | .scalar t isPlain, v, h => hasDistinctKeys_of_scalarValue (by simpa only [value] using h)
  | .list items, v, h => by
    rw [value, map_eq_ok_iff] at h
    obtain ⟨vs, hvs, rfl⟩ := h
    exact .list (hasDistinctKeys_of_values hvs)
  | .map entries, v, h => by
    rw [value, map_eq_ok_iff] at h
    obtain ⟨⟨before, own⟩, hpairs, rfl⟩ := h
    exact hasDistinctKeys_ofPairs (haveDistinctKeys_of_pairs hpairs)

theorem hasDistinctKeys_of_values :
    ∀ {ns : List Node} {vs : List Value}, values ns = .ok vs → ∀ v ∈ vs, HasDistinctKeys v
  | [], vs, h => by
    rw [values] at h
    obtain rfl := Except.ok.inj h
    simp
  | n :: rest, vs, h => by
    rw [values] at h
    obtain ⟨⟨v, vs'⟩, hboth, rfl⟩ := map_eq_ok_iff.mp h
    obtain ⟨hv, hvs'⟩ := Unread.both_eq_ok_iff.mp hboth
    exact List.forall_mem_cons.mpr
      ⟨hasDistinctKeys_of_value hv, hasDistinctKeys_of_values hvs'⟩

theorem haveDistinctKeys_of_pairs :
    ∀ {entries : List (Node × Node)} {before own : List (Key × Value)},
      pairs entries = .ok (before, own) → HaveDistinctKeys (before ++ own)
  | [], before, own, h => by
    rw [pairs] at h
    obtain ⟨rfl, rfl⟩ := Prod.mk.inj (Except.ok.inj h)
    simp [HaveDistinctKeys]
  | (k, v) :: rest, before, own, h => by
    rw [pairs] at h
    split at h
    · obtain ⟨⟨more, before', own'⟩, hboth, heq⟩ := map_eq_ok_iff.mp h
      obtain ⟨hmore, hrest⟩ := Unread.both_eq_ok_iff.mp hboth
      obtain ⟨rfl, rfl⟩ := Prod.mk.inj heq
      rw [List.append_assoc]
      exact List.forall_mem_append.mpr
        ⟨haveDistinctKeys_of_mergedIn hmore, haveDistinctKeys_of_pairs hrest⟩
    · obtain ⟨⟨⟨key, w⟩, before', own'⟩, hboth, heq⟩ := map_eq_ok_iff.mp h
      obtain ⟨hentry, hrest⟩ := Unread.both_eq_ok_iff.mp hboth
      obtain ⟨_, hw⟩ := Unread.both_eq_ok_iff.mp hentry
      obtain ⟨rfl, rfl⟩ := Prod.mk.inj heq
      obtain ⟨hbefore, hown⟩ := List.forall_mem_append.mp (haveDistinctKeys_of_pairs hrest)
      exact List.forall_mem_append.mpr
        ⟨hbefore, List.forall_mem_cons.mpr ⟨hasDistinctKeys_of_value hw, hown⟩⟩

theorem haveDistinctKeys_of_mergedIn :
    ∀ {n : Node} {entries : List (Key × Value)},
      mergedIn n = .ok entries → HaveDistinctKeys entries
  | .scalar _ _, _, h => by simp [mergedIn] at h
  | .map entries, _, h => by
    rw [mergedIn, map_eq_ok_iff] at h
    obtain ⟨⟨before, own⟩, hpairs, rfl⟩ := h
    exact haveDistinctKeys_of_pairs hpairs
  | .list items, _, h => by
    rw [mergedIn, map_eq_ok_iff] at h
    obtain ⟨maps, hmaps, rfl⟩ := h
    intro e he
    obtain ⟨entries, hentries, he⟩ := List.mem_flatten.mp he
    exact haveDistinctKeys_of_mergedItems hmaps entries (List.mem_reverse.mp hentries) e he

theorem haveDistinctKeys_of_mergedItems :
    ∀ {items : List Node} {maps : List (List (Key × Value))},
      mergedItems items = .ok maps → ∀ entries ∈ maps, HaveDistinctKeys entries
  | [], maps, h => by
    rw [mergedItems] at h
    obtain rfl := Except.ok.inj h
    simp
  | .map entries :: rest, maps, h => by
    rw [mergedItems] at h
    obtain ⟨⟨⟨before, own⟩, maps'⟩, hboth, rfl⟩ := map_eq_ok_iff.mp h
    obtain ⟨hpairs, hmaps'⟩ := Unread.both_eq_ok_iff.mp hboth
    exact List.forall_mem_cons.mpr
      ⟨haveDistinctKeys_of_pairs hpairs, haveDistinctKeys_of_mergedItems hmaps'⟩
  | .scalar _ _ :: _, _, h | .list _ :: _, _, h => by
    simp [mergedItems] at h

end

end Yaml.Node

theorem Yaml.hasDistinctKeys_of_read {bytes : List UInt8} {v : Value} (h : read bytes = .ok v) :
    HasDistinctKeys v := by
  unfold read at h
  split at h
  · simp at h
  · obtain ⟨s, _, hdocument⟩ := bind_eq_ok_iff.mp h
    split at hdocument
    · simp at hdocument
    · split at hdocument
      · exact Node.hasDistinctKeys_of_value hdocument
      · simp at hdocument

/-! ## JSON -/

namespace Json

theorem hasDistinctKeys_of_number {t rest : Text} {v : Value} (h : number t = .ok (v, rest)) :
    HasDistinctKeys v := by
  unfold number at h
  split at h
  · simp at h
  · split at h <;> obtain ⟨⟨n, _⟩, _, heq⟩ := map_eq_ok_iff.mp h <;>
      exact (Prod.mk.inj heq).1 ▸ .int _

mutual

theorem hasDistinctKeys_of_value :
    ∀ {fuel room : Nat} {t rest : Text} {v : Value},
      value fuel room t = .ok (v, rest) → HasDistinctKeys v
  | 0, _, _, _, _, h => by simp [value] at h
  | fuel + 1, room, t, rest, v, h => by
    rw [value.eq_def] at h
    dsimp only at h
    split at h
    · obtain ⟨⟨s, rest'⟩, _, heq⟩ := map_eq_ok_iff.mp h
      obtain ⟨rfl, _⟩ := Prod.mk.inj heq
      exact .str s
    · split at h
      · simp at h
      · obtain ⟨rfl, _⟩ := Prod.mk.inj (Except.ok.inj h)
        exact .list (by simp)
      · exact hasDistinctKeys_of_items (by simp) h
    · split at h
      · simp at h
      · obtain ⟨rfl, _⟩ := Prod.mk.inj (Except.ok.inj h)
        exact hasDistinctKeys_map_nil
      · exact hasDistinctKeys_of_members hasDistinctKeys_map_nil h
    · obtain ⟨rfl, _⟩ := Prod.mk.inj (Except.ok.inj h)
      exact .bool true
    · obtain ⟨rfl, _⟩ := Prod.mk.inj (Except.ok.inj h)
      exact .bool false
    · obtain ⟨rfl, _⟩ := Prod.mk.inj (Except.ok.inj h)
      exact .null
    · exact hasDistinctKeys_of_number h

theorem hasDistinctKeys_of_items :
    ∀ {fuel room : Nat} {done : List Value} {t rest : Text} {v : Value},
      (∀ w ∈ done, HasDistinctKeys w) → items fuel room done t = .ok (v, rest) → HasDistinctKeys v
  | 0, _, _, _, _, _, _, h => by simp [items] at h
  | fuel + 1, room, done, t, rest, v, hdone, h => by
    rw [items] at h
    obtain ⟨⟨w, rest'⟩, hw, h⟩ := bind_eq_ok_iff.mp h
    dsimp only at h
    have hmore : ∀ u ∈ done ++ [w], HasDistinctKeys u :=
      List.forall_mem_append.mpr ⟨hdone, by simpa using hasDistinctKeys_of_value hw⟩
    split at h
    · exact hasDistinctKeys_of_items hmore h
    · obtain ⟨rfl, _⟩ := Prod.mk.inj (Except.ok.inj h)
      exact .list hmore
    · simp at h

theorem hasDistinctKeys_of_members :
    ∀ {fuel room : Nat} {done : Entries} {t rest : Text} {v : Value},
      HasDistinctKeys (.map done) → members fuel room done t = .ok (v, rest) → HasDistinctKeys v
  | 0, _, _, _, _, _, _, h => by simp [members] at h
  | fuel + 1, room, done, t, rest, v, hdone, h => by
    rw [members.eq_def] at h
    dsimp only at h
    split at h
    · obtain ⟨⟨name, rest'⟩, _, h⟩ := bind_eq_ok_iff.mp h
      dsimp only at h
      split at h
      · obtain ⟨⟨w, rest''⟩, hw, h⟩ := bind_eq_ok_iff.mp h
        have hmore : HasDistinctKeys (.map (Table.insert done (.str name) w)) :=
          hdone.insert _ (hasDistinctKeys_of_value hw)
        dsimp only at h
        split at h
        · exact hasDistinctKeys_of_members hmore h
        · obtain ⟨rfl, _⟩ := Prod.mk.inj (Except.ok.inj h)
          exact hmore
        · simp at h
      · simp at h
    · simp at h

end

theorem hasDistinctKeys_of_parse {t : Text} {v : Value} (h : parse t = .ok v) :
    HasDistinctKeys v := by
  obtain ⟨⟨w, rest⟩, hw, h⟩ := bind_eq_ok_iff.mp h
  dsimp only at h
  split at h
  · exact Except.ok.inj h ▸ hasDistinctKeys_of_value hw
  · simp at h

end Json

/-! ## The environment -/

namespace Settings

open Environment

theorem hasDistinctKeys_spelled (known : List Text) {entries : Entries}
    (h : HaveDistinctKeys entries) : HasDistinctKeys (.map (spelled known entries)) := by
  refine hasDistinctKeys_ofPairs fun e he => ?_
  obtain ⟨e', he', rfl⟩ := List.mem_map.mp he
  have hvalue := h e' he'
  split
  · split <;> exact hvalue
  · exact hvalue

namespace Environment

section

variable {json : Text → Except Unread Value} (hjson : ∀ t v, json t = .ok v → HasDistinctKeys v)

include hjson

theorem hasDistinctKeys_of_valueOf {keys : List (Text × Bool)} {way : List Text} {t : Text}
    {v : Value} (h : valueOf json keys way t = .ok v) : HasDistinctKeys v := by
  unfold valueOf at h
  split at h
  · split at h
    · exact hjson t v h
    · exact Except.ok.inj h ▸ .str t
  · exact Except.ok.inj h ▸ .str t

omit hjson in
theorem hasDistinctKeys_assign {v : Value} (hv : HasDistinctKeys v) (way : List Text) {here : Value}
    (hhere : HasDistinctKeys here) : HasDistinctKeys (assign v way here) := by
  fun_induction assign v way here with
  | case1 here => exact hhere
  | case2 name entries => exact hhere.insert _ hv
  | case3 name rest entries _ ih =>
    refine hhere.insert _ (ih ?_)
    cases hlookup : Value.lookup entries name with
    | none => exact hasDistinctKeys_map_nil
    | some w =>
      obtain ⟨a, ha⟩ := Table.exists_mem_of_get? hlookup
      exact (hasDistinctKeys_map_iff.mp hhere).2 _ ha
  | case4 here => exact hhere

theorem hasDistinctKeys_of_nested {keys : List (Text × Bool)} {start : Text} {env : Environment}
    {v w : Value} (hv : HasDistinctKeys v) (h : nested json keys start env v = .ok w) :
    HasDistinctKeys w := by
  induction env generalizing v with
  | nil => exact Except.ok.inj h ▸ hv
  | cons e rest ih =>
    obtain ⟨name, t⟩ := e
    rw [nested] at h
    split at h
    · exact ih hv h
    · obtain ⟨u, hu, h⟩ := bind_eq_ok_iff.mp h
      exact ih (hasDistinctKeys_assign (hasDistinctKeys_of_valueOf hjson hu) _ hv) h

theorem hasDistinctKeys_of_sectionValue {env : Environment} {name : Text}
    {keys : List (Text × Bool)} {v : Value}
    (h : sectionValue json env name keys = .ok (some v)) : HasDistinctKeys v := by
  have hnested : ∀ w, nested json keys (mark ++ name ++ "__") env (.map []) = .ok w →
      HasDistinctKeys w :=
    fun w => hasDistinctKeys_of_nested hjson hasDistinctKeys_map_nil
  unfold sectionValue at h
  dsimp only at h
  split at h
  · split at h
    · simp at h
    · simp at h
    · rename_i entries _ hentries
      obtain rfl := Option.some.inj (Except.ok.inj h)
      exact hasDistinctKeys_spelled _ (hasDistinctKeys_map_iff.mp (hnested _ hentries)).2
    · simp at h
  · rename_i t _
    split at h
    · simp at h
    · simp at h
    · rename_i entries hentries
      split at h
      · simp at h
      · rename_i above habove
        obtain rfl := Option.some.inj (Except.ok.inj h)
        have hmerged : HasDistinctKeys (.map (Value.merge entries above)) :=
          HasDistinctKeys.merge (hjson _ _ hentries) (hnested _ habove)
        exact hasDistinctKeys_spelled _ (hasDistinctKeys_map_iff.mp hmerged).2
      · simp at h
    · rename_i hvalue
      exact Option.some.inj (Except.ok.inj h) ▸ hjson _ _ hvalue

/-- The environment sets the sections in order, each once at most. -/
theorem keys_entriesFrom {env : Environment} {sections : List (Text × List (Text × Bool))}
    {entries : Entries} (h : entriesFrom json env sections = .ok entries) :
    (Table.keys entries).Sublist (sections.map fun e => Key.str e.1) ∧
      HaveDistinctKeys entries := by
  induction sections generalizing entries with
  | nil =>
    obtain rfl := Except.ok.inj h
    exact ⟨.slnil, by simp [HaveDistinctKeys]⟩
  | cons e rest ih =>
    obtain ⟨name, keys⟩ := e
    rw [entriesFrom] at h
    split at h
    · simp at h
    · obtain ⟨hkeys, hvalues⟩ := ih h
      exact ⟨hkeys.cons _, hvalues⟩
    · rename_i v hv
      obtain ⟨entries', hrest, rfl⟩ := map_eq_ok_iff.mp h
      obtain ⟨hkeys, hvalues⟩ := ih hrest
      exact ⟨hkeys.cons_cons _,
        List.forall_mem_cons.mpr ⟨hasDistinctKeys_of_sectionValue hjson hv, hvalues⟩⟩

end

theorem hasDistinctKeys_of_entries {env : Environment} {entries : Entries}
    (h : env.entries = .ok entries) : HasDistinctKeys (.map entries) := by
  obtain ⟨hkeys, hvalues⟩ := keys_entriesFrom (fun _ _ => Json.hasDistinctKeys_of_parse) h
  have hsections : (sections.map fun e => Key.str e.1).Pairwise fun a b => (a == b) = false := by
    decide +kernel
  exact .map (hsections.sublist hkeys) hvalues

end Environment

theorem hasDistinctKeys_of_readEntries {files : FileTree} {path : Path} {entries : Entries}
    (h : readEntries files path = .ok entries) : HasDistinctKeys (.map entries) := by
  unfold readEntries Readers.entries at h
  repeat' split at h
  · simp at h
  · exact Except.ok.inj h ▸ hasDistinctKeys_map_nil
  · simp at h
  · simp at h
  · exact Except.ok.inj h ▸ hasDistinctKeys_map_nil
  · rename_i hread
    exact Except.ok.inj h ▸ Yaml.hasDistinctKeys_of_read hread
  · simp at h

end Settings

end Signpost
