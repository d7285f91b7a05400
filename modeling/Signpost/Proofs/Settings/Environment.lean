import Signpost.Proofs.Header
import Signpost.Proofs.Table
import Signpost.Settings.Environment
set_option autoImplicit false

/-!
# Variables that cannot be read

A variable for a section is read as JSON, and so is one for a structured key of it, unless it is
empty.  A section cannot be read (`Environment.UnreadSection`) when one of these cannot.  The
variables for its keys do not count when the section as a whole is set to something else than a map.

The environment is refused for the first section that cannot be read, and there for its first such
variable; for no other reason (`Environment.entriesWith_eq_error_iff`).  How JSON is read is left
open here.
-/

namespace Signpost.Settings

/-- Of the elements of a list that have a fault, `a` is the first, and `fault` is what it has. -/
def IsFirstFault {α ε : Type} (hasFault : α → ε → Prop) (l : List α) (a : α) (fault : ε) : Prop :=
  ∃ before after, l = before ++ a :: after ∧ hasFault a fault ∧
    ∀ b ∈ before, ∀ other, ¬ hasFault b other

theorem not_isFirstFault_nil {α ε : Type} {hasFault : α → ε → Prop} {a : α} {fault : ε} :
    ¬ IsFirstFault hasFault [] a fault := by
  simp [IsFirstFault]

theorem isFirstFault_cons {α ε : Type} {hasFault : α → ε → Prop} {b : α} {l : List α} {a : α}
    {fault : ε} :
    IsFirstFault hasFault (b :: l) a fault ↔
      (b = a ∧ hasFault b fault) ∨
        (∀ other, ¬ hasFault b other) ∧ IsFirstFault hasFault l a fault := by
  constructor
  · rintro ⟨before, after, hl, ha, hbefore⟩
    cases before with
    | nil =>
      obtain ⟨rfl, -⟩ := List.cons.inj hl
      exact .inl ⟨rfl, ha⟩
    | cons c before =>
      obtain ⟨rfl, rfl⟩ := List.cons.inj hl
      obtain ⟨hb, hbefore⟩ := List.forall_mem_cons.mp hbefore
      exact .inr ⟨hb, before, after, rfl, ha, hbefore⟩
  · rintro (⟨rfl, hb⟩ | ⟨hb, before, after, rfl, ha, hbefore⟩)
    · exact ⟨[], l, rfl, hb, by simp⟩
    · exact ⟨b :: before, after, rfl, ha, List.forall_mem_cons.mpr ⟨hb, hbefore⟩⟩

namespace Environment

open Text

variable (json : Text → Except Unread Value)

/-- The variable `e` sets a structured key of a section, is not empty, and cannot be read. -/
def UnreadKey (keys : List (Text × Bool)) (start : Text) (e : Text × Text) (why : Unread) : Prop :=
  ∃ key, e.1 = start ++ key ∧ Table.get? keys key = some true ∧ e.2 ≠ [] ∧ json e.2 = .error why

/-- The variable for a section cannot be read, or the first one that cannot be is for a structured
key of it. -/
def UnreadSection (env : Environment) (name : Text) (keys : List (Text × Bool)) (why : Unread) :
    Prop :=
  (∃ t, Table.get? env (mark ++ name) = some t ∧ json t = .error why) ∨
    (∀ t, Table.get? env (mark ++ name) = some t → ∃ entries, json t = .ok (.map entries)) ∧
      ∃ e, IsFirstFault (UnreadKey json keys (mark ++ name ++ "__")) env e why

/-- The first of some sections that cannot be read is the one called `name`. -/
def FirstUnread (env : Environment) (sections : List (Text × List (Text × Bool))) (name : Text)
    (why : Unread) : Prop :=
  ∃ keys, IsFirstFault (fun e => UnreadSection json env e.1 e.2) sections (name, keys) why

/-! ## Names -/

theorem nameParts_ne_nil (t : Text) : nameParts t ≠ [] := by
  fun_cases nameParts t <;> simp

/-- A name of one part is that part. -/
theorem eq_of_nameParts {t key : Text} (h : nameParts t = [key]) : t = key := by
  fun_induction nameParts t generalizing key with
  | case1 cs _ => simp [nameParts_ne_nil] at h
  | case2 c cs _ hnil _ => exact absurd hnil (nameParts_ne_nil cs)
  | case3 c cs _ part rest hparts ih =>
    simp only [List.cons.injEq] at h
    obtain ⟨rfl, rfl⟩ := h
    rw [ih hparts]
  | case4 => simpa using h

/-- The keys that the settings have are names of one part. -/
theorem nameParts_of_mem_sections :
    ∀ e ∈ sections, ∀ k ∈ e.2, nameParts k.1 = [k.1] := by
  decide +kernel

/-! ## One section -/

section

variable {json} {keys : List (Text × Bool)} {why : Unread}

/-- Only the value of a structured key has to be read. -/
theorem valueOf_eq_error_iff (parts : List Text) (t : Text) :
    valueOf json keys parts t = .error why ↔
      ∃ key, parts = [key] ∧ Table.get? keys key = some true ∧ t ≠ [] ∧ json t = .error why := by
  match parts with
  | [] => simp [valueOf]
  | [key] =>
    have hstructured :
        (Table.get? keys key).getD false = true ↔ Table.get? keys key = some true := by
      cases Table.get? keys key <;> simp
    have hread : ((Table.get? keys key).getD false && !t.isEmpty) = true ↔
        Table.get? keys key = some true ∧ t ≠ [] := by
      simp [hstructured]
    simp only [valueOf, hread, List.cons.injEq, and_true]
    split
    · rename_i h
      simp [h]
    · rename_i h
      simp only [reduceCtorEq, false_iff]
      rintro ⟨_, rfl, hkey, hne, _⟩
      exact h ⟨hkey, hne⟩
  | _ :: _ :: _ => simp [valueOf]

/-- Whether the variable for a way into a section can be read is a question of its value. -/
theorem unreadKey_iff (hkeys : ∀ k ∈ keys, nameParts k.1 = [k.1]) (start way t : Text) :
    UnreadKey json keys start (start ++ way, t) why ↔
      valueOf json keys (nameParts way) t = .error why := by
  rw [valueOf_eq_error_iff]
  constructor
  · rintro ⟨key, hname, hread, hne, hjson⟩
    obtain rfl := List.append_cancel_left hname
    exact ⟨way, hkeys _ (Table.mem_of_get?_eq_some hread), hread, hne, hjson⟩
  · rintro ⟨key, hparts, hread, hne, hjson⟩
    obtain rfl := eq_of_nameParts hparts
    exact ⟨way, rfl, hread, hne, hjson⟩

/-- A variable whose name does not start like the section's sets no key of it. -/
theorem not_unreadKey {start name : Text} (h : afterPrefix? start name = none) (t : Text) :
    ¬ UnreadKey json keys start (name, t) why := by
  rintro ⟨key, rfl, _⟩
  rw [Text.afterPrefix?_eq_some_iff.mpr rfl] at h
  simp at h

/-- Setting a key leaves a map a map. -/
theorem exists_assign_map (v : Value) (way : List Text) (entries : Entries) :
    ∃ entries', assign v way (.map entries) = .map entries' := by
  match way with
  | [] => exact ⟨entries, rfl⟩
  | [_] => exact ⟨_, rfl⟩
  | _ :: _ :: _ => exact ⟨_, rfl⟩

/-- The variables for keys come to the fault of the first that cannot be read. -/
theorem nested_eq_error_iff (hkeys : ∀ k ∈ keys, nameParts k.1 = [k.1]) (start : Text)
    (env : Environment) (entries : Entries) :
    nested json keys start env (.map entries) = .error why ↔
      ∃ e, IsFirstFault (UnreadKey json keys start) env e why := by
  induction env generalizing entries with
  | nil => simp [nested, not_isFirstFault_nil]
  | cons e rest ih =>
    obtain ⟨name, t⟩ := e
    simp only [isFirstFault_cons, exists_or, exists_and_left]
    cases hway : afterPrefix? start name with
    | none => simp [nested, hway, not_unreadKey hway, ih]
    | some way =>
      obtain rfl := Text.afterPrefix?_eq_some_iff.mp hway
      simp only [unreadKey_iff hkeys]
      cases hvalue : valueOf json keys (nameParts way) t with
      | error other => simp [nested, hway, hvalue, Except.bind]
      | ok v =>
        obtain ⟨entries', hassign⟩ := exists_assign_map v (nameParts way) entries
        simp [nested, hway, hvalue, hassign, Except.bind, ih]

/-- The variables for keys, if they can all be read, together make a map. -/
theorem exists_nested_map {start : Text} {env : Environment} {entries : Entries} {v : Value}
    (h : nested json keys start env (.map entries) = .ok v) : ∃ entries', v = .map entries' := by
  induction env generalizing entries with
  | nil => exact ⟨entries, (Except.ok.inj h).symm⟩
  | cons e rest ih =>
    rw [nested] at h
    split at h
    · exact ih h
    · rename_i way _
      cases hvalue : valueOf json keys (nameParts way) e.2 with
      | error _ => simp [hvalue, Except.bind] at h
      | ok w =>
        obtain ⟨entries', hassign⟩ := exists_assign_map w (nameParts way) entries
        rw [hvalue, Except.bind, hassign] at h
        exact ih h

/-- A section comes to the fault for which it cannot be read. -/
theorem sectionValue_eq_error_iff (hkeys : ∀ k ∈ keys, nameParts k.1 = [k.1]) (env : Environment)
    (name : Text) : sectionValue json env name keys = .error why ↔
      UnreadSection json env name keys why := by
  unfold UnreadSection
  rw [← nested_eq_error_iff hkeys _ _ []]
  have hmap (v : Value) (h : nested json keys (mark ++ name ++ "__") env (.map []) = .ok v) :
      ∃ entries, v = .map entries := exists_nested_map h
  unfold sectionValue
  dsimp only
  generalize nested json keys (mark ++ name ++ "__") env (.map []) = below at hmap ⊢
  cases Table.get? env (mark ++ name) with
  | none =>
    cases below with
    | error other => simp
    | ok v =>
      obtain ⟨entries, rfl⟩ := hmap v rfl
      cases entries <;> simp
  | some t =>
    cases hjson : json t with
    | error other => simp [hjson]
    | ok v =>
      cases v with
      | map entries =>
        cases below with
        | error other => simp [hjson]
        | ok v =>
          obtain ⟨above, rfl⟩ := hmap v rfl
          simp [hjson]
      | _ => simp [hjson]

end

/-! ## All sections -/

theorem entriesFrom_eq_error_iff (env : Environment) (name : Text) (why : Unread)
    (sections : List (Text × List (Text × Bool)))
    (hkeys : ∀ e ∈ sections, ∀ k ∈ e.2, nameParts k.1 = [k.1]) :
    entriesFrom json env sections = .error (name, why) ↔
      FirstUnread json env sections name why := by
  induction sections with
  | nil => simp [entriesFrom, FirstUnread, not_isFirstFault_nil]
  | cons e rest ih =>
    obtain ⟨first, keys⟩ := e
    have hsection (other : Unread) : sectionValue json env first keys = .error other ↔
        UnreadSection json env first keys other :=
      sectionValue_eq_error_iff (hkeys _ List.mem_cons_self) env first
    have hrest := ih fun e he => hkeys e (List.mem_cons_of_mem _ he)
    unfold FirstUnread at hrest ⊢
    simp only [isFirstFault_cons, exists_or, exists_and_left, ← hrest, ← hsection]
    cases hfirst : sectionValue json env first keys with
    | error other => simp [entriesFrom, hfirst]
    | ok v =>
      cases v with
      | none => simp [entriesFrom, hfirst]
      | some v => cases h : entriesFrom json env rest <;> simp [entriesFrom, hfirst, h, Except.map]

/-- The environment is refused for the first section that cannot be read, and only for that. -/
theorem entriesWith_eq_error_iff (env : Environment) (name : Text) (why : Unread) :
    env.entriesWith json = .error (name, why) ↔
      FirstUnread json (lowered env) sections name why :=
  entriesFrom_eq_error_iff json (lowered env) name why sections nameParts_of_mem_sections

end Environment

end Signpost.Settings
