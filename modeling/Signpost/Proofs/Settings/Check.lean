import Signpost.Settings
set_option autoImplicit false

/-!
# What a check can find

A check collects faults (`Check.faults`), and a cause is found (`Check.Finds`) when one of them has
it.  Checks are put together from a few parts, and each part says what it finds in terms of what its
own parts find, so that a cause can be followed from a whole section down to the one value at fault.

Only one check finds an unknown home directory: that of a log file's destination.
-/

namespace Signpost.Settings

namespace Check

variable {α β : Type} {cause : Cause}

/-- The faults that a check has found, in order. -/
def faults : Check α → List Fault
  | .valid _ => []
  | .invalid first others => first :: others

/-- Whether one of the faults has a cause. -/
def Finds (cause : Cause) (c : Check α) : Prop := ∃ f ∈ c.faults, f.cause = cause

/-! ## Checks put together -/

theorem faults_seq (f : Check (α → β)) (c : Check α) : (f <*> c).faults = f.faults ++ c.faults := by
  show (Check.apply f c).faults = _
  cases f <;> cases c <;> simp [apply, faults]

theorem faults_map (f : α → β) (c : Check α) : (f <$> c).faults = c.faults :=
  faults_seq (.valid f) c

theorem faults_under (step : Step) (c : Check α) :
    (c.under step).faults = c.faults.map (Fault.under step) := by
  cases c <;> rfl

@[simp] theorem finds_valid (a : α) : (valid a).Finds cause ↔ False := by
  simp [Finds, faults]

@[simp] theorem finds_fault (cause' : Cause) (v : Value) :
    (fault cause' v : Check α).Finds cause ↔ cause' = cause := by
  simp [Finds, faults, fault]

@[simp] theorem fault_ne_valid (cause : Cause) (v : Value) (a : α) : fault cause v ≠ valid a := by
  simp [fault]

@[simp] theorem finds_ite (p : Prop) [Decidable p] (c d : Check α) :
    (if p then c else d).Finds cause ↔ if p then c.Finds cause else d.Finds cause := by
  split <;> rfl

@[simp] theorem finds_seq (f : Check (α → β)) (c : Check α) :
    (f <*> c).Finds cause ↔ f.Finds cause ∨ c.Finds cause := by
  simp only [Finds, faults_seq, List.mem_append, or_and_right, exists_or]

@[simp] theorem finds_map (f : α → β) (c : Check α) : (f <$> c).Finds cause ↔ c.Finds cause := by
  rw [Finds, faults_map, Finds]

@[simp] theorem finds_under (step : Step) (c : Check α) :
    (c.under step).Finds cause ↔ c.Finds cause := by
  rw [Finds, faults_under]
  constructor
  · rintro ⟨f, hf, hcause⟩
    obtain ⟨inner, hinner, rfl⟩ := List.mem_map.mp hf
    exact ⟨inner, hinner, hcause⟩
  · rintro ⟨f, hf, hcause⟩
    exact ⟨_, List.mem_map_of_mem hf, hcause⟩

@[simp] theorem finds_andThen (c : Check α) (f : α → Check β) :
    (c.andThen f).Finds cause ↔ c.Finds cause ∨ ∃ a, c = .valid a ∧ (f a).Finds cause := by
  cases c <;> simp [andThen, Finds, faults]

@[simp] theorem finds_field (entries : Entries) (name : Text) (default : α)
    (check : Value → Check α) :
    (field entries name default check).Finds cause ↔
      ∃ v, Value.lookup entries name = some v ∧ (check v).Finds cause := by
  unfold field
  cases Value.lookup entries name <;> simp

@[simp] theorem finds_items (check : Value → Check α) (vs : List Value) (position : Nat) :
    (items check position vs).Finds cause ↔ ∃ v ∈ vs, (check v).Finds cause := by
  induction vs generalizing position with
  | nil => simp [items]
  | cons v vs ih => simp [items, ih]

@[simp] theorem finds_orNull (check : Value → Check α) (v : Value) :
    (orNull check v).Finds cause ↔ v ≠ .null ∧ (check v).Finds cause := by
  cases v <;> simp [orNull]

/-! ## Unknown home directories -/

@[simp] theorem text_finds_no_home (v : Value) : ¬ (text v).Finds .unknownHome := by
  cases v <;> simp [text]

@[simp] theorem textWith_finds_no_home (holds : Text → Bool) (rule : Text → Rule) (v : Value) :
    ¬ (textWith holds rule v).Finds .unknownHome := by
  simp [textWith]

@[simp] theorem bool_finds_no_home (v : Value) : ¬ (Check.bool v).Finds .unknownHome := by
  cases v with
  | str t => cases h : boolOfWord? t.lowerAscii <;> simp [Check.bool, h]
  | _ => simp [Check.bool]

@[simp] theorem oneOf_finds_no_home (words : List (Text × α)) (v : Value) :
    ¬ (oneOf words v).Finds .unknownHome := by
  cases v with
  | str t => cases h : Table.get? words t <;> simp [oneOf, h]
  | _ => simp [oneOf]

@[simp] theorem noOthers_finds_no_home (known : List Text) (entries : Entries) :
    ¬ (noOthers known entries).Finds .unknownHome := by
  induction entries with
  | nil => simp [noOthers]
  | cons e rest ih =>
    obtain ⟨k, v⟩ := e
    cases k <;> simp [noOthers, ih]

@[simp] theorem ofSection_finds_home_iff (name : Text) (check : Entries → Check α) (v : Value) :
    (ofSection name check v).Finds .unknownHome ↔
      ∃ entries, v = .map entries ∧ (check entries).Finds .unknownHome := by
  cases v <;> simp [ofSection]

/-- An unknown home directory is what a check comes to as soon as one is found. -/
theorem outcome_eq_noHome_iff (c : Check α) : c.outcome = .noHome ↔ c.Finds .unknownHome := by
  cases c with
  | valid a => simp [outcome]
  | invalid first others =>
    have hany : ((first :: others).any fun f => f.cause == .unknownHome) = true ↔
        (invalid first others : Check α).Finds .unknownHome := by
      simp only [List.any_eq_true, beq_iff_eq, Finds, faults]
    simp only [outcome]
    split
    · rename_i h
      exact iff_of_true rfl (hany.mp h)
    · rename_i h
      exact iff_of_false (by simp) fun hfinds => h (hany.mpr hfinds)

/-- Where no home directory is unknown, the faults that were found are what a check comes to. -/
theorem outcome_of_ne_noHome {first : Fault} {others : List Fault}
    (h : (invalid first others : Check α).outcome ≠ .noHome) :
    (invalid first others : Check α).outcome = .refused first others := by
  rw [outcome] at h ⊢
  split at h
  · exact absurd rfl h
  · rename_i hany
    rw [if_neg hany]

theorem outcome_eq_accepted_iff (c : Check α) (a : α) : c.outcome = .accepted a ↔ c = .valid a := by
  cases c with
  | valid b => simp [outcome]
  | invalid first others =>
    simp only [outcome]
    split <;> simp

end Check

open Check

theorem checkPairs_finds_no_home (entries : Entries) :
    ¬ (checkPairs entries).Finds .unknownHome := by
  induction entries with
  | nil => simp [checkPairs]
  | cons e rest ih =>
    obtain ⟨k, v⟩ := e
    cases k <;> simp [checkPairs, ih]

@[simp] theorem checkMapping_finds_no_home (v : Value) :
    ¬ (checkMapping v).Finds .unknownHome := by
  cases v with
  | map entries =>
    simp only [checkMapping, finds_andThen, checkPairs_finds_no_home, false_or]
    rintro ⟨pairs, _, h⟩
    split at h <;> simp at h
  | _ => simp [checkMapping]

@[simp] theorem checkNameSet_finds_no_home (v : Value) :
    ¬ (checkNameSet v).Finds .unknownHome := by
  cases v <;> simp [checkNameSet]

theorem checkHints_finds_no_home (v : Value) : ¬ (checkHints v).Finds .unknownHome := by
  simp [checkHints, checkHintEntries]

theorem checkSource_finds_no_home (v : Value) : ¬ (checkSource v).Finds .unknownHome := by
  simp [checkSource, checkSourceEntries, checkPlainName]

theorem checkDialect_finds_no_home (v : Value) : ¬ (checkDialect v).Finds .unknownHome := by
  simp [checkDialect, checkDialectEntries, checkDialectFields, checkKeyword]

/-! ## Where a home directory can be unknown -/

/-- A text that names a file in a home directory, and nobody knows which one that is, although the
user can be asked for. -/
def NamesUnknownHome (homes : Homes) (t : Text) : Prop :=
  ∃ user, homeUser? (Path.ofText t) = some user ∧ isUserName user = true ∧ homes.of? user = none

/-- Settings in which some output of the log goes to an unknown home directory. -/
def HasUnknownHome (homes : Homes) (entries : Entries) : Prop :=
  ∃ logging outputs output t,
    Value.lookup entries "logging" = some (.map logging) ∧
    Value.lookup logging "outputs" = some (.list outputs) ∧
    .map output ∈ outputs ∧
    Value.lookup output "destination" = some (.str t) ∧ NamesUnknownHome homes t

section

variable (homes : Homes)

/-- The names of the streams are no paths into a home directory. -/
theorem not_namesUnknownHome_of_stream {t : Text}
    (h : t = Destination.stderr.text ∨ t = Destination.stdout.text) :
    ¬ NamesUnknownHome homes t := by
  have hstderr : homeUser? (Path.ofText Destination.stderr.text) = none := by decide
  have hstdout : homeUser? (Path.ofText Destination.stdout.text) = none := by decide
  rcases h with rfl | rfl
  · simp [NamesUnknownHome, hstderr]
  · simp [NamesUnknownHome, hstdout]

theorem checkDestination_finds_home_iff (v : Value) :
    (checkDestination homes v).Finds .unknownHome ↔
      ∃ t, v = .str t ∧ NamesUnknownHome homes t := by
  cases v with
  | str t =>
    by_cases hstream : t = Destination.stderr.text ∨ t = Destination.stdout.text
    · have hnames := not_namesUnknownHome_of_stream homes hstream
      rcases hstream with rfl | rfl <;> simp [checkDestination, Check.text, hnames]
    · obtain ⟨herr, hout⟩ := not_or.mp hstream
      cases huser : homeUser? (Path.ofText t) with
      | none =>
        simp [checkDestination, Check.text, herr, hout, NamesUnknownHome, expandHome, huser]
      | some user =>
        cases hname : isUserName user with
        | false => simp [checkDestination, Check.text, herr, hout, NamesUnknownHome, huser, hname]
        | true =>
          cases hhome : homes.of? user <;>
            simp [checkDestination, Check.text, herr, hout, NamesUnknownHome, expandHome, huser,
              hname, hhome]
  | _ => simp [checkDestination, Check.text]

theorem checkOutput_finds_home_iff (v : Value) :
    (checkOutput homes v).Finds .unknownHome ↔
      ∃ output t, v = .map output ∧ Value.lookup output "destination" = some (.str t) ∧
        NamesUnknownHome homes t := by
  simp only [checkOutput, ofSection_finds_home_iff, checkOutputEntries,
    finds_seq, finds_map, finds_field, oneOf_finds_no_home, finds_orNull, noOthers_finds_no_home,
    checkDestination_finds_home_iff, and_false, exists_false, false_or, or_false]
  constructor
  · rintro ⟨output, rfl, _, hlookup, t, rfl, ht⟩
    exact ⟨output, t, rfl, hlookup, ht⟩
  · rintro ⟨output, t, rfl, hlookup, ht⟩
    exact ⟨output, rfl, _, hlookup, t, rfl, ht⟩

theorem checkOutputs_finds_home_iff (v : Value) :
    (checkOutputs homes v).Finds .unknownHome ↔
      ∃ outputs output t, v = .list outputs ∧ .map output ∈ outputs ∧
        Value.lookup output "destination" = some (.str t) ∧ NamesUnknownHome homes t := by
  cases v with
  | list outputs =>
    simp only [checkOutputs, finds_items, checkOutput_finds_home_iff, Value.list.injEq]
    constructor
    · rintro ⟨_, hmem, output, t, rfl, hlookup, ht⟩
      exact ⟨outputs, output, t, rfl, hmem, hlookup, ht⟩
    · rintro ⟨_, output, t, rfl, hmem, hlookup, ht⟩
      exact ⟨_, hmem, output, t, rfl, hlookup, ht⟩
  | _ => simp [checkOutputs]

/-- Settings are refused for an unknown home directory where an output of the log goes to one. -/
theorem checkEntries_finds_home_iff (exact : Bool) (entries : Entries) :
    (checkEntries homes exact entries).Finds .unknownHome ↔ HasUnknownHome homes entries := by
  simp only [checkEntries, checkLogging, ofSection_finds_home_iff,
    checkLoggingEntries, finds_seq, finds_map, finds_field, finds_ite, finds_valid,
    oneOf_finds_no_home, noOthers_finds_no_home, checkHints_finds_no_home,
    checkSource_finds_no_home, checkDialect_finds_no_home, checkOutputs_finds_home_iff, and_false,
    exists_false, false_or, or_false, ite_self]
  constructor
  · rintro ⟨_, hlogging, logging, rfl, _, houtputs, outputs, output, t, rfl, hmem, hlookup, ht⟩
    exact ⟨logging, outputs, output, t, hlogging, houtputs, hmem, hlookup, ht⟩
  · rintro ⟨logging, outputs, output, t, hlogging, houtputs, hmem, hlookup, ht⟩
    exact ⟨_, hlogging, logging, rfl, _, houtputs, outputs, output, t, rfl, hmem, hlookup, ht⟩

end

end Signpost.Settings
