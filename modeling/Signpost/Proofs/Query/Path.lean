import Signpost.Proofs.Session
import Signpost.Proofs.Text.Split
set_option autoImplicit false

/-!
# Dotted paths

Names joined by dots are split again into what leads to the last name and the last name itself,
whatever stands before them and whether or not a dot or an opening parenthesis follows
(`splitPath_joinWith`).  Each name but the last has a dot after it, so the path before the last name
ends in one dot, or is empty; and it goes as far to the left as the first name, since a text that a
path can follow ends in no character of a path.
-/

namespace Signpost.Query

open Text

/-- A name that a path can lead through. -/
structure IsPathName (t : Text) : Prop where
  ne_nil : t ≠ []
  isPathNameChar : ∀ c ∈ t, isPathNameChar c = true

variable {pre last trigger : Text} {names : List Text}

/-- Names with a dot after each are path. -/
theorem isPathChar_of_mem_flatMap (hnames : ∀ n ∈ names, IsPathName n) {c : Char}
    (hc : c ∈ names.flatMap (· ++ ['.'])) : isPathChar c = true := by
  obtain ⟨n, hn, hc⟩ := List.mem_flatMap.mp hc
  rw [isPathChar_iff]
  rcases List.mem_append.mp hc with hc | hc
  · exact .inl ((hnames n hn).isPathNameChar c hc)
  · exact .inr (List.mem_singleton.mp hc)

/-- The path that names with a dot after each make up. -/
theorem contextOf_flatMap (hpre : CanPrecede pre) (hnames : ∀ n ∈ names, IsPathName n) :
    contextOf (pre ++ names.flatMap (· ++ ['.'])) = joinWith ['.'] names := by
  have hstop : ∀ c, pre.getLast? = some c → isPathChar c = false := fun _ hc => hpre.isPathChar hc
  rcases List.eq_nil_or_concat' names with rfl | ⟨leading, name, rfl⟩
  · have hempty : contextOf (pre ++ [] ++ []) = [] :=
      contextOf_append_dots hstop (by simp) (by simp) (by simp)
    rwa [List.append_nil] at hempty
  · obtain ⟨hleading, hname⟩ := List.forall_mem_append.mp hnames
    have hname := hname name List.mem_cons_self
    have hpath : ∀ c ∈ leading.flatMap (· ++ ['.']) ++ name, isPathChar c = true := by
      intro c hc
      rcases List.mem_append.mp hc with hc | hc
      · exact isPathChar_of_mem_flatMap hleading hc
      · exact isPathChar_iff.mpr (.inl (hname.isPathNameChar c hc))
    have hlast : ∀ c, (leading.flatMap (· ++ ['.']) ++ name).getLast? = some c → c ≠ '.' := by
      intro c hc
      rw [List.getLast?_append_of_ne_nil _ hname.ne_nil] at hc
      exact ne_dot_of_isPathNameChar (hname.isPathNameChar c (List.mem_of_getLast? hc))
    calc contextOf (pre ++ (leading ++ [name]).flatMap (· ++ ['.']))
        = contextOf (pre ++ (leading.flatMap (· ++ ['.']) ++ name) ++ ['.']) := by simp
      _ = leading.flatMap (· ++ ['.']) ++ name :=
        contextOf_append_dots hstop hpath hlast (by simp)
      _ = joinWith ['.'] (leading ++ [name]) := (joinWith_concat _ _ _).symm

/-- What stands before the last name of a path does not end in a word. -/
theorem getLast?_append_flatMap (hpre : CanPrecede pre) :
    ∀ c, (pre ++ names.flatMap (· ++ ['.'])).getLast? = some c → isWordChar c = false := by
  rcases List.eq_nil_or_concat' names with rfl | ⟨leading, name, rfl⟩
  · intro c hc
    rw [List.flatMap_nil, List.append_nil] at hc
    exact (hpre c hc).1
  · rw [List.flatMap_append, List.flatMap_singleton, ← List.append_assoc, ← List.append_assoc]
    exact getLast?_concat_dot _

/-- A dot or an opening parenthesis after a path does not matter for where it is split. -/
theorem splitPath_trigger {l w : Text} (hl : ∀ c, l.getLast? = some c → isWordChar c = false)
    (hw : IsName w) (htrigger : trigger = [] ∨ trigger = ['.'] ∨ trigger = ['(']) :
    splitPath (l ++ w ++ trigger) = (contextOf l, w) := by
  rcases htrigger with rfl | rfl | rfl
  · rw [List.append_nil]
    exact splitPath_of_word hl hw.ne_nil hw.isWordChar
  · exact splitPath_word hl hw.ne_nil hw.isWordChar (.inl rfl)
  · exact splitPath_word hl hw.ne_nil hw.isWordChar (.inr rfl)

/-- Splitting a path undoes the joining of its names.  Nothing leads to a name that stands alone. -/
theorem splitPath_joinWith (hpre : CanPrecede pre) (hnames : ∀ n ∈ names, IsPathName n)
    (hlast : IsName last) (htrigger : trigger = [] ∨ trigger = ['.'] ∨ trigger = ['(']) :
    splitPath (pre ++ joinWith ['.'] (names ++ [last]) ++ trigger) =
      (joinWith ['.'] names, last) := by
  rw [joinWith_concat, ← List.append_assoc,
    splitPath_trigger (getLast?_append_flatMap hpre) hlast htrigger, contextOf_flatMap hpre hnames]

/-- Only the last name may be other than ASCII. -/
theorem splitPath_joinWith_accent :
    CanPrecede "g(x.y, " ∧ (∀ n ∈ (["pkg", "mod_2"] : List Text), IsPathName n) ∧
      IsName "Größe" ∧
      splitPath "g(x.y, pkg.mod_2.Größe(" = (("pkg.mod_2" : Text), ("Größe" : Text)) := by
  have hpre : CanPrecede "g(x.y, " := forall_eq_some (d := ' ') (by decide) (by decide)
  have hfirst : IsPathName "pkg" := ⟨by decide, List.all_eq_true.mp (by decide +kernel)⟩
  have hsecond : IsPathName "mod_2" := ⟨by decide, List.all_eq_true.mp (by decide +kernel)⟩
  have hnames : ∀ n ∈ (["pkg", "mod_2"] : List Text), IsPathName n :=
    List.forall_mem_cons.mpr ⟨hfirst, List.forall_mem_singleton.mpr hsecond⟩
  have hlast : IsName "Größe" := ⟨by decide, List.all_eq_true.mp (by decide +kernel)⟩
  have htext : ("g(x.y, pkg.mod_2.Größe(" : Text) =
      "g(x.y, " ++ joinWith ['.'] ((["pkg", "mod_2"] : List Text) ++ [("Größe" : Text)]) ++
        ['('] := by decide +kernel
  refine ⟨hpre, hnames, hlast, ?_⟩
  rw [htext, splitPath_joinWith hpre hnames hlast (.inr (.inr rfl))]
  decide +kernel

end Signpost.Query
