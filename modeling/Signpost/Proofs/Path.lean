import Mathlib.Data.List.Induction
import Signpost.Path
import Signpost.Proofs.Text.Ends
import Signpost.Proofs.Text.Split
set_option autoImplicit false

/-!
# Paths as they are written

Reading a path drops what means nothing: empty names, and names of a single dot.  A path without
such names is normal.  Every path that was read is normal, and the normal paths are those that come
back when they are written and read again (`isNormal_iff`).

A text is a plain name if it is read as that one name (`isPlainName_iff`, `join_ofText`).  It may
still be `..`, which leads up: only without `..` a path stands for itself (`isResolved_iff`).
-/

namespace Signpost

open Text

/-- The slashes of an anchor are all that it is read by. -/
theorem Anchor.anchorOf_text_append (a : Anchor) {t : Text} (h : ∀ c, t.head? = some c → c ≠ '/') :
    Path.anchorOf (a.text ++ t) = a := by
  have hslashes : (a.text ++ t).takeWhile (· == '/') = a.text := by
    refine takeWhile_append_stop ?_ fun c hc => by simpa using h c hc
    cases a <;> simp [text]
  unfold Path.anchorOf
  rw [hslashes]
  cases a <;> rfl

namespace Path

/-- The names of the path are kept by reading: none of them is empty or a single dot, and none has a
slash. -/
def IsNormal (p : Path) : Prop := ∀ n ∈ p.names, n ≠ [] ∧ n ≠ ['.'] ∧ '/' ∉ n

instance (p : Path) : Decidable p.IsNormal :=
  inferInstanceAs (Decidable (∀ n ∈ p.names, _))

theorem isNormal_ofText (t : Text) : (ofText t).IsNormal := by
  intro n hn
  obtain ⟨hpiece, hkept⟩ := List.mem_filter.mp hn
  have hslash : '/' ∉ n := fun hmem => by simpa using (of_mem_splitAtEach hpiece _ hmem).1
  simp only [Bool.not_eq_true', Bool.or_eq_false_iff, beq_eq_false_iff_ne] at hkept
  exact ⟨hkept.1, hkept.2, hslash⟩

theorem namesOf_cons_slash (t : Text) : namesOf ('/' :: t) = namesOf t := by
  unfold namesOf
  rw [splitAtEach_cons_of_pos (p := (· == '/')) rfl]
  rfl

theorem namesOf_text_append (a : Anchor) (t : Text) : namesOf (a.text ++ t) = namesOf t := by
  cases a with
  | relative => rfl
  | root => exact namesOf_cons_slash t
  | doubleRoot => exact (namesOf_cons_slash _).trans (namesOf_cons_slash t)

theorem namesOf_joinWith {names : List Text} (h : ∀ n ∈ names, n ≠ [] ∧ n ≠ ['.'] ∧ '/' ∉ n) :
    namesOf (joinWith ['/'] names) = names := by
  cases names with
  | nil => rfl
  | cons n ns =>
    unfold namesOf
    rw [splitAtEach_joinWith fun m hm => (h m hm).2.2, List.filter_eq_self]
    intro m hm
    simp [(h m hm).1, (h m hm).2.1]

/-- What names are joined to does not begin with a slash. -/
theorem head?_joinWith_ne {names : List Text} (h : ∀ n ∈ names, n ≠ [] ∧ n ≠ ['.'] ∧ '/' ∉ n)
    {c : Char} (hc : (joinWith ['/'] names).head? = some c) : c ≠ '/' := by
  rintro rfl
  match names with
  | [] => simp [joinWith] at hc
  | [n] => exact (h n (by simp)).2.2 (List.mem_of_head? hc)
  | n :: m :: ns =>
    obtain ⟨hne, _, hslash⟩ := h n List.mem_cons_self
    have hjoin : joinWith ['/'] (n :: m :: ns) = n ++ ('/' :: joinWith ['/'] (m :: ns)) := by
      simp [joinWith]
    rw [hjoin, List.head?_append_of_ne_nil _ hne] at hc
    exact hslash (List.mem_of_head? hc)

/-- A normal path comes back when it is written and read. -/
theorem ofText_text {p : Path} (h : p.IsNormal) : ofText p.text = p := by
  obtain ⟨anchor, names⟩ := p
  have hwritten : ofText (anchor.text ++ joinWith ['/'] names) = ⟨anchor, names⟩ := by
    unfold ofText
    rw [anchor.anchorOf_text_append fun c hc => head?_joinWith_ne h hc, namesOf_text_append,
      namesOf_joinWith h]
  match anchor, names with
  | .relative, [] => rfl
  | .relative, _ :: _ => exact hwritten
  | .root, _ => exact hwritten
  | .doubleRoot, _ => exact hwritten

theorem isNormal_iff {p : Path} : p.IsNormal ↔ ofText p.text = p :=
  ⟨ofText_text, fun h => h ▸ isNormal_ofText _⟩

/-- The text of an absolute path begins with a slash. -/
theorem head?_text_of_isAbsolute {p : Path} (h : p.isAbsolute = true) :
    p.text.head? = some '/' := by
  obtain ⟨anchor, names⟩ := p
  cases anchor with
  | relative => simp [isAbsolute] at h
  | root => rfl
  | doubleRoot => rfl

/-! ## Plain names -/

theorem isPlainName_iff {t : Text} : isPlainName t = true ↔ t ≠ [] ∧ t ≠ ['.'] ∧ '/' ∉ t := by
  constructor
  · intro h
    simp only [isPlainName, lastName, Bool.and_eq_true, Bool.not_eq_true',
      List.isEmpty_eq_false_iff, beq_iff_eq] at h
    obtain ⟨hne, hlast⟩ := h
    cases hnames : (ofText t).names.getLast? with
    | none =>
      rw [hnames] at hlast
      exact absurd hlast.symm hne
    | some n =>
      rw [hnames] at hlast
      obtain rfl : n = t := hlast
      exact isNormal_ofText n n (List.mem_of_getLast? hnames)
  · intro h
    have hnames : namesOf (joinWith ['/'] [t]) = [t] := namesOf_joinWith (by simpa using h)
    rw [joinWith] at hnames
    simp [isPlainName, lastName, ofText, hnames, h.1]

theorem ofText_of_isPlainName {t : Text} (h : isPlainName t = true) :
    ofText t = ⟨.relative, [t]⟩ := by
  have hnormal : (⟨.relative, [t]⟩ : Path).IsNormal := by
    simpa [IsNormal] using isPlainName_iff.mp h
  exact ofText_text hnormal

/-- A plain name leads one name further. -/
theorem join_ofText {t : Text} (h : isPlainName t = true) (p : Path) :
    p.join (ofText t) = p.child t := by
  rw [ofText_of_isPlainName h]
  rfl

/-! ## What a path stands for -/

theorem collapse_concat (names : List Text) (n : Text) :
    collapse (names ++ [n]) =
      if n = parentName then (collapse names).dropLast else collapse names ++ [n] := by
  simp [collapse]

theorem collapse_eq_self {names : List Text} (h : parentName ∉ names) : collapse names = names := by
  induction names using List.reverseRecOn with
  | nil => rfl
  | append_singleton names n ih =>
    simp only [List.mem_append, List.mem_singleton, not_or] at h
    rw [collapse_concat, if_neg (Ne.symm h.2), ih h.1]

theorem not_mem_collapse (names : List Text) : parentName ∉ collapse names := by
  induction names using List.reverseRecOn with
  | nil => simp [collapse]
  | append_singleton names n ih =>
    rw [collapse_concat]
    split
    · exact fun h => ih (List.dropLast_subset _ h)
    · rename_i hn
      simpa [Ne.symm hn] using ih

/-- A path from the root without `..`. -/
def IsResolved (p : Path) : Prop := p.anchor = .root ∧ parentName ∉ p.names

instance (p : Path) : Decidable p.IsResolved := inferInstanceAs (Decidable (_ ∧ _))

theorem isResolved_resolve (directory p : Path) : (resolve directory p).IsResolved :=
  ⟨rfl, not_mem_collapse _⟩

theorem IsResolved.join_eq {p : Path} (h : p.IsResolved) (directory : Path) :
    join directory p = p := by
  simp [join, isAbsolute, h.1]

/-- The paths that stand for themselves. -/
theorem isResolved_iff {p : Path} (directory : Path) :
    p.IsResolved ↔ resolve directory p = p := by
  constructor
  · intro h
    rw [resolve, h.join_eq, collapse_eq_self h.2, ← h.1]
  · intro h
    exact h ▸ isResolved_resolve directory p

theorem names_join_child (directory p : Path) (n : Text) :
    (join directory (p.child n)).names = (join directory p).names ++ [n] := by
  unfold join
  by_cases habsolute : p.isAbsolute = true
  · have hchild : (p.child n).isAbsolute = true := habsolute
    rw [if_pos habsolute, if_pos hchild]
    rfl
  · have hchild : ¬ (p.child n).isAbsolute = true := habsolute
    rw [if_neg habsolute, if_neg hchild]
    exact (List.append_assoc _ _ _).symm

/-- A name leads one name further, but for `..`. -/
theorem resolve_child (directory p : Path) (n : Text) :
    resolve directory (p.child n) =
      if n = parentName then (resolve directory p).parent else (resolve directory p).child n := by
  unfold resolve
  rw [names_join_child, collapse_concat]
  split <;> rfl

theorem IsResolved.parent {p : Path} (h : p.IsResolved) : p.parent.IsResolved :=
  ⟨h.1, fun hmem => h.2 (List.dropLast_subset _ hmem)⟩

/-- The path `p` leads further down than `q`. -/
def IsInside (p q : Path) : Prop := p.anchor = q.anchor ∧ q.names <+: p.names ∧ q.names ≠ p.names

instance (p q : Path) : Decidable (p.IsInside q) := inferInstanceAs (Decidable (_ ∧ _ ∧ _))

theorem isInside_child_child (p : Path) (n m : Text) : ((p.child n).child m).IsInside p :=
  ⟨rfl, ⟨[n, m], by simp [child]⟩, fun h => by simpa [child] using congrArg List.length h⟩

/-- A path beside another one is inside it only at the root, which has no paths beside it. -/
theorem isInside_parent_child_iff {p : Path} {n : Text} :
    (p.parent.child n).IsInside p ↔ p.names = [] := by
  constructor
  · rintro ⟨_, habove, hne⟩
    by_contra hnames
    refine hne (habove.eq_of_length ?_)
    have hlength := List.length_pos_of_ne_nil hnames
    simp only [child, parent, List.length_append, List.length_dropLast, List.length_singleton]
    omega
  · intro hnames
    exact ⟨rfl, by simp [hnames], by simp [hnames, child]⟩

end Path

end Signpost
