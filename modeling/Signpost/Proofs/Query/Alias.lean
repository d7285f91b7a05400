import Signpost.Proofs.Session
set_option autoImplicit false

/-!
# Aliases

An alias may be typed for its canonical name, or for another alias of it, and hovering shows the
same: over the alias itself, and over a member of what it stands for.  The two are only told apart by
the list of blocked tokens, which is about tokens as they are typed (`Query.NameTable.Alike`).

Resolution looks at a token in no other way than through its canonical name and that list, so it
cannot tell such tokens apart, neither as the name that it looks up nor as the path before it
(`Query.resolve_eq_of_alike`).
-/

namespace Signpost

open Query Text

/-! ## Tokens for the same name -/

/-- Two tokens stand for the same name, and both are blocked as they are typed, or neither is. -/
structure Query.NameTable.Alike (names : NameTable) (t t' : Text) : Prop where
  canonical_eq : names.canonical t = names.canonical t'
  blocked_iff : t ∈ names.blockedAlias ↔ t' ∈ names.blockedAlias

namespace Query

variable {names : NameTable} {t t' context context' : Text}

theorem NameTable.Alike.refl (t : Text) : names.Alike t t := ⟨rfl, Iff.rfl⟩

theorem NameTable.Alike.isBlocked_eq (h : names.Alike t t') :
    names.isBlocked t (names.canonical t) = names.isBlocked t' (names.canonical t') := by
  have hcontains : names.blockedAlias.contains t = names.blockedAlias.contains t' := by
    rw [Bool.eq_iff_iff, List.contains_iff_mem, List.contains_iff_mem]
    exact h.blocked_iff
  unfold NameTable.isBlocked
  rw [hcontains, h.canonical_eq]

theorem NameTable.Alike.topLevel?_eq (h : names.Alike t t') (index : Index) :
    topLevel? index names t = topLevel? index names t' := by
  unfold topLevel?
  dsimp only
  rw [h.isBlocked_eq, h.canonical_eq]

/-- Tokens for the same name, after paths for the same name, stand for the same definition. -/
theorem resolve_eq_of_alike (ht : names.Alike t t') (hne : t ≠ []) (hne' : t' ≠ [])
    (hcontext : names.Alike context context') (index : Index) :
    resolve index names t context = resolve index names t' context' := by
  have hempty : t.isEmpty = t'.isEmpty := by
    rw [List.isEmpty_eq_false_iff.mpr hne, List.isEmpty_eq_false_iff.mpr hne']
  unfold resolve
  dsimp only
  rw [ht.topLevel?_eq, hcontext.topLevel?_eq, hempty, ht.isBlocked_eq, ht.canonical_eq]

end Query

/-! ## Hovering -/

namespace Session

/-- With this name table, hovering over a column of one line shows what hovering over a column of
the other does: over every index, and in every session, with all that it looks up and notes. -/
structure SameHover (names : NameTable) (line : Text) (column : Int) (line' : Text)
    (column' : Int) : Prop where
  hoverIn_eq : ∀ index, hoverIn index names line column = hoverIn index names line' column'
  hover_eq : ∀ files (s : Session), s.names = names →
    s.hover files line column = s.hover files line' column'

variable {names : NameTable} {pre post : Text}

/-- Words that are resolved alike show the same when hovered over. -/
theorem sameHover_of_resolve_eq {pre' word word' post' : Text}
    (hpre : ∀ c, pre.getLast? = some c → isWordChar c = false)
    (hpre' : ∀ c, pre'.getLast? = some c → isWordChar c = false)
    (hword : IsName word) (hword' : IsName word')
    (hpost : ∀ c, post.head? = some c → isWordChar c = false)
    (hpost' : ∀ c, post'.head? = some c → isWordChar c = false)
    (h : ∀ index, resolve index names word (contextOf pre) =
      resolve index names word' (contextOf pre'))
    {column column' : Int} (hstart : pre.length ≤ column)
    (hstop : column ≤ pre.length + word.length) (hstart' : pre'.length ≤ column')
    (hstop' : column' ≤ pre'.length + word'.length) :
    SameHover names (pre ++ (word ++ post)) column (pre' ++ (word' ++ post')) column' := by
  obtain ⟨hsome, hfound⟩ := definitionIn_word hpre hword hpost hstart hstop
  obtain ⟨hsome', hfound'⟩ := definitionIn_word hpre' hword' hpost' hstart' hstop'
  have hsame : ∀ index, hoverIn index names (pre ++ (word ++ post)) column =
      hoverIn index names (pre' ++ (word' ++ post')) column' := by
    intro index
    unfold hoverIn
    rw [hfound, hfound', h]
  refine ⟨hsame, ?_⟩
  rintro files s rfl
  unfold Session.hover ensuredAt
  rw [if_pos hsome, if_pos hsome']
  unfold Session.ensured
  cases s.store.ensured files with
  | error fault => rfl
  | ok built => exact congrArg (fun shown => Except.ok (_, shown, _)) (hsame built.1.current)

/-- A token may be typed for another one of the same name, wherever it stands: hovering over it shows
the same, and so does hovering over the word that follows it after a dot. -/
theorem hover_eq_of_alike (names : NameTable) {post : Text}
    (hpost : ∀ c, post.head? = some c → isWordChar c = false) :
    (∀ t t', IsName t → IsName t' → names.Alike t t' →
      ∀ pre, (∀ c, pre.getLast? = some c → isWordChar c = false) →
      ∀ column column' : Int, pre.length ≤ column → column ≤ (pre ++ t).length →
        pre.length ≤ column' → column' ≤ (pre ++ t').length →
        SameHover names (pre ++ t ++ post) column (pre ++ t' ++ post) column') ∧
    ∀ owner owner', (∀ c ∈ owner, isPathNameChar c = true) →
      (∀ c ∈ owner', isPathNameChar c = true) → names.Alike owner owner' →
      ∀ member, IsName member → ∀ pre, CanPrecede pre →
      ∀ column column' : Int, (pre ++ owner ++ ['.']).length ≤ column →
        column ≤ (pre ++ owner ++ ['.'] ++ member).length →
        (pre ++ owner' ++ ['.']).length ≤ column' →
        column' ≤ (pre ++ owner' ++ ['.'] ++ member).length →
        SameHover names (pre ++ owner ++ ['.'] ++ member ++ post) column
          (pre ++ owner' ++ ['.'] ++ member ++ post) column' := by
  constructor
  · intro t t' ht ht' halike pre hpre column column' hstart hstop hstart' hstop'
    rw [List.length_append, Int.natCast_add] at hstop hstop'
    rw [List.append_assoc, List.append_assoc]
    exact sameHover_of_resolve_eq hpre hpre ht ht' hpost hpost
      (resolve_eq_of_alike halike ht.ne_nil ht'.ne_nil (.refl _)) hstart hstop hstart' hstop'
  · intro owner owner' howner howner' halike member hmember pre hpre column column' hstart hstop
      hstart' hstop'
    rw [List.length_append, Int.natCast_add] at hstop hstop'
    have hcontext : ∀ path, (∀ c ∈ path, isPathNameChar c = true) →
        contextOf (pre ++ path ++ ['.']) = path := by
      intro path hpath
      refine contextOf_append (fun _ hc => hpre.isPathChar hc) (fun c hc => ?_)
      exact ⟨isPathChar_iff.mpr (.inl (hpath c hc)), ne_dot_of_isPathNameChar (hpath c hc)⟩
    rw [List.append_assoc _ member, List.append_assoc _ member]
    refine sameHover_of_resolve_eq (getLast?_concat_dot _) (getLast?_concat_dot _) hmember hmember
      hpost hpost ?_ hstart hstop hstart' hstop'
    rw [hcontext owner howner, hcontext owner' howner']
    exact resolve_eq_of_alike (.refl _) hmember.ne_nil hmember.ne_nil halike

/-- Two aliases of a class, and an alias of its method; a list that has only one of the aliases tells
them apart. -/
theorem hover_eq_of_alike_method :
    let names : NameTable :=
      { mapping := [("cs", "A"), ("k", "A"), ("g", "f")], blockedAlias := ["h"] }
    let source : Text := "class A:\n  def f(a): 0\n"
    let index : Index := .build {} [] source
    names.Alike "g" "f" ∧ names.Alike "cs" "k" ∧
      SameHover names "x = A.g + 1" 6 "x = A.f + 1" 7 ∧ SameHover names "(cs.g)" 4 "(k.g)" 3 ∧
      (hoverIn index names "(cs.g)" 4).map (·.signature) = some "def f(a)" ∧
      (hoverIn index { names with blockedAlias := ["k"] } "(cs.g)" 4).isSome ∧
      (hoverIn index { names with blockedAlias := ["k"] } "(k.g)" 3).isNone := by
  intro names source index
  have hmethod : names.Alike "g" "f" := ⟨by decide, by decide⟩
  have hclass : names.Alike "cs" "k" := ⟨by decide, by decide⟩
  have hname : ∀ c : Char, isWordChar c = true → IsName [c] :=
    fun c hc => ⟨List.cons_ne_nil c [], List.forall_mem_singleton.mpr hc⟩
  have hplus : ∀ c, (" + 1" : Text).head? = some c → isWordChar c = false :=
    forall_eq_some (d := ' ') (by decide) (by decide)
  have hclose : ∀ c, (")" : Text).head? = some c → isWordChar c = false :=
    forall_eq_some (d := ')') (by decide) (by decide)
  have hdot : ∀ c, ("x = A." : Text).getLast? = some c → isWordChar c = false :=
    forall_eq_some (d := '.') (by decide) (by decide)
  have hopen : CanPrecede "(" := forall_eq_some (d := '(') (by decide) (by decide)
  refine ⟨hmethod, hclass, ?_, ?_, by decide +kernel, by decide +kernel, by decide +kernel⟩
  · exact (hover_eq_of_alike names hplus).1 "g" "f" (hname 'g' (by decide)) (hname 'f' (by decide))
      hmethod "x = A." hdot 6 7 (by decide) (by decide) (by decide) (by decide)
  · exact (hover_eq_of_alike names hclose).2 "cs" "k" (List.all_eq_true.mp (by decide))
      (List.all_eq_true.mp (by decide)) hclass "g"
      (hname 'g' (by decide)) "(" hopen 4 3 (by decide) (by decide) (by decide) (by decide)

end Session

end Signpost
