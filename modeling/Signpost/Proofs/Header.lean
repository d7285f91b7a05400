import Signpost.Block
import Signpost.Header
import Signpost.Proofs.Dialect
import Signpost.Proofs.Text.Ends
set_option autoImplicit false

/-!
# Headers of lines and of blocks

A header is read twice: on its own line, to find it, and in the trimmed block that it starts, to
know what it says.  Both readings begin with a keyword, blanks and a name, and they begin alike: what
the line says about kind and name the block says too (`parse?_block`).

In a valid dialect a text begins with at most one of the two keywords, so there is one rule for both
kinds (`start?_eq_some_iff`, `parse?_eq_some_iff`).
-/

namespace Signpost

open Text

theorem Text.afterPrefix?_eq_some_iff {p t rest : Text} :
    afterPrefix? p t = some rest ↔ t = p ++ rest := by
  induction p generalizing t with
  | nil => simp [afterPrefix?, eq_comm]
  | cons a p ih =>
    cases t with
    | nil => simp [afterPrefix?]
    | cons b t =>
      by_cases h : a = b
      · simp [afterPrefix?, h, ih]
      · simp [afterPrefix?, h, Ne.symm h]

namespace Header

/-! ## Keyword and name -/

/-- A text begins with a keyword, blanks and a name, and the name ends where `rest` begins. -/
structure Begins (keyword name rest t : Text) : Prop where
  exists_gap : ∃ gap, t = keyword ++ gap ++ name ++ rest ∧ gap ≠ [] ∧ ∀ c ∈ gap, isBlank c = true
  name_ne : name ≠ []
  isWordChar_name : ∀ c ∈ name, isWordChar c = true
  stops : ∀ c, rest.head? = some c → isWordChar c = false

theorem Begins.getLast?_name {keyword name rest t : Text} (h : Begins keyword name rest t)
    {c : Char} (hc : name.getLast? = some c) : isBlank c = false :=
  not_isBlank_of_isWordChar (h.isWordChar_name c (List.mem_of_getLast? hc))

theorem begins_of_named? {keyword name rest t : Text} (h : named? keyword t = some (name, rest)) :
    Begins keyword name rest t := by
  unfold named? at h
  split at h
  · simp at h
  · rename_i after hafter
    rw [afterPrefix?_eq_some_iff] at hafter
    split at h
    · simp at h
    · rename_i c cs
      split at h
      · rename_i hblank
        dsimp only at h
        split at h
        · simp at h
        · rename_i w ws hword
          obtain ⟨rfl, rfl⟩ := Prod.mk.inj (Option.some.inj h)
          have hgap : (c :: cs).takeWhile isBlank ++ trimLeft (c :: cs) = c :: cs :=
            List.takeWhile_append_dropWhile
          have hname : (w :: ws) ++ (trimLeft (c :: cs)).dropWhile isWordChar =
              trimLeft (c :: cs) := by
            rw [← hword]
            exact List.takeWhile_append_dropWhile
          refine ⟨⟨(c :: cs).takeWhile isBlank, ?_, by simp [hblank], ?_⟩, by simp, ?_, ?_⟩
          · rw [List.append_assoc, hname, List.append_assoc, hgap, hafter]
          · exact fun d hd => List.mem_takeWhile_imp hd
          · intro d hd
            rw [← hword] at hd
            exact List.mem_takeWhile_imp hd
          · exact fun d hd => of_head?_dropWhile hd
      · simp at h

theorem Begins.named? {keyword name rest t : Text} (h : Begins keyword name rest t) :
    named? keyword t = some (name, rest) := by
  obtain ⟨gap, ht, hne, hgap⟩ := h.exists_gap
  have hafter : afterPrefix? keyword t = some (gap ++ (name ++ rest)) := by
    rw [afterPrefix?_eq_some_iff, ht]
    simp
  have hnameHead : ∀ c, (name ++ rest).head? = some c → isBlank c = false := by
    intro c hc
    cases hn : name with
    | nil => exact absurd hn h.name_ne
    | cons d ds =>
      rw [hn] at hc
      have hd : d = c := by simpa using hc
      exact not_isBlank_of_isWordChar (h.isWordChar_name c (by simp [hn, hd]))
  have htrim : trimLeft (gap ++ (name ++ rest)) = name ++ rest :=
    dropWhile_append_stop hgap hnameHead
  have hword : leadingWord (name ++ rest) = name := takeWhile_append_stop h.isWordChar_name h.stops
  have hdrop : (name ++ rest).dropWhile isWordChar = rest :=
    dropWhile_append_stop h.isWordChar_name h.stops
  unfold Header.named?
  rw [hafter]
  cases hg : gap with
  | nil => exact absurd hg hne
  | cons b bs =>
    have hb : isBlank b = true := hgap b (by simp [hg])
    rw [hg] at htrim
    simp only [List.cons_append, hb, if_true] at htrim ⊢
    rw [htrim, hword, hdrop]
    cases hn : name with
    | nil => exact absurd hn h.name_ne
    | cons w ws => rfl

/-- Keywords without blanks that a text can begin with are the same. -/
theorem Begins.keyword_eq {k k' n n' r r' t : Text} (h : Begins k n r t) (h' : Begins k' n' r' t)
    (hk : ∀ c ∈ k, isBlank c = false) (hk' : ∀ c ∈ k', isBlank c = false) : k = k' := by
  have hcut : ∀ {k n r : Text}, Begins k n r t → (∀ c ∈ k, isBlank c = false) →
      t.takeWhile (fun c => !isBlank c) = k := by
    intro k n r h hk
    obtain ⟨gap, ht, hne, hgap⟩ := h.exists_gap
    rw [ht, List.append_assoc, List.append_assoc]
    refine takeWhile_append_stop (by simpa using hk) ?_
    intro c hc
    cases gap with
    | nil => exact absurd rfl hne
    | cons b bs =>
      have hb : b = c := by simpa using hc
      simp [← hb, hgap b (by simp)]
  rw [← hcut h hk, hcut h' hk']

end Header

/-! ## The two kinds -/

theorem Dialect.Valid.not_isBlank {d : Dialect} (h : d.Valid) (kind : Kind) :
    d.keyword kind ≠ [] ∧ ∀ c ∈ d.keyword kind, isBlank c = false := by
  cases kind with
  | func => exact not_isBlank_of_isIdentifier h.functionKeyword
  | cls => exact not_isBlank_of_isIdentifier h.classKeyword

/-- The keyword that a text begins with tells the kind. -/
theorem Header.Begins.kind_eq {d : Dialect} (valid : d.Valid) {kind kind' : Kind}
    {n n' r r' t : Text} (h : Begins (d.keyword kind) n r t)
    (h' : Begins (d.keyword kind') n' r' t) :
    kind = kind' := by
  have hkeyword := h.keyword_eq h' (valid.not_isBlank kind).2 (valid.not_isBlank kind').2
  cases kind <;> cases kind'
  · rfl
  · exact absurd hkeyword valid.distinct
  · exact absurd hkeyword.symm valid.distinct
  · rfl

namespace Header

/-- The parameter text of a header of some kind, from what follows its name. -/
def parameterText? : Kind → Text → Option Text
  | .func => functionParameters?
  | .cls => classParameters?

/-- A header starts on a line when the trimmed line begins with the keyword of its kind. -/
theorem start?_eq_some_iff {d : Dialect} (valid : d.Valid) {line name : Text} {kind : Kind} :
    start? d line = some (kind, name) ↔
      ∃ rest, Begins (d.keyword kind) name rest (trimLeft line) := by
  unfold start?
  constructor
  · intro h
    split at h
    · rename_i n r hfunc
      obtain ⟨rfl, rfl⟩ := Prod.mk.inj (Option.some.inj h)
      exact ⟨r, begins_of_named? hfunc⟩
    · split at h
      · rename_i n r hcls
        obtain ⟨rfl, rfl⟩ := Prod.mk.inj (Option.some.inj h)
        exact ⟨r, begins_of_named? hcls⟩
      · simp at h
  · rintro ⟨rest, hbegins⟩
    cases kind with
    | func =>
      have hfunc : named? d.functionKeyword (trimLeft line) = some (name, rest) := hbegins.named?
      rw [hfunc]
    | cls =>
      have hcls : named? d.classKeyword (trimLeft line) = some (name, rest) := hbegins.named?
      cases hfunc : named? d.functionKeyword (trimLeft line) with
      | none => rw [hcls]
      | some p =>
        have hother : Begins (d.keyword .func) p.1 p.2 (trimLeft line) := begins_of_named? hfunc
        exact absurd (hother.kind_eq valid hbegins) (by simp)

/-- A block's header is read when the block begins with the keyword of its kind and parameters
follow. -/
theorem parse?_eq_some_iff {d : Dialect} (valid : d.Valid) {source : Text} {h : Header} :
    parse? d source = some h ↔
      ∃ rest, Begins (d.keyword h.kind) h.name rest source ∧
        parameterText? h.kind rest = some h.parameterText := by
  unfold parse?
  constructor
  · intro hp
    split at hp
    · rename_i n r hfunc
      obtain ⟨t, ht, rfl⟩ := Option.map_eq_some_iff.mp hp
      exact ⟨r, begins_of_named? hfunc, ht⟩
    · split at hp
      · rename_i n r hcls
        obtain ⟨t, ht, rfl⟩ := Option.map_eq_some_iff.mp hp
        exact ⟨r, begins_of_named? hcls, ht⟩
      · simp at hp
  · obtain ⟨kind, name, text⟩ := h
    rintro ⟨rest, hbegins, htext⟩
    cases kind with
    | func =>
      have hfunc : named? d.functionKeyword source = some (name, rest) := hbegins.named?
      have htext : functionParameters? rest = some text := htext
      simp [hfunc, htext]
    | cls =>
      have hcls : named? d.classKeyword source = some (name, rest) := hbegins.named?
      have htext : classParameters? rest = some text := htext
      cases hfunc : named? d.functionKeyword source with
      | none => simp [hcls, htext]
      | some p =>
        have hother : Begins (d.keyword .func) p.1 p.2 source := begins_of_named? hfunc
        exact absurd (hother.kind_eq valid hbegins) (by simp)

/-- What a text begins with is its header, as far as the parameters can be read. -/
theorem Begins.parse?_eq {d : Dialect} (valid : d.Valid) {kind : Kind} {name rest source : Text}
    (h : Begins (d.keyword kind) name rest source) :
    parse? d source = (parameterText? kind rest).map (⟨kind, name, ·⟩) := by
  ext header
  rw [parse?_eq_some_iff valid, Option.map_eq_some_iff]
  constructor
  · rintro ⟨rest', hheader, htext⟩
    have hkind := hheader.kind_eq valid h
    rw [hkind] at hheader htext
    obtain ⟨hname, hrest⟩ := Prod.mk.inj (Option.some.inj (hheader.named?.symm.trans h.named?))
    rw [hrest] at htext
    refine ⟨header.parameterText, htext, ?_⟩
    rw [← hkind, ← hname]
  · rintro ⟨t, htext, rfl⟩
    exact ⟨rest, h, htext⟩

/-! ## From the line to the block -/

/-- A block is its header line and a rest that starts with a line feed, if there is a rest. -/
theorem exists_text_eq_append (line : Text) (following : List Text) :
    ∃ more, Block.text line following = line ++ more ∧
      ∀ c, more.head? = some c → c = '\n' := by
  unfold Block.text Block.linesOf unlines
  cases following.takeWhile (Block.stays (indentation line)) with
  | nil => exact ⟨[], by simp [joinWith], by simp⟩
  | cons l ls => exact ⟨'\n' :: joinWith ['\n'] (l :: ls), by simp [joinWith], by simp [eq_comm]⟩

/-- A trimmed block begins as its trimmed header line does. -/
theorem Begins.block {keyword name rest line : Text}
    (h : Begins keyword name rest (trimLeft line)) (following : List Text) :
    ∃ rest', Begins keyword name rest' (trim (Block.text line following)) := by
  obtain ⟨gap, hline, hne, hgap⟩ := h.exists_gap
  obtain ⟨more, hblock, hmore⟩ := exists_text_eq_append line following
  have hnonempty : trimLeft line ≠ [] := by
    rw [hline]
    simp [h.name_ne]
  have hleft : trimLeft (line ++ more) = trimLeft line ++ more := by
    unfold trimLeft at hnonempty ⊢
    rw [List.dropWhile_append, if_neg (by simpa using hnonempty)]
  have hlast : ∀ c, (keyword ++ gap ++ name).getLast? = some c → isBlank c = false := by
    intro c hc
    rw [List.getLast?_append_of_ne_nil _ h.name_ne] at hc
    exact h.getLast?_name hc
  have hright : trim (Block.text line following) =
      keyword ++ gap ++ name ++ trimRight (rest ++ more) := by
    unfold trim trimRight
    rw [hblock, hleft, hline, List.append_assoc _ rest more, dropWhileEnd_append_left hlast]
  refine ⟨trimRight (rest ++ more),
    { exists_gap := ⟨gap, hright, hne, hgap⟩
      name_ne := h.name_ne
      isWordChar_name := h.isWordChar_name
      stops := ?_ }⟩
  intro c hc
  have hhead := head?_of_head?_dropWhileEnd hc
  cases hr : rest with
  | nil =>
    rw [hr] at hhead
    rw [hmore c hhead]
    decide
  | cons r rs =>
    rw [hr] at hhead
    exact h.stops c (by rw [hr]; exact hhead)

/-- What a block's header says about kind and name is what its line says. -/
theorem parse?_block {d : Dialect} (valid : d.Valid) {line name : Text} {kind : Kind}
    (hstart : start? d line = some (kind, name)) (following : List Text) {h : Header}
    (hparse : parse? d (trim (Block.text line following)) = some h) :
    h.kind = kind ∧ h.name = name := by
  obtain ⟨rest, hline⟩ := (start?_eq_some_iff valid).mp hstart
  obtain ⟨rest', hbegins⟩ := hline.block following
  obtain ⟨_, hheader, _⟩ := (parse?_eq_some_iff valid).mp hparse
  have hkind := hheader.kind_eq valid hbegins
  rw [hkind] at hheader
  have hsame := hheader.named?.symm.trans hbegins.named?
  exact ⟨hkind, (Prod.mk.inj (Option.some.inj hsame)).1⟩

end Header

end Signpost
