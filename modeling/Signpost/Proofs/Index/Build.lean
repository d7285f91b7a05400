import Signpost.Proofs.Index.Outline
import Signpost.Proofs.Index.Step
set_option autoImplicit false

/-!
# One pass gives the outline

After `m` lines the builder holds the outline of these lines: its index is that of the headers so
far (`indexBefore`), and its open blocks are the headers so far whose blocks have not ended
(`openLines`).  One line keeps this (`Before.step`), and so the whole pass does.

Two facts about blocks carry the step.  Open blocks are nested, each deeper than the ones around it,
so closing from the innermost outwards closes just the blocks that end.  And a header is a method of
a class exactly when the class is the only header whose block it lies in (`isMethod_iff`).
-/

namespace Signpost.Index

open Text

variable (d : Dialect) (blocked : List Text) (ls : List Text)

/-! ## Open blocks -/

/-- The headers among the first `m` lines whose blocks reach line `m`. -/
def openLines (m : Nat) : List Nat :=
  (List.range m).filter fun k => (headerAt d ls k).isSome && decide (IsOpen ls k m)

/-- The headers before line `m` in whose blocks line `m` lies. -/
def enclosingLines (m : Nat) : List Nat :=
  (List.range m).filter fun k => (headerAt d ls k).isSome && decide (InBlock ls k m)

/-- The block of line `k` as the builder keeps it: a class at the left margin owns it. -/
def openBlockAt (k : Nat) : OpenBlock :=
  ⟨indentation (lineAt ls k),
    if indentation (lineAt ls k) = 0 ∧ (definitionAt d blocked ls k).kind = some .cls then
      some (nameAt d ls k)
    else none⟩

/-- The definition of line `i` with the methods among the first `m` lines, if it is a class. -/
def classBefore (m i : Nat) : Definition :=
  if (definitionAt d blocked ls i).kind = some .cls then
    { definitionAt d blocked ls i with children := some (methodsAt d blocked ls m i) }
  else definitionAt d blocked ls i

/-- The index of the first `m` lines, before classes adopt parameters. -/
def indexBefore (m : Nat) : Index :=
  Table.latest ((topLines d ls m).map fun i => (nameAt d ls i, classBefore d blocked ls m i))

variable {d blocked ls}

theorem mem_openLines {m k : Nat} :
    k ∈ openLines d ls m ↔ k < m ∧ (headerAt d ls k).isSome = true ∧ IsOpen ls k m := by
  simp [openLines]

theorem mem_enclosingLines {m k : Nat} :
    k ∈ enclosingLines d ls m ↔ (headerAt d ls k).isSome = true ∧ InBlock ls k m := by
  simp only [enclosingLines, List.mem_filter, List.mem_range, Bool.and_eq_true, decide_eq_true_eq]
  exact ⟨fun h => h.2, fun h => ⟨h.2.1, h⟩⟩

theorem mem_topLines {m k : Nat} :
    k ∈ topLines d ls m ↔
      k < m ∧ (headerAt d ls k).isSome = true ∧ indentation (lineAt ls k) = 0 := by
  simp [topLines]

/-- A line with a header is not blank. -/
theorem not_isBlankText_of_headerAt (valid : d.Valid) {k : Nat}
    (h : (headerAt d ls k).isSome = true) : isBlankText (lineAt ls k) = false := by
  obtain ⟨⟨kind, name⟩, hstart⟩ := Option.isSome_iff_exists.mp h
  obtain ⟨rest, hbegins⟩ := (Header.start?_eq_some_iff valid).mp hstart
  obtain ⟨gap, hline, _, _⟩ := hbegins.exists_gap
  cases hb : isBlankText (lineAt ls k) with
  | false => rfl
  | true =>
    have hnil : trimLeft (lineAt ls k) = [] := by
      rw [trimLeft, List.dropWhile_eq_nil_iff]
      exact List.all_eq_true.mp hb
    rw [hnil] at hline
    exact absurd hline.symm (by simp [hbegins.name_ne])

theorem headerAt_of_blank (valid : d.Valid) {k : Nat} (h : isBlankText (lineAt ls k) = true) :
    headerAt d ls k = none := by
  cases hheader : headerAt d ls k with
  | none => rfl
  | some p =>
    rw [not_isBlankText_of_headerAt valid (by simp [hheader])] at h
    exact absurd h (by simp)

/-- Open blocks are nested, so the later ones are deeper. -/
theorem pairwise_openLines (valid : d.Valid) (m : Nat) :
    (openLines d ls m).Pairwise fun k k' =>
      indentation (lineAt ls k) < indentation (lineAt ls k') := by
  have hsorted : (openLines d ls m).Pairwise (· < ·) :=
    List.Pairwise.filter _ List.pairwise_lt_range
  apply hsorted.imp_of_mem
  intro k k' hk hk' hlt
  obtain ⟨_, _, hopen⟩ := mem_openLines.mp hk
  obtain ⟨hlt', hheader', _⟩ := mem_openLines.mp hk'
  by_contra hdeep
  exact hopen k' hlt' ⟨hlt, not_isBlankText_of_headerAt valid hheader', by omega⟩

/-- On a list that falls, dropping what is high from the front leaves what is low. -/
theorem dropWhile_eq_filter {α : Type} {f : α → Nat} (bound : Nat) {l : List α}
    (h : l.Pairwise fun a b => f b < f a) :
    l.dropWhile (bound ≤ f ·) = l.filter (f · < bound) := by
  induction l with
  | nil => rfl
  | cons a l ih =>
    obtain ⟨ha, hl⟩ := List.pairwise_cons.mp h
    by_cases hb : bound ≤ f a
    · rw [List.dropWhile_cons_of_pos (by simpa using hb), ih hl,
        List.filter_cons_of_neg (by simpa using hb)]
    · have hall : ∀ b ∈ a :: l, decide (f b < bound) = true := by
        intro b hmem
        rcases List.mem_cons.mp hmem with rfl | hmem
        · simpa using hb
        · have := ha b hmem
          simp only [decide_eq_true_eq]
          omega
      rw [List.dropWhile_cons_of_neg (by simpa using hb), List.filter_eq_self.mpr hall]

/-- Closing the blocks that are as deep as a line leaves the blocks that the line lies in. -/
theorem dropWhile_openLines (valid : d.Valid) (blocked : List Text) {m : Nat}
    (hm : isBlankText (lineAt ls m) = false) :
    ((openLines d ls m).reverse.map (openBlockAt d blocked ls)).dropWhile
        (indentation (lineAt ls m) ≤ ·.depth) =
      (enclosingLines d ls m).reverse.map (openBlockAt d blocked ls) := by
  have hfalling : (openLines d ls m).reverse.Pairwise fun k k' =>
      indentation (lineAt ls k') < indentation (lineAt ls k) := by
    rw [List.pairwise_reverse]
    exact pairwise_openLines valid m
  have hdrop := dropWhile_eq_filter (indentation (lineAt ls m)) hfalling
  rw [List.dropWhile_map]
  have hcomp : (fun b : OpenBlock => decide (indentation (lineAt ls m) ≤ b.depth)) ∘
      openBlockAt d blocked ls =
        fun k => decide (indentation (lineAt ls m) ≤ indentation (lineAt ls k)) := rfl
  rw [hcomp, hdrop, List.filter_reverse]
  congr 2
  unfold openLines enclosingLines
  rw [List.filter_filter]
  apply List.filter_congr
  intro k hk
  have hlt : k < m := List.mem_range.mp hk
  have hends : Ends ls k m ↔ indentation (lineAt ls m) ≤ indentation (lineAt ls k) := by
    simp [Ends, hlt, hm]
  have hin : InBlock ls k m ↔ IsOpen ls k m ∧
      indentation (lineAt ls k) < indentation (lineAt ls m) := by
    rw [inBlock_iff, isOpen_succ_iff, hends, Nat.not_le]
    exact ⟨fun h => h.2, fun h => ⟨hlt, h⟩⟩
  cases (headerAt d ls k).isSome with
  | false => simp
  | true => simp [hin, Bool.and_comm]

/-- A blank line ends no block. -/
theorem openLines_succ_of_blank (valid : d.Valid) {m : Nat}
    (hm : isBlankText (lineAt ls m) = true) : openLines d ls (m + 1) = openLines d ls m := by
  have hheader := headerAt_of_blank valid hm
  unfold openLines
  rw [List.range_succ, List.filter_append]
  have hlast : [m].filter (fun k => (headerAt d ls k).isSome && decide (IsOpen ls k (m + 1))) =
      [] := by
    simp [hheader]
  rw [hlast, List.append_nil]
  apply List.filter_congr
  intro k _
  have hends : ¬ Ends ls k m := by simp [Ends, hm]
  simp [isOpen_succ_iff, hends]

/-- After a line the blocks are open that it lies in, and its own if it is a header. -/
theorem openLines_succ {m : Nat} :
    openLines d ls (m + 1) =
      enclosingLines d ls m ++ if (headerAt d ls m).isSome then [m] else [] := by
  unfold openLines enclosingLines
  rw [List.range_succ, List.filter_append]
  congr 1
  · apply List.filter_congr
    intro k hk
    simp [inBlock_iff, List.mem_range.mp hk]
  · have hopen : IsOpen ls m (m + 1) := by
      rintro i hi ⟨hlt, _⟩
      omega
    cases h : (headerAt d ls m).isSome <;> simp [h, hopen]

/-! ## Methods -/

/-- A header at the left margin ends every block before it. -/
theorem ends_of_topLine (valid : d.Valid) {i k m : Nat} (hi : i ∈ topLines d ls m) (hlt : k < i) :
    Ends ls k i := by
  obtain ⟨_, hheader, hdepth⟩ := mem_topLines.mp hi
  exact ⟨hlt, not_isBlankText_of_headerAt valid hheader, by omega⟩

/-- A header is a method of a class when it is a function's and lies in the block of that class
alone. -/
theorem isMethod_iff (valid : d.Valid) {i m : Nat} (hi : i ∈ topLines d ls m) :
    IsMethod d ls i m ↔
      (headerAt d ls m).map Prod.fst = some .func ∧ enclosingLines d ls m = [i] := by
  have htop := mem_topLines.mp hi
  constructor
  · rintro ⟨hin, hkind, hbetween⟩
    refine ⟨hkind, ?_⟩
    have hall : ∀ k ∈ enclosingLines d ls m, k = i := by
      intro k hk
      obtain ⟨hheader, hblock⟩ := mem_enclosingLines.mp hk
      rcases Nat.lt_trichotomy k i with hlt | heq | hgt
      · exact absurd (ends_of_topLine valid hi hlt) (hblock.2 i (Nat.le_of_lt hin.1))
      · exact heq
      · exact absurd hblock (hbetween k hblock.1 hgt hheader)
    have hmem : i ∈ enclosingLines d ls m := mem_enclosingLines.mpr ⟨htop.2.1, hin⟩
    have hnodup : (enclosingLines d ls m).Nodup := List.nodup_range.filter _
    cases hlines : enclosingLines d ls m with
    | nil => rw [hlines] at hmem; simp at hmem
    | cons k rest =>
      rw [hlines] at hall hnodup
      have hk : k = i := hall k (by simp)
      have hrest : rest = [] := by
        cases rest with
        | nil => rfl
        | cons k' rest =>
          have hk' : k' = i := hall k' (by simp)
          simp [hk, hk'] at hnodup
      rw [hk, hrest]
  · rintro ⟨hkind, hlines⟩
    have hmem : i ∈ enclosingLines d ls m := by rw [hlines]; simp
    refine ⟨(mem_enclosingLines.mp hmem).2, hkind, ?_⟩
    intro k _ hgt hheader hblock
    have hk : k ∈ enclosingLines d ls m := mem_enclosingLines.mpr ⟨hheader, hblock⟩
    rw [hlines] at hk
    have : k = i := by simpa using hk
    omega

/-- The header in whose block a line lies, and which stands at the left margin, is the last one at
the left margin. -/
theorem topLines_eq_of_inBlock (valid : d.Valid) {i m : Nat} (hi : i ∈ topLines d ls m)
    (hin : InBlock ls i m) : topLines d ls m = topLines d ls i ++ [i] := by
  obtain ⟨hlt, hheader, hdepth⟩ := mem_topLines.mp hi
  have hnone : ∀ n, i + 1 + n ≤ m → topLines d ls (i + 1 + n) = topLines d ls i ++ [i] := by
    intro n
    induction n with
    | zero =>
      intro _
      simp [topLines, List.range_succ, hheader, hdepth]
    | succ n ih =>
      intro hle
      have hnot : i + 1 + n ∉ topLines d ls m := fun hmem =>
        hin.2 _ (by omega) (ends_of_topLine valid hmem (by omega))
      have hlast : [i + 1 + n].filter (fun k => (headerAt d ls k).isSome &&
          indentation (lineAt ls k) == 0) = [] := by
        apply List.filter_eq_nil_iff.mpr
        intro k hk hp
        rw [List.mem_singleton.mp hk] at hp
        exact hnot (List.mem_filter.mpr ⟨List.mem_range.mpr (by omega), hp⟩)
      rw [← Nat.add_assoc, topLines, List.range_succ, List.filter_append, hlast, List.append_nil]
      exact ih (by omega)
  have := hnone (m - (i + 1)) (by omega)
  rwa [show i + 1 + (m - (i + 1)) = m by omega] at this

theorem topLines_succ (m : Nat) :
    topLines d ls (m + 1) = topLines d ls m ++
      if (headerAt d ls m).isSome && indentation (lineAt ls m) == 0 then [m] else [] := by
  unfold topLines
  rw [List.range_succ, List.filter_append, List.filter_singleton, cond_eq_ite]

theorem methodLines_succ (m i : Nat) :
    methodLines d ls (m + 1) i =
      methodLines d ls m i ++ if IsMethod d ls i m then [m] else [] := by
  unfold methodLines
  rw [List.range_succ, List.filter_append, List.filter_singleton]
  simp

/-- A line that is no method of a class leaves the class as it was. -/
theorem classBefore_succ_of_not_isMethod {m i : Nat}
    (h : (definitionAt d blocked ls i).kind = some .cls → ¬ IsMethod d ls i m) :
    classBefore d blocked ls (m + 1) i = classBefore d blocked ls m i := by
  unfold classBefore
  by_cases hkind : (definitionAt d blocked ls i).kind = some .cls
  · rw [if_pos hkind, if_pos hkind, methodsAt, methodLines_succ, if_neg (h hkind), List.append_nil,
      methodsAt]
  · rw [if_neg hkind, if_neg hkind]

/-- A method is put into its class. -/
theorem classBefore_succ_of_isMethod {m i : Nat}
    (hkind : (definitionAt d blocked ls i).kind = some .cls) (h : IsMethod d ls i m) :
    classBefore d blocked ls (m + 1) i =
      (classBefore d blocked ls m i).withChild (nameAt d ls m) (definitionAt d blocked ls m) := by
  have hmethods : methodsAt d blocked ls (m + 1) i =
      Table.insert (methodsAt d blocked ls m i) (nameAt d ls m) (definitionAt d blocked ls m) := by
    rw [methodsAt, methodLines_succ, if_pos h, List.map_append, List.map_singleton,
      Table.latest_concat, methodsAt]
  unfold classBefore
  rw [if_pos hkind, if_pos hkind, hmethods]
  rfl

/-- A class has no methods before its own line is over. -/
theorem classBefore_self (i : Nat) :
    classBefore d blocked ls (i + 1) i = definitionAt d blocked ls i := by
  have hnone : methodLines d ls (i + 1) i = [] := by
    apply List.filter_eq_nil_iff.mpr
    intro j hj hmethod
    have hlt := (of_decide_eq_true hmethod).1.1
    have := List.mem_range.mp hj
    omega
  unfold classBefore
  split
  · rename_i hkind
    have hchildren : (definitionAt d blocked ls i).children = some [] :=
      (Definition.children_ofBlock d blocked ((Block.at? ls i).getD [])).trans (if_pos hkind)
    have hmethods : methodsAt d blocked ls (i + 1) i = [] := by
      rw [methodsAt, hnone]
      rfl
    rw [hmethods, ← hchildren]
    cases definitionAt d blocked ls i
    rfl
  · rfl

/-! ## The index so far -/

/-- A line that is no header at the left margin and no method leaves the index as it was. -/
theorem indexBefore_succ_of_other {m : Nat}
    (htop : ¬ ((headerAt d ls m).isSome = true ∧ indentation (lineAt ls m) = 0))
    (hmethod : ∀ i ∈ topLines d ls m, (definitionAt d blocked ls i).kind = some .cls →
      ¬ IsMethod d ls i m) :
    indexBefore d blocked ls (m + 1) = indexBefore d blocked ls m := by
  unfold indexBefore
  rw [topLines_succ, if_neg (by simpa using htop), List.append_nil]
  congr 1
  apply List.map_congr_left
  intro i hi
  rw [classBefore_succ_of_not_isMethod (hmethod i hi)]

/-- A header at the left margin puts its definition into the index. -/
theorem indexBefore_succ_of_top (valid : d.Valid) {m : Nat}
    (hheader : (headerAt d ls m).isSome = true) (hdepth : indentation (lineAt ls m) = 0) :
    indexBefore d blocked ls (m + 1) =
      Table.insert (indexBefore d blocked ls m) (nameAt d ls m) (definitionAt d blocked ls m) := by
  have hmem : m ∈ topLines d ls (m + 1) := mem_topLines.mpr ⟨Nat.lt_succ_self m, hheader, hdepth⟩
  have hsame : ∀ i ∈ topLines d ls m,
      (nameAt d ls i, classBefore d blocked ls (m + 1) i) =
        (nameAt d ls i, classBefore d blocked ls m i) := by
    intro i hi
    have hlt := (mem_topLines.mp hi).1
    rw [classBefore_succ_of_not_isMethod fun _ hmethod =>
      hmethod.1.2 m (Nat.le_refl m) (ends_of_topLine valid hmem hlt)]
  unfold indexBefore
  rw [topLines_succ, if_pos (by simp [hheader, hdepth]), List.map_append, List.map_singleton,
    Table.latest_concat, List.map_congr_left hsame, classBefore_self]

/-- A method is put into its class in the index: the class was entered last, so it is the one found
under its name. -/
theorem indexBefore_succ_of_method (valid : d.Valid) {m i : Nat} (hi : i ∈ topLines d ls m)
    (hkind : (definitionAt d blocked ls i).kind = some .cls) (hmethod : IsMethod d ls i m)
    (hdepth : indentation (lineAt ls m) ≠ 0) :
    indexBefore d blocked ls (m + 1) =
      Table.modify (·.withChild (nameAt d ls m) (definitionAt d blocked ls m))
        (indexBefore d blocked ls m) (nameAt d ls i) := by
  have htop : topLines d ls (m + 1) = topLines d ls m := by
    rw [topLines_succ, if_neg (by simp [hdepth]), List.append_nil]
  have hsame : ∀ k ∈ topLines d ls i,
      (nameAt d ls k, classBefore d blocked ls (m + 1) k) =
        (nameAt d ls k, classBefore d blocked ls m k) := by
    intro k hk
    have hlt := (mem_topLines.mp hk).1
    rw [classBefore_succ_of_not_isMethod fun _ h =>
      h.1.2 i (Nat.le_of_lt hmethod.1.1) (ends_of_topLine valid hi hlt)]
  unfold indexBefore
  rw [htop, topLines_eq_of_inBlock valid hi hmethod.1, List.map_append, List.map_singleton,
    Table.latest_concat, List.map_congr_left hsame, List.map_append, List.map_singleton,
    Table.latest_concat, Table.modify_insert_self, classBefore_succ_of_isMethod hkind hmethod]

/-! ## The pass -/

/-- The builder holds the outline of the first `m` lines. -/
structure Before (d : Dialect) (blocked : List Text) (ls : List Text) (m : Nat) (b : Builder) :
    Prop where
  index : b.index = indexBefore d blocked ls m
  opened : b.opened = (openLines d ls m).reverse.map (openBlockAt d blocked ls)

theorem before_nil : Before d blocked ls 0 {} := ⟨rfl, rfl⟩

theorem at?_eq_text {k : Nat} (h : k < ls.length) :
    Block.at? ls k = some (Block.text (lineAt ls k) (ls.drop (k + 1))) := by
  have hnat : ¬ ((k : Int) < 0) := by omega
  have hnext : ¬ ((k : Int) + 1 < 0) := by omega
  have hplace : ((k : Int) + 1).toNat = k + 1 := by omega
  simp [Block.at?, hnat, hnext, hplace, lineAt, h]

/-- The builder's reading of a line gives the definition of the line. -/
theorem definitionAt_eq {m : Nat} (hm : m < ls.length) :
    definitionAt d blocked ls m =
      Definition.ofBlock d blocked (Block.text (lineAt ls m) (ls.drop (m + 1))) := by
  rw [definitionAt, at?_eq_text hm, Option.getD_some]

/-- A class is a header of the class keyword whose parameters could be read. -/
theorem kind_definitionAt_iff (valid : d.Valid) {m : Nat} (hm : m < ls.length) {kind : Kind}
    {name : Text} (hheader : headerAt d ls m = some (kind, name)) :
    (definitionAt d blocked ls m).kind = some .cls ↔
      kind = .cls ∧ ¬ (definitionAt d blocked ls m).isDegenerate = true := by
  rw [definitionAt_eq hm]
  exact Definition.kind_ofBlock_text_iff blocked valid hheader _

/-- A line without a header is in no class. -/
theorem not_isMethod_of_headerAt {i m : Nat} (h : headerAt d ls m = none) :
    ¬ IsMethod d ls i m := by
  intro hmethod
  have hkind := hmethod.2.1
  rw [h] at hkind
  simp at hkind

/-- A blank line changes nothing. -/
theorem Before.step_blank (valid : d.Valid) {m : Nat} {b : Builder} (h : Before d blocked ls m b)
    (hblank : isBlankText (lineAt ls m) = true) : Before d blocked ls (m + 1) b := by
  have hheader := headerAt_of_blank valid hblank
  refine ⟨?_, ?_⟩
  · rw [h.index, indexBefore_succ_of_other (by simp [hheader])
      fun i _ _ => not_isMethod_of_headerAt hheader]
  · rw [h.opened, openLines_succ_of_blank valid hblank]

/-- A line without a header only closes blocks. -/
theorem Before.step_other (valid : d.Valid) {m : Nat} {b : Builder} (h : Before d blocked ls m b)
    (hblank : isBlankText (lineAt ls m) = false) (hheader : headerAt d ls m = none) :
    Before d blocked ls (m + 1) (b.closeTo (indentation (lineAt ls m))) := by
  refine ⟨?_, ?_⟩
  · show b.index = _
    rw [h.index, indexBefore_succ_of_other (by simp [hheader])
      fun i _ _ => not_isMethod_of_headerAt hheader]
  · show b.opened.dropWhile _ = _
    rw [h.opened, dropWhile_openLines valid blocked hblank, openLines_succ, hheader]
    simp

/-- A header at the left margin is entered. -/
theorem Before.step_top (valid : d.Valid) {m : Nat} {b : Builder} (h : Before d blocked ls m b)
    (hm : m < ls.length) {kind : Kind} {name : Text}
    (hheader : headerAt d ls m = some (kind, name)) (hdepth : indentation (lineAt ls m) = 0)
    (number : Nat) :
    Before d blocked ls (m + 1)
      ((b.closeTo 0).enter kind name number (definitionAt d blocked ls m)) := by
  have hsome : (headerAt d ls m).isSome = true := by simp [hheader]
  have hname : nameAt d ls m = name := by simp [nameAt, hheader]
  refine ⟨?_, ?_⟩
  · show Table.insert b.index name (definitionAt d blocked ls m) = _
    rw [indexBefore_succ_of_top valid hsome hdepth, h.index, hname]
  · have hclosed := dropWhile_openLines valid blocked
      (not_isBlankText_of_headerAt valid hsome)
    rw [hdepth] at hclosed
    show _ :: (b.opened.dropWhile (0 ≤ ·.depth)) = _
    rw [h.opened, hclosed, openLines_succ, if_pos hsome, List.reverse_append]
    have howner : (definitionAt d blocked ls m).kind = some .cls ↔ _ :=
      kind_definitionAt_iff valid hm hheader
    simp [openBlockAt, hdepth, hname, howner]

/-- A header that stands deeper is entered as a method, or only opens a block. -/
theorem Before.step_nested (valid : d.Valid) {m : Nat} {b : Builder} (h : Before d blocked ls m b)
    {kind : Kind} {name : Text} (hheader : headerAt d ls m = some (kind, name))
    (hdepth : indentation (lineAt ls m) ≠ 0) :
    Before d blocked ls (m + 1)
      ((b.closeTo (indentation (lineAt ls m))).enterNested (indentation (lineAt ls m)) kind name
        (definitionAt d blocked ls m)) := by
  have hsome : (headerAt d ls m).isSome = true := by simp [hheader]
  have hname : nameAt d ls m = name := by simp [nameAt, hheader]
  have hclosed : (b.closeTo (indentation (lineAt ls m))).opened =
      (enclosingLines d ls m).reverse.map (openBlockAt d blocked ls) := by
    show b.opened.dropWhile _ = _
    rw [h.opened, dropWhile_openLines valid blocked (not_isBlankText_of_headerAt valid hsome)]
  refine ⟨?_, ?_⟩
  · by_cases hex : ∃ i ∈ topLines d ls m, (definitionAt d blocked ls i).kind = some .cls ∧
        IsMethod d ls i m
    · obtain ⟨i, hi, hcls, hmethod⟩ := hex
      obtain ⟨hfunc, hlines⟩ := (isMethod_iff valid hi).mp hmethod
      have hkind : kind = .func := by simpa [hheader] using hfunc
      have hblock : openBlockAt d blocked ls i = ⟨0, some (nameAt d ls i)⟩ := by
        simp [openBlockAt, (mem_topLines.mp hi).2.2, hcls]
      have hopened : (b.closeTo (indentation (lineAt ls m))).opened =
          [⟨0, some (nameAt d ls i)⟩] := by
        rw [hclosed, hlines, List.reverse_singleton, List.map_singleton, hblock]
      rw [hkind, Builder.index_enterNested_of_method hopened,
        indexBefore_succ_of_method valid hi hcls hmethod hdepth, hname, ← h.index]
      rfl
    · have hother : ∀ above owner, kind = .func →
          (b.closeTo (indentation (lineAt ls m))).opened ≠ [⟨above, some owner⟩] := by
        intro above owner hkind hopened
        rw [hclosed, List.map_eq_singleton_iff] at hopened
        obtain ⟨i, hlines, hblock⟩ := hopened
        have hlines : enclosingLines d ls m = [i] := by simpa using hlines
        have hmem : i ∈ enclosingLines d ls m := by rw [hlines]; simp
        obtain ⟨hi, hin⟩ := mem_enclosingLines.mp hmem
        have howner := congrArg OpenBlock.owner hblock
        unfold openBlockAt at howner
        dsimp only at howner
        split at howner
        · rename_i hclass
          have htop : i ∈ topLines d ls m := mem_topLines.mpr ⟨hin.1, hi, hclass.1⟩
          exact hex ⟨i, htop, hclass.2, (isMethod_iff valid htop).mpr
            ⟨by rw [hheader, hkind]; rfl, hlines⟩⟩
        · simp at howner
      rw [Builder.index_enterNested_of_other hother]
      show b.index = _
      rw [indexBefore_succ_of_other (fun htop => hdepth htop.2)
        (fun i hi hcls hmethod => hex ⟨i, hi, hcls, hmethod⟩), h.index]
  · show ⟨indentation (lineAt ls m), none⟩ :: (b.closeTo (indentation (lineAt ls m))).opened = _
    rw [hclosed, openLines_succ, if_pos hsome, List.reverse_append]
    simp [openBlockAt, hdepth]

/-- One line more. -/
theorem Before.step (valid : d.Valid) {m : Nat} {b : Builder} (h : Before d blocked ls m b)
    (hm : m < ls.length) (number : Nat) :
    Before d blocked ls (m + 1)
      (b.step d blocked number (lineAt ls m) (ls.drop (m + 1))) := by
  cases role d (lineAt ls m) with
  | blank hblank =>
    rw [Builder.step_of_blank hblank]
    exact h.step_blank valid hblank
  | plain hblank hheader =>
    rw [Builder.step_of_plain hblank hheader]
    exact h.step_other valid hblank hheader
  | top kind name hblank hheader hdepth =>
    rw [Builder.step_of_top hblank hheader hdepth, ← definitionAt_eq hm]
    exact h.step_top valid hm hheader hdepth number
  | nested kind name hblank hheader hdepth =>
    rw [Builder.step_of_nested hblank hheader hdepth, ← definitionAt_eq hm]
    exact h.step_nested valid hheader hdepth

/-- All the lines that are left. -/
theorem Before.run (valid : d.Valid) : ∀ (rest : List Text) {m : Nat} {b : Builder} (number : Nat),
    Before d blocked ls m b → m ≤ ls.length → ls.drop m = rest →
      Before d blocked ls ls.length (Builder.run d blocked number rest b) := by
  intro rest
  induction rest with
  | nil =>
    intro m b number h hle hdrop
    have hm : m = ls.length := Nat.le_antisymm hle (List.drop_eq_nil_iff.mp hdrop)
    rw [hm] at h
    exact h
  | cons line following ih =>
    intro m b number h hle hdrop
    have hm : m < ls.length := by
      by_contra hge
      rw [List.drop_eq_nil_of_le (by omega)] at hdrop
      simp at hdrop
    rw [List.drop_eq_getElem_cons hm, List.cons.injEq] at hdrop
    obtain ⟨hline, hfollowing⟩ := hdrop
    have hat : lineAt ls m = line := by simp [lineAt, hm, hline]
    have hstep := h.step valid hm number
    rw [hfollowing, hat] at hstep
    exact ih (number + 1) hstep hm hfollowing

theorem index_scan (valid : d.Valid) (source : Text) :
    (scan d blocked source).index =
      indexBefore d blocked (lines source) (lines source).length :=
  (Before.run valid (lines source) 1 before_nil (Nat.zero_le _) rfl).index

/-- A method is the definition of one of the lines with its name. -/
theorem exists_of_mem_methodsAt {m i : Nat} {c : Text × Definition}
    (h : c ∈ methodsAt d blocked ls m i) :
    ∃ j ∈ methodLines d ls m i, nameAt d ls j = c.1 ∧ definitionAt d blocked ls j = c.2 := by
  obtain ⟨before, after, hsplit, _⟩ := Table.exists_of_mem_latest h
  have hmem : c ∈ (methodLines d ls m i).map fun j => (nameAt d ls j, definitionAt d blocked ls j) := by
    rw [hsplit]
    simp
  obtain ⟨j, hj, rfl⟩ := List.mem_map.mp hmem
  exact ⟨j, hj, rfl, rfl⟩

/-- What a class takes over from its constructor, as the builder looks it up. -/
theorem bind_parameters_methodsAt (m i : Nat) (name : Text) :
    (Table.get? (methodsAt d blocked ls m i) name).bind (·.parameters) =
      (Table.get? (methodsAt d blocked ls m i) name).bind fun c =>
        if c.isDegenerate then none else some c.parameterList := by
  cases h : Table.get? (methodsAt d blocked ls m i) name with
  | none => rfl
  | some child =>
    obtain ⟨j, _, _, rfl⟩ := exists_of_mem_methodsAt (Table.mem_of_get?_eq_some h)
    simp only [Option.bind_some, Definition.parameterList, definitionAt,
      Definition.isDegenerate_ofBlock, Definition.parameters_ofBlock]
    cases Header.parse? d (trim ((Block.at? ls j).getD [])) <;> rfl

/-- A class has parameters, perhaps none. -/
theorem parameters_definitionAt_of_class {i : Nat}
    (h : (definitionAt d blocked ls i).kind = some .cls) :
    (definitionAt d blocked ls i).parameters =
      some (definitionAt d blocked ls i).parameterList := by
  unfold definitionAt at h ⊢
  rw [Definition.kind_ofBlock] at h
  unfold Definition.parameterList
  rw [Definition.parameters_ofBlock]
  cases hp : Header.parse? d (trim ((Block.at? ls i).getD [])) with
  | none => simp [hp] at h
  | some header => rfl

/-- A class that adopts its constructor's parameters is the class of the outline. -/
theorem adoptConstructor_classBefore (m i : Nat) :
    (classBefore d blocked ls m i).adoptConstructor d.constructorName =
      withMethods d (definitionAt d blocked ls i) (methodsAt d blocked ls m i) := by
  unfold classBefore withMethods
  by_cases hkind : (definitionAt d blocked ls i).kind = some .cls
  · have hparameters := parameters_definitionAt_of_class hkind
    rw [if_pos hkind, if_pos hkind]
    unfold Definition.adoptConstructor classParameters
    simp only [bind_parameters_methodsAt]
    generalize definitionAt d blocked ls i = own at hparameters ⊢
    have hlist : Definition.parameterList
        { own with children := some (methodsAt d blocked ls m i) } = own.parameterList := rfl
    rw [hlist]
    cases hps : own.parameterList with
    | cons p ps => simp [hparameters, hps]
    | nil =>
      cases Table.get? (methodsAt d blocked ls m i) d.constructorName with
      | none => simp [hparameters, hps]
      | some constructor => cases hc : constructor.isDegenerate <;> simp [hc, hparameters, hps]
  · have hchildren : (definitionAt d blocked ls i).children = none :=
      (Definition.children_ofBlock d blocked ((Block.at? ls i).getD [])).trans (if_neg hkind)
    rw [if_neg hkind, if_neg hkind, Definition.adoptConstructor, hchildren]

/-- The index that one pass builds is the outline of the source. -/
theorem build_eq_outline (d : Dialect) (valid : d.Valid) (blocked : List Text) (source : Text) :
    build d blocked source = outline d blocked (lines source) := by
  show (scan d blocked source).index.map _ = _
  rw [index_scan valid, indexBefore, ← Table.latest_map, List.map_map]
  unfold outline
  congr 2
  funext i
  exact congrArg (Prod.mk _) (adoptConstructor_classBefore _ i)

/-- A class that is defined again: only what its last header encloses counts. -/
theorem build_eq_outline_redefined :
    let source : Text := "class A():\n    def f(a):\n        def g(b):\n\ndef A(z):\n" ++
      "class A():\n  def __init__(q):\n    pass\n  def f(b):\n  class C():\ndef f(x)"
    Dialect.Valid {} ∧ build {} [] source = outline {} [] (lines source) ∧
      topLines {} (lines source) (lines source).length = [0, 4, 5, 10] ∧
      methodLines {} (lines source) (lines source).length 5 = [6, 8] ∧
      Table.keys (build {} [] source) = ["A", "f"] := by
  intro source
  have houtline := build_eq_outline {} Dialect.valid_default [] source
  exact ⟨Dialect.valid_default, houtline, by decide +kernel, by decide +kernel, by decide +kernel⟩

end Signpost.Index
