import Signpost.Proofs.Index.WellFormed
import Signpost.Proofs.Text.Lines
set_option autoImplicit false

/-!
# Blocks inside blocks

The block of each line is found on its own, from indentation alone.  Still blocks never cross: of
two of them the later one begins after the earlier one has stopped, or it stops no later
(`disjoint_or_inside`).  Indentation need not be regular for that.  A line inside a block is deeper
than the header of the block, so a line that ends the outer block ends the inner one too
(`InBlock.trans`).

What holds of the lines holds of the texts.  Trimming moves the beginning of a block by the
indentation of its header, and takes nothing but blanks from its end.  So the source of a class has
the sources of its methods in it, each at a place of its own (`build_nested`).
-/

namespace Signpost

open Text

/-! ## A text in another -/

namespace Text

/-- The text `part` stands in `whole` at offset `place`. -/
def OccursAt (part whole : Text) (place : Nat) : Prop :=
  ∃ before after, before.length = place ∧ whole = before ++ (part ++ after)

variable {part whole text : Text} {place outer : Nat}

theorem OccursAt.trans (h : OccursAt part whole place) (hwhole : OccursAt whole text outer) :
    OccursAt part text (outer + place) := by
  obtain ⟨before, after, rfl, rfl⟩ := h
  obtain ⟨before', after', rfl, rfl⟩ := hwhole
  exact ⟨before' ++ before, after ++ after', List.length_append, by simp⟩

theorem OccursAt.end_le (h : OccursAt part whole place) :
    place + part.length ≤ whole.length := by
  obtain ⟨before, after, rfl, rfl⟩ := h
  simp only [List.length_append]
  omega

/-- What trimming leaves of a text stands in it behind its indentation. -/
theorem occursAt_trim (t : Text) : OccursAt (trim t) t (indentation t) := by
  refine ⟨t.takeWhile isBlank, takeWhileEnd isBlank (trimLeft t), rfl, ?_⟩
  have hright : trim t ++ takeWhileEnd isBlank (trimLeft t) = trimLeft t :=
    dropWhileEnd_append_takeWhileEnd isBlank (trimLeft t)
  rw [hright]
  exact List.takeWhile_append_dropWhile.symm

/-- A text that does not end with a blank keeps its place when the text around it is trimmed, as
long as nothing is trimmed off in front. -/
theorem OccursAt.of_trim (h : OccursAt part whole place) (hfirst : NoBlankFirst whole)
    (hlast : NoBlankLast part) (hne : part ≠ []) : OccursAt part (trim whole) place := by
  obtain ⟨before, after, rfl, rfl⟩ := h
  refine ⟨before, trimRight after, rfl, ?_⟩
  have hlast' : NoBlankLast (before ++ part) := hlast.append hne before
  rw [hfirst.trim_eq, ← List.append_assoc, ← List.append_assoc]
  exact dropWhileEnd_append_left hlast' after

/-! ## Lines of a text -/

/-- Lines as they stand in a text: those before, a line break, and the others from there on. -/
theorem unlines_append_append {as bs : List Text} (has : as ≠ []) (hbs : bs ≠ []) (cs : List Text) :
    unlines (as ++ (bs ++ cs)) =
      (unlines as ++ ['\n']) ++ (unlines bs ++ cs.flatMap ('\n' :: ·)) := by
  obtain ⟨b, bs, rfl⟩ := List.exists_cons_of_ne_nil hbs
  rw [unlines_append has, List.cons_append, List.flatMap_cons, List.flatMap_append, unlines_cons]
  simp

/-- How much room lines take in a text, each with a line break. -/
def extent (ls : List Text) : Nat := (ls.flatMap ('\n' :: ·)).length

theorem extent_append (ls ms : List Text) : extent (ls ++ ms) = extent ls + extent ms := by
  unfold extent
  rw [List.flatMap_append, List.length_append]

theorem length_unlines {ls : List Text} (hne : ls ≠ []) :
    (unlines ls).length + 1 = extent ls := by
  obtain ⟨l, ls, rfl⟩ := List.exists_cons_of_ne_nil hne
  rw [unlines_cons, extent, List.flatMap_cons, List.cons_append, List.length_cons]

end Text

namespace Index

variable {ls : List Text}

/-! ## Where a block stops -/

/-- The first line after line `k` that is not in its block. -/
def stop (ls : List Text) (k : Nat) : Nat :=
  k + (Block.linesOf (lineAt ls k) (ls.drop (k + 1))).length

/-- The lines from line `i` up to line `j`, which is not one of them. -/
def linesFrom (ls : List Text) (i j : Nat) : List Text := (ls.drop i).take (j - i)

/-- The text of the block of line `k`. -/
def blockText (ls : List Text) (k : Nat) : Text := unlines (linesFrom ls k (stop ls k))

theorem lt_stop (ls : List Text) (k : Nat) : k < stop ls k := by
  simp [stop, Block.linesOf]

theorem isPrefix_linesOf {k : Nat} (hk : k < ls.length) :
    Block.linesOf (lineAt ls k) (ls.drop (k + 1)) <+: ls.drop k := by
  have hline : lineAt ls k = ls[k] := by simp [lineAt, hk]
  rw [List.drop_eq_getElem_cons hk, Block.linesOf, hline, List.prefix_cons_inj]
  exact List.takeWhile_prefix _

theorem stop_le_length {k : Nat} (hk : k < ls.length) : stop ls k ≤ ls.length := by
  have hle := (isPrefix_linesOf hk).length_le
  rw [List.length_drop] at hle
  unfold stop
  omega

/-- The block of a line is made of the lines from it up to where it stops. -/
theorem at?_eq_blockText {k : Nat} (hk : k < ls.length) :
    Block.at? ls k = some (blockText ls k) := by
  have hcount : stop ls k - k = (Block.linesOf (lineAt ls k) (ls.drop (k + 1))).length := by
    unfold stop
    omega
  rw [at?_eq_text hk, Block.text, blockText, linesFrom, hcount,
    ← List.prefix_iff_eq_take.mp (isPrefix_linesOf hk)]

/-- How far the lines at the front go that satisfy a predicate. -/
theorem lt_length_takeWhile_iff {p : Text → Bool} {ls : List Text} {n : Nat} :
    n < (ls.takeWhile p).length ↔ n < ls.length ∧ ∀ m, m ≤ n → p (lineAt ls m) = true := by
  induction ls generalizing n with
  | nil => simp
  | cons l ls ih =>
    have hshift : ∀ m, lineAt (l :: ls) (m + 1) = lineAt ls m := fun m => rfl
    cases hl : p l with
    | false =>
      have hnot : ¬ ∀ m, m ≤ n → p (lineAt (l :: ls) m) = true := by
        intro hall
        have hfirst : p l = true := hall 0 (Nat.zero_le n)
        simp [hl] at hfirst
      simp [hl, hnot]
    | true =>
      rw [List.takeWhile_cons_of_pos hl, List.length_cons, List.length_cons]
      cases n with
      | zero => simp [lineAt, hl]
      | succ n =>
        rw [Nat.add_lt_add_iff_right, ih, Nat.add_lt_add_iff_right]
        refine and_congr_right fun _ => ⟨fun h m hm => ?_, fun h m hm => h (m + 1) (by omega)⟩
        cases m with
        | zero => exact hl
        | succ m => exact h m (by omega)

/-- The lines that follow `k` and come before its block stops are the ones in its block. -/
theorem lt_stop_iff {k j : Nat} (hkj : k < j) (hj : j < ls.length) :
    j < stop ls k ↔ InBlock ls k j := by
  obtain ⟨n, rfl⟩ := Nat.exists_eq_add_of_lt hkj
  have hline : ∀ m, lineAt (ls.drop (k + 1)) m = lineAt ls (k + m + 1) := by
    intro m
    simp [lineAt, List.getD_eq_getElem?_getD, Nat.add_right_comm]
  have hstays : ∀ m, Block.stays (indentation (lineAt ls k)) (lineAt ls (k + m + 1)) = true ↔
      ¬ Ends ls k (k + m + 1) := by
    intro m
    have hafter : k < k + m + 1 := by omega
    cases hblank : isBlankText (lineAt ls (k + m + 1)) <;>
      simp [Block.stays, Ends, hafter, hblank]
  have hcount : k + n + 1 < stop ls k ↔ n < ((ls.drop (k + 1)).takeWhile
      (Block.stays (indentation (lineAt ls k)))).length := by
    unfold stop Block.linesOf
    rw [List.length_cons]
    omega
  have hroom : n < (ls.drop (k + 1)).length := by
    rw [List.length_drop]
    omega
  rw [hcount, lt_length_takeWhile_iff]
  simp only [hline, hstays, hroom, true_and]
  constructor
  · refine fun h => ⟨hkj, fun m hm hends => ?_⟩
    obtain ⟨i, rfl⟩ := Nat.exists_eq_add_of_lt hends.1
    exact h i (by omega) hends
  · exact fun h m hm => h.2 _ (by omega)

/-- A block inside a block. -/
theorem InBlock.trans {i j n : Nat} (hij : InBlock ls i j) (hj : isBlankText (lineAt ls j) = false)
    (hjn : InBlock ls j n) : InBlock ls i n := by
  refine ⟨Nat.lt_trans hij.1 hjn.1, ?_⟩
  rintro m hm ⟨him, hblank, hdepth⟩
  rcases Nat.lt_or_ge j m with hlt | hge
  · have hdeeper : indentation (lineAt ls i) < indentation (lineAt ls j) := by
      by_contra hnot
      exact hij.2 j (Nat.le_refl j) ⟨hij.1, hj, Nat.le_of_not_lt hnot⟩
    exact hjn.2 m hm ⟨hlt, hblank, by omega⟩
  · exact hij.2 m hge ⟨him, hblank, hdepth⟩

/-- A block that begins in another one stops there. -/
theorem InBlock.stop_le {i j : Nat} (h : InBlock ls i j) (hj : isBlankText (lineAt ls j) = false)
    (hlt : j < ls.length) : stop ls j ≤ stop ls i := by
  by_contra hcross
  have hi : i < ls.length := Nat.lt_trans h.1 hlt
  have hj' : j < stop ls i := (lt_stop_iff h.1 hlt).mpr h
  have hstop : stop ls i < ls.length := Nat.lt_of_lt_of_le (by omega) (stop_le_length hlt)
  have hinner : InBlock ls j (stop ls i) := (lt_stop_iff hj' hstop).mp (by omega)
  have houter : InBlock ls i (stop ls i) := h.trans hj hinner
  exact absurd ((lt_stop_iff houter.1 hstop).mpr houter) (Nat.lt_irrefl _)

/-- Of two blocks the later one is all after the earlier one, or all inside it. -/
theorem disjoint_or_inside {i j : Nat} (hij : i < j) (hlt : j < ls.length)
    (hj : isBlankText (lineAt ls j) = false) : stop ls i ≤ j ∨ stop ls j ≤ stop ls i := by
  rcases Nat.lt_or_ge j (stop ls i) with hin | hout
  · exact .inr (((lt_stop_iff hij hlt).mp hin).stop_le hj hlt)
  · exact .inl hout

/-! ## Where a block stands in the text -/

/-- The offset of line `k` in the text that the lines make. -/
def offset (ls : List Text) (k : Nat) : Nat := extent (ls.take k)

theorem linesFrom_append {i j k : Nat} (hij : i ≤ j) (hjk : j ≤ k) :
    linesFrom ls i k = linesFrom ls i j ++ linesFrom ls j k := by
  have hcount : k - i = (j - i) + (k - j) := by omega
  have hstart : i + (j - i) = j := by omega
  unfold linesFrom
  rw [hcount, List.take_add, List.drop_drop, hstart]

theorem linesFrom_ne_nil {i j : Nat} (hij : i < j) (hi : i < ls.length) :
    linesFrom ls i j ≠ [] := by
  intro hnil
  have hlength := congrArg List.length hnil
  rw [linesFrom, List.length_take, List.length_drop, List.length_nil] at hlength
  omega

theorem offset_add_extent {i j : Nat} (hij : i ≤ j) :
    offset ls i + extent (linesFrom ls i j) = offset ls j := by
  have hsplit : ls.take j = ls.take i ++ linesFrom ls i j := by
    rw [linesFrom, ← List.take_add, Nat.add_sub_cancel' hij]
  rw [offset, offset, hsplit, extent_append]

theorem offset_le {i j : Nat} (hij : i ≤ j) : offset ls i ≤ offset ls j :=
  offset_add_extent hij ▸ Nat.le_add_right _ _

/-- A block reaches up to the line break before the line where it stops. -/
theorem offset_add_length {k : Nat} (hk : k < ls.length) :
    offset ls k + (blockText ls k).length + 1 = offset ls (stop ls k) := by
  have hlength := length_unlines (linesFrom_ne_nil (lt_stop ls k) hk)
  rw [← offset_add_extent (Nat.le_of_lt (lt_stop ls k)), ← hlength, blockText]
  omega

/-- The text of a block in another one begins as far behind it as their headers are apart. -/
theorem InBlock.occursAt {i j : Nat} (h : InBlock ls i j) (hj : isBlankText (lineAt ls j) = false)
    (hlt : j < ls.length) :
    OccursAt (blockText ls j) (blockText ls i) (offset ls j - offset ls i) := by
  have hi : i < ls.length := Nat.lt_trans h.1 hlt
  have hsplit : linesFrom ls i (stop ls i) =
      linesFrom ls i j ++ (linesFrom ls j (stop ls j) ++ linesFrom ls (stop ls j) (stop ls i)) := by
    rw [← linesFrom_append (Nat.le_of_lt (lt_stop ls j)) (h.stop_le hj hlt),
      ← linesFrom_append (Nat.le_of_lt h.1) (Nat.le_trans (Nat.le_of_lt (lt_stop ls j))
        (h.stop_le hj hlt))]
  have hbefore := linesFrom_ne_nil h.1 hi
  refine ⟨unlines (linesFrom ls i j) ++ ['\n'],
    (linesFrom ls (stop ls j) (stop ls i)).flatMap ('\n' :: ·), ?_, ?_⟩
  · rw [List.length_append, List.length_singleton, length_unlines hbefore,
      ← offset_add_extent (Nat.le_of_lt h.1), Nat.add_sub_cancel_left]
  · rw [blockText, hsplit]
    exact unlines_append_append hbefore (linesFrom_ne_nil (lt_stop ls j) hlt) _

/-! ## Sources -/

variable {d : Dialect} {blocked : List Text}

theorem source_definitionAt {k : Nat} (hk : k < ls.length) :
    (definitionAt d blocked ls k).source = trim (blockText ls k) := by
  rw [definitionAt, at?_eq_blockText hk]
  exact Definition.source_ofBlock d blocked _

theorem exists_blockText_eq {k : Nat} (hk : k < ls.length) :
    ∃ more, blockText ls k = lineAt ls k ++ more := by
  obtain ⟨more, htext, _⟩ := Header.exists_text_eq_append (lineAt ls k) (ls.drop (k + 1))
  have hsame := (at?_eq_blockText hk).symm.trans (at?_eq_text hk)
  exact ⟨more, (Option.some.inj hsame).trans htext⟩

theorem indentation_blockText {k : Nat} (hblank : isBlankText (lineAt ls k) = false)
    (hk : k < ls.length) : indentation (blockText ls k) = indentation (lineAt ls k) := by
  obtain ⟨more, htext⟩ := exists_blockText_eq hk
  rw [htext, indentation_append hblank]

theorem not_isBlankText_blockText {k : Nat} (hblank : isBlankText (lineAt ls k) = false)
    (hk : k < ls.length) : isBlankText (blockText ls k) = false := by
  obtain ⟨more, htext⟩ := exists_blockText_eq hk
  rw [htext]
  exact isBlankText_append_of_not_blank hblank more

/-- Where the source of line `j` begins in that of line `i`, if the latter is at the left margin. -/
def placeIn (ls : List Text) (i j : Nat) : Nat :=
  offset ls j - offset ls i + indentation (lineAt ls j)

/-- The source of a block stands in the source of a block at the left margin that it lies in. -/
theorem InBlock.source_occursAt {i j : Nat} (h : InBlock ls i j)
    (hmargin : indentation (lineAt ls i) = 0) (hi : isBlankText (lineAt ls i) = false)
    (hj : isBlankText (lineAt ls j) = false) (hlt : j < ls.length) :
    OccursAt (definitionAt d blocked ls j).source (definitionAt d blocked ls i).source
      (placeIn ls i j) := by
  have hlt' : i < ls.length := Nat.lt_trans h.1 hlt
  rw [source_definitionAt hlt, source_definitionAt hlt']
  have hfirst : NoBlankFirst (blockText ls i) :=
    noBlankFirst_of_indentation ((indentation_blockText hi hlt').trans hmargin)
  have hne : trim (blockText ls j) ≠ [] := trim_ne_nil (not_isBlankText_blockText hj hlt)
  have hplace := (occursAt_trim (blockText ls j)).trans (h.occursAt hj hlt)
  rw [indentation_blockText hj hlt] at hplace
  exact hplace.of_trim hfirst (isTrimmed_trim _).last hne

/-! ## The methods of a class -/

/-- A method of a class has stopped where the next one begins. -/
theorem IsMethod.stop_le {i j k : Nat} (h : IsMethod d ls i j) (h' : IsMethod d ls i k)
    (hjk : j < k) (hlt : k < ls.length) : stop ls j ≤ k := by
  have hheader : (headerAt d ls j).isSome = true := by
    obtain ⟨_, hheader, _⟩ := Option.map_eq_some_iff.mp h.2.1
    simp [hheader]
  by_contra hcross
  exact h'.2.2 j hjk h.1.1 hheader ((lt_stop_iff hjk hlt).mp (Nat.lt_of_not_le hcross))

theorem IsMethod.end_le_placeIn {i j k : Nat} (h : IsMethod d ls i j) (h' : IsMethod d ls i k)
    (hjk : j < k) (hj : isBlankText (lineAt ls j) = false) (hlt : k < ls.length) :
    placeIn ls i j + (definitionAt d blocked ls j).source.length ≤ placeIn ls i k := by
  have hj' : j < ls.length := Nat.lt_trans hjk hlt
  have hroom := (occursAt_trim (blockText ls j)).end_le
  rw [indentation_blockText hj hj'] at hroom
  have hend := offset_add_length hj'
  have hnext : offset ls (stop ls j) ≤ offset ls k := offset_le (h.stop_le h' hjk hlt)
  have hstart : offset ls i ≤ offset ls j := offset_le (Nat.le_of_lt h.1.1)
  rw [source_definitionAt hj', placeIn, placeIn]
  omega

/-- The parts stand in a text at the given places, and no two of them have a character in common. -/
structure StandApart (whole : Text) (parts : Index) (place : Text × Definition → Nat) : Prop where
  occurs : ∀ c ∈ parts, OccursAt c.2.source whole (place c)
  apart : parts.Pairwise fun c c' =>
    place c + c.2.source.length ≤ place c' ∨ place c' + c'.2.source.length ≤ place c

theorem of_mem_methodLines (valid : d.Valid) {m i j : Nat} (h : j ∈ methodLines d ls m i) :
    j < m ∧ IsMethod d ls i j ∧ isBlankText (lineAt ls j) = false := by
  obtain ⟨hlt, hmethod⟩ := List.mem_filter.mp h
  have hmethod : IsMethod d ls i j := of_decide_eq_true hmethod
  obtain ⟨_, hheader, _⟩ := Option.map_eq_some_iff.mp hmethod.2.1
  exact ⟨List.mem_range.mp hlt, hmethod, not_isBlankText_of_headerAt valid (by simp [hheader])⟩

theorem exists_standApart (valid : d.Valid) {i : Nat} (hmargin : indentation (lineAt ls i) = 0)
    (hi : isBlankText (lineAt ls i) = false) :
    ∃ place, StandApart (definitionAt d blocked ls i).source
      (methodsAt d blocked ls ls.length i) place := by
  choose! line hline using fun c (hc : c ∈ methodsAt d blocked ls ls.length i) =>
    exists_of_mem_methodsAt hc
  refine ⟨fun c => placeIn ls i (line c), ?_, ?_⟩
  · intro c hc
    obtain ⟨hmem, _, hdefinition⟩ := hline c hc
    obtain ⟨hlt, hmethod, hblank⟩ := of_mem_methodLines valid hmem
    rw [← hdefinition]
    exact hmethod.1.source_occursAt hmargin hi hblank hlt
  · have hnames : (methodsAt d blocked ls ls.length i).Pairwise fun c c' => c.1 ≠ c'.1 :=
      List.pairwise_map.mp (Table.nodup_keys_latest _)
    apply hnames.imp_of_mem
    intro c c' hc hc' hne
    obtain ⟨hmem, hname, hdefinition⟩ := hline c hc
    obtain ⟨hmem', hname', hdefinition'⟩ := hline c' hc'
    obtain ⟨hlt, hmethod, hblank⟩ := of_mem_methodLines valid hmem
    obtain ⟨hlt', hmethod', hblank'⟩ := of_mem_methodLines valid hmem'
    rw [← hdefinition, ← hdefinition']
    rcases Nat.lt_trichotomy (line c) (line c') with hbefore | hsame | hafter
    · exact .inl (hmethod.end_le_placeIn hmethod' hbefore hblank hlt')
    · exact absurd (hname.symm.trans (hsame ▸ hname')) hne
    · exact .inr (hmethod'.end_le_placeIn hmethod hafter hblank' hlt)

/-- The sources of the methods of a class stand in the source of the class, each at a place of its
own: of two blocks the later one is all after the earlier one, or all inside it.  Only the later one
must not begin with a blank line. -/
theorem build_nested (d : Dialect) (valid : d.Valid) (blocked : List Text) :
    (∀ source : Text, ∀ e ∈ build d blocked source, ∀ members, e.2.children = some members →
      ∃ place, StandApart e.2.source members place) ∧
    ∀ (ls : List Text) (i j : Nat), i < j → j < ls.length → isBlankText (lineAt ls j) = false →
      Block.at? ls i = some (unlines (linesFrom ls i (stop ls i))) ∧
      Block.at? ls j = some (unlines (linesFrom ls j (stop ls j))) ∧
      (stop ls i ≤ j ∨ stop ls j ≤ stop ls i) := by
  constructor
  · intro source e he members hmembers
    obtain ⟨i, kind, hlt, hheader, hlast, hentry⟩ := exists_of_mem_build valid he
    have hblank : isBlankText (lineAt (lines source) i) = false :=
      not_isBlankText_of_headerAt valid (by simp [hheader])
    obtain rfl : members = methodsAt d blocked (lines source) (lines source).length i :=
      eq_of_children_withMethods (hentry ▸ hmembers)
    rw [hentry, source_withMethods]
    exact exists_standApart valid hlast.1 hblank
  · intro ls i j hij hlt hj
    exact ⟨at?_eq_blockText (Nat.lt_trans hij hlt), at?_eq_blockText hlt,
      disjoint_or_inside hij hlt hj⟩

/-- Each method is less deep than the one before it, and the last one takes the place of the first
in the index. -/
theorem build_nested_irregular :
    let source : Text := "class A:\n      def f(a):\n    x\n\n   def g(b):\n  y\n" ++
      " def f(c):\n   z\n\n"
    let ls := lines source
    Dialect.Valid {} ∧
      (∀ e ∈ build {} [] source, ∀ members, e.2.children = some members →
        ∃ place, StandApart e.2.source members place) ∧
      (build {} [] source).map (·.2.children.map Table.keys) = [some (["f", "g"] : List Text)] ∧
      (0 < 6 ∧ 6 < ls.length ∧ isBlankText (lineAt ls 6) = false ∧
        (stop ls 0 ≤ 6 ∨ stop ls 6 ≤ stop ls 0)) ∧
      [0, 1, 4, 6].map (stop ls) = [9, 2, 5, 9] := by
  intro source ls
  obtain ⟨hsources, hblocks⟩ := build_nested {} Dialect.valid_default []
  have hlength : 6 < ls.length := by decide +kernel
  have hlast : isBlankText (lineAt ls 6) = false := by decide +kernel
  obtain ⟨_, _, hnested⟩ := hblocks ls 0 6 (by decide) hlength hlast
  exact ⟨Dialect.valid_default, hsources source, by decide +kernel,
    ⟨by decide, hlength, hlast, hnested⟩, by decide +kernel⟩

end Index

end Signpost
