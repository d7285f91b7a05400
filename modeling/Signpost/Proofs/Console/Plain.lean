import Signpost.Proofs.Console.Emoji
import Signpost.Proofs.Console.Markup
import Signpost.Proofs.Console.Style
import Signpost.Proofs.Parameter.Reading
import Signpost.Proofs.Text.Class
set_option autoImplicit false

/-!
# Text between style tags

Whoever puts a text between two style tags means it to be shown as it is.  It is, if it is plain
(`IsStyleTag.visible_marked`): no tag starts in it, no backslash stands before an opening bracket,
no emoji is named, and it has no tabs and none of the control characters that are never shown.

Hardly any other text is (`IsStyleTag.isPlain_of_visible_marked`).  Tags, backslashes and control
characters are left out and nothing comes in their place, so what is shown has fewer characters; a
tab is shown as spaces.  Only the name of an emoji could make up for that, and where no two colons
stand between blanks there is none.
-/

namespace Signpost.Console

open Text

variable {s t u : Text} {c : Char}

/-! ## Escapes -/

/-- Without a backslash before an opening bracket, no backslash goes. -/
theorem unescaped_eq_self_iff : unescaped t = t ↔ ¬ ['\\', '['] <:+: t := by
  fun_induction unescaped t with
  | case1 t ih => simp [List.infix_cons_iff]
  | case2 c t hnot ih =>
    have hstart : ¬ ['\\', '['] <+: c :: t := by
      rintro ⟨rest, hrest⟩
      obtain ⟨rfl, rfl⟩ := List.cons.inj hrest
      exact hnot rest rfl rfl
    rw [List.cons_inj_right, ih, List.infix_cons_iff, not_or, and_iff_right hstart]
  | case3 => simp

theorem unescaped_sublist (t : Text) : (unescaped t).Sublist t := by
  fun_induction unescaped t with
  | case1 t ih => exact (ih.cons_cons '[').cons '\\'
  | case2 c t hnot ih => exact ih.cons_cons c
  | case3 => exact List.Sublist.refl _

theorem takeWhile_unescaped (t : Text) :
    ((unescaped t).takeWhile fun c => !isBlank c) =
      unescaped (t.takeWhile fun c => !isBlank c) := by
  have hbackslash : isBlank '\\' = false := by decide
  have hopen : isBlank '[' = false := by decide
  fun_induction unescaped t with
  | case1 t ih => simp [hbackslash, hopen, ih, unescaped]
  | case2 c t hnot ih =>
    cases hc : isBlank c with
    | true => simp [hc, unescaped]
    | false =>
      have hnot' : ∀ rest, c = '\\' → (t.takeWhile fun c => !isBlank c) = '[' :: rest → False := by
        intro rest hslash hrest
        cases t with
        | nil => simp at hrest
        | cons d t =>
          refine hnot t hslash ?_
          rw [List.takeWhile_cons] at hrest
          split at hrest
          · rw [(List.cons.inj hrest).1]
          · simp at hrest
      simp [hc, ih, unescaped.eq_2 _ _ hnot']
  | case3 => rfl

/-- A text that names nothing names nothing when backslashes go. -/
theorem NamesNothing.unescaped (h : NamesNothing t) : NamesNothing (unescaped t) := by
  fun_induction Console.unescaped t with
  | case1 t ih =>
    refine namesNothing_cons.mpr ⟨fun hcolon => absurd hcolon (by decide), ih ?_⟩
    exact (namesNothing_cons.mp (namesNothing_cons.mp h).2).2
  | case2 c t hnot ih =>
    obtain ⟨hc, hrest⟩ := namesNothing_cons.mp h
    refine namesNothing_cons.mpr ⟨fun hcolon hmem => hc hcolon ?_, ih hrest⟩
    rw [takeWhile_unescaped] at hmem
    exact (unescaped_sublist _).subset hmem
  | case3 => exact h

/-! ## Tabs -/

theorem alignTabsFrom_eq_self (h : '\t' ∉ t) (stop column : Nat) (before : Text) :
    alignTabsFrom stop column before t = t := by
  induction t generalizing column before with
  | nil => rfl
  | cons c t ih =>
    obtain ⟨hc, ht⟩ := List.ne_and_not_mem_of_not_mem_cons h
    rw [alignTabsFrom]
    split
    · rename_i hfeed
      rw [ih ht, hfeed]
    · rw [if_neg hc.symm, ih ht]

theorem not_mem_alignTabsFrom (stop column : Nat) (before t : Text) :
    '\t' ∉ alignTabsFrom stop column before t := by
  induction t generalizing column before with
  | nil => simp [alignTabsFrom]
  | cons c t ih =>
    rw [alignTabsFrom]
    split
    · simpa using ih 0 []
    · split
      · simpa using ih _ []
      · rename_i hfeed htab
        simpa [Ne.symm htab] using ih column (c :: before)

/-! ## What is shown -/

/-- A text that is shown as it is between tags. -/
structure IsPlain (t : Text) : Prop where
  hasNoTag : HasNoTag t
  /-- No backslash stands before an opening bracket, not even before that of the next tag. -/
  no_escape : ¬ ['\\', '['] <:+: t
  getLast?_ne : t.getLast? ≠ some '\\'
  /-- No emoji is named. -/
  withEmoji_eq : withEmoji t = t
  no_tab : '\t' ∉ t
  not_isHidden : ∀ c ∈ t, isHidden c = false

instance (t : Text) : Decidable (IsPlain t) :=
  decidable_of_iff
    (HasNoTag t ∧ ¬ ['\\', '['] <:+: t ∧ t.getLast? ≠ some '\\' ∧ withEmoji t = t ∧ '\t' ∉ t ∧
      (t.all fun c => isHidden c == false) = true)
    ⟨fun h => ⟨h.1, h.2.1, h.2.2.1, h.2.2.2.1, h.2.2.2.2.1, by simpa using h.2.2.2.2.2⟩,
      fun h => ⟨h.hasNoTag, h.no_escape, h.getLast?_ne, h.withEmoji_eq, h.no_tab,
        by simpa using h.not_isHidden⟩⟩

theorem visible_eq_ok_iff :
    visible t = .ok s ↔ ∃ shown, visibleFrom [] (pieces t) = .ok shown ∧
      alignTabs tabWidth (shown.filter fun c => !isHidden c) = s := by
  unfold visible
  cases visibleFrom [] (pieces t) <;> simp [Except.map]

/-- Without tabs and hidden characters, a line shows all that its pieces show. -/
theorem visible_of_visibleFrom (h : visibleFrom [] (pieces t) = .ok s) (htab : '\t' ∉ s)
    (hhidden : ∀ c ∈ s, isHidden c = false) : visible t = .ok s := by
  have hfilter : (s.filter fun c => !isHidden c) = s :=
    List.filter_eq_self.mpr fun c hc => by rw [hhidden c hc]; rfl
  refine visible_eq_ok_iff.mpr ⟨s, h, ?_⟩
  rw [hfilter, alignTabs, alignTabsFrom_eq_self htab]

/-- A plain text is shown as it is. -/
theorem visibleFrom_of_isPlain (h : IsPlain t) (opened : List OpenTag) :
    visibleFrom opened (pieces t) = .ok t := by
  rw [pieces, ← piecesAfter, piecesAfter_of_hasNoTag h.hasNoTag, List.reverse_nil, List.nil_append,
    visibleFrom, visibleFrom, unescaped_eq_self_iff.mpr h.no_escape, h.withEmoji_eq]
  simp [Except.map]

theorem visibleFrom_pieces_nil (opened : List OpenTag) : visibleFrom opened (pieces []) = .ok [] :=
  rfl

/-- Where no emoji is named, what pieces show leaves characters of their texts out and changes
none. -/
theorem visibleFrom_sublist {opened : List OpenTag} {ps : List Piece}
    (hnames : ∀ u, .text u ∈ ps → NamesNothing u) (h : visibleFrom opened ps = .ok s) :
    s.Sublist (spelled ps) := by
  induction ps generalizing opened s with
  | nil =>
    rw [visibleFrom] at h
    rw [← Except.ok.inj h]
    exact List.Sublist.refl _
  | cons p ps ih =>
    have hrest := fun u hu => hnames u (List.mem_cons_of_mem p hu)
    cases p with
    | text u =>
      rw [visibleFrom] at h
      cases hmore : visibleFrom opened ps with
      | error fault => simp [hmore, Except.map] at h
      | ok more =>
        rw [hmore] at h
        rw [← Except.ok.inj h, spelled_text,
          withEmoji_eq_self (hnames u List.mem_cons_self).unescaped]
        exact (unescaped_sublist u).append (ih hrest hmore)
    | tag body =>
      rw [visibleFrom] at h
      rw [spelled_tag]
      generalize cutAt '=' body = parts at h
      obtain ⟨name, payload⟩ := parts
      dsimp only at h
      split at h
      · split at h
        · simp at h
        · exact ih hrest h
      · split at h
        · simp at h
        · exact ih hrest h

/-! ## Characters without a meaning -/

/-- A character that means nothing in a line with markup, unless it belongs to the name of an
emoji. -/
def isPlainChar (c : Char) : Bool :=
  c != '[' && c != '\\' && c != '\t' && !isHidden c

theorem hasNoTag_of_not_mem (h : '[' ∉ t) : HasNoTag t := by
  intro u hu
  rw [Option.eq_none_iff_forall_ne_some]
  rintro ⟨body, rest⟩ htag
  have hopen : '[' ∈ u := by simp [eq_of_tag? htag]
  exact h (((List.mem_tails u t).mp hu).subset hopen)

theorem isPlain_of_isPlainChar (h : ∀ c ∈ t, isPlainChar c = true) (hnames : NamesNothing t) :
    IsPlain t := by
  have hnot (c : Char) (hc : isPlainChar c = false) : c ∉ t :=
    fun hmem => absurd (h c hmem) (by simp [hc])
  have hopen := hnot '[' (by decide)
  exact
    { hasNoTag := hasNoTag_of_not_mem hopen
      no_escape := fun hpart => hopen (hpart.subset (by simp))
      getLast?_ne := fun hlast => hnot '\\' (by decide) (List.mem_of_getLast? hlast)
      withEmoji_eq := withEmoji_eq_self hnames
      no_tab := hnot '\t' (by decide)
      not_isHidden := fun c hc => by
        have hplain := h c hc
        simp only [isPlainChar, Bool.and_eq_true, Bool.not_eq_true'] at hplain
        exact hplain.2 }

theorem isPlainChar_of_isWordChar (h : isWordChar c = true) : isPlainChar c = true := by
  by_cases hc : c.toNat < 0x80
  · exact forall_ascii (P := fun c => isWordChar c = true → isPlainChar c = true)
      (by decide +kernel) hc h
  · have hne (d : Char) (hd : d.toNat < 0x80) : c ≠ d := fun heq => hc (heq ▸ hd)
    have hhidden : isHidden c = false := by
      simp only [isHidden, inRanges, List.any_eq_false, List.mem_cons, List.not_mem_nil, or_false]
      rintro r (rfl | rfl) <;> simp <;> omega
    simp [isPlainChar, hhidden, hne '[' (by decide), hne '\\' (by decide), hne '\t' (by decide)]

/-- Words are plain. -/
theorem isPlain_of_isWordChar (h : ∀ c ∈ t, isWordChar c = true) : IsPlain t := by
  refine isPlain_of_isPlainChar (fun c hc => isPlainChar_of_isWordChar (h c hc)) ?_
  exact namesNothing_of_not_mem fun hcolon => absurd (h ':' hcolon) (by decide)

/-! ## Text between tags -/

/-- A name that opens a style in one tag and closes it in another. -/
structure IsStyleTag (name : Text) : Prop where
  isTagBody : IsTagBody name
  no_slash : name.head? ≠ some '/'
  no_equals : '=' ∉ name
  trim_eq : trim name = name
  exists_style : ∃ style, tagStyle name = .ok style

theorem isStyleTag_of_tagStyle {name style : Text} (hstyle : tagStyle name = .ok style)
    (h : IsTagBody name ∧ name.head? ≠ some '/' ∧ '=' ∉ name ∧ trim name = name) :
    IsStyleTag name :=
  ⟨h.1, h.2.1, h.2.2.1, h.2.2.2, style, hstyle⟩

/-- A text between the tags that open and close a style. -/
def marked (name t : Text) : Text :=
  '[' :: (name ++ ']' :: (t ++ '[' :: ('/' :: name ++ [']'])))

namespace IsStyleTag

variable {name : Text} {opened : List OpenTag} {ps : List Piece}

/-- The tag that closes the style is a tag. -/
theorem isTagBody_close (h : IsStyleTag name) : IsTagBody ('/' :: name) where
  starts := by
    show startsTag '/' = true
    decide
  no_open := List.not_mem_cons_of_ne_of_not_mem (by decide) h.isTagBody.no_open
  no_close := List.not_mem_cons_of_ne_of_not_mem (by decide) h.isTagBody.no_close

/-- The pieces of a line with a text between tags: those of the text before it, the opening tag,
those of the text, the closing tag, and those of what follows. -/
theorem piecesAfter_marked (h : IsStyleTag name) (hs : s.getLast? ≠ some '\\')
    (ht : t.getLast? ≠ some '\\') (u : Text) :
    piecesAfter [] (s ++ (marked name t ++ u)) =
      piecesAfter [] s ++ .tag name ::
        (piecesAfter [] t ++ .tag ('/' :: name) :: piecesAfter [] u) := by
  have hclose := h.isTagBody_close.tag?_eq u
  have hopen := h.isTagBody.tag?_eq (t ++ '[' :: ('/' :: name ++ ']' :: u))
  have hline : marked name t ++ u =
      '[' :: (name ++ ']' :: (t ++ '[' :: ('/' :: name ++ ']' :: u))) := by simp [marked]
  rw [hline, piecesAfter_append_tag hs hopen, piecesAfter_append_tag ht hclose]

theorem visibleFrom_open (h : IsStyleTag name) {style : Text} (hstyle : tagStyle name = .ok style) :
    visibleFrom opened (.tag name :: ps) = visibleFrom (⟨style, none⟩ :: opened) ps := by
  rw [visibleFrom, cutAt_of_not_mem h.no_equals]
  dsimp only
  split
  · exact absurd rfl h.no_slash
  · rw [hstyle]

theorem visibleFrom_close (h : IsStyleTag name) {opened' : List OpenTag}
    (hclose : close opened name = .ok opened') :
    visibleFrom opened (.tag ('/' :: name) :: ps) = visibleFrom opened' ps := by
  rw [visibleFrom, cutAt_of_not_mem (List.not_mem_cons_of_ne_of_not_mem (by decide) h.no_equals)]
  dsimp only
  split
  · rename_i style hname
    rw [← (List.cons.inj hname).2, hclose]
  · rename_i hname
    exact absurd rfl (hname name)

/-- The tag that was opened last can be closed. -/
theorem close_eq (h : IsStyleTag name) {style : Text} (hstyle : tagStyle name = .ok style) :
    close (⟨style, none⟩ :: opened) name = .ok opened := by
  have hne : (trim name).isEmpty = false := by
    rw [h.trim_eq]
    refine List.isEmpty_eq_false_iff.mpr fun hnil => ?_
    exact absurd (hnil ▸ h.isTagBody.starts) (by decide)
  rw [close, hne]
  simp [h.trim_eq, hstyle, OpenTag.isClosable, bind, Except.bind, pure, Except.pure]

/-- Text without tags is shown where it stands, and the tags around it are not. -/
theorem visibleFrom_marked (h : IsStyleTag name) (hs : IsPlain s)
    (ht : HasNoTag t) (ht' : t.getLast? ≠ some '\\') (u : Text) :
    visibleFrom opened (pieces (s ++ (marked name t ++ u))) =
      (visibleFrom opened (pieces u)).map fun shown => s ++ (withEmoji (unescaped t) ++ shown) := by
  obtain ⟨style, hstyle⟩ := h.exists_style
  have hpieces := h.piecesAfter_marked hs.getLast?_ne ht' u
  rw [piecesAfter_of_hasNoTag hs.hasNoTag, piecesAfter_of_hasNoTag ht] at hpieces
  rw [pieces, ← piecesAfter, hpieces]
  simp only [List.reverse_nil, List.nil_append, List.cons_append]
  rw [visibleFrom, h.visibleFrom_open hstyle, visibleFrom, h.visibleFrom_close (h.close_eq hstyle),
    unescaped_eq_self_iff.mpr hs.no_escape, hs.withEmoji_eq]
  rw [pieces, ← piecesAfter]
  cases visibleFrom opened (piecesAfter [] u) <;> rfl

/-! ## What is plain and what is not -/

theorem visibleFrom_marked_plain (h : IsStyleTag name) (hs : IsPlain s)
    (ht : IsPlain t) (u : Text) :
    visibleFrom [] (pieces (s ++ (marked name t ++ u))) =
      (visibleFrom [] (pieces u)).map fun shown => s ++ (t ++ shown) := by
  rw [h.visibleFrom_marked hs ht.hasNoTag ht.getLast?_ne u, unescaped_eq_self_iff.mpr ht.no_escape,
    ht.withEmoji_eq]

/-- A plain text between tags is shown as it is, and then what follows. -/
theorem visible_marked_append (h : IsStyleTag name) (hs : IsPlain s) (ht : IsPlain t) {v : Text}
    (hfrom : visibleFrom [] (pieces u) = .ok v) (htab : '\t' ∉ v)
    (hhidden : ∀ c ∈ v, isHidden c = false) :
    visible (s ++ (marked name t ++ u)) = .ok (s ++ (t ++ v)) := by
  refine visible_of_visibleFrom ?_ ?_ ?_
  · rw [h.visibleFrom_marked_plain hs ht, hfrom]
    rfl
  · simp [hs.no_tab, ht.no_tab, htab]
  · have htail := List.forall_mem_append.mpr ⟨ht.not_isHidden, hhidden⟩
    exact List.forall_mem_append.mpr ⟨hs.not_isHidden, htail⟩

theorem visible_marked (h : IsStyleTag name) (hs : IsPlain s) (ht : IsPlain t) :
    visible (s ++ marked name t) = .ok (s ++ t) := by
  have happend := h.visible_marked_append hs ht (visibleFrom_pieces_nil []) (by simp) (by simp)
  rwa [List.append_nil, List.append_nil] at happend

/-- Before tabs become spaces, what is shown of a text between tags is what is left of it. -/
theorem sublist_of_visibleFrom_marked (h : IsStyleTag name) (hs : IsPlain s)
    (hs' : NamesNothing s) (ht' : t.getLast? ≠ some '\\')
    (hnames : NamesNothing t) {shown : Text}
    (hshown : visibleFrom [] (pieces (s ++ marked name t)) = .ok shown) :
    shown.Sublist (s ++ spelled (piecesAfter [] t)) := by
  have hpieces := h.piecesAfter_marked hs.getLast?_ne ht' []
  rw [List.append_nil, piecesAfter, ← pieces] at hpieces
  have htexts : ∀ u, .text u ∈ pieces (s ++ marked name t) → NamesNothing u := by
    intro u hu
    rw [hpieces] at hu
    simp only [List.mem_append, List.mem_cons, reduceCtorEq, false_or] at hu
    rcases hu with hu | hu | hu
    · exact hs'.of_infix (infix_of_mem_piecesAfter hu)
    · exact hnames.of_infix (infix_of_mem_piecesAfter hu)
    · exact namesNothing_nil.of_infix (infix_of_mem_piecesAfter hu)
  have hsub := visibleFrom_sublist htexts hshown
  rw [hpieces, piecesAfter_of_hasNoTag hs.hasNoTag] at hsub
  simpa [piecesAfter_nil] using hsub

/-- A text between tags is shown as it is only if it is plain. -/
theorem isPlain_of_visible_marked (h : IsStyleTag name) (hs : IsPlain s)
    (hs' : NamesNothing s) (ht' : t.getLast? ≠ some '\\')
    (hnames : NamesNothing t) (hvisible : visible (s ++ marked name t) = .ok (s ++ t)) :
    IsPlain t := by
  obtain ⟨shown, hfrom, haligned⟩ := visible_eq_ok_iff.mp hvisible
  have hsub := h.sublist_of_visibleFrom_marked hs hs' ht' hnames hfrom
  have htab : '\t' ∉ s ++ t := by
    rw [← haligned]
    exact not_mem_alignTabsFrom _ _ _ _
  -- Without a tab no step adds a character, so none of the steps below takes one away.
  have hfilter : (shown.filter fun c => !isHidden c) = s ++ t := by
    have hnone : '\t' ∉ shown.filter fun c => !isHidden c := by
      intro hmem
      have hin := hsub.subset (List.mem_filter.mp hmem).1
      refine htab (List.mem_append.mpr ((List.mem_append.mp hin).imp id fun hin => ?_))
      exact (spelled_piecesAfter_sublist [] t).subset hin
    rwa [alignTabs, alignTabsFrom_eq_self hnone] at haligned
  have hlength : (s ++ t).length ≤ shown.length := by
    rw [← hfilter]
    exact List.length_filter_le _ _
  have htags : HasNoTag t := by
    have hle := Nat.le_trans hlength hsub.length_le
    refine hasNoTag_of_length_le [] ?_
    simp only [List.length_append, List.length_nil] at hle ⊢
    omega
  have hshown : shown = s ++ unescaped t := by
    rw [← List.append_nil (marked name t), h.visibleFrom_marked hs htags ht' [],
      visibleFrom_pieces_nil, withEmoji_eq_self hnames.unescaped] at hfrom
    simpa [Except.map, eq_comm] using hfrom
  have hescapes : unescaped t = t := by
    refine (unescaped_sublist t).eq_of_length_le ?_
    rw [hshown] at hlength
    simpa using hlength
  have hhidden : ∀ c ∈ s ++ t, (!isHidden c) = true := by
    rw [← hfilter]
    exact fun c hc => (List.mem_filter.mp hc).2
  exact
    { hasNoTag := htags
      no_escape := unescaped_eq_self_iff.mp hescapes
      getLast?_ne := ht'
      withEmoji_eq := withEmoji_eq_self hnames
      no_tab := fun hmem => htab (List.mem_append_right s hmem)
      not_isHidden := fun c hc => by simpa using hhidden c (List.mem_append_right s hc) }

end IsStyleTag

end Signpost.Console
