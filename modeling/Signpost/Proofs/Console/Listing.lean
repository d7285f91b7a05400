import Signpost.Proofs.Console.Plain
import Signpost.Proofs.Index.Names
import Signpost.Proofs.Index.WellFormed
import Signpost.Console.Listing
set_option autoImplicit false

/-!
# Listings and signatures

A listing has a line for each definition and each method, in the order of the index, with the
methods of a class indented below it.  A line carries the signature between style tags and is read
as markup itself, so a signature with markup in it is not shown as it is, and may even make the
whole line wrong.  A hint such as `list[int]` is enough.

`printed_listing` says which signatures are shown as they are: the plain ones and, unless emoji have
names in them, no others.
-/

namespace Signpost.Console

open Text

/-! ## The entries of a listing -/

/-- A definition with its name and the number of classes that it is inside. -/
structure Entry where
  depth : Nat
  name : Text
  definition : Definition

mutual

/-- A definition and its members, each definition before its members. -/
def entriesOf (depth : Nat) (name : Text) : Definition → List Entry
  | ⟨source, definedName, kind, keyword, description, parameters, children⟩ =>
    ⟨depth, name, ⟨source, definedName, kind, keyword, description, parameters, children⟩⟩ ::
      match definedName, children with
      | some _, some members => entriesWithin (depth + 1) members
      | _, _ => []

/-- Definitions and their members, in order. -/
def entriesWithin (depth : Nat) : List (Text × Definition) → List Entry
  | [] => []
  | (name, d) :: rest => entriesOf depth name d ++ entriesWithin depth rest

end

/-- The definitions of an index in the order in which they are listed. -/
def listed (index : Index) : List Entry := entriesWithin 0 index

namespace Entry

/-- How far a line is indented: by two spaces, and by four more for each class. -/
def indent (depth : Nat) : Text := List.replicate (2 + 4 * depth) ' '

/-- What follows the name of a definition whose header could not be read. -/
def remark : Text := "(unparsed header)"

/-- What a line is about: the signature, or the name if there is no signature. -/
def label (e : Entry) : Text :=
  if e.definition.isDegenerate then e.name else e.definition.signature

/-- The line for an entry, with its markup. -/
def line (e : Entry) : Text :=
  indent e.depth ++
    if e.definition.isDegenerate then marked "dim" e.name ++ (' ' :: marked "yellow" remark)
    else marked "cyan" e.definition.signature

/-- The line for an entry as it is meant to be shown. -/
def shown (e : Entry) : Text :=
  indent e.depth ++
    if e.definition.isDegenerate then e.name ++ (' ' :: remark) else e.definition.signature

end Entry

/-! ## The lines of a listing -/

theorem Entry.indent_append_memberIndent (depth : Nat) :
    indent depth ++ memberIndent = indent (depth + 1) := by
  have hmember : memberIndent = List.replicate 4 ' ' := rfl
  rw [hmember, indent, List.replicate_append_replicate, indent]
  congr 1

theorem entriesOf_eq (depth : Nat) (name : Text) (d : Definition) :
    entriesOf depth name d = ⟨depth, name, d⟩ ::
      match d.name, d.children with
      | some _, some members => entriesWithin (depth + 1) members
      | _, _ => [] := by
  obtain ⟨source, definedName, kind, keyword, description, parameters, children⟩ := d
  cases definedName <;> cases children <;> simp [entriesOf]

theorem marked_cyan (t : Text) : ("[cyan]" ++ t ++ "[/cyan]" : Text) = marked "cyan" t := by
  simp [marked]

theorem marked_dim_yellow (t : Text) :
    ("[dim]" ++ t ++ "[/dim] [yellow](unparsed header)[/yellow]" : Text) =
      marked "dim" t ++ (' ' :: marked "yellow" Entry.remark) := by
  have hremark : ("[/dim] [yellow](unparsed header)[/yellow]" : Text) =
      "[/dim]" ++ (' ' :: marked "yellow" Entry.remark) := by
    decide +kernel
  rw [hremark]
  simp [marked]

/-- A definition has a line of its own before those of its members. -/
theorem definitionLines_eq (depth : Nat) (name : Text) (d : Definition) :
    definitionLines (Entry.indent depth) name d = Entry.line ⟨depth, name, d⟩ ::
      match d.name, d.children with
      | some _, some members => memberLines (Entry.indent (depth + 1)) members
      | _, _ => [] := by
  obtain ⟨source, definedName, kind, keyword, description, parameters, children⟩ := d
  cases definedName with
  | none =>
    rw [definitionLines, List.append_assoc, List.append_assoc, ← List.append_assoc "[dim]".toList,
      marked_dim_yellow]
    rfl
  | some definedName =>
    rw [← Entry.indent_append_memberIndent]
    cases children <;>
      rw [definitionLines, List.append_assoc, List.append_assoc,
        ← List.append_assoc "[cyan]".toList, marked_cyan] <;> rfl

/-- Definitions and their members have the lines of their entries. -/
theorem memberLines_eq (depth : Nat) (members : List (Text × Definition)) :
    memberLines (Entry.indent depth) members = (entriesWithin depth members).map Entry.line := by
  refine (entriesOf.mutual_induct
    (fun depth name d =>
      definitionLines (Entry.indent depth) name d = (entriesOf depth name d).map Entry.line)
    (fun depth members =>
      memberLines (Entry.indent depth) members = (entriesWithin depth members).map Entry.line)
    ?_ ?_ ?_).2 depth members
  · intro depth name source definedName kind keyword description parameters children ih
    rw [definitionLines_eq, entriesOf_eq, List.map_cons]
    cases definedName with
    | none => rfl
    | some definedName =>
      cases children with
      | none => rfl
      | some members => exact congrArg _ ih
  · intro depth
    rw [memberLines, entriesWithin, List.map_nil]
  · intro depth name d rest hd hrest
    rw [memberLines, entriesWithin, List.map_append, hd, hrest]

/-- The line above the definitions. -/
def heading (source : Path) (index : Index) : Text :=
  marked "bold" source.text ++ (": " ++ ofNat index.length ++ " definitions\n")

/-- A listing that is not empty has a line for each definition, in order, below its heading. -/
theorem listing_eq {index : Index} (hindex : index ≠ []) (source : Path) :
    listing source index = heading source index :: (listed index).map Entry.line := by
  cases index with
  | nil => exact absurd rfl hindex
  | cons e index =>
    have hlines := memberLines_eq 0 (e :: index)
    have hspaces : Entry.indent 0 = ("  " : Text) := rfl
    rw [hspaces] at hlines
    rw [listing, hlines, listed]
    simp [heading, marked]

/-- Lines that can all be shown are shown one below the other. -/
theorem printed_map {es : List Entry} (h : ∀ e ∈ es, visible e.line = .ok e.shown) :
    printed (es.map Entry.line) = (es.flatMap fun e => e.shown ++ ['\n'], none) := by
  induction es with
  | nil => rfl
  | cons e es ih =>
    obtain ⟨he, hes⟩ := List.forall_mem_cons.mp h
    rw [List.map_cons, printed, he, ih hes]
    simp

/-! ## The styles of a listing -/

theorem isStyleTag_cyan : IsStyleTag "cyan" :=
  isStyleTag_of_tagStyle (IsStyleWord.tagStyle_eq (by decide)) (by decide)

theorem isStyleTag_yellow : IsStyleTag "yellow" :=
  isStyleTag_of_tagStyle (IsStyleWord.tagStyle_eq (by decide)) (by decide)

theorem isStyleTag_dim : IsStyleTag "dim" :=
  isStyleTag_of_tagStyle (rfl : tagStyle "dim" = .ok "dim".toList) (by decide)

theorem isStyleTag_bold : IsStyleTag "bold" :=
  isStyleTag_of_tagStyle (rfl : tagStyle "bold" = .ok "bold".toList) (by decide)

/-! ## What is shown of a listing -/

theorem isPlainChar_of_isDigit {c : Char} (h : c.isDigit = true) :
    isPlainChar c = true ∧ c ≠ ':' := by
  have hc : c.toNat < 0x80 := by
    simp only [Char.isDigit, Bool.and_eq_true, decide_eq_true_eq, UInt32.le_iff_toNat_le] at h
    exact Nat.lt_of_le_of_lt h.2 (by decide)
  exact forall_ascii (P := fun c => c.isDigit = true → isPlainChar c = true ∧ c ≠ ':')
    (by decide +kernel) hc h

theorem isPlain_count (n : Nat) : IsPlain (": " ++ ofNat n ++ " definitions\n") := by
  have hdigits : ∀ c ∈ ofNat n, isPlainChar c = true ∧ c ≠ ':' := fun c hc =>
    isPlainChar_of_isDigit (Nat.isDigit_of_mem_toDigits (by decide) (by decide) hc)
  have hword : ∀ c ∈ (" definitions\n" : Text), isPlainChar c = true ∧ c ≠ ':' := by
    have hall : (" definitions\n".toList.all fun c => isPlainChar c && c != ':') = true := by
      decide +kernel
    simpa only [List.all_eq_true, Bool.and_eq_true, bne_iff_ne] using hall
  have htail := List.forall_mem_append.mpr ⟨hdigits, hword⟩
  have hblank : NamesNothing (' ' :: (ofNat n ++ " definitions\n")) := by
    refine namesNothing_of_not_mem fun hcolon => ?_
    rcases List.mem_cons.mp hcolon with hcolon | hcolon
    · exact absurd hcolon (by decide)
    · exact (htail _ hcolon).2 rfl
  have hshape : (": " ++ ofNat n ++ " definitions\n" : Text) =
      ':' :: ' ' :: (ofNat n ++ " definitions\n") := rfl
  rw [hshape]
  refine isPlain_of_isPlainChar ?_ (namesNothing_cons.mpr ⟨fun _ => ?_, hblank⟩)
  · simp only [List.forall_mem_cons]
    exact ⟨by decide, by decide, fun c hc => (htail c hc).1⟩
  · rw [List.takeWhile_cons_of_neg (by decide)]
    exact List.not_mem_nil

/-- A plain path is shown in the heading. -/
theorem visible_heading {source : Path} (hsource : IsPlain source.text) (index : Index) :
    visible (heading source index) =
      .ok (source.text ++ (": " ++ ofNat index.length ++ " definitions\n")) := by
  have hcount := isPlain_count index.length
  have hempty : IsPlain [] := isPlain_of_isPlainChar (by simp) namesNothing_nil
  exact isStyleTag_bold.visible_marked_append hempty hsource (visibleFrom_of_isPlain hcount [])
    hcount.no_tab hcount.not_isHidden

namespace Entry

variable {e : Entry}

theorem isPlain_replicate_space (n : Nat) : IsPlain (List.replicate n ' ') := by
  refine isPlain_of_isPlainChar (fun c hc => ?_) (namesNothing_of_not_mem fun hcolon => ?_)
  · rw [List.eq_of_mem_replicate hc]
    decide
  · exact absurd (List.eq_of_mem_replicate hcolon) (by decide)

theorem namesNothing_indent (depth : Nat) : NamesNothing (indent depth) :=
  namesNothing_of_not_mem fun hcolon => absurd (List.eq_of_mem_replicate hcolon) (by decide)

theorem isPlain_remark : IsPlain remark := by
  decide +kernel

theorem getLast?_signature (d : Definition) : d.signature.getLast? = some ')' := by
  simp [Definition.signature, List.getLast?_append, List.getLast?_cons]

/-- A line about something plain is shown as it is meant. -/
theorem visible_line (h : IsPlain e.label) : visible e.line = .ok e.shown := by
  have hindent := isPlain_replicate_space (2 + 4 * e.depth)
  unfold line shown indent
  unfold label at h
  cases hread : e.definition.isDegenerate with
  | false =>
    rw [hread] at h
    exact isStyleTag_cyan.visible_marked hindent h
  | true =>
    rw [hread] at h
    have hspace := isPlain_replicate_space 1
    have hremark :
        visibleFrom [] (pieces (' ' :: marked "yellow" remark)) = .ok (' ' :: remark) := by
      have hfrom := isStyleTag_yellow.visibleFrom_marked_plain hspace isPlain_remark []
      rwa [List.append_nil, visibleFrom_pieces_nil, Except.map, List.append_nil] at hfrom
    exact isStyleTag_dim.visible_marked_append hindent h hremark
      (List.not_mem_cons_of_ne_of_not_mem (by decide) isPlain_remark.no_tab)
      (List.forall_mem_cons.mpr ⟨by decide, isPlain_remark.not_isHidden⟩)

/-- A line about a signature is shown as it is meant only if the signature is plain. -/
theorem isPlain_of_visible_line (hread : e.definition.isDegenerate = false)
    (hnames : NamesNothing e.definition.signature) (h : visible e.line = .ok e.shown) :
    IsPlain e.definition.signature := by
  rw [line, shown, hread] at h
  exact isStyleTag_cyan.isPlain_of_visible_marked (isPlain_replicate_space _)
    (namesNothing_indent e.depth) (by simp [getLast?_signature]) hnames h

end Entry

/-! ## The entries of an index that was built -/

variable {e : Entry} {depth : Nat}

theorem mem_entriesWithin {members : List (Text × Definition)} :
    e ∈ entriesWithin depth members ↔ ∃ m ∈ members, e ∈ entriesOf depth m.1 m.2 := by
  induction members with
  | nil => simp [entriesWithin]
  | cons m members ih => rw [entriesWithin, List.mem_append, ih, List.exists_mem_cons_iff]

/-- Without members, a definition is the only entry that it has. -/
theorem entriesOf_of_children_eq_none {d : Definition} (h : d.children = none) (depth : Nat)
    (name : Text) : entriesOf depth name d = [⟨depth, name, d⟩] := by
  rw [entriesOf_eq, h]
  cases d.name <;> rfl

/-- An entry is one of the index or one of its methods. -/
theorem of_mem_listed_build {d : Dialect} (valid : d.Valid) (blocked : List Text) (source : Text)
    (h : e ∈ listed (Index.build d blocked source)) :
    ∃ m ∈ Index.build d blocked source, e = ⟨0, m.1, m.2⟩ ∨
      ∃ members, m.2.children = some members ∧ ∃ c ∈ members, e = ⟨1, c.1, c.2⟩ := by
  obtain ⟨m, hm, he⟩ := mem_entriesWithin.mp h
  refine ⟨m, hm, ?_⟩
  rw [entriesOf_eq] at he
  rcases List.mem_cons.mp he with he | he
  · exact .inl he
  · split at he
    · rename_i name members hname hmembers
      obtain ⟨c, hc, he⟩ := mem_entriesWithin.mp he
      obtain ⟨i, kind, hi, hheader, hlast, hentry⟩ := Index.exists_of_mem_build valid hm
      have hmethods := Index.eq_of_children_withMethods (hentry ▸ hmembers)
      obtain ⟨j, hj, hmethod⟩ := Index.comesFrom_method valid (Nat.le_refl _) (hmethods ▸ hc)
      rw [entriesOf_of_children_eq_none hmethod.children_eq_none] at he
      exact .inr ⟨members, hmembers, c, hc, List.mem_singleton.mp he⟩
    · exact absurd he List.not_mem_nil

/-- The names of the entries are words. -/
theorem isName_of_mem_listed_build {d : Dialect} (valid : d.Valid) (blocked : List Text)
    (source : Text) : ∀ e ∈ listed (Index.build d blocked source), IsName e.name := by
  intro e he
  obtain ⟨m, hm, rfl | ⟨members, hmembers, c, hc, rfl⟩⟩ :=
    of_mem_listed_build valid blocked source he
  · exact (Index.hasNames_build d blocked source m hm).1
  · exact (Index.hasNames_build d blocked source m hm).2 members hmembers c hc

/-! ## Which signatures are shown -/

/-- A listing has a line for each definition and method below its heading.  A line about a plain
signature is shown as it is meant; one about a signature in which no emoji can be named is only then.
If all signatures are plain, the whole listing is shown, since the names in an index are words
(`isName_of_mem_listed_build`). -/
theorem printed_listing {source : Path} {index : Index} (hindex : index ≠ []) {head : Text}
    (hhead : visible (heading source index) = .ok head) :
    listing source index = heading source index :: (listed index).map Entry.line ∧
      (∀ e ∈ listed index, e.definition.isDegenerate = false →
        (IsPlain e.definition.signature → visible e.line = .ok e.shown) ∧
        (NamesNothing e.definition.signature → visible e.line = .ok e.shown →
          IsPlain e.definition.signature)) ∧
      ((∀ e ∈ listed index, IsName e.name) →
        (∀ e ∈ listed index, e.definition.isDegenerate = false → IsPlain e.definition.signature) →
          printed (listing source index) =
            (head ++ '\n' :: (listed index).flatMap fun e => e.shown ++ ['\n'], none)) := by
  refine ⟨listing_eq hindex source, ?_, ?_⟩
  · intro e _ hread
    refine ⟨fun hplain => ?_, Entry.isPlain_of_visible_line hread⟩
    refine Entry.visible_line ?_
    rwa [Entry.label, hread]
  · intro hnames hplain
    have hlines : ∀ e ∈ listed index, visible e.line = .ok e.shown := by
      intro e he
      refine Entry.visible_line ?_
      unfold Entry.label
      cases hread : e.definition.isDegenerate with
      | false => exact hplain e he hread
      | true => exact isPlain_of_isWordChar (hnames e he).isWordChar
    rw [listing_eq hindex source, printed, hhead, printed_map hlines]

/-- A class with a harmless bracket, its method, and a definition that cannot be read. -/
theorem printed_listing_bracket :
    let source := Path.ofText "/m.py"
    let index := Index.build {} [] "class A(x: '[1]'):\n  def f(self, y=2): pass\ndef g("
    index ≠ [] ∧
      visible (heading source index) = .ok "/m.py: 2 definitions\n".toList ∧
      (∀ e ∈ listed index, IsName e.name) ∧
      (∀ e ∈ listed index, e.definition.isDegenerate = false →
        IsPlain e.definition.signature ∧ NamesNothing e.definition.signature) ∧
      (∀ e ∈ listed index, e.definition.isDegenerate = false →
        (visible e.line = .ok e.shown ↔ IsPlain e.definition.signature)) ∧
      printed (listing source index) =
        ((["/m.py: 2 definitions", [], "  class A(x: '[1]')", "      def f(self, y = 2)",
          "  g (unparsed header)"] : List Text).flatMap (· ++ ['\n']), none) := by
  intro source index
  have hindex : index ≠ [] := by decide +kernel
  have hhead : visible (heading source index) = .ok "/m.py: 2 definitions\n".toList :=
    (visible_heading (by decide +kernel) index).trans (congrArg Except.ok (by decide +kernel))
  have hnames := isName_of_mem_listed_build Dialect.valid_default []
    "class A(x: '[1]'):\n  def f(self, y=2): pass\ndef g("
  have hplain : ∀ e ∈ listed index, e.definition.isDegenerate = false →
      IsPlain e.definition.signature ∧ NamesNothing e.definition.signature := by
    decide +kernel
  obtain ⟨_, hlines, hprinted⟩ := printed_listing hindex hhead
  have hshown := hprinted hnames fun e he hread => (hplain e he hread).1
  refine ⟨hindex, hhead, hnames, hplain, fun e he hread => ?_, hshown.trans (by decide +kernel)⟩
  obtain ⟨hmeant, honly⟩ := hlines e he hread
  exact ⟨honly (hplain e he hread).2, hmeant⟩

/-- The brackets of a hint are read as a tag: the hint is not shown. -/
theorem printed_listing_hint :
    let source := Path.ofText "/m.py"
    let index := Index.build {} [] "def f(x: list[int]): pass"
    index.map (·.2.signature) = ["def f(x: list[int])".toList] ∧
      listing source index =
        [heading source index, "  [cyan]def f(x: list[int])[/cyan]".toList] ∧
      printed (listing source index) =
        ((["/m.py: 1 definitions", [], "  def f(x: list)"] : List Text).flatMap (· ++ ['\n']),
          none) := by
  intro source index
  have hlisting : listing source index =
      [heading source index, "  [cyan]def f(x: list[int])[/cyan]".toList] := by
    decide +kernel
  have hhead : visible (heading source index) = .ok "/m.py: 1 definitions\n".toList :=
    (visible_heading (by decide +kernel) index).trans (congrArg Except.ok (by decide +kernel))
  have hcyan : tagStyle "cyan" = .ok "cyan".toList := IsStyleWord.tagStyle_eq (by decide)
  have hint : tagStyle "int" = .ok "int".toList := IsStyleWord.tagStyle_eq (by decide)
  have htag : IsStyleTag "int" := isStyleTag_of_tagStyle hint (by decide)
  have hclose : close [⟨"int", none⟩, ⟨"cyan", none⟩] "cyan" = .ok [⟨"int", none⟩] := by
    have htrim : trim "cyan" = "cyan" := by decide
    rw [close, htrim, if_neg (by decide), hcyan]
    rfl
  have hpieces : pieces "  [cyan]def f(x: list[int])[/cyan]" =
      [.text "  ", .tag "cyan", .text "def f(x: list", .tag "int", .text ")",
        .tag ('/' :: "cyan"), .text []] := by
    decide +kernel
  have hline : visible "  [cyan]def f(x: list[int])[/cyan]" = .ok "  def f(x: list)".toList := by
    refine visible_eq_ok_iff.mpr ⟨"  def f(x: list)", ?_, by decide +kernel⟩
    rw [hpieces, visibleFrom, isStyleTag_cyan.visibleFrom_open hcyan, visibleFrom,
      htag.visibleFrom_open hint, visibleFrom, isStyleTag_cyan.visibleFrom_close hclose,
      visibleFrom, visibleFrom]
    exact congrArg Except.ok (by decide +kernel)
  refine ⟨by decide +kernel, hlisting, ?_⟩
  rw [hlisting, printed, hhead, printed, hline]
  decide +kernel

end Signpost.Console
