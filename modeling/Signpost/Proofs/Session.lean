import Signpost.Proofs.Index.Names
import Signpost.Proofs.Index.WellFormed
import Signpost.Proofs.Query.CallPath
import Signpost.Proofs.Query.Token
import Signpost.Session
set_option autoImplicit false

/-!
# Methods are reachable

A line that says `owner.name` is about the method `name` of `owner`, wherever the cursor stands on
the name and whatever is around it: hovering shows the method, a comma among its arguments offers
its parameters, and the dot alone offers what the class has.

The stages agree at their borders: names in an index are words (`Index.HasNames`), so the word at
the cursor is the whole name; the path before it stops where the surrounding text ends; and complete
arguments leave the call that encloses them (`CallStack.callee_foldl_call`).  What is found was read
from a header, so that it always has a content to show (`Session.hover_of_definitionIn`).
-/

namespace Signpost

open Query Text

/-! ## What is found -/

/-- What a word stands for is in the index, as an entry or as a method of one. -/
theorem Query.exists_mem_of_resolve {index : Index} {names : NameTable} {token context : Text}
    {found : Definition} (h : resolve index names token context = some found) :
    ∃ e ∈ index, e.2 = found ∨
      ∃ members, e.2.children = some members ∧ ∃ c ∈ members, c.2 = found := by
  have htop : ∀ {word d}, topLevel? index names word = some d → ∃ e ∈ index, e.2 = d := by
    intro word d hd
    unfold topLevel? at hd
    dsimp only at hd
    split at hd
    · exact nomatch hd
    · exact ⟨_, Table.mem_of_get?_eq_some hd, rfl⟩
  unfold resolve at h
  split at h
  · rename_i d hd
    obtain ⟨e, he, hsame⟩ := htop hd
    exact ⟨e, he, .inl (hsame.trans (Option.some.inj h))⟩
  · split at h
    · exact nomatch h
    · rename_i owner howner
      obtain ⟨e, he, rfl⟩ := htop howner
      split at h
      · exact ⟨e, he, .inl (Option.some.inj h)⟩
      · dsimp only at h
        split at h
        · exact nomatch h
        · obtain ⟨members, hmembers, hget⟩ := Option.bind_eq_some_iff.mp h
          exact ⟨e, he, .inr ⟨members, hmembers, _, Table.mem_of_get?_eq_some hget, rfl⟩⟩

/-- Whatever a session finds in the index of a source, its content is there. -/
theorem Session.hover_of_definitionIn {d : Dialect} (valid : d.Valid) {blocked : List Text}
    {source line : Text} {names : NameTable} {column : Int} {found : Definition}
    (h : definitionIn (Index.build d blocked source) names line column = some found) :
    Hover.ofAny found = .ok (Hover.of? found) := by
  unfold definitionIn at h
  split at h
  · exact nomatch h
  · obtain ⟨e, he, hfound⟩ := exists_mem_of_resolve h
    obtain ⟨i, kind, _, hentry, hmethods⟩ :=
      Index.exists_comesFrom_of_mem_build valid he
    rcases hfound with rfl | ⟨members, hmembers, c, hc, rfl⟩
    · exact hentry.hover_eq
    · obtain ⟨_, j, _, hmethod⟩ := hmethods members hmembers c hc
      exact hmethod.hover_eq

/-! ## Resolution with plain names -/

/-- A top-level name stands for its definition, whatever precedes it. -/
theorem Query.resolve_top {index : Index} {token : Text} {d : Definition}
    (h : Table.get? index token = some d) (context : Text) :
    resolve index {} token context = some d := by
  simp [resolve, topLevel?, NameTable.canonical, NameTable.isBlocked, Table.get?, h]

/-- Any other name stands for the member that the path before it has. -/
theorem Query.resolve_member {index : Index} {token context : Text} {owner child : Definition}
    (hne : token ≠ []) (htop : Table.get? index token = none)
    (howner : Table.get? index context = some owner)
    (hchild : owner.children.bind (Table.get? · token) = some child) :
    resolve index {} token context = some child := by
  simpa [resolve, topLevel?, NameTable.canonical, NameTable.isBlocked, Table.get?, htop, howner,
    hne] using hchild

/-- A method of an indexed class that no top-level definition hides. -/
structure Index.IsMember (index : Index) (owner : Text) (cls : Definition) (name : Text)
    (child : Definition) : Prop where
  get?_owner : Table.get? index owner = some cls
  get?_child : cls.children.bind (Table.get? · name) = some child
  get?_name : Table.get? index name = none
  /-- Paths are read in ASCII. -/
  isAlphanum_owner : ∀ c ∈ owner, c.isAlphanum = true ∨ c = '_'

namespace Index.IsMember

variable {index : Index} {owner name : Text} {cls child : Definition}

theorem isName (h : IsMember index owner cls name child) (hnames : HasNames index) :
    IsName owner ∧ IsName name := by
  obtain ⟨howner, hmembers⟩ := hnames _ (Table.mem_of_get?_eq_some h.get?_owner)
  obtain ⟨members, hsome, hget⟩ := Option.bind_eq_some_iff.mp h.get?_child
  exact ⟨howner, hmembers members hsome _ (Table.mem_of_get?_eq_some hget)⟩

theorem isPathChar (h : IsMember index owner cls name child) {c : Char} (hc : c ∈ owner) :
    isPathChar c = true ∧ c ≠ '.' := by
  rcases h.isAlphanum_owner c hc with hletter | rfl
  · refine ⟨by simp [Query.isPathChar, hletter], ?_⟩
    rintro rfl
    exact absurd hletter (by decide)
  · decide

end Index.IsMember

/-- A text that a path can follow: it ends neither in a word nor in a dot. -/
def Query.CanPrecede (pre : Text) : Prop :=
  ∀ c, pre.getLast? = some c → isWordChar c = false ∧ c ≠ '.'

theorem Query.CanPrecede.isPathChar {pre : Text} (h : CanPrecede pre) {c : Char}
    (hc : pre.getLast? = some c) : isPathChar c = false := by
  cases hp : Query.isPathChar c with
  | false => rfl
  | true =>
    have hword := isWordChar_of_isPathChar hp (h c hc).2
    rw [(h c hc).1] at hword
    simp at hword

/-- A text that ends in a dot does not end in a word. -/
theorem Query.getLast?_concat_dot (t : Text) :
    ∀ c, (t ++ ['.']).getLast? = some c → isWordChar c = false := by
  intro c hc
  rw [List.getLast?_concat, Option.some.injEq] at hc
  rw [← hc]
  decide

/-! ## Questions to an index -/

namespace Session

section

variable {index : Index} {owner name : Text} {cls child : Definition} {pre : Text}

/-- At every column of a word stands what the word is resolved to after the path before it. -/
theorem definitionIn_word (hpre : ∀ c, pre.getLast? = some c → isWordChar c = false) {word : Text}
    (hword : IsName word) {post : Text} (hpost : ∀ c, post.head? = some c → isWordChar c = false)
    {column : Int} (hstart : pre.length ≤ column) (hstop : column ≤ pre.length + word.length) :
    (wordAt (pre ++ (word ++ post)) column).isSome = true ∧
      ∀ index names, definitionIn index names (pre ++ (word ++ post)) column =
        resolve index names word (contextOf pre) := by
  have hfound := wordAt_append hpre hword.ne_nil hword.isWordChar hpost hstart hstop
  refine ⟨by rw [hfound]; rfl, ?_⟩
  intro index names
  unfold definitionIn
  rw [hfound]
  dsimp only
  rw [text_append, List.take_left]

/-- At every column of a method's name stands the method. -/
theorem definitionIn_member (hnames : Index.HasNames index)
    (h : Index.IsMember index owner cls name child) (hpre : CanPrecede pre) {post : Text}
    (hpost : ∀ c, post.head? = some c → isWordChar c = false) {column : Int}
    (hstart : (pre ++ owner ++ ['.']).length ≤ column)
    (hstop : column ≤ (pre ++ owner ++ ['.']).length + name.length) :
    (wordAt (pre ++ owner ++ ['.'] ++ (name ++ post)) column).isSome = true ∧
      definitionIn index {} (pre ++ owner ++ ['.'] ++ (name ++ post)) column = some child := by
  obtain ⟨_, hname⟩ := h.isName hnames
  have hcontext : contextOf (pre ++ owner ++ ['.']) = owner :=
    contextOf_append (fun _ hc => hpre.isPathChar hc) (fun _ hc => h.isPathChar hc)
  obtain ⟨hword, hfound⟩ := definitionIn_word (getLast?_concat_dot _) hname hpost hstart hstop
  refine ⟨hword, ?_⟩
  rw [hfound, hcontext]
  exact resolve_member hname.ne_nil h.get?_name h.get?_owner h.get?_child

/-- What is left of the text before a path still can precede it. -/
theorem canPrecede_path (hpre : CanPrecede pre) (hclose : pre.getLast? ≠ some ')') :
    CanPrecede (CallStack.scan pre).path := by
  intro c hc
  rw [CallStack.getLast?_path_scan hclose] at hc
  exact hpre c hc

/-- After a comma among its arguments stands the call of a method. -/
theorem completedIn_call (hnames : Index.HasNames index)
    (h : Index.IsMember index owner cls name child) (hpre : CanPrecede pre)
    (hclose : pre.getLast? ≠ some ')') {args : Text} (hargs : Balanced args) :
    completedIn index {} (pre ++ owner ++ ['.'] ++ name ++ '(' :: args)
      (pre ++ owner ++ ['.'] ++ name ++ '(' :: args).length (some [',']) = some child := by
  obtain ⟨howner, hname⟩ := h.isName hnames
  have hbefore := canPrecede_path hpre hclose
  have hplain : ')' ∉ owner ++ (['.'] ++ name) := by simp [howner.no_close, hname.no_close]
  have hpath : callPath (pre ++ owner ++ ['.'] ++ name ++ '(' :: args) true =
      (CallStack.scan pre).path ++ owner ++ ['.'] ++ name ++ ['('] := by
    have hcall := callPath_call hplain hargs pre
    rw [← List.append_assoc, ← List.append_assoc] at hcall
    rw [hcall, ← List.append_assoc, ← List.append_assoc]
  have hcontext : contextOf ((CallStack.scan pre).path ++ owner ++ ['.']) = owner :=
    contextOf_append (fun _ hc => hbefore.isPathChar hc) (fun _ hc => h.isPathChar hc)
  unfold completedIn
  rw [before_length, beq_self_eq_true, hpath,
    splitPath_word (getLast?_concat_dot _) hname.ne_nil hname.isWordChar (.inr rfl), hcontext]
  exact resolve_member hname.ne_nil h.get?_name h.get?_owner h.get?_child

/-- After a dot stands the class itself. -/
theorem completedIn_dot (hnames : Index.HasNames index)
    (h : Index.IsMember index owner cls name child) (hpre : CanPrecede pre)
    (hclose : pre.getLast? ≠ some ')') :
    completedIn index {} (pre ++ owner ++ ['.']) (pre ++ owner ++ ['.']).length (some ['.']) =
      some cls := by
  obtain ⟨howner, _⟩ := h.isName hnames
  have hbefore := canPrecede_path hpre hclose
  have hplain : ')' ∉ owner ++ ['.'] := by simp [howner.no_close]
  have hpath : callPath (pre ++ owner ++ ['.']) false =
      (CallStack.scan pre).path ++ owner ++ ['.'] := by
    rw [List.append_assoc, callPath_append hplain, List.append_assoc]
  have htrigger : (some ['.'] == some [',']) = false := by decide
  unfold completedIn
  rw [before_length, htrigger, hpath,
    splitPath_word (fun c hc => (hbefore c hc).1) howner.ne_nil howner.isWordChar (.inl rfl)]
  exact resolve_top h.get?_owner _

end

/-! ## Questions to a session -/

/-- The session answers from the index of a source: it has built that index, or it is going to, for
the source is what its file holds. -/
def Serves (files : FileTree) (source : Text) (s : Session) : Prop :=
  s.store.index = some (Index.build s.store.dialect s.store.blocked source) ∨
    s.store.index = none ∧ files.readText s.store.path = .ok source

/-- The settings have no aliases and block no names. -/
structure IsPlain (s : Session) : Prop where
  mapping : s.settings.hints.mapping = []
  blockedCanonical : s.settings.hints.blockedCanonical = []
  blockedAlias : s.settings.hints.blockedAlias = []

section

variable {files : FileTree} {source : Text} {s : Session}

theorem IsPlain.names_eq (h : s.IsPlain) : s.names = {} := by
  unfold names
  rw [h.mapping, h.blockedCanonical, h.blockedAlias]

/-- Whatever the session still has to do, it then has the index of the source. -/
theorem Serves.ensured (h : s.Serves files source) :
    ∃ s' notices, s.ensured files = .ok (s', notices) ∧ s'.settings = s.settings ∧
      s'.store.current = Index.build s.store.dialect s.store.blocked source := by
  rcases h with hbuilt | ⟨hnone, hread⟩
  · refine ⟨s, [], ?_, rfl, by simp [Store.current, hbuilt]⟩
    simp [Session.ensured, Store.ensured, Store.isBuilt, hbuilt, Except.map]
  · refine ⟨{ s with store := (s.store.built source).store }, (s.store.built source).notices,
      ?_, rfl, rfl⟩
    simp [Session.ensured, Store.ensured, Store.isBuilt, hnone, Store.rebuild, hread, Except.map]

theorem Serves.hover (h : s.Serves files source) (plain : s.IsPlain) {line : Text} {column : Int}
    (hword : (wordAt line column).isSome = true) :
    ∃ s' notices, s.hover files line column =
      .ok (s', hoverIn (Index.build s.store.dialect s.store.blocked source) {} line column,
        notices) := by
  obtain ⟨s', notices, hensured, hsettings, hcurrent⟩ := h.ensured
  have hnames : s'.names = {} := by
    rw [← plain.names_eq]
    simp only [names, hsettings]
  refine ⟨s', notices, ?_⟩
  simp [Session.hover, ensuredAt, hword, hensured, Except.map, hcurrent, hnames]

theorem Serves.complete (h : s.Serves files source) (plain : s.IsPlain) (line : Text)
    (column : Int) (trigger : Option Text) :
    ∃ s' notices, s.complete files line column trigger =
      .ok (s', (rules s.settings.hints).items (completedIn
        (Index.build s.store.dialect s.store.blocked source) {} line column trigger),
        notices) := by
  obtain ⟨s', notices, hensured, hsettings, hcurrent⟩ := h.ensured
  have hnames : s'.names = {} := by
    rw [← plain.names_eq]
    simp only [names, hsettings]
  refine ⟨s', notices, ?_⟩
  simp [Session.complete, completeIn, hensured, Except.map, hcurrent, hnames, hsettings]

/-- A method is reached from every line that names it after its class. -/
theorem member_reachable (serves : s.Serves files source) (plain : s.IsPlain)
    {owner name : Text} {cls child : Definition}
    (h : Index.IsMember (Index.build s.store.dialect s.store.blocked source) owner cls name child)
    {pre : Text} (hpre : CanPrecede pre) :
    (∀ post, (∀ c, post.head? = some c → isWordChar c = false) → ∀ column : Int,
      (pre ++ owner ++ ['.']).length ≤ column →
      column ≤ (pre ++ owner ++ ['.'] ++ name).length →
      ∃ s' notices, s.hover files (pre ++ owner ++ ['.'] ++ name ++ post) column =
        .ok (s', Hover.of? child, notices)) ∧
    (pre.getLast? ≠ some ')' →
      (∀ args, Balanced args →
        ∃ s' notices, s.complete files (pre ++ owner ++ ['.'] ++ name ++ '(' :: args)
          (pre ++ owner ++ ['.'] ++ name ++ '(' :: args).length (some [',']) =
            .ok (s', (rules s.settings.hints).items (some child), notices)) ∧
      ∃ s' notices, s.complete files (pre ++ owner ++ ['.'])
        (pre ++ owner ++ ['.']).length (some ['.']) =
          .ok (s', (rules s.settings.hints).items (some cls), notices)) := by
  have hnames := Index.hasNames_build s.store.dialect s.store.blocked source
  refine ⟨?_, ?_⟩
  · intro post hpost column hstart hstop
    rw [List.length_append, Int.natCast_add] at hstop
    obtain ⟨hword, hdefinition⟩ := definitionIn_member hnames h hpre hpost hstart hstop
    obtain ⟨s', notices, hhover⟩ := serves.hover plain hword
    refine ⟨s', notices, ?_⟩
    rw [List.append_assoc _ name post, hhover, hoverIn, hdefinition]
    rfl
  · intro hclose
    refine ⟨?_, ?_⟩
    · intro args hargs
      obtain ⟨s', notices, hcomplete⟩ := serves.complete plain
        (pre ++ owner ++ ['.'] ++ name ++ '(' :: args)
        (pre ++ owner ++ ['.'] ++ name ++ '(' :: args).length (some [','])
      refine ⟨s', notices, ?_⟩
      rw [hcomplete, completedIn_call hnames h hpre hclose hargs]
    · obtain ⟨s', notices, hcomplete⟩ := serves.complete plain (pre ++ owner ++ ['.'])
        (pre ++ owner ++ ['.']).length (some ['.'])
      refine ⟨s', notices, ?_⟩
      rw [hcomplete, completedIn_dot hnames h hpre hclose]

/-- Among the arguments of another call, with complete calls of its own. -/
theorem member_reachable_in_call :
    let source : Text := "class A():\n  def f(a, b=1):\n    return a\n"
    let files : FileTree := { top := .dir [("lib.py", .file (Utf8.encode source))] }
    let s : Session := .start {} (.ofText "lib.py")
    ∃ cls child, s.Serves files source ∧ s.IsPlain ∧
      Index.IsMember (Index.build s.store.dialect s.store.blocked source) "A" cls "f" child ∧
      CanPrecede "g(1, " ∧ child.signature = "def f(a, b = 1)" ∧
      (∃ s' notices, s.hover files "g(1, A.f)" 7 = .ok (s', Hover.of? child, notices)) ∧
      ∃ s' notices, s.complete files "g(1, A.f(h(2), " 15 (some [',']) =
        .ok (s', ["a=", "b="], notices) := by
  intro source files s
  let index := Index.build s.store.dialect s.store.blocked source
  let found := (Table.get? index "A").bind fun cls => cls.children.bind (Table.get? · "f")
  have hfound : found.map (fun d => (d.signature, (rules s.settings.hints).items (some d))) =
      some (("def f(a, b = 1)" : Text), (["a=", "b="] : List Text)) := by decide +kernel
  have htop : Table.get? index "f" = none := Option.isNone_iff_eq_none.mp (by decide +kernel)
  obtain ⟨child, hsome, hchild⟩ := Option.map_eq_some_iff.mp hfound
  obtain ⟨cls, howner, hmember⟩ := Option.bind_eq_some_iff.mp hsome
  obtain ⟨hsignature, hitems⟩ := Prod.mk.inj hchild
  have serves : s.Serves files source := .inr ⟨rfl, by decide +kernel⟩
  have plain : s.IsPlain := ⟨rfl, rfl, rfl⟩
  have member : Index.IsMember index "A" cls "f" child :=
    ⟨howner, hmember, htop, List.forall_mem_singleton.mpr (by decide)⟩
  have hpre : CanPrecede "g(1, " := by
    intro c hc
    rw [← Option.some.inj hc]
    decide
  obtain ⟨hhover, hcomplete⟩ := member_reachable serves plain member hpre
  obtain ⟨hcall, _⟩ := hcomplete (by decide)
  refine ⟨cls, child, serves, plain, member, hpre, hsignature, ?_, ?_⟩
  · refine hhover [')'] ?_ 7 (by decide) (by decide)
    intro c hc
    rw [← Option.some.inj hc]
    decide
  · rw [← hitems]
    exact hcall "h(2), " (by decide)

end

end Session

end Signpost
