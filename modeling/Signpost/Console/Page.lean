import Signpost.Console.Markup
import Signpost.Console.Sheet
import Signpost.Markdown.Block
import Signpost.Markdown.Inline
import Signpost.Query.Hover
import Signpost.Text.Margin
set_option autoImplicit false

/-!
# Documents on the console

A document as plain lines: one line for a paragraph, code indented and with an empty line on both
sides, quotations behind a bar, and the items of lists behind their marks.  An empty line separates
what stands side by side at the top.

A picture inside a paragraph is met before the paragraph is complete, and is shown at once, on the
line where the paragraph or what holds it will follow.  `Canvas` keeps track of that, and of the
empty line that is due.  HTML inside a paragraph is not shown.
-/

namespace Signpost.Console

open Text Markdown Query

/-- The columns of the console. -/
def pageWidth : Nat := 400

/-! ## Content -/

/-- The text of fragments. -/
def shownText (ps : List Fragment) : Text :=
  (ps.flatMap fun
    | .text t => t
    | .softBreak => [' ']
    | .hardBreak => ['\n']
    | .image _ _ => []
    | .html => []).filter fun c => !isHidden c

/-- The lines of a text. -/
def shownLines (t : Text) : List Text := splitAtEach (· == '\n') (alignTabs 8 t)

/-- The lines of content. -/
def contentLines (targets : List Target) (content : Text) : List Text :=
  shownLines (shownText (fragments targets content))

/-- What is shown for a picture: its description, or else the last part of its address. -/
def pictureText (description destination : Text) : Text :=
  let isSlash (c : Char) : Bool := c == '/'
  let caption := description.filter fun c => !isHidden c
  let name := takeWhileEnd (fun c => !isSlash c) (dropWhileEnd isSlash destination)
  alignTabs 8 ("🌆 " ++ (if caption.isEmpty then name else caption) ++ " ")

/-- A text without the mark of byte order that it may start with. -/
def withoutOrderMark : Text → Text
  | [] => []
  | c :: cs => if c.toNat = 0xFEFF then cs else c :: cs

/-- The lines of code, with an empty line before and after them. -/
def codeBlockLines (content : Text) : List Text :=
  let code := expandTabs 4 (trimRight (content.filter fun c => !isHidden c))
  [] :: ((splitAtEach (· == '\n') (withoutOrderMark code)).map (' ' :: ·) ++ [[]])

/-- Lines behind a mark: it stands before the first one, and spaces before the others. -/
def behind (mark : Text) : List Text → List Text
  | [] => []
  | first :: rest => (mark ++ first) :: rest.map (List.replicate mark.length ' ' ++ ·)

/-- The mark of an item without number. -/
def bulletMark : Text := " • "

/-- The mark of an item with a number, in a list that ends before the number `last`. -/
def numberMark (last n : Nat) : Text :=
  List.replicate ((ofNat last).length + 1 - (ofNat n).length) ' ' ++ ofNat n ++ [' ']

/-- The mark of the item at a place of a list with `count` items. -/
def itemMark (start : Option Nat) (count place : Nat) : Text :=
  match start with
  | none => bulletMark
  | some first => numberMark (first + count) (first + place)

/-! ## Blocks -/

mutual

/-- The lines of a block on so many columns. -/
def blockLines (targets : List Target) (columns : Nat) : Block → List Text
  | .paragraph content => contentLines targets content
  | .heading level content =>
    let ls := contentLines targets content
    if level = 1 then ls.map (centered columns) else ls
  | .code content => codeBlockLines content
  | .rule => [List.replicate columns '-', []]
  | .html => []
  | .table sides head rows =>
    sheet sides (head.map (contentLines targets)) (rows.map (·.map (contentLines targets)))
  | .definition _ => []
  | .quotation blocks => (blocksLines targets (columns - 4) blocks).map fun l => '▌' :: ' ' :: l
  | .items start items => itemsLines targets columns (itemMark start items.length) 0 items

/-- The lines of blocks one after the other. -/
def blocksLines (targets : List Target) (columns : Nat) : List Block → List Text
  | [] => []
  | b :: rest => blockLines targets columns b ++ blocksLines targets columns rest

/-- The lines of the items of a list from a place on. -/
def itemsLines (targets : List Target) (columns : Nat) (mark : Nat → Text) (place : Nat) :
    List (List Block) → List Text
  | [] => []
  | blocks :: rest =>
    behind (mark place) (blocksLines targets (columns - (mark place).length) blocks) ++
      itemsLines targets columns mark (place + 1) rest

end

/-! ## The page -/

/-- A page while it is being printed. -/
structure Canvas where
  shown : Text := []
  /-- Whether an empty line is due before the next element. -/
  isGapDue : Bool := false
  deriving DecidableEq, Repr, Inhabited

namespace Canvas

/-- Prints the empty line that is due, if one is. -/
def gap (c : Canvas) : Canvas := if c.isGapDue then { c with shown := c.shown ++ ['\n'] } else c

/-- Meets a fragment of a paragraph. -/
def meet (c : Canvas) : Fragment → Canvas
  | .image description destination =>
    { shown := c.gap.shown ++ pictureText description destination, isGapDue := false }
  | _ => c

/-- Goes through the content of a paragraph, a heading or a cell.  Where there is none, an empty
line becomes due all the same. -/
def meetContent (targets : List Target) (c : Canvas) (content : Text) : Canvas :=
  match fragments targets content with
  | [] => { c with isGapDue := true }
  | p :: ps => (p :: ps).foldl meet c

/-- Goes through a cell of a table. -/
def meetCell (targets : List Target) (c : Canvas) (content : Text) : Canvas :=
  { c.meetContent targets content with isGapDue := true }

/-- Comes to the end of a block: an empty line is due after all but rules. -/
def leave (c : Canvas) : Block → Canvas
  | .rule => { c with isGapDue := false }
  | .definition _ => c
  | _ => { c with isGapDue := true }

mutual

/-- Goes through what a block holds. -/
def enter (targets : List Target) (c : Canvas) : Block → Canvas
  | .paragraph content => c.meetContent targets content
  | .heading _ content => c.meetContent targets content
  | .table _ head rows => (head ++ rows.flatten).foldl (meetCell targets) c
  | .quotation blocks => enterAll targets c blocks
  | .items _ items => enterItems targets c items
  | _ => c

/-- Goes through blocks inside a container. -/
def enterAll (targets : List Target) (c : Canvas) : List Block → Canvas
  | [] => c
  | b :: rest => enterAll targets ((enter targets c b).leave b) rest

/-- Goes through the items of a list. -/
def enterItems (targets : List Target) (c : Canvas) : List (List Block) → Canvas
  | [] => c
  | blocks :: rest =>
    enterItems targets { enterAll targets c blocks with isGapDue := true } rest

end

/-- Prints a block at the top of a document. -/
def print (targets : List Target) (c : Canvas) (b : Block) : Canvas :=
  match b with
  | .definition _ => c
  | b =>
    let c := (c.enter targets b).gap
    { c with shown := c.shown ++ (blockLines targets pageWidth b).flatMap (· ++ ['\n']) }.leave b

end Canvas

/-- A document as it is printed. -/
def printDocument (t : Text) : Text :=
  let blocks := document t
  (blocks.foldl (Canvas.print (targetsOf blocks)) {}).shown

/-- Hover content as it is printed. -/
def page (h : Hover) : Text := printDocument h.markdown

end Signpost.Console
