import Signpost.Text.Blank
set_option autoImplicit false

/-!
# HTML inside a text

Tags, comments, instructions, declarations and sections of character data.  Each reader takes the
text from its first character on and gives what follows it.
-/

namespace Signpost.Markdown

open Text

/-- What follows the first occurrence of `mark`. -/
def afterMark? (mark : Text) : Text → Option Text
  | [] => if mark.isEmpty then some [] else none
  | c :: cs =>
    match afterPrefix? mark (c :: cs) with
    | some rest => some rest
    | none => afterMark? mark cs

/-- The name of a tag, and what follows it. -/
def tagName? : Text → Option (Text × Text)
  | c :: cs =>
    if c.isAlpha then
      let isNameChar (d : Char) : Bool := d.isAlphanum || d == '-'
      some (c :: cs.takeWhile isNameChar, cs.dropWhile isNameChar)
    else none
  | [] => none

/-- What follows the name of an attribute. -/
def afterAttributeName? : Text → Option Text
  | c :: cs =>
    if c.isAlpha || c == '_' || c == ':' then
      some (cs.dropWhile fun d => d.isAlphanum || d == '_' || d == ':' || d == '.' || d == '-')
    else none
  | [] => none

/-- A character of a value without quotes. -/
def isValueChar (c : Char) : Bool :=
  0x20 < c.toNat && !(['"', '\'', '=', '<', '>', '\x60'].contains c)

/-- What follows the value of an attribute. -/
def afterAttributeValue? : Text → Option Text
  | '"' :: cs => (cutAt '"' cs).2
  | '\'' :: cs => (cutAt '\'' cs).2
  | c :: cs => if isValueChar c then some (cs.dropWhile isValueChar) else none
  | [] => none

/-- What follows an attribute with the blanks before it. -/
def afterAttribute? (t : Text) : Option Text :=
  match t with
  | [] => none
  | c :: _ =>
    if isBlank c then
      (afterAttributeName? (trimLeft t)).map fun rest =>
        match trimLeft rest with
        | '=' :: more => (afterAttributeValue? (trimLeft more)).getD rest
        | _ => rest
    else none

/-- What follows all attributes; `fuel` bounds their number. -/
def afterAttributes : (fuel : Nat) → Text → Text
  | 0, t => t
  | fuel + 1, t =>
    match afterAttribute? t with
    | some rest => afterAttributes fuel rest
    | none => t

/-- What follows the end of a tag. -/
def afterTagEnd? (t : Text) : Option Text :=
  match trimLeft t with
  | '/' :: '>' :: rest => some rest
  | '>' :: rest => some rest
  | _ => none

/-- What follows an opening tag. -/
def afterOpenTag? : Text → Option Text
  | '<' :: t =>
    (tagName? t).bind fun (_, rest) => afterTagEnd? (afterAttributes rest.length rest)
  | _ => none

/-- What follows a closing tag. -/
def afterCloseTag? : Text → Option Text
  | '<' :: '/' :: t =>
    (tagName? t).bind fun (_, rest) =>
      match trimLeft rest with
      | '>' :: rest => some rest
      | _ => none
  | _ => none

/-- What follows the end of a comment.  Three hyphens are not its end. -/
def afterCommentEnd? : Text → Option Text
  | '-' :: '-' :: '>' :: rest => some rest
  | '-' :: '-' :: _ :: rest => afterCommentEnd? rest
  | '-' :: c :: rest => if c = '-' then none else afterCommentEnd? rest
  | c :: rest => if c = '-' then none else afterCommentEnd? rest
  | [] => none

/-- What follows a comment, an instruction, a declaration or a section of character data. -/
def afterDeclaration? : Text → Option Text
  | '<' :: '!' :: '-' :: '-' :: '>' :: rest => some rest
  | '<' :: '!' :: '-' :: '-' :: '-' :: '>' :: rest => some rest
  | '<' :: '!' :: '-' :: '-' :: rest => afterCommentEnd? rest
  | '<' :: '?' :: rest => afterMark? "?>" rest
  | '<' :: '!' :: t =>
    match t with
    | [] => none
    | c :: rest =>
      if c.isAlpha then (cutAt '>' rest).2
      else (afterPrefix? "[CDATA[" t).bind (afterMark? "]]>")
  | _ => none

/-- What follows a piece of HTML. -/
def afterHtml? (t : Text) : Option Text :=
  afterOpenTag? t <|> afterCloseTag? t <|> afterDeclaration? t

/-! ## Blocks -/

/-- Where a block of HTML ends. -/
inductive HtmlEnd where
  /-- With the line that has one of these marks, in any case. -/
  | marks (ms : List Text)
  /-- Before the next empty line. -/
  | blank
  deriving DecidableEq, Repr, Inhabited

/-- The elements whose content is taken as it is. -/
def rawElements : List Text := ["script", "pre", "style", "textarea"]

/-- The elements that make a block wherever they start. -/
def blockElements : List Text :=
  splitAtEach (· == ' ') <|
    "address article aside base basefont blockquote body caption center col colgroup dd details " ++
    "dialog dir div dl dt fieldset figcaption figure footer form frame frameset h1 h2 h3 h4 h5 " ++
    "h6 head header hr html iframe legend li link main menu menuitem nav noframes ol optgroup " ++
    "option p param search section summary table tbody td tfoot th thead title tr track ul"

/-- Whether the name of one of the elements stands here, and what follows it is accepted. -/
def startsElement (names : List Text) (accepts : Text → Bool) (t : Text) : Bool :=
  names.contains (lowerAscii (t.takeWhile Char.isAlphanum)) && accepts (t.dropWhile Char.isAlphanum)

/-- Whether a name ends here. -/
def endsName (t : Text) : Bool :=
  match t with
  | [] => true
  | c :: _ => isBlank c || c == '>'

/-- How the block of HTML ends that starts with a line, if one does; and whether it may start right
after a paragraph. -/
def htmlStart? (line : Text) : Option (HtmlEnd × Bool) :=
  match line with
  | '<' :: t =>
    let inner := match t with
      | '/' :: rest => rest
      | rest => rest
    if startsElement rawElements endsName t then
      some (.marks (rawElements.map fun name => '<' :: '/' :: (name ++ ['>'])), true)
    else if startsWith t "!--" then some (.marks ["-->"], true)
    else if startsWith t "?" then some (.marks ["?>"], true)
    else if startsWith t "!" && (t.drop 1).head?.any Char.isUpper then some (.marks [">"], true)
    else if startsWith t "![CDATA[" then some (.marks ["]]>"], true)
    else if startsElement blockElements (fun u => endsName u || startsWith u "/>") inner then
      some (.blank, true)
    else if ((afterOpenTag? line <|> afterCloseTag? line).map isBlankText).getD false then
      some (.blank, false)
    else none
  | _ => none

/-- Whether a block of HTML ends with a line. -/
def HtmlEnd.isAt (e : HtmlEnd) (line : Text) : Bool :=
  match e with
  | .marks ms => ms.any fun m => (afterMark? (lowerAscii m) (lowerAscii line)).isSome
  | .blank => line.isEmpty

end Signpost.Markdown
