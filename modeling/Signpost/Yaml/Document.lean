import Signpost.Text.Lines
import Signpost.Yaml.Node
import Signpost.Yaml.Token
set_option autoImplicit false

/-!
# Settings documents

The value that a settings file stands for.  A file holds one document, which may be empty; an entry
without a value holds nothing, and of two entries with the same key the later one counts.
-/

namespace Signpost.Yaml

/-- Whether the next token is one of those at which an item of a block has no value. -/
def endsBlockValue : List Token → Bool
  | .key :: _ => true
  | .value :: _ => true
  | .blockEnd :: _ => true
  | _ => false

/-- Whether the next token ends an item between brackets. -/
def endsFlowValue : List Token → Bool
  | .flowEntry :: _ => true
  | .flowSequenceEnd :: _ => true
  | .flowMappingEnd :: _ => true
  | _ => false

mutual

/-- Reads a node.  Outside brackets it may be a block; after a key, items may follow that are not
indented. -/
def node : Nat → (inBlock afterKey : Bool) → List Token → Option (Node × List Token)
  | 0, _, _, _ => none
  | fuel + 1, inBlock, afterKey, ts =>
    match ts with
    | .scalar t isPlain :: rest => some (.scalar t isPlain, rest)
    | .flowSequenceStart :: rest => flowItems fuel true [] rest
    | .flowMappingStart :: rest => flowEntries fuel true [] rest
    | .blockSequenceStart :: rest => if inBlock then blockItems fuel [] rest else none
    | .blockMappingStart :: rest => if inBlock then blockEntries fuel [] rest else none
    | .blockEntry :: _ => if afterKey then looseItems fuel [] ts else none
    | _ => none

/-- Reads the items of a block up to its end. -/
def blockItems : Nat → List Node → List Token → Option (Node × List Token)
  | 0, _, _ => none
  | fuel + 1, items, ts =>
    match ts with
    | .blockEnd :: rest => some (.list items, rest)
    | .blockEntry :: .blockEntry :: rest =>
      blockItems fuel (items ++ [Node.empty]) (.blockEntry :: rest)
    | .blockEntry :: .blockEnd :: rest =>
      blockItems fuel (items ++ [Node.empty]) (.blockEnd :: rest)
    | .blockEntry :: rest =>
      (node fuel true false rest).bind fun (v, rest) => blockItems fuel (items ++ [v]) rest
    | _ => none

/-- Reads items that are indented no deeper than the key before them. -/
def looseItems : Nat → List Node → List Token → Option (Node × List Token)
  | 0, _, _ => none
  | fuel + 1, items, ts =>
    match ts with
    | .blockEntry :: .blockEntry :: rest =>
      looseItems fuel (items ++ [Node.empty]) (.blockEntry :: rest)
    | .blockEntry :: rest =>
      if endsBlockValue rest then looseItems fuel (items ++ [Node.empty]) rest
      else (node fuel true false rest).bind fun (v, rest) => looseItems fuel (items ++ [v]) rest
    | _ => some (.list items, ts)

/-- Reads the value after a key or a value mark in a block; nothing may stand there. -/
def blockValue : Nat → List Token → Option (Node × List Token)
  | 0, _ => none
  | fuel + 1, ts => if endsBlockValue ts then some (.empty, ts) else node fuel true true ts

/-- Reads the entries of a block up to its end. -/
def blockEntries : Nat → List (Node × Node) → List Token → Option (Node × List Token)
  | 0, _, _ => none
  | fuel + 1, entries, ts =>
    match ts with
    | .blockEnd :: rest => some (.map entries, rest)
    | .key :: rest =>
      (blockValue fuel rest).bind fun (k, rest) =>
        match rest with
        | .value :: rest =>
          (blockValue fuel rest).bind fun (v, rest) =>
            blockEntries fuel (entries ++ [(k, v)]) rest
        | rest => blockEntries fuel (entries ++ [(k, .empty)]) rest
    | _ => none

/-- Reads a key or value between brackets; nothing may stand there. -/
def flowValue : Nat → List Token → Option (Node × List Token)
  | 0, _ => none
  | fuel + 1, ts =>
    match ts with
    | .value :: _ => some (.empty, ts)
    | _ => if endsFlowValue ts then some (.empty, ts) else node fuel false false ts

/-- Reads a key between brackets and the value after it. -/
def flowPair : Nat → List Token → Option ((Node × Node) × List Token)
  | 0, _ => none
  | fuel + 1, ts =>
    (flowValue fuel ts).bind fun (k, rest) =>
      match rest with
      | .value :: rest =>
        if endsFlowValue rest then some ((k, .empty), rest)
        else (node fuel false false rest).map fun (v, rest) => ((k, v), rest)
      | rest => some ((k, .empty), rest)

/-- Reads the items of a bracketed list. -/
def flowItems : Nat → (first : Bool) → List Node → List Token → Option (Node × List Token)
  | 0, _, _, _ => none
  | fuel + 1, first, items, ts =>
    match ts with
    | .flowSequenceEnd :: rest => some (.list items, rest)
    | _ =>
      let afterComma := match first, ts with
        | true, _ => some ts
        | false, .flowEntry :: rest => some rest
        | false, _ => none
      afterComma.bind fun ts =>
        match ts with
        | .flowSequenceEnd :: rest => some (.list items, rest)
        | .key :: rest =>
          (flowPair fuel rest).bind fun (entry, rest) =>
            flowItems fuel false (items ++ [.map [entry]]) rest
        | _ =>
          (node fuel false false ts).bind fun (v, rest) =>
            flowItems fuel false (items ++ [v]) rest

/-- Reads the entries of a bracketed map. -/
def flowEntries :
    Nat → (first : Bool) → List (Node × Node) → List Token → Option (Node × List Token)
  | 0, _, _, _ => none
  | fuel + 1, first, entries, ts =>
    match ts with
    | .flowMappingEnd :: rest => some (.map entries, rest)
    | _ =>
      let afterComma := match first, ts with
        | true, _ => some ts
        | false, .flowEntry :: rest => some rest
        | false, _ => none
      afterComma.bind fun ts =>
        match ts with
        | .flowMappingEnd :: rest => some (.map entries, rest)
        | .key :: rest =>
          (flowPair fuel rest).bind fun (entry, rest) =>
            flowEntries fuel false (entries ++ [entry]) rest
        | _ =>
          (node fuel false false ts).bind fun (k, rest) =>
            flowEntries fuel false (entries ++ [(k, .empty)]) rest

end

/-- Reads the only document of a file. -/
def document (fuel : Nat) (ts : List Token) : Option Node :=
  let finished (ts : List Token) : Bool := ts.all fun t => t matches .documentEnd
  let content (ts : List Token) : Option Node :=
    (node fuel true false ts).bind fun (n, rest) => if finished rest then some n else none
  match ts with
  | [] => some .empty
  | .documentStart :: rest => if finished rest then some .empty else content rest
  | ts => content ts

/-- The value that the text of a settings file stands for.  Values are made only once everything is
known to be well formed. -/
def parse (t : Text) : Except Unread Value :=
  (scan t).bind fun s =>
    match document (4 * s.tokens.length + 4) s.tokens with
    | none => .error s.fault
    | some n => if s.isSound then n.value else .error .unrepresentable

/-- The value that the bytes of a settings file stand for.  They are decoded as they are read, so
bytes that are no text are sure to be met only if they come early; what is met before others is not
followed here. -/
def read (bytes : List UInt8) : Except Unread Value :=
  match Text.Utf8.decode bytes with
  | .error fault => .error (if fault.offset < firstPart then .undecoded fault else .unfollowed)
  | .ok t => parse (Text.plainBreaks t)

end Signpost.Yaml
