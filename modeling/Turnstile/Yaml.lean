/-
Module: Turnstile.Yaml
Purpose: Documents as trees of texts, sequences and mappings.
Main exports: Yaml, Yaml.ofText?
-/
import Turnstile.Yaml.Token

/-!
A text that is one document becomes a tree.  An alias stands for the node that its anchor named before.
An empty text is an empty document, whose tree is an empty plain text.  Tags are kept on texts alone,
because nothing else depends on them.
-/

namespace Turnstile

/-- The tree of a document. -/
inductive Yaml where
  | scalar (text : String) (style : Yaml.ScalarStyle) (tag : Option String)
  | sequence (items : List Yaml)
  | mapping (entries : List (Yaml × Yaml))
deriving Inhabited

namespace Yaml

/-- The node of nothing. -/
def empty : Yaml :=
  .scalar "" .plain none

/-- Tokens that are being put together: the tokens ahead and the nodes that anchors name. -/
structure Assembly where
  ahead : List Token
  anchors : List (String × Yaml) := []
  handles : List String := ["!", "!!", ""]
deriving Inhabited

namespace Assembly

/-- The token ahead is one of these. -/
def seesAny (assembly : Assembly) (tokens : List Token) : Bool :=
  match assembly.ahead.head? with
  | some token => tokens.contains token
  | none => false

/-- Pass one token. -/
def pass (assembly : Assembly) : Assembly :=
  { assembly with ahead := assembly.ahead.tail }

/-- Pass the token if it is ahead; otherwise there is a fault. -/
def expect? (token : Token) (assembly : Assembly) : Option Assembly :=
  if assembly.seesAny [token] then some assembly.pass else none

end Assembly

/-- The full tag of a handle and the rest of a tag. -/
def fullTag (handle rest : String) : String :=
  if handle == "!!" then "tag:yaml.org,2002:" ++ rest else handle ++ rest

/-- Anchor and tag before a node, each at most once, in either order. -/
def properties? (assembly : Assembly) : Option (Option String × Option String × Assembly) :=
  match assembly.ahead with
  | .anchor name :: .tag handle rest :: ahead =>
    if assembly.handles.contains handle then
      some (some name, some (fullTag handle rest), { assembly with ahead := ahead })
    else none
  | .tag handle rest :: .anchor name :: ahead =>
    if assembly.handles.contains handle then
      some (some name, some (fullTag handle rest), { assembly with ahead := ahead })
    else none
  | .anchor name :: ahead => some (some name, none, { assembly with ahead := ahead })
  | .tag handle rest :: ahead =>
    if assembly.handles.contains handle then
      some (none, some (fullTag handle rest), { assembly with ahead := ahead })
    else none
  | _ => some (none, none, assembly)

mutual

/-- Put a node together.  The flags tell whether collections in blocks may start here, and whether a
sequence may start without being indented. -/
def node? (bound : Nat) (block indentless : Bool) (assembly : Assembly) : Option (Yaml × Assembly) :=
  match bound with
  | 0 => none
  | bound + 1 =>
    match assembly.ahead with
    | .alias name :: ahead =>
      (assembly.anchors.lookup name).map fun node => (node, { assembly with ahead := ahead })
    | _ =>
      match properties? assembly with
      | none => none
      | some (anchor, tag, start) =>
        match content? bound block indentless (anchor.isSome || tag.isSome) tag start with
        | none => none
        | some (node, next) =>
          match anchor with
          | none => some (node, next)
          | some name => some (node, { next with anchors := (name, node) :: next.anchors })

/-- Put together what follows the properties of a node. -/
def content? (bound : Nat) (block indentless hasProperties : Bool) (tag : Option String) (start : Assembly) :
    Option (Yaml × Assembly) :=
  match bound with
  | 0 => none
  | bound + 1 =>
    match start.ahead with
    | .scalar text style :: _ => some (.scalar text style tag, start.pass)
    | .flowSequence :: _ =>
      (flowItems? bound true start.pass).map fun read => (.sequence read.1, read.2)
    | .flowMapping :: _ =>
      (flowEntries? bound true start.pass).map fun read => (.mapping read.1, read.2)
    | .entry :: _ =>
      if indentless then (looseItems? bound start).map fun read => (.sequence read.1, read.2)
      else if hasProperties then some (.scalar "" .plain tag, start) else none
    | .blockSequence :: _ =>
      if block then (items? bound start.pass).map fun read => (.sequence read.1, read.2)
      else if hasProperties then some (.scalar "" .plain tag, start) else none
    | .blockMapping :: _ =>
      if block then (entries? bound start.pass).map fun read => (.mapping read.1, read.2)
      else if hasProperties then some (.scalar "" .plain tag, start) else none
    | _ => if hasProperties then some (.scalar "" .plain tag, start) else none

/-- The node of an entry, which is empty when one of these tokens is ahead. -/
def nodeUnless? (bound : Nat) (stops : List Token) (block indentless : Bool) (assembly : Assembly) :
    Option (Yaml × Assembly) :=
  match bound with
  | 0 => none
  | bound + 1 => if assembly.seesAny stops then some (empty, assembly) else node? bound block indentless assembly

/-- The items of a sequence in a block. -/
def items? (bound : Nat) (assembly : Assembly) : Option (List Yaml × Assembly) :=
  match bound with
  | 0 => none
  | bound + 1 =>
    match assembly.ahead with
    | .entry :: _ =>
      match nodeUnless? bound [.entry, .blockEnd] true false assembly.pass with
      | none => none
      | some (item, next) => (items? bound next).map fun read => (item :: read.1, read.2)
    | .blockEnd :: _ => some ([], assembly.pass)
    | _ => none

/-- The items of a sequence that is not indented. -/
def looseItems? (bound : Nat) (assembly : Assembly) : Option (List Yaml × Assembly) :=
  match bound with
  | 0 => none
  | bound + 1 =>
    match assembly.ahead with
    | .entry :: _ =>
      match nodeUnless? bound [.entry, .key, .value, .blockEnd] true false assembly.pass with
      | none => none
      | some (item, next) => (looseItems? bound next).map fun read => (item :: read.1, read.2)
    | _ => some ([], assembly)

/-- The value of an entry in a block, which is empty when there is no sign for it. -/
def blockValue? (bound : Nat) (assembly : Assembly) : Option (Yaml × Assembly) :=
  match bound with
  | 0 => none
  | bound + 1 =>
    if assembly.seesAny [.value] then
      nodeUnless? bound [.key, .value, .blockEnd] true true assembly.pass
    else some (empty, assembly)

/-- The entries of a mapping in a block. -/
def entries? (bound : Nat) (assembly : Assembly) : Option (List (Yaml × Yaml) × Assembly) :=
  match bound with
  | 0 => none
  | bound + 1 =>
    match assembly.ahead with
    | .key :: _ =>
      match nodeUnless? bound [.key, .value, .blockEnd] true true assembly.pass with
      | none => none
      | some (key, middle) =>
        match blockValue? bound middle with
        | none => none
        | some (value, next) => (entries? bound next).map fun read => ((key, value) :: read.1, read.2)
    | .blockEnd :: _ => some ([], assembly.pass)
    | _ => none

/-- The value of an entry in brackets, which is empty when there is no sign for it. -/
def flowValue? (bound : Nat) (stops : List Token) (assembly : Assembly) : Option (Yaml × Assembly) :=
  match bound with
  | 0 => none
  | bound + 1 =>
    if assembly.seesAny [.value] then nodeUnless? bound stops false false assembly.pass
    else some (empty, assembly)

/-- The items of a sequence in brackets; a key among them makes a mapping of one entry. -/
def flowItems? (bound : Nat) (first : Bool) (assembly : Assembly) : Option (List Yaml × Assembly) :=
  match bound with
  | 0 => none
  | bound + 1 =>
    if assembly.seesAny [.flowSequenceEnd] then some ([], assembly.pass)
    else
      match if first then some assembly else assembly.expect? .flowEntry with
      | none => none
      | some start =>
        if start.seesAny [.flowSequenceEnd] then some ([], start.pass)
        else if start.seesAny [.key] then
          match nodeUnless? bound [.value, .flowEntry, .flowSequenceEnd] false false start.pass with
          | none => none
          | some (key, middle) =>
            match flowValue? bound [.flowEntry, .flowSequenceEnd] middle with
            | none => none
            | some (value, next) =>
              (flowItems? bound false next).map fun read => (.mapping [(key, value)] :: read.1, read.2)
        else
          match node? bound false false start with
          | none => none
          | some (item, next) => (flowItems? bound false next).map fun read => (item :: read.1, read.2)

/-- The entries of a mapping in brackets; an entry without a key sign is a key without a value. -/
def flowEntries? (bound : Nat) (first : Bool) (assembly : Assembly) : Option (List (Yaml × Yaml) × Assembly) :=
  match bound with
  | 0 => none
  | bound + 1 =>
    if assembly.seesAny [.flowMappingEnd] then some ([], assembly.pass)
    else
      match if first then some assembly else assembly.expect? .flowEntry with
      | none => none
      | some start =>
        if start.seesAny [.flowMappingEnd] then some ([], start.pass)
        else if start.seesAny [.key] then
          match nodeUnless? bound [.value, .flowEntry, .flowMappingEnd] false false start.pass with
          | none => none
          | some (key, middle) =>
            match flowValue? bound [.flowEntry, .flowMappingEnd] middle with
            | none => none
            | some (value, next) =>
              (flowEntries? bound false next).map fun read => ((key, value) :: read.1, read.2)
        else
          match node? bound false false start with
          | none => none
          | some (key, next) =>
            (flowEntries? bound false next).map fun read => ((key, empty) :: read.1, read.2)

end

/-- Pass the directives before a document; a version may be told once, and a handle declared once. -/
def directives? : List Token → Bool → List String → Option (List Token × List String)
  | .version :: rest, told, declared => if told then none else directives? rest true declared
  | .tagDirective handle :: rest, told, declared =>
    if declared.contains handle then none else directives? rest told (handle :: declared)
  | ahead, _, declared => some (ahead, declared)

/-- The tree of a document's tokens. -/
def ofTokens? (tokens : List Token) : Option Yaml := do
  let start := tokens.dropWhile (· == .documentEnd)
  let (ahead, declared) ← directives? start false []
  let hasDirectives := ahead.length < start.length
  let isMarked := ahead.head? == some .documentStart
  if hasDirectives && !isMarked then none
  let assembly : Assembly :=
    { ahead := if isMarked then ahead.tail else ahead, handles := declared ++ ["!", "!!", ""] }
  let stops : List Token := [.version, .documentStart, .documentEnd, .streamEnd]
  let (node, next) ← nodeUnless? (10 * tokens.length + 10) stops true false assembly
  if next.ahead.dropWhile (· == .documentEnd) == [.streamEnd] then some node else none

/-- The tree of a text, if it is one document. -/
def ofText? (text : String) : Option Yaml :=
  (Token.ofText? text).bind ofTokens?

end Yaml

end Turnstile
