import Checkup.Yaml.Token

/-!
# Nodes of YAML

The tokens of a document make up a graph of nodes: scalars, sequences and
mappings, each with its tag. Nodes are numbered in the order in which they
start, and a collection holds the numbers of its parts. An alias is the number
of the node under its anchor, so a collection may hold itself.
-/

namespace Checkup.Yaml

/-- The tag of a node. -/
inductive TagName where
  /-- No tag, so that the kind of the node and the look of a plain scalar decide. -/
  | none
  /-- A tag by its full name. -/
  | named (name : String)
  deriving DecidableEq, Repr

/-- A node of a document. -/
inductive Node where
  /-- A scalar, and whether its look decides what it is. -/
  | scalar (tag : TagName) (isPlain : Bool) (text : String)
  | sequence (tag : TagName) (items : List Nat)
  | mapping (tag : TagName) (entries : List (Nat × Nat))

namespace Node

/-- The scalar that stands where nothing is written. -/
def empty : Node := .scalar .none true ""

/-- The node with another tag. -/
def retag (tag : TagName) : Node → Node
  | scalar _ _ text => .scalar tag false text
  | sequence _ items => .sequence tag items
  | mapping _ entries => .mapping tag entries

end Node

/-- The nodes of a document by their numbers. -/
abbrev Graph := Array Node

/-- The tag handles that every document knows. -/
def standardHandles : List (String × String) := [("!", "!"), ("!!", "tag:yaml.org,2002:")]

/-- What is known while a document is read. -/
structure Context where
  handles : List (String × String) := standardHandles
  /-- The numbers of the nodes under anchors so far. -/
  anchors : List (String × Nat) := []
  /-- The nodes so far. -/
  graph : Graph := #[]

namespace Context

/-- One more node, under an anchor if there is one; its number is that of nodes before. -/
def add (context : Context) (anchor : Option String) (node : Node) : Context :=
  let anchors := match anchor with
    | none => context.anchors
    | some name => (name, context.graph.size) :: context.anchors
  { context with anchors, graph := context.graph.push node }

/-- Put a node in the place of the one with its number. -/
def fill (context : Context) (number : Nat) (node : Node) : Context :=
  { context with graph := context.graph.setIfInBounds number node }

end Context

/-- What is read at the head of some tokens: a value, the tokens after it, and
what is then known. -/
structure Found (α : Type) where
  value : α
  rest : List Token
  context : Context

/-- Why tokens that are not expected are not read. -/
def unexpected {α : Type} : List Token → Except Flaw α
  | .broken flaw :: _ => .error flaw
  | _ => .error .malformed

/-- The properties in front of a node. -/
structure Properties where
  anchor : Option String := none
  tag : Option TagText := none

/-- The properties at the head of some tokens: an anchor and a tag in any order. -/
def properties : List Token → Properties × List Token
  | .anchor name :: .tag tag :: rest => (⟨some name, some tag⟩, rest)
  | .tag tag :: .anchor name :: rest => (⟨some name, some tag⟩, rest)
  | .anchor name :: rest => (⟨some name, none⟩, rest)
  | .tag tag :: rest => (⟨none, some tag⟩, rest)
  | rest => ({}, rest)

/-- The full name of a tag; the lone exclamation mark stands for none. -/
def resolveTag (handles : List (String × String)) (tag : TagText) : Except Flaw TagName :=
  let named (name : String) : TagName := if name = "!" then .none else .named name
  match tag.handle with
  | none => .ok (named tag.suffix)
  | some handle =>
    match handles.lookup handle with
    | some start => .ok (named (start ++ tag.suffix))
    | none => .error .malformed

/-- Where a node stands, as far as it decides which nodes may stand there. -/
inductive Site where
  /-- Inside brackets. -/
  | flow
  /-- In block style. -/
  | block
  /-- A key or a value in block style, where a sequence needs no indentation. -/
  | blockEntry
  deriving DecidableEq, Repr

namespace Site

/-- Collections in block style may stand there. -/
def allowsBlock (site : Site) : Bool := site != .flow

end Site

/-- Nothing is written in front of these tokens after a key. -/
def endsBlockKey : List Token → Bool
  | .key :: _ | .value :: _ | .blockEnd :: _ => true
  | _ => false

/-- Nothing is written in front of these tokens after the sign of an entry. -/
def endsBlockEntry : List Token → Bool
  | .entry :: _ | .blockEnd :: _ => true
  | _ => false

/-- The same for a sequence that is not indented. -/
def endsFlatEntry (tokens : List Token) : Bool := endsBlockEntry tokens || endsBlockKey tokens

/-- Nothing is written in front of these tokens after a key inside brackets. -/
def endsFlowKey (close : Token) : List Token → Bool
  | token :: _ => token = .value || token = .comma || token = close
  | [] => false

/-- Nothing is written in front of these tokens after a value inside brackets. -/
def endsFlowValue (close : Token) : List Token → Bool
  | token :: _ => token = .comma || token = close
  | [] => false

/-- The empty scalar in front of some tokens. -/
def blank (context : Context) (tokens : List Token) : Found Nat :=
  ⟨context.graph.size, tokens, context.add none .empty⟩

mutual

/-- The node at the head of some tokens. The fuel bounds the depth of the search. -/
def readNode (fuel : Nat) (site : Site) (context : Context) (tokens : List Token) :
    Except Flaw (Found Nat) :=
  match fuel with
  | 0 => unexpected tokens
  | fuel + 1 =>
    match tokens with
    | .aliasOf name :: rest =>
      match context.anchors.lookup name with
      | some number => .ok ⟨number, rest, context⟩
      | none => .error .malformed
    | tokens => do
      let (properties, rest) := properties tokens
      let tag ← match properties.tag with
        | none => .ok TagName.none
        | some tag => resolveTag context.handles tag
      if properties.anchor.any fun name => (context.anchors.lookup name).isSome then .error .malformed
      else readContent fuel site context properties tag rest

/-- The node behind its properties. An anchor is known inside its own node. -/
def readContent (fuel : Nat) (site : Site) (context : Context) (properties : Properties)
    (tag : TagName) (tokens : List Token) : Except Flaw (Found Nat) :=
  match fuel with
  | 0 => unexpected tokens
  | fuel + 1 =>
    let number := context.graph.size
    let leaf (node : Node) (rest : List Token) : Except Flaw (Found Nat) :=
      .ok ⟨number, rest, context.add properties.anchor node⟩
    let inSequence := context.add properties.anchor (.sequence tag [])
    let sequence (found : Except Flaw (Found (List Nat))) : Except Flaw (Found Nat) :=
      found.map fun found =>
        ⟨number, found.rest, found.context.fill number (.sequence tag found.value)⟩
    let inMapping := context.add properties.anchor (.mapping tag [])
    let mapping (found : Except Flaw (Found (List (Nat × Nat)))) : Except Flaw (Found Nat) :=
      found.map fun found =>
        ⟨number, found.rest, found.context.fill number (.mapping tag found.value)⟩
    let nothing : Except Flaw (Found Nat) :=
      if properties.anchor.isSome || properties.tag.isSome then
        leaf (.scalar tag (tag = .none) "") tokens
      else unexpected tokens
    match tokens with
    | .entry :: _ =>
      if site = .blockEntry then sequence (readFlatEntries fuel inSequence tokens) else nothing
    | .scalar text isPlain :: rest =>
      leaf (.scalar tag (tag = .none && (isPlain || properties.tag.isSome)) text) rest
    | .openSequence :: rest => sequence (readFlowItems fuel true inSequence rest)
    | .openMapping :: rest => mapping (readFlowEntries fuel true inMapping rest)
    | .blockSequence :: rest =>
      if site.allowsBlock then sequence (readBlockItems fuel inSequence rest) else nothing
    | .blockMapping :: rest =>
      if site.allowsBlock then mapping (readBlockEntries fuel inMapping rest) else nothing
    | _ => nothing

/-- A node, or the empty scalar where nothing is written. -/
def readOptional (fuel : Nat) (ends : List Token → Bool) (site : Site) (context : Context)
    (tokens : List Token) : Except Flaw (Found Nat) :=
  match fuel with
  | 0 => unexpected tokens
  | fuel + 1 =>
    if ends tokens then .ok (blank context tokens) else readNode fuel site context tokens

/-- The items of an indented sequence. -/
def readBlockItems (fuel : Nat) (context : Context) (tokens : List Token) :
    Except Flaw (Found (List Nat)) :=
  match fuel with
  | 0 => unexpected tokens
  | fuel + 1 =>
    match tokens with
    | .entry :: rest => do
      let item ← readOptional fuel endsBlockEntry .block context rest
      let more ← readBlockItems fuel item.context item.rest
      .ok { more with value := item.value :: more.value }
    | .blockEnd :: rest => .ok ⟨[], rest, context⟩
    | tokens => unexpected tokens

/-- The items of a sequence that is not indented; whatever follows ends it. -/
def readFlatEntries (fuel : Nat) (context : Context) (tokens : List Token) :
    Except Flaw (Found (List Nat)) :=
  match fuel with
  | 0 => unexpected tokens
  | fuel + 1 =>
    match tokens with
    | .entry :: rest => do
      let item ← readOptional fuel endsFlatEntry .block context rest
      let more ← readFlatEntries fuel item.context item.rest
      .ok { more with value := item.value :: more.value }
    | tokens => .ok ⟨[], tokens, context⟩

/-- The entries of a mapping in block style. -/
def readBlockEntries (fuel : Nat) (context : Context) (tokens : List Token) :
    Except Flaw (Found (List (Nat × Nat))) :=
  match fuel with
  | 0 => unexpected tokens
  | fuel + 1 =>
    match tokens with
    | .key :: rest => do
      let key ← readOptional fuel endsBlockKey .blockEntry context rest
      let value ← match key.rest with
        | .value :: rest => readOptional fuel endsBlockKey .blockEntry key.context rest
        | rest => .ok (blank key.context rest)
      let more ← readBlockEntries fuel value.context value.rest
      .ok { more with value := (key.value, value.value) :: more.value }
    | .blockEnd :: rest => .ok ⟨[], rest, context⟩
    | tokens => unexpected tokens

/-- A key inside brackets, behind its sign, and its value. -/
def readFlowPair (fuel : Nat) (close : Token) (context : Context) (tokens : List Token) :
    Except Flaw (Found (Nat × Nat)) :=
  match fuel with
  | 0 => unexpected tokens
  | fuel + 1 => do
    let key ← readOptional fuel (endsFlowKey close) .flow context tokens
    match key.rest with
    | .value :: rest => do
      let value ← readOptional fuel (endsFlowValue close) .flow key.context rest
      .ok ⟨(key.value, value.value), value.rest, value.context⟩
    | rest =>
      let value := blank key.context rest
      .ok ⟨(key.value, value.value), rest, value.context⟩

/-- The items of a sequence in brackets. Items are separated by commas; a key
among them is a mapping of its own. -/
def readFlowItems (fuel : Nat) (isFirst : Bool) (context : Context) (tokens : List Token) :
    Except Flaw (Found (List Nat)) :=
  match fuel with
  | 0 => unexpected tokens
  | fuel + 1 =>
    match isFirst, tokens with
    | _, .closeSequence :: rest => .ok ⟨[], rest, context⟩
    | false, .comma :: .closeSequence :: rest => .ok ⟨[], rest, context⟩
    | false, .comma :: rest => readFlowItem fuel context rest
    | true, tokens => readFlowItem fuel context tokens
    | false, tokens => unexpected tokens

/-- An item of a sequence in brackets and the items after it. -/
def readFlowItem (fuel : Nat) (context : Context) (tokens : List Token) :
    Except Flaw (Found (List Nat)) :=
  match fuel with
  | 0 => unexpected tokens
  | fuel + 1 => do
    let item ← match tokens with
      | .key :: rest => do
        let number := context.graph.size
        let pair ← readFlowPair fuel .closeSequence (context.add none (.mapping .none [])) rest
        .ok ⟨number, pair.rest, pair.context.fill number (.mapping .none [pair.value])⟩
      | tokens => readNode fuel .flow context tokens
    let more ← readFlowItems fuel false item.context item.rest
    .ok { more with value := item.value :: more.value }

/-- The entries of a mapping in brackets. -/
def readFlowEntries (fuel : Nat) (isFirst : Bool) (context : Context) (tokens : List Token) :
    Except Flaw (Found (List (Nat × Nat))) :=
  match fuel with
  | 0 => unexpected tokens
  | fuel + 1 =>
    match isFirst, tokens with
    | _, .closeMapping :: rest => .ok ⟨[], rest, context⟩
    | false, .comma :: .closeMapping :: rest => .ok ⟨[], rest, context⟩
    | false, .comma :: rest => readFlowEntry fuel context rest
    | true, tokens => readFlowEntry fuel context tokens
    | false, tokens => unexpected tokens

/-- An entry of a mapping in brackets and the entries after it; a node without
a colon is a key without a value. -/
def readFlowEntry (fuel : Nat) (context : Context) (tokens : List Token) :
    Except Flaw (Found (List (Nat × Nat))) :=
  match fuel with
  | 0 => unexpected tokens
  | fuel + 1 => do
    let entry ← match tokens with
      | .key :: rest => readFlowPair fuel .closeMapping context rest
      | tokens => do
        let key ← readNode fuel .flow context tokens
        let value := blank key.context key.rest
        .ok ⟨(key.value, value.value), key.rest, value.context⟩
    let more ← readFlowEntries fuel false entry.context entry.rest
    .ok { more with value := entry.value :: more.value }

end

/-- The directives at the head of a document, and the handles that they define. -/
def readDirectives (hasVersion : Bool) (handles : List (String × String)) :
    List Token → Except Flaw (List (String × String) × List Token)
  | .directive (.version major) :: rest =>
    if hasVersion || major != 1 then .error .malformed else readDirectives true handles rest
  | .directive (.handle name address) :: rest =>
    if (handles.lookup name).isSome then .error .malformed
    else readDirectives hasVersion ((name, address) :: handles) rest
  | .directive .unknown :: rest => readDirectives hasVersion handles rest
  | tokens => .ok (handles ++ standardHandles, tokens)

/-- No node stands in front of these tokens in a document with a marker. -/
def endsDocument : List Token → Bool
  | .directive _ :: _ | .documentStart :: _ | .documentEnd :: _ | .done :: _ => true
  | _ => false

/-- The tokens without the ends of documents at their head. -/
def skipEnds : List Token → List Token
  | .documentEnd :: rest => skipEnds rest
  | tokens => tokens

/-- Nothing but the end follows. -/
def atEnd (tokens : List Token) : Except Flaw Unit :=
  match skipEnds tokens with
  | [.done] => .ok ()
  | tokens => unexpected tokens

/-- How deep the search for nodes among some tokens can get. -/
def nodeFuel (tokens : List Token) : Nat := 4 * tokens.length + 8

/-- The nodes of a document, and the number of the outermost. -/
structure Composed where
  graph : Graph
  root : Nat

/-- The document that starts with a marker, behind its directives. -/
def markedDocument (tokens : List Token) : Except Flaw Composed := do
  let (handles, tokens) ← readDirectives false [] tokens
  match tokens with
  | .documentStart :: rest =>
    let found ← readOptional (nodeFuel tokens) endsDocument .block { handles } rest
    atEnd found.rest
    .ok ⟨found.context.graph, found.value⟩
  | tokens => unexpected tokens

/-- The only document of a text, if there is one. -/
def document? (tokens : List Token) : Except Flaw (Option Composed) :=
  match tokens with
  | .directive _ :: _ | .documentStart :: _ => some <$> markedDocument tokens
  | [.done] => .ok none
  | tokens => do
    let found ← readNode (nodeFuel tokens) .block {} tokens
    atEnd found.rest
    .ok (some ⟨found.context.graph, found.value⟩)

end Checkup.Yaml
