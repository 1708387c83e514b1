import ScopeAlgebra.Text.Slice
import ScopeAlgebra.Yaml.Node

/-!
# Reading nodes

`nodeOf?` reads the tokens of a text that holds one document at most. Every reader returns what it
read with the state behind it; recursion is bounded by the number of tokens.
-/

namespace ScopeAlgebra.Yaml

/-- What is left of a document: its tokens, the handles of tags with what they stand for, and the
nodes that have names (newest first). -/
structure Source where
  tokens : List Token
  handles : List (String × String)
  anchors : List (String × Node) := []

/-- Where a node stands: in a block, behind the mark of a key or value in one, or between
brackets. -/
inductive Position where
  | block
  | field
  | flow
  deriving DecidableEq, Repr

/-- The properties of a node. -/
structure Properties where
  anchor? : Option String := none
  tag? : Option Token := none
  deriving DecidableEq, Repr

namespace Source

/-- Whether one of the given tokens comes next. -/
def isAt (ts : List Token) (src : Source) : Bool := src.tokens.head?.any ts.contains

/-- The source behind the next token. -/
def skip (src : Source) : Source := { src with tokens := src.tokens.drop 1 }

/-- Reads an anchor, if there is one. -/
def anchor (p : Properties) (src : Source) : Properties × Source :=
  match src.tokens with
  | .anchor name :: tokens => ({ p with anchor? := some name }, { src with tokens })
  | _ => (p, src)

/-- Reads a tag, if there is one. -/
def tag (p : Properties) (src : Source) : Properties × Source :=
  match src.tokens with
  | .tag handle? suffix :: tokens =>
    ({ p with tag? := some (.tag handle? suffix) }, { src with tokens })
  | _ => (p, src)

/-- Reads an anchor and a tag in either order, if they are there. -/
def properties (src : Source) : Properties × Source :=
  match src.tokens with
  | .tag _ _ :: _ =>
    let (p, src) := src.tag {}
    src.anchor p
  | _ =>
    let (p, src) := src.anchor {}
    if p.anchor?.isSome then src.tag p else (p, src)

/-- The text of a tag; nothing when nobody knows its handle. -/
def tagText? (handle? : Option String) (suffix : String) (src : Source) : Option String :=
  match handle? with
  | none => some suffix
  | some handle => (src.handles.find? (·.1 = handle)).map fun found => found.2 ++ suffix

/-- The tag of properties, if there is one; nothing when nobody knows its handle. -/
def tagOf? (p : Properties) (src : Source) : Option (Option String) :=
  match p.tag? with
  | some (.tag handle? suffix) => (src.tagText? handle? suffix).map some
  | _ => some none

/-- The source where the anchor of properties, if there is one, is the name of a node. -/
def name (p : Properties) (node : Node) (src : Source) : Source :=
  match p.anchor? with
  | some anchor => { src with anchors := (anchor, node) :: src.anchors }
  | none => src

end Source

/-- The tag that leaves open what a node stands for. -/
def openTag : String := "!"

/-- A tag unless it leaves open what the node stands for. -/
def closedTag? (tag? : Option String) : Option String := tag?.filter (· ≠ openTag)

/-- A scalar with its tag; an open tag makes it plain. -/
def scalarNode (tag? : Option String) (style : Style) (text : String) : Node :=
  .scalar (closedTag? tag?) (if tag? = some openTag && style = .quoted then .plain else style) text

mutual

/-- Reads a node in at most `steps` nested steps. -/
def node? (position : Position) : Nat → Source → Option (Node × Source)
  | 0, _ => none
  | steps + 1, src =>
    match src.tokens with
    | .alias name :: tokens =>
      (src.anchors.find? (·.1 = name)).map fun found => (found.2, { src with tokens })
    | _ =>
      let (properties, src) := src.properties
      match src.tagOf? properties with
      | none => none
      | some tag? =>
        (content? position properties tag? steps src).map fun (node, src) =>
          (node, src.name properties node)

/-- Reads what follows the properties of a node. Inside of a sequence or mapping, its own name
stands for an empty one. -/
def content? (position : Position) (properties : Properties) (tag? : Option String) :
    Nat → Source → Option (Node × Source)
  | 0, _ => none
  | steps + 1, src =>
    match src.tokens, position with
    | .scalar style text :: tokens, _ => some (scalarNode tag? style text, { src with tokens })
    | .opening .square :: _, _ => do
      let (items, src) ← flowItems? true [] steps (src.skip.name properties (.sequence none []))
      return (.sequence (closedTag? tag?) items, src)
    | .opening .curly :: _, _ => do
      let (fields, src) ← flowFields? true [] steps (src.skip.name properties (.mapping none []))
      return (.mapping (closedTag? tag?) fields, src)
    | .dash :: _, .field => do
      let (items, src) ← bareItems? [] steps (src.name properties (.sequence none []))
      return (.sequence (closedTag? tag?) items, src)
    | .sequenceStart :: _, .block | .sequenceStart :: _, .field => do
      let (items, src) ← blockItems? [] steps (src.skip.name properties (.sequence none []))
      return (.sequence (closedTag? tag?) items, src)
    | .mappingStart :: _, .block | .mappingStart :: _, .field => do
      let (fields, src) ← blockFields? [] steps (src.skip.name properties (.mapping none []))
      return (.mapping (closedTag? tag?) fields, src)
    | _, _ =>
      if properties.anchor?.isSome || properties.tag?.isSome then
        some (scalarNode tag? .plain "", src)
      else none

/-- Reads a node unless one of the given tokens comes next, in front of which the node is empty. -/
def nodeBefore? (position : Position) (ends : List Token) : Nat → Source → Option (Node × Source)
  | 0, _ => none
  | steps + 1, src => if src.isAt ends then some (.empty, src) else node? position steps src

/-- Reads the items of an indented sequence, behind those read before (last one first). -/
def blockItems? (before : List Node) : Nat → Source → Option (List Node × Source)
  | 0, _ => none
  | steps + 1, src =>
    match src.tokens with
    | .dash :: tokens =>
      match nodeBefore? .block [.dash, .blockEnd] steps { src with tokens } with
      | some (item, src) => blockItems? (item :: before) steps src
      | none => none
    | .blockEnd :: tokens => some (before.reverse, { src with tokens })
    | _ => none

/-- Reads the items of a sequence that is not indented itself, behind those read before (last one
first). -/
def bareItems? (before : List Node) : Nat → Source → Option (List Node × Source)
  | 0, _ => none
  | steps + 1, src =>
    match src.tokens with
    | .dash :: tokens =>
      match nodeBefore? .block [.dash, .key, .value, .blockEnd] steps { src with tokens } with
      | some (item, src) => bareItems? (item :: before) steps src
      | none => none
    | _ => some (before.reverse, src)

/-- Reads the value of a field, if there is one, in front of one of the given tokens. -/
def fieldValue? (position : Position) (ends : List Token) : Nat → Source → Option (Node × Source)
  | 0, _ => none
  | steps + 1, src =>
    match src.tokens with
    | .value :: tokens => nodeBefore? position ends steps { src with tokens }
    | _ => some (.empty, src)

/-- Reads the fields of an indented mapping, behind those read before (last one first). -/
def blockFields? (before : List (Node × Node)) : Nat → Source → Option (List (Node × Node) × Source)
  | 0, _ => none
  | steps + 1, src =>
    let ends := [.key, .value, .blockEnd]
    let key? :=
      match src.tokens with
      | .key :: tokens => nodeBefore? .field ends steps { src with tokens }
      | .value :: _ => some (.empty, src)
      | _ => none
    match key?, src.tokens with
    | some (key, src), _ =>
      match fieldValue? .field ends steps src with
      | some (value, src) => blockFields? ((key, value) :: before) steps src
      | none => none
    | none, .blockEnd :: tokens => some (before.reverse, { src with tokens })
    | none, _ => none

/-- Reads the items between square brackets, behind those read before (last one first). -/
def flowItems? (isFirst : Bool) (before : List Node) : Nat → Source → Option (List Node × Source)
  | 0, _ => none
  | steps + 1, src =>
    let next? :=
      if isFirst then some src
      else if src.tokens.head? = some .comma then some src.skip
      else none
    match src.tokens, next? with
    | .closing .square :: tokens, _ => some (before.reverse, { src with tokens })
    | _, none => none
    | _, some src =>
      match src.tokens with
      | .closing .square :: tokens => some (before.reverse, { src with tokens })
      | .key :: tokens =>
        match nodeBefore? .flow [.value, .comma, .closing .square] steps { src with tokens } with
        | none => none
        | some (key, src) =>
          match fieldValue? .flow [.comma, .closing .square] steps src with
          | some (value, src) => flowItems? false (.mapping none [(key, value)] :: before) steps src
          | none => none
      | _ =>
        match node? .flow steps src with
        | some (item, src) => flowItems? false (item :: before) steps src
        | none => none

/-- Reads the fields between curly brackets, behind those read before (last one first). -/
def flowFields? (isFirst : Bool) (before : List (Node × Node)) :
    Nat → Source → Option (List (Node × Node) × Source)
  | 0, _ => none
  | steps + 1, src =>
    let next? :=
      if isFirst then some src
      else if src.tokens.head? = some .comma then some src.skip
      else none
    match src.tokens, next? with
    | .closing .curly :: tokens, _ => some (before.reverse, { src with tokens })
    | _, none => none
    | _, some src =>
      let key? :=
        match src.tokens with
        | .key :: tokens =>
          nodeBefore? .flow [.value, .comma, .closing .curly] steps { src with tokens }
        | .value :: _ => some (.empty, src)
        | _ => node? .flow steps src
      match src.tokens, key? with
      | .closing .curly :: tokens, _ => some (before.reverse, { src with tokens })
      | _, none => none
      | .key :: _, some (key, src) | .value :: _, some (key, src) =>
        match fieldValue? .flow [.comma, .closing .curly] steps src with
        | some (value, src) => flowFields? false ((key, value) :: before) steps src
        | none => none
      | _, some (key, src) => flowFields? false ((key, .empty) :: before) steps src

end

/-! ## Documents -/

/-- The handles that every document knows. -/
def commonHandles : List (String × String) := [("!", "!"), ("!!", "tag:yaml.org,2002:")]

/-- Reads the directives in front of a document; a handle and the version are given once. -/
def directives? (hasVersion : Bool) (handles : List (String × String)) :
    List Token → Option (List (String × String) × List Token)
  | .directive (.version major) :: rest =>
    if hasVersion || major ≠ 1 then none else directives? true handles rest
  | .directive (.tag handle head) :: rest =>
    if handles.any (·.1 = handle) then none
    else directives? hasVersion ((handle, head) :: handles) rest
  | .directive .other :: rest => directives? hasVersion handles rest
  | rest => some (handles ++ commonHandles, rest)

/-- Whether a document ends in front of tokens before it has held anything. -/
def isDocumentEmpty : List Token → Bool
  | [] | .directive _ :: _ | .documentStart :: _ | .documentEnd :: _ => true
  | _ => false

/-- Reads the node of a document, which is all that is left. -/
def lastNode? (handles : List (String × String)) (tokens : List Token) : Option Node := do
  let (node, src) ←
    if isDocumentEmpty tokens then some (.empty, { tokens, handles })
    else node? .block (4 * tokens.length + 4) { tokens, handles }
  if src.tokens.isEmpty || src.tokens = [.documentEnd] then return node else none

/-- The node of a text that holds one document; a text without any stands for an empty node. -/
def nodeOf? (tokens : List Token) : Option Node :=
  match tokens with
  | [] => some .empty
  | .directive _ :: _ | .documentStart :: _ =>
    match directives? false [] tokens with
    | some (handles, .documentStart :: rest) => lastNode? handles rest
    | _ => none
  | .documentEnd :: _ => none
  | tokens => lastNode? commonHandles tokens

end ScopeAlgebra.Yaml
