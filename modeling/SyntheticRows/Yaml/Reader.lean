import SyntheticRows.Yaml.Node
import SyntheticRows.Yaml.Scalar
/-!
Reading YAML text: one document of block and flow collections with scalars of all quoting styles.
Anchors, aliases, tags, directives, block scalars and keys with a question mark are not known.

A block collection is held together by the column of its entries. Whether a node is a key shows
behind it: a colon follows on the same line.
-/

namespace SyntheticRows.Yaml

/-- How far the colon may stand from the beginning of its key. -/
def keyLimit : Nat :=
  1024

/-- What follows the colon that makes a key of the node between `start` and `behind`. Outside flow
collections the colon must be followed by white space. -/
def behindColon? (inFlow : Bool) (start behind : List Cell) : Option (List Cell) :=
  match start, (passGap false (.blanks true) behind).2 with
  | first :: _, colon :: rest =>
      if colon.char == ':' && colon.line == first.line &&
          start.length - (rest.length + 1) ≤ keyLimit && (inFlow || startsSpace rest) then
        some rest
      else none
  | _, _ => none

/-- A scalar at the beginning of a token. -/
def scalar? (inFlow : Bool) (least : Nat) : List Cell → Option (Node × Place)
  | [] => none
  | cell :: rest =>
      if cell.char == '"' then
        (doubleQuoted 0 .empty rest).map fun (text, behind) =>
          (.scalar (String.ofList text) false, { fresh := false, cells := behind })
      else if cell.char == '\x27' then
        (singleQuoted .empty rest).map fun (text, behind) =>
          (.scalar (String.ofList text) false, { fresh := false, cells := behind })
      else if startsPlain inFlow (cell :: rest) then
        (plainText inFlow least .empty (cell :: rest)).map fun (text, behind) =>
          (.scalar (String.ofList text) true, behind)
      else none

/-- Nothing is written before the next entry of a flow collection. -/
def endsFlowEntry (cells : List Cell) : Bool :=
  startsWith ',' cells || startsWith ']' cells || startsWith '\x7d' cells

mutual

/-- A node inside a flow collection. -/
def flowNode (least : Nat) : (fuel : Nat) → List Cell → Option (Node × List Cell)
  | 0, _ => none
  | fuel + 1, cells =>
      if endsDocument cells then none
      else match flowCollection least fuel cells with
        | some found => some found
        | none => (scalar? true least cells).map fun (node, behind) => (node, behind.cells)

/-- A flow collection at its opening bracket. -/
def flowCollection (least : Nat) : (fuel : Nat) → List Cell → Option (Node × List Cell)
  | 0, _ => none
  | _ + 1, [] => none
  | fuel + 1, cell :: rest =>
      if cell.char == '[' then
        (flowItems least fuel (nextInFlow rest)).map fun (items, behind) =>
          (.sequence items, behind)
      else if cell.char == '\x7b' then
        (flowEntries least fuel (nextInFlow rest)).map fun (entries, behind) =>
          (.mapping entries, behind)
      else none

/-- A node and, if it is a key, the value behind its colon. -/
def flowPair (least : Nat) : (fuel : Nat) → List Cell → Option (Node × Option Node × List Cell)
  | 0, _ => none
  | fuel + 1, cells => do
      let (node, behind) ← flowNode least fuel cells
      match behindColon? true cells behind with
      | none => some (node, none, nextInFlow behind)
      | some rest =>
          let rest := nextInFlow rest
          if endsFlowEntry rest then some (node, some .nothing, rest)
          else do
            let (value, behind) ← flowNode least fuel rest
            some (node, some value, nextInFlow behind)

/-- The items up to the closing bracket. A pair is a mapping of one entry. -/
def flowItems (least : Nat) : (fuel : Nat) → List Cell → Option (List Node × List Cell)
  | 0, _ => none
  | fuel + 1, cells =>
      if startsWith ']' cells then some ([], cells.tail)
      else do
        let (node, value, rest) ← flowPair least fuel cells
        let item := match value with
          | none => node
          | some value => .mapping [(node, value)]
        if startsWith ']' rest then some ([item], rest.tail)
        else if startsWith ',' rest then do
          let (items, behind) ← flowItems least fuel (nextInFlow rest.tail)
          some (item :: items, behind)
        else none

/-- The entries up to the closing brace. A node alone is a key without a value. -/
def flowEntries (least : Nat) : (fuel : Nat) → List Cell → Option (List (Node × Node) × List Cell)
  | 0, _ => none
  | fuel + 1, cells =>
      if startsWith '\x7d' cells then some ([], cells.tail)
      else do
        let (node, value, rest) ← flowPair least fuel cells
        let entry := (node, value.getD .nothing)
        if startsWith '\x7d' rest then some ([entry], rest.tail)
        else if startsWith ',' rest then do
          let (entries, behind) ← flowEntries least fuel (nextInFlow rest.tail)
          some (entry :: entries, behind)
        else none

end

/-- A hyphen in front of an item of a block sequence. -/
def startsItem : List Cell → Bool
  | [] => false
  | cell :: rest => cell.char == '-' && startsSpace rest

/-- A flow collection or a scalar in block context. -/
def inlineNode (fuel least : Nat) (cells : List Cell) : Option (Node × Place) :=
  if startsWith '[' cells || startsWith '\x7b' cells then
    (flowCollection least fuel cells).map fun (node, behind) =>
      (node, { fresh := false, cells := behind })
  else scalar? false least cells

/-- The place of an entry at a column, on a line of its own. -/
def isEntryAt (column : Nat) (place : Place) : Bool :=
  place.fresh && !endsDocument place.cells && place.cells.head?.any (·.column == column)

mutual

/-- A node in block context that is indented by at least `least` columns. Nothing stands where the
next token is indented less. -/
def blockNode (least : Nat) : (fuel : Nat) → Place → Option (Node × Place)
  | 0, _ => none
  | fuel + 1, place =>
      match place.cells with
      | [] => some (.nothing, place)
      | cell :: _ =>
          if endsDocument place.cells || cell.column < least then some (.nothing, place)
          else if startsItem place.cells then
            if place.fresh then
              (blockItems cell.column fuel place).map fun (items, behind) =>
                (.sequence items, behind)
            else none
          else do
            let (node, behind) ← inlineNode fuel least place.cells
            match behindColon? false place.cells behind.cells with
            | none => some (node, behind)
            | some rest =>
                if place.fresh then do
                  let (entries, behind) ← blockEntries cell.column fuel node rest
                  some (.mapping entries, behind)
                else none

/-- The entries of a block mapping from the value of a key on. -/
def blockEntries (column : Nat) : (fuel : Nat) → Node → List Cell →
    Option (List (Node × Node) × Place)
  | 0, _, _ => none
  | fuel + 1, key, cells => do
      let place := Place.next { fresh := false, cells }
      let (value, behind) ←
        if isEntryAt column place && startsItem place.cells then
          (blockItems column fuel place).map fun (items, behind) => (Node.sequence items, behind)
        else blockNode (column + 1) fuel place
      let next := behind.next
      if isEntryAt column next then do
        let (nextKey, behindKey) ← inlineNode fuel (column + 1) next.cells
        let rest ← behindColon? false next.cells behindKey.cells
        let (entries, behind) ← blockEntries column fuel nextKey rest
        some ((key, value) :: entries, behind)
      else some ([(key, value)], next)

/-- The items of a block sequence from a hyphen on. -/
def blockItems (column : Nat) : (fuel : Nat) → Place → Option (List Node × Place)
  | 0, _ => none
  | fuel + 1, place => do
      let inner := Place.next { fresh := true, cells := place.cells.tail }
      let (item, behind) ← blockNode (column + 1) fuel inner
      let next := behind.next
      if isEntryAt column next && startsItem next.cells then do
        let (items, behind) ← blockItems column fuel next
        some (item :: items, behind)
      else some ([item], next)

end

/-- Nothing but markers of the document's end is left. -/
def isFinished : (fuel : Nat) → Place → Bool
  | 0, _ => false
  | fuel + 1, place =>
      place.cells.isEmpty || (isDocumentEnd place.cells &&
        isFinished fuel (Place.next { fresh := false, cells := place.cells.drop 3 }))

/-- The one document of a text. An empty text holds nothing. -/
def read? (text : String) : Option Node := do
  let cells ← cells? text
  let fuel := 5 * cells.length + 5
  let start := Place.next { fresh := true, cells }
  if isDocumentEnd start.cells then none
  else
    let root :=
      if isDocumentStart start.cells then
        Place.next { fresh := false, cells := start.cells.drop 3 }
      else start
    let (node, behind) ← blockNode 0 fuel root
    if isFinished fuel behind.next then some node else none

end SyntheticRows.Yaml
