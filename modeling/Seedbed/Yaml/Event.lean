import Seedbed.Yaml.Tokens

/-!
# Events

The events of a text: nodes that start and end, in order. They are read from the tokens by a machine
whose stack says what is expected next; each step reads one event.
-/

namespace Seedbed.Yaml

structure Properties where
  anchor? : Option (List Char) := none
  tag? : Option (List Char) := none
  deriving DecidableEq, Repr, Inhabited

inductive Event where
  | documentStart
  | documentEnd
  | streamEnd
  | alias (name : List Char)
  | scalar (properties : Properties) (text : List Char) (style : ScalarStyle)
  | sequenceStart (properties : Properties)
  | sequenceEnd
  | mappingStart (properties : Properties)
  | mappingEnd
  deriving DecidableEq, Repr, Inhabited

/-- What is expected next. A collection remembers where it started. -/
inductive Expected where
  /-- A document; the first of a text needs no marker. -/
  | document (first : Bool)
  | documentContent
  | documentEnd
  | blockNode
  /-- An item of a block sequence; before the first the sequence's own token. -/
  | blockEntry (start : Place) (first : Bool)
  /-- An item of a sequence that is indented no further than the mapping around it. -/
  | indentlessEntry
  | blockKey (start : Place) (first : Bool)
  | blockValue (start : Place)
  | flowEntry (start : Place) (first : Bool)
  /-- The key, the value and the end of a single pair among the items of a flow sequence. -/
  | pairKey
  | pairValue
  | pairEnd
  | flowKey (start : Place) (first : Bool)
  | flowValue (start : Place)
  /-- The value of a key that has no mark and thus no value. -/
  | flowNoValue
  deriving DecidableEq, Repr

structure Grammar where
  /-- What is expected, the nearest first. -/
  expected : List Expected := [.document true]
  stream : TokenStream
  /-- What the handles of tags stand for. -/
  handles : List (List Char × List Char) := []
  deriving Repr

abbrev Reading := StateT Grammar (Except Fault)

namespace Reading

/-- The next token. When the tokens run out, the fault that cut them short is met. -/
def peek : Reading Token := do
  let stream := (← get).stream
  match stream.tokens, stream.fault? with
  | token :: _, _ => return token
  | [], some fault => throw fault
  | [], none => return .between .streamEnd .start

def advance : Reading Unit :=
  modify fun grammar =>
    { grammar with stream := { grammar.stream with tokens := grammar.stream.tokens.tail } }

def expect (expected : Expected) : Reading Unit :=
  modify fun grammar => { grammar with expected := expected :: grammar.expected }

/-- The scalar that stands for a missing node. -/
def missing (place : Place) : Reading (Event × Place) := return (.scalar {} [] .plain, place)

/-! ## Nodes -/

/-- The handles that need no directive. -/
def standardHandles : List (List Char × List Char) :=
  [("!".toList, "!".toList), ("!!".toList, "tag:yaml.org,2002:".toList)]

/-- The tag that a handle and a rest stand for. `start` is where the node began. -/
def resolveTag (start place : Place) (handle rest : List Char) : Reading (List Char) := do
  if handle.isEmpty then return meant rest
  match (← get).handles.lookup handle with
  | some standing => return meant standing ++ meant rest
  | none => throw (.during .node start .undefinedTagHandle place)

def readAnchor? : Reading (Option (List Char)) := do
  match (← peek).kind with
  | .anchor name => advance; return some name
  | _ => return none

def readTag? : Reading (Option (List Char × List Char × Place)) := do
  let token ← peek
  match token.kind with
  | .tag handle rest => advance; return some (handle, rest, token.start)
  | _ => return none

def readProperties : Reading Properties := do
  let start := (← peek).start
  let before? ← readAnchor?
  let tag? ← readTag?
  let after? ← if before?.isNone && tag?.isSome then readAnchor? else pure none
  discard peek
  let tag? ← tag?.mapM fun (handle, rest, place) => resolveTag start place handle rest
  return { anchor? := before?.or after?, tag? }

/-- Reads the start of a node. `inBlock` says whether block collections may start here, and
`indentless` whether a sequence may do so without being indented. -/
def readNode (inBlock indentless : Bool) : Reading (Event × Place) := do
  let first ← peek
  if let .alias name := first.kind then
    advance
    return (.alias name, first.start)
  let properties ← readProperties
  let token ← peek
  match token.kind with
  | .blockEntry =>
    if indentless then
      expect .indentlessEntry
      return (.sequenceStart properties, first.start)
    else bare properties first token
  | .scalar text style =>
    advance
    return (.scalar properties text style, first.start)
  | .flowSequenceStart =>
    expect (.flowEntry token.start true)
    return (.sequenceStart properties, first.start)
  | .flowMappingStart =>
    expect (.flowKey token.start true)
    return (.mappingStart properties, first.start)
  | .blockSequenceStart =>
    if inBlock then
      expect (.blockEntry token.start true)
      return (.sequenceStart properties, first.start)
    else bare properties first token
  | .blockMappingStart =>
    if inBlock then
      expect (.blockKey token.start true)
      return (.mappingStart properties, first.start)
    else bare properties first token
  | _ => bare properties first token
where
  /-- A node without content is empty if it has an anchor or a tag. -/
  bare (properties : Properties) (first token : Token) : Reading (Event × Place) := do
    if properties.anchor?.isSome || properties.tag?.isSome then
      return (.scalar properties [] .plain, first.start)
    throw (.during (if inBlock then .blockNode else .flowNode) first.start .noNodeContent
      token.start)

/-! ## Documents -/

def readDirectives (fuel : Nat) (versioned : Bool) (handles : List (List Char × List Char)) :
    Reading Unit := do
  match fuel with
  | 0 => return
  | fuel + 1 =>
    let token ← peek
    match token.kind with
    | .version major minor =>
      if versioned then throw { problem := .duplicateVersion, place := token.start }
      if major != 1 || (minor != 1 && minor != 2) then
        throw { problem := .incompatibleVersion, place := token.start }
      advance
      readDirectives fuel true handles
    | .tagHandle handle start =>
      if (handles.lookup handle).isSome then
        throw { problem := .duplicateTagHandle, place := token.start }
      advance
      readDirectives fuel versioned (handles ++ [(handle, start)])
    | _ => modify fun grammar => { grammar with handles := handles ++ standardHandles }

def skipEnds (fuel : Nat) : Reading Unit := do
  match fuel with
  | 0 => return
  | fuel + 1 =>
    if (← peek).kind = .documentEnd then
      advance
      skipEnds fuel

/-- Whether a document starts with such a token only after a marker. -/
def needsMarker : Token.Kind → Bool
  | .version _ _ | .tagHandle _ _ | .documentStart | .streamEnd => true
  | _ => false

def readDocument (first : Bool) : Reading (Event × Place) := do
  let fuel := (← get).stream.tokens.length + 1
  if !first then skipEnds fuel
  let token ← peek
  if token.kind = .streamEnd then
    advance
    return (.streamEnd, token.start)
  else if first && !needsMarker token.kind then
    readDirectives fuel false []
    expect .documentEnd
    expect .blockNode
    return (.documentStart, token.start)
  else
    readDirectives fuel false []
    let marker ← peek
    if marker.kind != .documentStart then
      throw { problem := .noDocumentStart, place := marker.start }
    expect .documentEnd
    expect .documentContent
    advance
    return (.documentStart, token.start)

def readContent : Reading (Event × Place) := do
  let token ← peek
  if needsMarker token.kind || token.kind = .documentEnd then missing token.start
  else readNode true false

def readDocumentEnd : Reading (Event × Place) := do
  let token ← peek
  if token.kind = .documentEnd then advance
  expect (.document false)
  return (.documentEnd, token.start)

/-! ## Collections -/

/-- After a mark: reads a node, or finds it missing before one of some tokens. `next` is expected
after the node. -/
def readAfter (mark : Token) (ends : Token.Kind → Bool) (next : Expected)
    (node : Reading (Event × Place)) : Reading (Event × Place) := do
  advance
  expect next
  if ends (← peek).kind then missing mark.stop else node

def readBlockEntry (start : Place) (first : Bool) : Reading (Event × Place) := do
  if first then advance
  let token ← peek
  match token.kind with
  | .blockEntry =>
    readAfter token (fun kind => kind = .blockEntry || kind = .blockEnd) (.blockEntry start false)
      (readNode true false)
  | .blockEnd =>
    advance
    return (.sequenceEnd, token.start)
  | _ => throw (.during .blockCollection start .noDashIndicator token.start)

/-- Whether a token ends a node that may be missing in a block mapping. -/
def endsBlockPart (kind : Token.Kind) : Bool :=
  kind = .key || kind = .value || kind = .blockEnd

def readIndentlessEntry : Reading (Event × Place) := do
  let token ← peek
  if token.kind = .blockEntry then
    readAfter token (fun kind => kind = .blockEntry || endsBlockPart kind) .indentlessEntry
      (readNode true false)
  else return (.sequenceEnd, token.start)

def readBlockKey (start : Place) (first : Bool) : Reading (Event × Place) := do
  if first then advance
  let token ← peek
  match token.kind with
  | .key => readAfter token endsBlockPart (.blockValue start) (readNode true true)
  | .blockEnd =>
    advance
    return (.mappingEnd, token.start)
  | _ => throw (.during .blockMapping start .noKey token.start)

def readBlockValue (start : Place) : Reading (Event × Place) := do
  let token ← peek
  if token.kind = .value then
    readAfter token endsBlockPart (.blockKey start false) (readNode true true)
  else
    expect (.blockKey start false)
    missing token.start

/-- Reads the comma before an item that is not the first. -/
def readComma (start : Place) (activity : Activity) (problem : Problem) : Reading Unit := do
  let token ← peek
  if token.kind = .flowEntry then advance
  else throw (.during activity start problem token.start)

def readFlowEntry (start : Place) (first : Bool) : Reading (Event × Place) := do
  if first then advance
  if (← peek).kind != .flowSequenceEnd && !first then
    readComma start .flowSequence .noCommaOrBracket
  let token ← peek
  match token.kind with
  | .flowSequenceEnd =>
    advance
    return (.sequenceEnd, token.start)
  | .key =>
    advance
    expect (.flowEntry start false)
    expect .pairKey
    return (.mappingStart {}, token.start)
  | _ =>
    expect (.flowEntry start false)
    readNode false false

def endsPairPart (kind : Token.Kind) : Bool := kind = .flowEntry || kind = .flowSequenceEnd

/-- Reads the key of a pair. The token before which a key is missing is passed over. -/
def readPairKey : Reading (Event × Place) := do
  let token ← peek
  expect .pairValue
  if token.kind = .value || endsPairPart token.kind then
    advance
    missing token.stop
  else readNode false false

/-- Reads a value after its colon in a flow collection; it may be missing with or without the colon.
-/
def readFlowPart (ends : Token.Kind → Bool) (next : Expected) : Reading (Event × Place) := do
  expect next
  if (← peek).kind = .value then
    advance
    if ends (← peek).kind then missing (← peek).start else readNode false false
  else missing (← peek).start

def readPairEnd : Reading (Event × Place) := return (.mappingEnd, (← peek).start)

def endsFlowPart (kind : Token.Kind) : Bool := kind = .flowEntry || kind = .flowMappingEnd

def readFlowKey (start : Place) (first : Bool) : Reading (Event × Place) := do
  if first then advance
  if (← peek).kind != .flowMappingEnd && !first then
    readComma start .flowMapping .noCommaOrBrace
  let token ← peek
  match token.kind with
  | .flowMappingEnd =>
    advance
    return (.mappingEnd, token.start)
  | .key =>
    advance
    expect (.flowValue start)
    let next ← peek
    if next.kind = .value || endsFlowPart next.kind then missing next.start
    else readNode false false
  | _ =>
    expect (.flowKey start false)
    expect .flowNoValue
    readNode false false

/-! ## Steps -/

def readExpected : Expected → Reading (Event × Place)
  | .document first => readDocument first
  | .documentContent => readContent
  | .documentEnd => readDocumentEnd
  | .blockNode => readNode true false
  | .blockEntry start first => readBlockEntry start first
  | .indentlessEntry => readIndentlessEntry
  | .blockKey start first => readBlockKey start first
  | .blockValue start => readBlockValue start
  | .flowEntry start first => readFlowEntry start first
  | .pairKey => readPairKey
  | .pairValue => readFlowPart endsPairPart .pairEnd
  | .pairEnd => readPairEnd
  | .flowKey start first => readFlowKey start first
  | .flowValue start => readFlowPart endsFlowPart (.flowKey start false)
  | .flowNoValue => do missing (← peek).start

def step : Reading (Event × Place) := do
  match (← get).expected with
  | [] => return (.streamEnd, (← peek).start)
  | expected :: later =>
    modify fun grammar => { grammar with expected := later }
    readExpected expected

end Reading

/-! ## All events -/

/-- Events of a text, and the fault that they end with if they do not reach its end. -/
structure EventStream where
  events : List (Event × Place)
  fault? : Option Fault := none
  deriving Repr

/-- Reads events to the end or the first fault. The fuel bounds their number. -/
def EventStream.read : (fuel : Nat) → Grammar → EventStream
  | 0, grammar => { events := [], fault? := grammar.stream.fault? }
  | fuel + 1, grammar =>
    match Reading.step grammar with
    | .error fault => { events := [], fault? := some fault }
    | .ok ((event, place), grammar) =>
      if event = .streamEnd then { events := [(event, place)] }
      else
        let later := EventStream.read fuel grammar
        { later with events := (event, place) :: later.events }

/-- How many events there are for each token at most. -/
def eventsPerToken : Nat := 4

def EventStream.ofTokens (stream : TokenStream) : EventStream :=
  EventStream.read ((stream.tokens.length + 2) * eventsPerToken) { stream }

end Seedbed.Yaml
