import Seedbed.Yaml.Block
import Seedbed.Yaml.Directive
import Seedbed.Yaml.Layout
import Seedbed.Yaml.Plain
import Seedbed.Yaml.Quoted

/-!
# Reading tokens

The tokens of a text, up to the end or the first fault. What a token is follows from the characters
under the cursor and from the layout.
-/

namespace Seedbed.Yaml
namespace Layout

/-! ## Between tokens -/

/-- Passes over blanks, comments and line breaks. After a line break a key may start. A tab is a
blank only where no key may start, or in a flow collection; a byte order mark is one at the start of
a line. -/
def toNext (layout : Layout) : Layout :=
  let cursor := layout.cursor
  let tabs := layout.inFlow || !layout.keyAllowed
  if cursor.rest.isEmpty then layout
  else if (cursor.place.column == 0 && cursor.peek == '\ufeff') || cursor.peek == ' ' ||
      (tabs && cursor.peek == '\t') then
    toNext { layout with cursor := cursor.skip }
  else if cursor.peek == '#' then
    toNext { layout with cursor := cursor.skip.skipWhile (! isBreakOrEnd ·) }
  else
    match _broken : cursor.lineBreak? with
    | some (_, after) =>
      toNext { layout with cursor := after, keyAllowed := layout.keyAllowed || !layout.inFlow }
    | none => layout
  termination_by layout.cursor.rest.length
  decreasing_by
    · exact Cursor.length_skip (by simp_all +zetaDelta)
    · exact Nat.lt_of_le_of_lt (Cursor.length_skipWhile_le _ _)
        (Cursor.length_skip (by simp_all +zetaDelta))
    · exact Cursor.length_of_lineBreak _broken

/-! ## One token -/

/-- Adds a token of some characters, which the cursor passes over. -/
def putMark (layout : Layout) (kind : Token.Kind) (count : Nat) : Layout :=
  let after := layout.cursor.skips count
  { layout.put ⟨kind, layout.place, after.place⟩ with cursor := after }

def readEnd (layout : Layout) : Except Fault Layout := do
  let place :=
    if layout.place.column = 0 then layout.place
    else { layout.place with line := layout.place.line + 1, column := 0 }
  let layout := { layout with cursor := { layout.cursor with place } }
  let layout ← (layout.closeBlocks fun _ => true).dropKey
  return { layout with keyAllowed := false }.put (.between .streamEnd place)

def putDirective (layout : Layout) : Except Fault Layout := do
  let layout ← (layout.closeBlocks fun _ => true).dropKey
  let (token, cursor) ← readDirective layout.cursor
  return { layout.put token with cursor, keyAllowed := false }

def putDocumentMarker (layout : Layout) (kind : Token.Kind) : Except Fault Layout := do
  let layout ← (layout.closeBlocks fun _ => true).dropKey
  return { layout with keyAllowed := false }.putMark kind 3

/-- The start of a flow collection, which may be a key as a whole. -/
def putFlowStart (layout : Layout) (kind : Token.Kind) : Except Fault Layout := do
  let layout ← layout.saveKey
  return { layout.openFlow with keyAllowed := true }.putMark kind 1

def putFlowEnd (layout : Layout) (kind : Token.Kind) : Except Fault Layout := do
  let layout ← layout.dropKey
  return { layout.closeFlow with keyAllowed := false }.putMark kind 1

def putFlowEntry (layout : Layout) : Except Fault Layout := do
  let layout ← layout.dropKey
  return { layout with keyAllowed := true }.putMark .flowEntry 1

def putBlockEntry (layout : Layout) : Except Fault Layout := do
  if !layout.inFlow && !layout.keyAllowed then
    throw { problem := .blockEntryNotAllowed, place := layout.place }
  let layout ← (layout.openBlock .blockSequenceStart layout.place layout.count).dropKey
  return { layout with keyAllowed := true }.putMark .blockEntry 1

def putKey (layout : Layout) : Except Fault Layout := do
  if !layout.inFlow && !layout.keyAllowed then
    throw { problem := .mappingKeyNotAllowed, place := layout.place }
  let layout ← (layout.openBlock .blockMappingStart layout.place layout.count).dropKey
  return { layout with keyAllowed := !layout.inFlow }.putMark .key 1

/-- A colon before a value. It turns a pending key into a key. -/
def putValue (layout : Layout) : Except Fault Layout := do
  match layout.keys.head?.getD none with
  | some key =>
    let layout := (layout.putAt key.number (.between .key key.place)).openBlock
      .blockMappingStart key.place key.number
    return { layout with keys := none :: layout.keys.tail, keyAllowed := false }.putMark .value 1
  | none =>
    if !layout.inFlow && !layout.keyAllowed then
      throw { problem := .mappingValueNotAllowed, place := layout.place }
    let layout := layout.openBlock .blockMappingStart layout.place layout.count
    return { layout with keyAllowed := !layout.inFlow }.putMark .value 1

/-- A name after an ampersand or an asterisk. -/
def putName (layout : Layout) (kind : List Char → Token.Kind) (activity : Activity) :
    Except Fault Layout := do
  let layout ← layout.saveKey
  let (name, after) := layout.cursor.skip.takeWhile isNameChar
  if name.isEmpty || !(isBlankOrEnd after.peek || "?:,]\x7d%@\x60".toList.contains after.peek) then
    throw (.during activity layout.place .noAnchorName after.place)
  return { layout.put ⟨kind name, layout.place, after.place⟩ with
    cursor := after, keyAllowed := false }

def putTag (layout : Layout) : Except Fault Layout := do
  let layout ← layout.saveKey
  let ((handle, rest), after) ← readTag layout.inFlow layout.cursor
  return { layout.put ⟨.tag handle rest, layout.place, after.place⟩ with
    cursor := after, keyAllowed := false }

def putBlockScalar (layout : Layout) (literal : Bool) : Except Fault Layout := do
  let layout ← layout.dropKey
  let parent := (layout.columns.head?.map Int.ofNat).getD (-1)
  let (text, after) ← readBlock literal parent layout.cursor
  let style := if literal then .literal else .folded
  return { layout.put ⟨.scalar text style, layout.place, after.place⟩ with
    cursor := after, keyAllowed := true }

def putQuoted (layout : Layout) (quote : Char) : Except Fault Layout := do
  let layout ← layout.saveKey
  let (text, after) ← readQuoted quote layout.place [] layout.cursor.skip
  return { layout.put ⟨.scalar text .quoted, layout.place, after.place⟩ with
    cursor := after, keyAllowed := false }

/-- A plain scalar. After a scalar whose last line has ended a key may start. -/
def putPlain (layout : Layout) : Except Fault Layout := do
  let layout ← layout.saveKey
  let least := (layout.columns.head?.map (· + 1)).getD 0
  let reading ← readPlain layout.inFlow least layout.place
    { stop := layout.place, cursor := layout.cursor }
  return { layout.put ⟨.scalar reading.text.reverse .plain, layout.place, reading.stop⟩ with
    cursor := reading.cursor, keyAllowed := reading.gap.broken }

def startsPlain (layout : Layout) : Bool :=
  let c := layout.cursor.peek
  let next := layout.cursor.peek 1
  !(isBlankOrEnd c || "-?:,[]\x7b\x7d#&*!|>'\"%@\x60".toList.contains c) ||
    (c == '-' && !isBlank next) ||
    (!layout.inFlow && (c == '?' || c == ':') && !isBlankOrEnd next)

def readToken (layout : Layout) : Except Fault Layout :=
  let cursor := layout.cursor
  let c := cursor.peek
  let spaced := isBlankOrEnd (cursor.peek 1)
  if cursor.rest.isEmpty then layout.readEnd
  else if cursor.place.column == 0 && c == '%' then layout.putDirective
  else if cursor.atMarker '-' then layout.putDocumentMarker .documentStart
  else if cursor.atMarker '.' then layout.putDocumentMarker .documentEnd
  else if c == '[' then layout.putFlowStart .flowSequenceStart
  else if c == '\x7b' then layout.putFlowStart .flowMappingStart
  else if c == ']' then layout.putFlowEnd .flowSequenceEnd
  else if c == '\x7d' then layout.putFlowEnd .flowMappingEnd
  else if c == ',' then layout.putFlowEntry
  else if c == '-' && spaced then layout.putBlockEntry
  else if c == '?' && (layout.inFlow || spaced) then layout.putKey
  else if c == ':' && (layout.inFlow || spaced) then layout.putValue
  else if c == '*' then layout.putName .alias .alias
  else if c == '&' then layout.putName .anchor .anchor
  else if c == '!' then layout.putTag
  else if c == '|' && !layout.inFlow then layout.putBlockScalar true
  else if c == '>' && !layout.inFlow then layout.putBlockScalar false
  else if c == '\'' || c == '"' then layout.putQuoted c
  else if layout.startsPlain then layout.putPlain
  else .error (.during .nextToken layout.place .noTokenStart layout.place)

/-- Reads one more token, with the block collections that open or end before it. -/
def readNext (layout : Layout) : Except Fault Layout := do
  let layout ← layout.toNext.dropStale
  (layout.closeBlocks (decide <| layout.place.column < ·)).readToken

end Layout

/-! ## All tokens -/

/-- Tokens of a text, and the fault that they end with if they do not reach its end. -/
structure TokenStream where
  tokens : List Token
  fault? : Option Fault := none
  deriving Repr

namespace TokenStream

def after (tokens : List Token) (stream : TokenStream) : TokenStream :=
  { stream with tokens := tokens ++ stream.tokens }

/-- How many characters are looked at ahead. -/
def lookahead : Nat := 4

/-- Reads tokens to the end or the first fault. Where the text is cut off, `cut?` is the fault met
there. The fuel bounds the number of tokens. -/
def read (cut? : Option Fault) : (fuel : Nat) → Layout → TokenStream
  | 0, _ => { tokens := [], fault? := cut? }
  | fuel + 1, layout =>
    match layout.readNext with
    | .error fault =>
      { tokens := []
        fault? :=
          some (if layout.toNext.cursor.rest.length < lookahead then cut?.getD fault else fault) }
    | .ok next =>
      if cut?.isSome &&
          (next.cursor.rest.isEmpty || layout.toNext.cursor.rest.length < lookahead) then
        { tokens := [], fault? := cut? }
      else
        match next.dropStale with
        | .error fault => { tokens := [], fault? := some fault }
        | .ok next =>
          let (ready, next) := next.settle
          if layout.toNext.cursor.rest.isEmpty then { tokens := ready }
          else (read cut? fuel next).after ready

end TokenStream
end Seedbed.Yaml
