import Placeholders.Content.Alias
import Placeholders.Yaml.Scalar.Kind
import Placeholders.Yaml.Token.Lexer

/-!
# From tokens to content

Every token is taken once.  Collections that are not closed yet are kept on a stack, and each knows
what it waits for; where a node is missing there is an absent scalar.

* `Yaml.Phase`, `Yaml.Frame` — what an open collection waits for, and an open collection.
* `Yaml.Assembly` — the open collections of a document, and what anchors stand for.
* `Yaml.Assembly.step` — takes a token.
* `Yaml.Document` — the content of a document, and what its anchors mark.
* `Yaml.document?` — the only document of a text.
* `Yaml.Document.read?` — its content as far as a reader looks.
-/

namespace Placeholders.Yaml

/-- What an open collection waits for. -/
inductive Phase where
  /-- for the sign that something follows, or for the end -/
  | between
  /-- for an item or, in a flow record, for a field that may be a key alone -/
  | item
  | key
  /-- for the sign that the value of a key follows -/
  | colon (key : Content)
  | value (key : Content)

/-- The kinds of open collections.  A compact list is a block list without an indentation of its
own, as the key or value of a block record; a pair is a record of one field in a flow list. -/
inductive Shape where
  | document
  | blockList
  | compactList
  | flowList
  | blockRecord
  | flowRecord
  | pair
  deriving DecidableEq

/-- An open collection, with its items or its fields so far, last first. -/
structure Frame where
  shape : Shape
  phase : Phase
  items : List Content := []
  fields : List (Content × Content) := []
  /-- only lenient readers may read it -/
  foreign : Bool := false
  /-- where it is among the marked nodes, if it has an anchor -/
  marked? : Option Nat := none

/-- What comes in front of a node: an anchor, a tag. -/
structure Properties where
  anchor? : Option (List Char) := none
  tag? : Option (List Char) := none

/-- Are there no properties? -/
def Properties.isEmpty (p : Properties) : Bool := p.anchor?.isNone && p.tag?.isNone

/-- A document on its way to content.

An anchor gets the number of names in use before it.  So an anchor that takes a name again shares
its number with the next one that has a name of its own, and an alias stands for the last node with
the number of its anchor. -/
structure Assembly where
  frames : List Frame
  properties : Properties := {}
  /-- the numbers of the anchors by name -/
  names : List (List Char × Nat) := []
  /-- the nodes with anchors in the order in which they begin, with the numbers of their anchors and
  without content as long as they are open -/
  marked : List (Nat × Option Content) := []

/-- Where a node should be and is not. -/
def absent : Content := scalarContent .plain none []

namespace Frame

/-- The content of a collection that is over. -/
def content (f : Frame) : Content :=
  let c :=
    match f.shape with
    | .document | .blockList | .compactList | .flowList => Content.list f.items.reverse
    | .blockRecord | .flowRecord | .pair => .record f.fields.reverse
  if f.foreign then .foreign c else c

/-- Takes a node, if it waits for one. -/
def give? (f : Frame) (c : Content) : Option Frame :=
  match f.phase, f.shape with
  | .item, .flowRecord => some { f with fields := (c, absent) :: f.fields, phase := .between }
  | .item, _ => some { f with items := c :: f.items, phase := .between }
  | .key, _ => some { f with phase := .colon c }
  | .value key, _ => some { f with fields := (key, c) :: f.fields, phase := .between }
  | .between, _ | .colon _, _ => none

/-- Completes a field that has begun. -/
def finishField (f : Frame) : Frame :=
  match f.phase with
  | .key => { f with fields := (absent, absent) :: f.fields, phase := .between }
  | .colon key | .value key => { f with fields := (key, absent) :: f.fields, phase := .between }
  | .item | .between => f

/-- Completes an item of a block list that has begun. -/
def finishItem (f : Frame) : Frame :=
  match f.phase with
  | .item => { f with items := absent :: f.items, phase := .between }
  | _ => f

end Frame

namespace Assembly

/-! ## Nodes -/

/-- Changes the innermost open collection. -/
def onTop (a : Assembly) (change : Frame → Option Frame) : Option Assembly :=
  match a.frames with
  | [] => none
  | f :: outer => (change f).map fun f => { a with frames := f :: outer }

/-- Makes a pair that has its field an item of the list around it. -/
def endPair (a : Assembly) : Option Assembly :=
  match a.frames with
  | pair :: list :: outer =>
    if pair.shape = .pair ∧ !pair.fields.isEmpty then
      (list.give? pair.content).map fun list => { a with frames := list :: outer }
    else some a
  | _ => some a

/-- Puts a node into the innermost open collection.  A pair that gets its value is over. -/
def give (a : Assembly) (c : Content) : Option Assembly :=
  (a.onTop fun f => f.give? c).bind endPair

/-- Closes the innermost collection. -/
def close (a : Assembly) : Option Assembly :=
  match a.frames with
  | [] => none
  | f :: outer =>
    let c := f.content
    let marked :=
      match f.marked? with
      | some i => a.marked.modify i fun node => (node.1, some c)
      | none => a.marked
    { a with frames := outer, marked := marked }.give c

/-- Is a node awaited? -/
def awaitsNode (a : Assembly) : Bool :=
  match a.frames with
  | { phase := .between, .. } :: _ | { phase := .colon _, .. } :: _ | [] => false
  | _ => true

/-- Marks the node that begins, if there is an anchor in front of it, and uses up its properties. -/
def mark (a : Assembly) (c? : Option Content) : Assembly :=
  match a.properties.anchor? with
  | none => { a with properties := {} }
  | some name =>
    let number := a.names.length
    { a with
      properties := {}
      names := (name, number) :: a.names.filter (·.1 ≠ name)
      marked := a.marked ++ [(number, c?)] }

/-- Opens a collection under the properties in front of it. -/
def openFrame (a : Assembly) (shape : Shape) (phase : Phase) : Option Assembly :=
  if a.awaitsNode then
    let f : Frame :=
      { shape := shape, phase := phase, foreign := isOwnTag a.properties.tag?
        marked? := a.properties.anchor?.map fun _ => a.marked.length }
    some { a.mark none with frames := f :: a.frames }
  else none

/-- A scalar under the properties in front of it. -/
def giveScalar (a : Assembly) (c : Content) : Option Assembly := (a.mark (some c)).give c

/-- The scalar with the given style and text. -/
def readScalar (a : Assembly) (style : Style) (text : List Char) : Option Assembly :=
  a.giveScalar (scalarContent style a.properties.tag? text)

/-- An alias.  There has to be an anchor of its name before it, and it has no properties. -/
def readAlias (a : Assembly) (name : List Char) : Option Assembly :=
  if a.properties.isEmpty then (a.names.lookup name).bind fun number => a.give (.alias number)
  else none

/-- An anchor in front of a node. -/
def readAnchor (a : Assembly) (name : List Char) : Option Assembly :=
  if a.awaitsNode ∧ a.properties.anchor?.isNone then
    some { a with properties := { a.properties with anchor? := some name } }
  else none

/-- A tag in front of a node. -/
def readTag (a : Assembly) (tag : Option (List Char)) : Option Assembly :=
  if a.awaitsNode ∧ a.properties.tag?.isNone then
    tag.map fun t => { a with properties := { a.properties with tag? := some t } }
  else none

/-! ## Signs -/

/-- Gives an absent scalar to properties that no node follows. -/
def settle (a : Assembly) : Option Assembly :=
  if a.properties.isEmpty then some a
  else a.giveScalar (scalarContent .plain a.properties.tag? [])

/-- Closes a compact list in front of a sign that does not belong to it. -/
def closeCompact (a : Assembly) : Option Assembly :=
  match a.frames with
  | { shape := .compactList, .. } :: _ => (a.onTop fun f => some f.finishItem).bind close
  | _ => some a

/-- Completes a pair in front of a sign that does not belong to it. -/
def closePair (a : Assembly) : Option Assembly :=
  match a.frames with
  | { shape := .pair, .. } :: _ => (a.onTop fun f => some f.finishField).bind endPair
  | _ => some a

/-- An item of a block list follows.  Where a key or value of a block record is awaited, it begins a
compact list. -/
def readItem (a : Assembly) : Option Assembly :=
  match a.frames with
  | { shape := .blockRecord, phase := .key, .. } :: _
  | { shape := .blockRecord, phase := .value _, .. } :: _ => a.openFrame .compactList .item
  | _ => do
    let a ← a.settle
    a.onTop fun f =>
      if f.shape = .blockList ∨ f.shape = .compactList then
        some { f.finishItem with phase := .item }
      else none

/-- The key of a field follows. -/
def readKey (a : Assembly) : Option Assembly := do
  let a ← a.settle
  let a ← a.closeCompact
  match a.frames with
  | { shape := .blockRecord, .. } :: _ =>
    a.onTop fun f => some { f.finishField with phase := .key }
  | { shape := .flowRecord, phase := .item, .. } :: _ =>
    a.onTop fun f => some { f with phase := .key }
  | { shape := .flowList, phase := .item, .. } :: _ => a.openFrame .pair .key
  | _ => none

/-- Passes over a sign after a pair whose key is missing. -/
def skipSign (a : Assembly) : Option Assembly :=
  a.onTop fun f => some { f with phase := .colon absent }

/-- The value of a field follows. -/
def readValue (a : Assembly) : Option Assembly := do
  let a ← a.settle
  let a ← a.closeCompact
  match a.frames with
  | { phase := .colon key, .. } :: _ => a.onTop fun f => some { f with phase := .value key }
  | { shape := .pair, phase := .key, .. } :: _ => a.skipSign
  | { phase := .key, .. } :: _ => a.onTop fun f => some { f with phase := .value absent }
  | _ => none

/-- An item or a field is over. -/
def readComma (a : Assembly) : Option Assembly := do
  let a ← a.settle
  match a.frames with
  | { shape := .pair, phase := .key, .. } :: _ => a.skipSign
  | _ =>
    let a ← a.closePair
    a.onTop fun f =>
      match f.shape, f.finishField with
      | .flowList, { phase := .between, .. } => some { f with phase := .item }
      | .flowRecord, f@{ phase := .between, .. } => some { f with phase := .item }
      | _, _ => none

/-- A flow list is over. -/
def readListEnd (a : Assembly) : Option Assembly := do
  let a ← a.settle
  match a.frames with
  | { shape := .pair, phase := .key, .. } :: _ => a.skipSign
  | _ =>
    let a ← a.closePair
    match a.frames with
    | { shape := .flowList, .. } :: _ => a.close
    | _ => none

/-- A flow record is over. -/
def readRecordEnd (a : Assembly) : Option Assembly := do
  let a ← a.settle
  match a.frames with
  | { shape := .flowRecord, .. } :: _ => (a.onTop fun f => some f.finishField).bind close
  | _ => none

/-- A block collection is over. -/
def readBlockEnd (a : Assembly) : Option Assembly := do
  let a ← a.settle
  let a ← a.closeCompact
  match a.frames with
  | { shape := .blockList, .. } :: _ => (a.onTop fun f => some f.finishItem).bind close
  | { shape := .blockRecord, .. } :: _ => (a.onTop fun f => some f.finishField).bind close
  | _ => none

/-! ## Documents -/

/-- Takes a token of a document. -/
def step (known : TagPrefixes) (a : Assembly) : Token → Option Assembly
  | .openBlockList => a.openFrame .blockList .between
  | .openBlockRecord => a.openFrame .blockRecord .between
  | .openFlowList => a.openFrame .flowList .item
  | .openFlowRecord => a.openFrame .flowRecord .item
  | .closeBlock => a.readBlockEnd
  | .closeFlowList => a.readListEnd
  | .closeFlowRecord => a.readRecordEnd
  | .item => a.readItem
  | .comma => a.readComma
  | .key => a.readKey
  | .value => a.readValue
  | .alias name => a.readAlias name
  | .anchor name => a.readAnchor name
  | .tag tag => a.readTag (tag.resolve? known)
  | .scalar style text => a.readScalar style text
  | .version _ _ | .tagPrefix _ _ | .documentStart | .documentEnd => none

end Assembly

/-- A document: its content, and what its anchors mark, the last node first. -/
structure Document where
  content : Content
  anchors : Content.Anchors := []

namespace Document

/-- How many collections may be inside of each other where a document is read. -/
def maxDepth : Nat := 128

/-- How many aliases may be followed for each mark of a document. -/
def aliasesPerMark : Nat := 100

/-- The content of a document as far as a reader looks. -/
def read? (d : Document) (extent : Content.Extent) : Option Content :=
  (d.content.follow d.anchors maxDepth extent).run' (aliasesPerMark * d.content.marks)

end Document

/-- The document that is complete, if it has exactly one node. -/
def Assembly.document? (a : Assembly) : Option Document := do
  let a ← a.settle
  match a.frames with
  | [{ items := [c], .. }] =>
    pure ⟨c, a.marked.reverse.filterMap fun (number, c?) => c?.map (number, ·)⟩
  | _ => none

/-- The document of some tokens.  Nothing at all stands for an absent scalar. -/
def documentOf? (known : TagPrefixes) (tokens : List Token) : Option Document :=
  if tokens.isEmpty then some { content := absent }
  else
    let start : Assembly := { frames := [{ shape := .document, phase := .item }] }
    (tokens.foldlM (Assembly.step known) start).bind (·.document?)

/-- Is the token one of a document, and not of what is around documents? -/
def Token.isInner : Token → Bool
  | .version _ _ | .tagPrefix _ _ | .documentStart | .documentEnd => false
  | _ => true

/-- The prefixes that directives introduce, the standard ones included.  A version may be named once
and each handle explained once, and only the versions 1.1 and 1.2 are known. -/
def prefixesOf? : List Token → Option TagPrefixes
  | [] => some .standard
  | .version major minor :: rest => do
    let known ← prefixesOf? rest
    let again := rest.any fun
      | .version _ _ => true
      | _ => false
    if again ∨ major ≠ 1 ∨ (minor ≠ 1 ∧ minor ≠ 2) then none else pure known
  | .tagPrefix handle text :: rest => do
    let known ← prefixesOf? rest
    let again := rest.any fun
      | .tagPrefix h _ => h == handle
      | _ => false
    if again then none else pure ((handle, text) :: known)
  | _ :: _ => none

/-- Is the token a directive? -/
def Token.isDirective : Token → Bool
  | .version _ _ | .tagPrefix _ _ => true
  | _ => false

/-- The only document of some tokens.  Its start has to be marked if there are directives or nothing
else is in it, and nothing but marks of its end may follow. -/
def onlyDocument? (tokens : List Token) : Option Document := do
  let directives := tokens.takeWhile (·.isDirective)
  let known ← prefixesOf? directives
  let tokens := tokens.drop directives.length
  let (marked, tokens) :=
    match tokens with
    | .documentStart :: rest => (true, rest)
    | tokens => (false, tokens)
  let inner := tokens.takeWhile (·.isInner)
  let after := tokens.drop inner.length
  if (marked ∨ (directives.isEmpty ∧ !inner.isEmpty)) ∧ after.all (· == .documentEnd) then
    documentOf? known inner
  else none

/-- The only document of a text. -/
def document? (text : String) : Option Document := do
  let cs ← characters? text
  let tokens ← tokens? cs
  onlyDocument? tokens

end Placeholders.Yaml
