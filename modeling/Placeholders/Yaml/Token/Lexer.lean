import Placeholders.Yaml.Property

/-!
# From text to tokens

Only the colon behind it shows that something is the key of a field.  Until then it is a possible
key, and its place among the tokens is kept so that a `key` token can be put there later.

* `Yaml.PossibleKey` — a place where a key may begin.
* `Yaml.Lexer` — how far a text was read; its operations open and close indentation and flow
  collections and settle possible keys.
* `Yaml.Lexer.step` — reads a token.
* `Yaml.tokens?` — the tokens of a text.
-/

namespace Placeholders.Yaml

/-- A place where a key may begin: how many tokens come before it, where it is, and whether it can
be nothing but a key, because the fields of a record begin in its column. -/
structure PossibleKey where
  place : Nat
  mark : Mark
  required : Bool

/-- How far a text was read. -/
structure Lexer where
  cursor : Cursor
  /-- the tokens so far, last first -/
  read : List Token := []
  /-- the columns of the open block collections, innermost first -/
  indents : List Nat := []
  /-- may a key begin here? -/
  keyAllowed : Bool := true
  /-- the possible key of the innermost flow collection, or outside of all -/
  key : Option PossibleKey := none
  /-- those around it, innermost first -/
  outerKeys : List (Option PossibleKey) := []

namespace Lexer

/-- Is the text inside of a flow collection? -/
def inFlow (x : Lexer) : Bool := !x.outerKeys.isEmpty

/-- The current column. -/
def column (x : Lexer) : Nat := x.cursor.mark.column

/-- The least column where contents of the innermost block collection may stand. -/
def floor (x : Lexer) : Nat :=
  match x.indents with
  | [] => 0
  | column :: _ => column + 1

/-! ## Tokens -/

/-- One more token. -/
def push (x : Lexer) (t : Token) : Lexer := { x with read := t :: x.read }

/-- A token behind the first `place` tokens. -/
def insert (x : Lexer) (place : Nat) (t : Token) : Lexer :=
  let later := x.read.length - place
  { x with read := x.read.take later ++ t :: x.read.drop later }

/-- Past some characters of the line. -/
def advance (x : Lexer) (width : Nat) : Lexer := { x with cursor := x.cursor.advance width }

/-! ## Possible keys -/

/-- How many bytes may come before the colon of a key. -/
def maxKeyWidth : Nat := 1024

/-- Is it too late for the colon of a key? -/
def isStale (x : Lexer) (k : PossibleKey) : Bool :=
  k.mark.line < x.cursor.mark.line || k.mark.index + maxKeyWidth < x.cursor.mark.index

/-- Drops a possible key for which it is too late, unless it can be nothing else. -/
def freshKey (x : Lexer) : Option PossibleKey → Option (Option PossibleKey)
  | none => some none
  | some k => if x.isStale k then if k.required then none else some none else some (some k)

/-- Drops all possible keys for which it is too late. -/
def dropStaleKeys (x : Lexer) : Option Lexer := do
  let key ← x.freshKey x.key
  let outerKeys ← x.outerKeys.mapM x.freshKey
  pure { x with key := key, outerKeys := outerKeys }

/-- Drops the innermost possible key, unless it can be nothing else. -/
def dropKey (x : Lexer) : Option Lexer :=
  if x.key.any (·.required) then none else some { x with key := none }

/-- Notes that a key may begin here, if one is allowed. -/
def saveKey (x : Lexer) : Option Lexer :=
  if x.keyAllowed then do
    let x ← x.dropKey
    let required := !x.inFlow && x.indents.head? == some x.column
    pure { x with key := some ⟨x.read.length, x.cursor.mark, required⟩ }
  else some x

/-- Says whether a key may begin at what comes next. -/
def allowKey (x : Lexer) (allowed : Bool) : Lexer := { x with keyAllowed := allowed }

/-! ## Indentation -/

/-- Opens a block collection at a column behind the one around it.  Flow collections know no
indentation. -/
def indent (x : Lexer) (column place : Nat) (t : Token) : Lexer :=
  if x.inFlow ∨ column < x.floor then x
  else { x with indents := column :: x.indents }.insert place t

/-- Closes block collections as long as their columns pass a test. -/
def closeBlocks (x : Lexer) (test : Nat → Bool) : Lexer :=
  if x.inFlow then x
  else
    let closed := x.indents.takeWhile test
    { x with
      read := closed.map (fun _ => Token.closeBlock) ++ x.read
      indents := x.indents.dropWhile test }

/-! ## Gaps -/

/-- Skips blanks, comments and line breaks.  In a block a line break allows a key again, and a tab
is no indentation where a key may begin.  A byte order mark may begin a line. -/
def skipGap (x : Lexer) (inComment : Bool) (mark : Mark) : List Char → Lexer
  | [] => { x with cursor := ⟨mark, []⟩ }
  | c :: rest =>
    if isBreak c then skipGap (x.allowKey (x.keyAllowed || !x.inFlow)) false (mark.after c) rest
    else if inComment then skipGap x true (mark.after c) rest
    else if c == '#' then skipGap x true (mark.after c) rest
    else if c == ' ' ∨ (c == '\t' ∧ (x.inFlow ∨ !x.keyAllowed)) ∨
        (c == '\ufeff' ∧ mark.column = 0) then
      skipGap x false (mark.after c) rest
    else { x with cursor := ⟨mark, c :: rest⟩ }

/-! ## Reading tokens -/

/-- Opens a flow collection. -/
def openFlow (x : Lexer) (t : Token) : Option Lexer := do
  let x ← x.saveKey
  pure { (x.advance 1).push t with
    keyAllowed := true, key := none, outerKeys := x.key :: x.outerKeys }

/-- Closes a flow collection. -/
def closeFlow (x : Lexer) (t : Token) : Option Lexer := do
  let x ← x.dropKey
  let x := ((x.advance 1).push t).allowKey false
  match x.outerKeys with
  | [] => pure x
  | key :: outer => pure { x with key := key, outerKeys := outer }

/-- A comma between items or fields. -/
def readComma (x : Lexer) : Option Lexer := do
  let x ← x.dropKey
  pure (((x.advance 1).push .comma).allowKey true)

/-- The indicator of an item or of a key that stands on its own.  In a block it opens a collection
if it is the first of its kind there. -/
def readIndicator (x : Lexer) (opening t : Token) (keyAfter : Bool) : Option Lexer :=
  if x.inFlow ∨ x.keyAllowed then do
    let x := x.indent x.column x.read.length opening
    let x ← x.dropKey
    pure (((x.advance 1).push t).allowKey keyAfter)
  else none

/-- The colon of a field.  A possible key before it becomes a key. -/
def readColon (x : Lexer) : Option Lexer :=
  match x.key with
  | some k =>
    let x := { x with key := none }.insert k.place .key
    let x := x.indent k.mark.column k.place .openBlockRecord
    some (((x.advance 1).push .value).allowKey false)
  | none =>
    if x.inFlow then some (((x.advance 1).push .value).allowKey false)
    else if x.keyAllowed then
      let x := x.indent x.column x.read.length .openBlockRecord
      some (((x.advance 1).push .value).allowKey true)
    else none

/-- Something that may be a key or belong to one. -/
def readAtom (x : Lexer) (atom : Option (Token × Cursor)) : Option Lexer := do
  let x ← x.saveKey
  let (t, p) ← atom
  pure { (x.push t).allowKey false with cursor := p }

/-- The name of an anchor or alias. -/
def readNamed (x : Lexer) (make : List Char → Token) : Option Lexer :=
  x.readAtom ((readName (x.cursor.advance 1)).map fun (name, p) => (make name, p))

/-- A quoted scalar. -/
def readQuotedScalar (x : Lexer) (read : Mark → List Char → Option (List Char × Cursor)) :
    Option Lexer :=
  let p := x.cursor.advance 1
  x.readAtom ((read p.mark p.rest).map fun (text, p) => (.scalar .quoted text, p))

/-- A block scalar. -/
def readBlockScalar (x : Lexer) (literal : Bool) : Option Lexer := do
  let x ← x.dropKey
  let (text, p) ← readBlock literal x.floor (x.cursor.advance 1)
  let style := if literal then Style.literal else .folded
  pure { (x.push (.scalar style text)).allowKey true with cursor := p }

/-- A plain scalar.  A key may begin behind it if it was followed by a line break. -/
def readPlainScalar (x : Lexer) : Option Lexer := do
  let x ← x.saveKey
  let (s, p) ← readPlain x.inFlow x.floor [] .nothing x.cursor.mark x.cursor.rest
  pure { (x.push (.scalar .plain s.text)).allowKey s.broken with cursor := p }

/-- A line that concerns the whole document.  It closes all block collections. -/
def readDocumentLine (x : Lexer) (line : Option (Token × Cursor)) : Option Lexer := do
  let x ← (x.closeBlocks fun _ => true).dropKey
  let (t, p) ← line
  pure { (x.push t).allowKey false with cursor := p }

/-- Reads what begins with the character `c`. -/
def step (x : Lexer) (c : Char) (rest : List Char) : Option Lexer :=
  if x.column = 0 ∧ c = '%' then x.readDocumentLine (readDirective (x.cursor.advance 1))
  else if x.column = 0 ∧ atMarker (c :: rest) then
    let t := if c = '-' then Token.documentStart else .documentEnd
    x.readDocumentLine (some (t, x.cursor.advance 3))
  else
    match c with
    | '[' => x.openFlow .openFlowList
    | '\x7b' => x.openFlow .openFlowRecord
    | ']' => x.closeFlow .closeFlowList
    | '\x7d' => x.closeFlow .closeFlowRecord
    | ',' => x.readComma
    | '*' => x.readNamed .alias
    | '&' => x.readNamed .anchor
    | '!' => x.readAtom ((readTag x.inFlow x.cursor).map fun (tag, p) => (.tag tag, p))
    | '\'' => x.readQuotedScalar (readSingleQuoted [] .nothing)
    | '"' => x.readQuotedScalar (readDoubleQuoted [] .nothing .outside)
    | c =>
      if c = '-' ∧ atGap rest then x.readIndicator .openBlockList .item true
      else if c = '?' ∧ (x.inFlow ∨ atGap rest) then
        x.readIndicator .openBlockRecord .key (!x.inFlow)
      else if c = ':' ∧ (x.inFlow ∨ atGap rest) then x.readColon
      else if !x.inFlow ∧ (c = '|' ∨ c = '>') then x.readBlockScalar (c = '|')
      else if beginsPlain x.inFlow c rest then x.readPlainScalar
      else none

/-- The state at the end of the text. -/
def finish (x : Lexer) : Option Lexer := (x.closeBlocks fun _ => true).dropKey

/-- Reads to the end of a text that is no longer than the fuel. -/
def readFrom : Nat → Lexer → Option Lexer
  | 0, _ => none
  | fuel + 1, x => do
    let x ← (x.skipGap false x.cursor.mark x.cursor.rest).dropStaleKeys
    let x := x.closeBlocks (x.column < ·)
    match x.cursor.rest with
    | [] => x.finish
    | c :: rest =>
      let x ← x.step c rest
      readFrom fuel x

end Lexer

/-- The tokens of a text. -/
def tokens? (cs : List Char) : Option (List Token) :=
  (Lexer.readFrom (cs.length + 1) { cursor := { rest := cs } }).map (·.read.reverse)

end Placeholders.Yaml
