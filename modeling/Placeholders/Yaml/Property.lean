import Placeholders.Yaml.Token

/-!
# Anchors, tags and directives

* `Yaml.readName` — reads the name of an anchor or alias after its indicator.
* `Yaml.readTag` — reads a tag.
* `Yaml.readDirective` — reads a directive after its percent sign.
-/

namespace Placeholders.Yaml

/-! ## Names -/

/-- May the character follow a name? -/
def followsName (cs : List Char) : Bool :=
  atGap cs || cs.head?.any fun c => ['?', ':', ',', ']', '\x7d', '%', '@', '\x60'].contains c

/-- Reads a name. -/
def readName (p : Cursor) : Option (List Char × Cursor) :=
  let name := p.rest.takeWhile isNameChar
  let next := p.advance name.length
  if name.isEmpty ∨ !followsName next.rest then none else some (name, next)

/-! ## Tags -/

/-- May the character stand in a tag?  Commas and brackets may where `wide` says so. -/
def isTagChar (wide : Bool) (c : Char) : Bool :=
  isNameChar c || ";/?:@&=+$.!~*'()".toList.contains c ||
    (wide && (c == ',' || c == '[' || c == ']'))

/-- The first byte of a character in UTF-8: how many bytes follow, and what it adds. -/
def leadByte? (n : Nat) : Option (Nat × Nat) :=
  if n < 0x80 then some (0, n)
  else if n < 0xC0 then none
  else if n < 0xE0 then some (1, n - 0xC0)
  else if n < 0xF0 then some (2, n - 0xE0)
  else if n < 0xF8 then some (3, n - 0xF0)
  else none

/-- The value so far with a further byte of a character. -/
def trailByte? (value n : Nat) : Option Nat :=
  if 0x80 ≤ n ∧ n < 0xC0 then some (value * 64 + (n - 0x80)) else none

/-- Reads characters of a tag.  A percent sign and two hexadecimal digits give a byte; `left` more
bytes are due for the character that has come to `value`. -/
def readTagText (wide : Bool) (left value : Nat) (read : List Char) (mark : Mark) :
    List Char → Option (List Char × Cursor)
  | '%' :: a :: b :: rest =>
    match numeral? 16 [a, b] with
    | none => none
    | some n =>
      let taken := if left = 0 then leadByte? n else (trailByte? value n).map (left - 1, ·)
      match taken with
      | none => none
      | some (0, value) =>
        readTagText wide 0 0 (Char.ofNat value :: read) (mark.advance 3) rest
      | some (left, value) => readTagText wide left value read (mark.advance 3) rest
  | c :: rest =>
    if left ≠ 0 ∨ c = '%' then none
    else if isTagChar wide c then readTagText wide 0 0 (c :: read) (mark.after c) rest
    else some (read.reverse, ⟨mark, c :: rest⟩)
  | [] => if left = 0 then some (read.reverse, ⟨mark, []⟩) else none

/-- What counts of the text of a tag: nothing from a zero character on. -/
def tagText (text : List Char) : List Char := text.takeWhile (· != '\x00')

/-- Reads characters of a tag, of which there has to be one. -/
def readSomeTagText (wide : Bool) (p : Cursor) : Option (List Char × Cursor) := do
  let (text, p) ← readTagText wide 0 0 [] p.mark p.rest
  if text.isEmpty then none else pure (tagText text, p)

/-- The handle at the start of a text that begins with an exclamation mark: the mark, a name and
another mark, or without that the name alone. -/
def handle (cs : List Char) : List Char :=
  let name := (cs.drop 1).takeWhile isNameChar
  match cs.drop (1 + name.length) with
  | '!' :: _ => '!' :: name ++ ['!']
  | _ => '!' :: name

/-- Does the handle end with a mark of its own? -/
def isClosedHandle (h : List Char) : Bool := h.length > 1 && h.getLast? == some '!'

/-- Reads a tag up to what ends it: a full one in angle brackets, a handle and a suffix, or a suffix
alone, of which nothing need be there. -/
def readTagBody (p : Cursor) : Option (Tag × Cursor) :=
  match p.rest with
  | '!' :: '<' :: _ => do
    let (text, p) ← readSomeTagText true (p.advance 2)
    if p.rest.head? = some '>' then pure (⟨[], text⟩, p.advance 1) else none
  | _ =>
    let h := handle p.rest
    let p := p.advance h.length
    if isClosedHandle h then
      (readSomeTagText false p).map fun (text, p) => (⟨h, text⟩, p)
    else
      (readTagText false 0 0 (h.drop 1).reverse p.mark p.rest).map fun (text, p) =>
        (if (tagText text).isEmpty then ⟨[], ['!']⟩ else ⟨['!'], tagText text⟩, p)

/-- Reads a tag.  A gap has to follow or, in a flow collection, a comma may. -/
def readTag (flow : Bool) (p : Cursor) : Option (Tag × Cursor) :=
  (readTagBody p).filter fun (_, p) => atGap p.rest || (flow && p.rest.head? == some ',')

/-! ## Directives -/

/-- Reads a number of a version, which has at most nine digits. -/
def readVersionNumber (p : Cursor) : Option (Nat × Cursor) := do
  let digits := p.rest.takeWhile Char.isDigit
  let n ← numeral? 10 digits
  if digits.length ≤ 9 then pure (n, p.advance digits.length) else none

/-- Reads the rest of a directive that names the version. -/
def readVersion (p : Cursor) : Option (Token × Cursor) := do
  let (major, p) ← readVersionNumber p.skipBlanks
  if p.rest.head? = some '.' then
    let (minor, p) ← readVersionNumber (p.advance 1)
    pure (.version major minor, p)
  else none

/-- Reads the rest of a directive that explains a handle. -/
def readTagPrefix (p : Cursor) : Option (Token × Cursor) := do
  let p := p.skipBlanks
  let h := handle p.rest
  let p' := p.advance h.length
  if p.rest.head? = some '!' ∧ (h = ['!'] ∨ isClosedHandle h) ∧ p'.rest.head?.any isBlank then
    let (text, p) ← readSomeTagText true p'.skipBlanks
    if atGap p.rest then pure (.tagPrefix h text, p) else none
  else none

/-- Reads a directive and the line that it stands on. -/
def readDirective (p : Cursor) : Option (Token × Cursor) := do
  let name := p.rest.takeWhile isNameChar
  let p := p.advance name.length
  if atGap p.rest then
    let (token, p) ←
      if name = "YAML".toList then readVersion p
      else if name = "TAG".toList then readTagPrefix p
      else none
    let p ← p.toNextLine?
    pure (token, p)
  else none

end Placeholders.Yaml
