import SqlPrep.Yaml.Cursor
import SqlPrep.Yaml.Token

/-!
# Names: anchors, tags and directives

The tokens that start with `&`, `*`, `!` and `%`. A tag may escape bytes of its UTF-8 form by `%`
and two hexadecimal digits.
-/

namespace SqlPrep.Yaml

open Lexing

/-- A character that may stand in a tag as it is. -/
def isUriChar (c : Char) : Bool :=
  c.isAlphanum || "-;/?:@&=+$,_.!~*'()[]%".toList.contains c

/-- A character that may follow the name of an anchor or alias. -/
def endsName (c : Char) : Bool :=
  isGap c || "?:,]\x7d%@`".toList.contains c

/-- A nonempty row of word characters. -/
def readWord (fault : Fault) : Lexing (List Char) := do
  let word ← takeRun isWordChar
  require (!word.isEmpty) fault
  return word

/-- The name of an anchor or alias, after its indicator. -/
def readName : Lexing (List Char) := do
  skip 1
  let name ← readWord .anchorName
  require (endsName (← peek)) .anchorName
  return name

/-- The bytes escaped from here on, one for each `%` with two hexadecimal digits. -/
def readEscapedBytes (fault : Fault) : Nat → Lexing (List UInt8)
  | 0 => return []
  | fuel + 1 => do
    let c ← get
    if c.peek ≠ '%' then return []
    match Text.hexValue? (c.ahead 1), Text.hexValue? (c.ahead 2) with
    | some high, some low =>
      skip 3
      return UInt8.ofNat (16 * high + low) :: (← readEscapedBytes fault fuel)
    | _, _ => fail fault

/-- The characters of a tag, with escapes decoded. -/
def readUriChars (fault : Fault) : Nat → Lexing (List Char)
  | 0 => return []
  | fuel + 1 => do
    let c ← get
    if c.peek = '%' then
      let bytes ← readEscapedBytes fault c.rest.length
      match String.fromUTF8? ⟨bytes.toArray⟩ with
      | some text => return text.toList ++ (← readUriChars fault fuel)
      | none => fail fault
    else
      let run ← takeRun fun ch => isUriChar ch && ch != '%'
      if run.isEmpty then return []
      return run ++ (← readUriChars fault fuel)

/-- A nonempty row of characters of a tag. -/
def readUri (fault : Fault) : Lexing (List Char) := do
  let start ← get
  let uri ← readUriChars fault (start.rest.length + 1)
  require ((← get).index != start.index) fault
  return uri

/-- The handle of a tag: `!`, or a word between two of them. -/
def readHandle (fault : Fault) : Lexing (List Char) := do
  require ((← peek) == '!') fault
  skip 1
  if (← peek) = ' ' then return ['!']
  let word ← takeRun isWordChar
  require ((← peek) == '!') fault
  skip 1
  return ['!'] ++ word ++ ['!']

/-- Whether a second `!` follows in the word that starts here. -/
def hasHandle (c : Cursor) : Bool :=
  ((c.next.rest.takeWhile (!isSpaceOrEnd ·))).contains '!'

/-- A tag, and the space or line end that must follow it. -/
def readTag : Lexing WrittenTag := do
  let c ← get
  let tag ←
    if c.ahead 1 = '<' then do
      skip 2
      let suffix ← readUri .tagName
      require ((← peek) == '>') .tagName
      skip 1
      pure ⟨none, suffix⟩
    else if isGap (c.ahead 1) then do
      skip 1
      pure ⟨none, ['!']⟩
    else if hasHandle c then do
      let handle ← readHandle .tagName
      pure ⟨some handle, ← readUri .tagName⟩
    else do
      skip 1
      pure ⟨some ['!'], ← readUri .tagName⟩
  require (isSpaceOrEnd (← peek)) .tagName
  return tag

/-- A nonempty row of ASCII digits as a number. -/
def readNumber : Lexing Nat := do
  let digits ← takeRun Char.isDigit
  require (!digits.isEmpty) .directive
  if Text.longestInteger < digits.length then throw (.integerLength digits.length)
  return digits.foldl (fun n c => 10 * n + (c.toNat - 48)) 0

/-- The version that a document asks for. -/
def readVersion : Lexing Directive := do
  skipSpaces
  let major ← readNumber
  require ((← peek) == '.') .directive
  skip 1
  let minor ← readNumber
  require (isSpaceOrEnd (← peek)) .directive
  return .version major minor

/-- A tag handle with what it stands for. -/
def readTagDirective : Lexing Directive := do
  skipSpaces
  let handle ← readHandle .directive
  require ((← peek) == ' ') .directive
  skipSpaces
  let prefixText ← readUri .directive
  require (isSpaceOrEnd (← peek)) .directive
  return .tag handle prefixText

/-- A directive with the rest of its line. Directives of other names are skipped. -/
def readDirective : Lexing Directive := do
  skip 1
  let name ← readWord .directive
  require (isSpaceOrEnd (← peek)) .directive
  let directive ←
    if name = "YAML".toList then readVersion
    else if name = "TAG".toList then readTagDirective
    else do
      discard (takeRun (!isBreakOrEnd ·))
      pure .other
  blankLine .directive
  return directive

end SqlPrep.Yaml
