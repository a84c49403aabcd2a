namespace PullStreams.Json

inductive Problem where
  | endInValue
  | endInString
  | endInList
  | endInObject
  | wrongWord
  | noValue
  | badNumber
  | hugeNumber
  | controlCharacter
  | badEscape
  | loneSurrogate
  | cutSurrogate
  | trailingComma
  | noListSeparator
  | noObjectSeparator
  | noColon
  | keyNotString
  | trailingCharacters
  | tooDeep
  /-- A value of another type stood where `wanted` was expected. -/
  | wrongType (found wanted : String)
  /-- A value of the right type lies outside what `wanted` can hold. -/
  | wrongValue (found wanted : String)
  | wrongLength (count : Nat) (wanted : String)
  | missingField (name : String)
  | duplicateField (name : String)
  deriving DecidableEq, Repr

def Problem.message : Problem → String
  | .endInValue => "EOF while parsing a value"
  | .endInString => "EOF while parsing a string"
  | .endInList => "EOF while parsing a list"
  | .endInObject => "EOF while parsing an object"
  | .wrongWord => "expected ident"
  | .noValue => "expected value"
  | .badNumber => "invalid number"
  | .hugeNumber => "number out of range"
  | .controlCharacter => "control character (\\u0000-\\u001F) found while parsing a string"
  | .badEscape => "invalid escape"
  | .loneSurrogate => "lone leading surrogate in hex escape"
  | .cutSurrogate => "unexpected end of hex escape"
  | .trailingComma => "trailing comma"
  | .noListSeparator => "expected \x60,\x60 or \x60]\x60"
  | .noObjectSeparator => "expected \x60,\x60 or \x60\x7d\x60"
  | .noColon => "expected \x60:\x60"
  | .keyNotString => "key must be a string"
  | .trailingCharacters => "trailing characters"
  | .tooDeep => "recursion limit exceeded"
  | .wrongType found wanted => s!"invalid type: {found}, expected {wanted}"
  | .wrongValue found wanted => s!"invalid value: {found}, expected {wanted}"
  | .wrongLength count wanted => s!"invalid length {count}, expected {wanted}"
  | .missingField name => s!"missing field \x60{name}\x60"
  | .duplicateField name => s!"duplicate field \x60{name}\x60"

/-- A place in a text: lines count from one, and the column counts the bytes of the line up to
the place. -/
structure Place where
  line : Nat
  column : Nat
  deriving DecidableEq, Repr

namespace Place

/-- How a place stands at the end of a message. Line zero is no place. -/
def suffix (p : Place) : String :=
  if p.line = 0 then "" else s!" at line {p.line} column {p.column}"

/-- The number that digits at the end of a text write, what stands before them, the last first. It
has to fit into 64 bits. -/
def splitNumber (reversed : List Char) : Option (Nat × List Char) :=
  let digits := (reversed.takeWhile Char.isDigit).reverse
  let n := digits.foldl (fun n c => 10 * n + (c.toNat - '0'.toNat)) 0
  if digits.isEmpty || 0x10000000000000000 ≤ n then none
  else some (n, reversed.dropWhile Char.isDigit)

def splitWord (word : String) (reversed : List Char) : Option (List Char) :=
  if word.toList.reverse.isPrefixOf reversed then some (reversed.drop word.length) else none

def split? (message : String) : Option (String × Place) := do
  let (column, rest) ← splitNumber message.toList.reverse
  let rest ← splitWord " column " rest
  let (line, rest) ← splitNumber rest
  let rest ← splitWord " at line " rest
  some (.ofList rest.reverse, ⟨line, column⟩)

end Place

inductive Fault where
  /-- A value has no JSON text. -/
  | refused (text : String) (place : Place)
  /-- A text was not read. -/
  | unread (problem : Problem) (place : Place)
  deriving DecidableEq, Repr

namespace Fault

/-- The refusal that a message tells. A place at the end of the message is that of the fault. -/
def ofMessage (message : String) : Fault :=
  match Place.split? message with
  | some (text, place) => .refused text place
  | none => .refused message ⟨0, 0⟩

def message : Fault → String
  | .refused text place => text ++ place.suffix
  | .unread problem place => problem.message ++ place.suffix

end Fault

end PullStreams.Json
