import PullStreams.Shape
import PullStreams.Text.Quoted
import PullStreams.Json.Skip

namespace PullStreams.Json
open Reader

def hasElement (isFirst : Bool) : Reader Bool := do
  match ← peekToken with
  | none => failNext .endInList
  | some b =>
    if b = ascii ']' then return false
    else if isFirst then return true
    else if b = ascii ',' then
      skip
      match ← peekToken with
      | none => failNext .endInValue
      | some b => if b = ascii ']' then failNext .trailingComma else return true
    else failNext .noListSeparator

def hasKey (isFirst : Bool) : Reader Bool := do
  match ← peekToken with
  | none => failNext .endInObject
  | some b =>
    if b = ascii '\x7d' then return false
    else if isFirst then
      if b = ascii '"' then return true else failNext .keyNotString
    else if b = ascii ',' then
      skip
      match ← peekToken with
      | none => failNext .endInValue
      | some b =>
        if b = ascii '"' then return true
        else if b = ascii '\x7d' then failNext .trailingComma
        else failNext .keyNotString
    else failNext .noObjectSeparator

def readKey : Reader String := do
  skip
  readText

def readColon : Reader Unit := do
  match ← peekToken with
  | none => failNext .endInObject
  | some b => if b = ascii ':' then skip else failNext .noColon

def closeList : Reader Unit := do
  match ← peekToken with
  | none => failNext .endInList
  | some b =>
    if b = ascii ']' then skip
    else if b = ascii ',' then
      skip
      if (← peekToken) = some (ascii ']') then failNext .trailingComma
      else failNext .trailingCharacters
    else failNext .trailingCharacters

def closeObject : Reader Unit := do
  match ← peekToken with
  | none => failNext .endInObject
  | some b =>
    if b = ascii '\x7d' then skip
    else if b = ascii ',' then failNext .trailingComma
    else failNext .trailingCharacters

/-- The inside of a list, its bracket not yet consumed. -/
def inList {α : Type} (body : Reader α) : Reader α :=
  placed do
    skip
    closedBy body closeList

def inObject {α : Type} (body : Reader α) : Reader α :=
  placed do
    skip
    closedBy body closeObject

/-- As many elements as there are. Each round consumes a byte. -/
def readElements {α : Type} (element : Reader α) : Reader (List α) := do
  go (← rounds) true
where
  go : Nat → Bool → Reader (List α)
    | 0, _ => failNext .endInList
    | rounds + 1, isFirst => do
      if ← hasElement isFirst then
        let a ← element
        return a :: (← go rounds false)
      else return []

/-- Feeds each name to `entry`, which reads the value behind it. Each round consumes a byte. -/
def foldEntries {β : Type} (entry : β → String → Reader β) (tally : β) : Reader β := do
  go (← rounds) true tally
where
  go : Nat → Bool → β → Reader β
    | 0, _, _ => failNext .endInObject
    | rounds + 1, isFirst, tally => do
      if ← hasKey isFirst then
        let tally ← entry tally (← readKey)
        go rounds false tally
      else return tally

/-- Reads past a value that is not of the type `wanted`, to say what it is. Brackets are not
entered. -/
def readUnwanted {α : Type} (wanted : String) : Reader α := do
  let wrong (found : String) : Reader α := failValue (.wrongType found wanted)
  match ← peek with
  | none => failNext .endInValue
  | some b =>
    if b = ascii 'n' then skip; readWord "ull".toList; wrong "null"
    else if b = ascii 't' then skip; readWord "rue".toList; wrong "boolean \x60true\x60"
    else if b = ascii 'f' then skip; readWord "alse".toList; wrong "boolean \x60false\x60"
    else if b = ascii '-' || isDigitByte b then
      if b = ascii '-' then skip
      wrong (← readNumber (b = ascii '-')).title
    else if b = ascii '"' then
      skip
      let s ← readText
      wrong ("string " ++ Text.Quoted.encode s)
    else if b = ascii '[' then wrong "sequence"
    else if b = ascii '\x7b' then wrong "map"
    else failNext .noValue

def readScalar (s : Scalar) : Reader Value :=
  placed do
    match ← peekToken with
    | none => failNext .endInValue
    | some b =>
      match s with
      | .integer range title =>
        if b = ascii '-' || isDigitByte b then
          if b = ascii '-' then skip
          match ← readNumber (b = ascii '-') with
          | .integer n =>
            if range.contains n then return .int n
            else failValue (.wrongValue (Number.integer n).title title)
          | number => failValue (.wrongType number.title title)
        else readUnwanted title
      | .text =>
        if b = ascii '"' then
          skip
          return .text (← readText)
        else readUnwanted s.title
      | .bool =>
        if b = ascii 't' then
          skip
          readWord "rue".toList
          return .bool true
        else if b = ascii 'f' then
          skip
          readWord "alse".toList
          return .bool false
        else readUnwanted s.title

/-- The value of a field: null stands for none where the field is optional. -/
def readField (f : Field) : Reader Value :=
  match f.presence with
  | .optional => do
    if (← peekToken) = some (ascii 'n') then
      skip
      readWord "ull".toList
      return .null
    else readScalar f.scalar
  | _ => readScalar f.scalar

/-- Fields by their place in a list; one that takes a value of its own may be left out. -/
def readFieldsInOrder (shape : Shape) (count : Nat) : List Field → Reader (List (String × Value))
  | [] => return []
  | f :: rest => do
    if ← hasElement (count = 0) then
      let v ← readField f
      return (f.name, v) :: (← readFieldsInOrder shape (count + 1) rest)
    else
      match f.presence with
      | .defaulted v => return (f.name, v) :: (← readFieldsInOrder shape (count + 1) rest)
      | _ => failValue (.wrongLength count shape.countedTitle)

def completeFields (read : List (String × Value)) : List Field → Reader (List (String × Value))
  | [] => return []
  | f :: rest => do
    let v ←
      match read.lookup f.name, f.presence with
      | some v, _ => pure v
      | none, .required => failValue (.missingField f.name)
      | none, _ => pure (Shape.fieldBlank f)
    return (f.name, v) :: (← completeFields read rest)

/-- Fields by name; other names are passed over. -/
def readFieldsByName (fields : List Field) : Reader (List (String × Value)) := do
  let read ← foldEntries (β := List (String × Value))
    (fun read name => do
      match fields.find? (·.name = name) with
      | none =>
        readColon
        skipValue
        return read
      | some f =>
        if (read.lookup name).isSome then failValue (.duplicateField name)
        readColon
        return (name, ← readField f) :: read)
    []
  completeFields read fields

def readScalarsInOrder (shape : Shape) (count : Nat) : List Scalar → Reader (List Value)
  | [] => return []
  | s :: rest => do
    if ← hasElement (count = 0) then
      let v ← readScalar s
      return v :: (← readScalarsInOrder shape (count + 1) rest)
    else failValue (.wrongLength count shape.countedTitle)

/-- How many brackets may be open at a time, and one more. -/
def depthLimit : Nat := 128

/-- Any value. `float` says what becomes of a number that is no integer. -/
def readAny (float : Number → Reader Value) : Nat → Reader Value
  | 0 => failNext .tooDeep
  | depth + 1 =>
    placed do
      match ← peekToken with
      | none => failNext .endInValue
      | some b =>
        if b = ascii 'n' then skip; readWord "ull".toList; return .null
        else if b = ascii 't' then skip; readWord "rue".toList; return .bool true
        else if b = ascii 'f' then skip; readWord "alse".toList; return .bool false
        else if b = ascii '-' || isDigitByte b then
          if b = ascii '-' then skip
          match ← readNumber (b = ascii '-') with
          | .integer n => return .int n
          | number => float number
        else if b = ascii '"' then
          skip
          return .text (← readText)
        else if b = ascii '[' then
          if depth = 0 then failNext .tooDeep
          return .list (← inList (readElements (readAny float depth)))
        else if b = ascii '\x7b' then
          if depth = 0 then failNext .tooDeep
          let fields ← inObject (foldEntries
            (fun fields name => do
              readColon
              return (name, ← readAny float depth) :: fields)
            [])
          return .record fields.reverse
        else failNext .noValue

def readShape (shape : Shape) : Reader Value :=
  match shape with
  | .scalar s => readScalar s
  | .any =>
    readAny (fun number => failValue (.wrongType number.title shape.title)) depthLimit
  | _ =>
    placed do
      match ← peekToken with
      | none => failNext .endInValue
      | some b =>
        let isList := b = ascii '['
        let isObject := b = ascii '\x7b'
        match shape with
        | .record _ fields =>
          if isList then return .record (← inList (readFieldsInOrder shape 0 fields))
          else if isObject then return .record (← inObject (readFieldsByName fields))
          else readUnwanted shape.title
        | .tuple scalars =>
          if isList then return .list (← inList (readScalarsInOrder shape 0 scalars))
          else readUnwanted shape.title
        | .list s =>
          if isList then return .list (← inList (readElements (readScalar s)))
          else readUnwanted shape.title
        | _ =>
          if isObject then
            let read ← inObject (foldEntries
              (fun read name => do
                readColon
                return (name, ← readScalar .text) :: read)
              [])
            return .record (Shape.sortByName read)
          else readUnwanted shape.title

def decodeWith (r : Reader Value) (text : String) : Except Fault Value :=
  let bs := Utf8.bytesOf text
  let whole : Reader Value := do
    let v ← r
    if (← peekToken).isSome then failNext .trailingCharacters
    return v
  match (whole.run { rest := bs, size := bs.length }).1 with
  | .ok v => .ok v
  | .error stop => .error (stop.fault bs)

def decode (shape : Shape) (text : String) : Except Fault Value := decodeWith (readShape shape) text

def fault? (text : String) : Option Fault :=
  match decodeWith (readAny (fun _ => return .null) depthLimit) text with
  | .ok _ => none
  | .error e => some e

end PullStreams.Json
