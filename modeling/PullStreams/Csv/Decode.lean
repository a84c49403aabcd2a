import PullStreams.Shape
import PullStreams.Csv.Fault
import PullStreams.Decimal.Numeral

namespace PullStreams.Csv

def readInteger (range : Text.IntegerRange) (text : String) : Except Text.IntegerFault Int :=
  match text.toList with
  | '0' :: 'x' :: rest => Text.readInteger range 16 (.ofList rest)
  | _ => Text.readInteger range 10 text

def readScalar (s : Scalar) (index : Nat) (text : String) : Except RowFault Value :=
  match s with
  | .integer range _ =>
    match readInteger range text with
    | .ok n => .ok (.int n)
    | .error e => .error (some index, .integer e)
  | .text => .ok (.text text)
  | .bool =>
    if text = "true" then .ok (.bool true)
    else if text = "false" then .ok (.bool false)
    else .error (some index, .notBool)

/-- An empty field is null where the field is optional. -/
def readField (f : Field) (index : Nat) (text : String) : Except RowFault Value :=
  match f.presence with
  | .optional => if text.isEmpty then .ok .null else readScalar f.scalar index text
  | _ => readScalar f.scalar index text

def readScalars (shape : Shape) (index : Nat) :
    List Scalar → List String → Except RowFault (List Value)
  | [], _ => .ok []
  | _ :: _, [] => .error (none, .wrongLength index shape.countedTitle)
  | s :: scalars, text :: texts => do
    let v ← readScalar s index text
    return v :: (← readScalars shape (index + 1) scalars texts)

def readFieldsInOrder (shape : Shape) (index : Nat) :
    List Field → List String → Except RowFault (List (String × Value))
  | [], _ => .ok []
  | f :: fields, [] =>
    match f.presence with
    | .defaulted v => do return (f.name, v) :: (← readFieldsInOrder shape (index + 1) fields [])
    | _ => .error (none, .wrongLength index shape.countedTitle)
  | f :: fields, text :: texts => do
    let v ← readField f index text
    return (f.name, v) :: (← readFieldsInOrder shape (index + 1) fields texts)

def readNamed (fields : List Field) (index : Nat) (read : List (String × Value)) :
    List String → List String → Except RowFault (List (String × Value))
  | name :: names, text :: texts =>
    match fields.find? (·.name = name) with
    | none => readNamed fields (index + 1) read names texts
    | some f => do
      if (read.lookup name).isSome then throw (none, .duplicateField name)
      let v ← readField f index text
      readNamed fields (index + 1) ((name, v) :: read) names texts
  | _, _ => .ok read

def completeFields (read : List (String × Value)) :
    List Field → Except RowFault (List (String × Value))
  | [] => .ok []
  | f :: rest =>
    match read.lookup f.name, f.presence with
    | some v, _ => do return (f.name, v) :: (← completeFields read rest)
    | none, .required => .error (none, .missingField f.name)
    | none, _ => do return (f.name, Shape.fieldBlank f) :: (← completeFields read rest)

def integer? (ranges : List Text.IntegerRange) (text : String) : Option Int :=
  ranges.findSome? fun range => (Text.readInteger range 10 text).toOption

/-- Truth values and numbers are told by their text; all else is a text. Of the numbers, only
integers of 64 bits are values. -/
def infer (text : String) : Except RowFault Value :=
  if text = "true" then .ok (.bool true)
  else if text = "false" then .ok (.bool false)
  else
    let narrow := integer? [.unsigned 64, .signed 64] text
    let positive := integer? [.unsigned 128] text
    let negative := integer? [.signed 128] text
    let float := Decimal.Numeral.ofText? text
    match narrow, positive, negative, float with
    | some n, _, _, _ => .ok (.int n)
    | _, some n, _, _ => .error (none, .notValue s!"integer \x60{n}\x60 as u128")
    | _, _, some n, _ => .error (none, .notValue s!"integer \x60{n}\x60 as i128")
    | _, _, _, some x => .error (none, .notValue s!"floating point \x60{x.text}\x60")
    | _, _, _, none => .ok (.text text)

/-- The value in a row. Names of the columns matter to records and maps only; a single value is in
the first field. -/
def decode (shape : Shape) (names : Option (List String)) (row : List String) :
    Except RowFault Value :=
  match shape with
  | .scalar s => readScalar s 0 (row.headD "")
  | .any => infer (row.headD "")
  | .tuple scalars => (readScalars shape 0 scalars row).map .list
  | .list s => ((row.zipIdx).mapM fun (text, i) => readScalar s i text).map .list
  | .record _ fields =>
    match names with
    | none => (readFieldsInOrder shape 0 fields row).map .record
    | some names => do
      let read ← readNamed fields 0 [] names row
      return .record (← completeFields read fields)
  | .texts =>
    match names with
    | none => .error (none, .notMap)
    | some names =>
      .ok (.record (Shape.sortByName
        ((names.zip row).map fun (name, text) => (name, .text text)).reverse))

end PullStreams.Csv
