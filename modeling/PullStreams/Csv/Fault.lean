import PullStreams.Text.Integer

namespace PullStreams.Csv

/-- Where a row starts: its number, and the line and byte reached when the row before it ended. -/
structure Position where
  record : Nat
  line : Nat
  byte : Nat
  deriving DecidableEq, Repr

def Position.start : Position := ⟨0, 1, 0⟩

/-- Why a row is not a value of the wanted shape. -/
inductive Mismatch where
  | integer (fault : Text.IntegerFault)
  | notBool
  | missingField (name : String)
  | duplicateField (name : String)
  | wrongLength (count : Nat) (wanted : String)
  | notMap
  /-- A number that is no integer of 64 bits stood where any other value was expected. -/
  | notValue (found : String)
  deriving DecidableEq, Repr

def Mismatch.message : Mismatch → String
  | .integer fault => fault.message
  | .notBool => "provided string was not \x60true\x60 or \x60false\x60"
  | .missingField name => s!"missing field \x60{name}\x60"
  | .duplicateField name => s!"duplicate field \x60{name}\x60"
  | .wrongLength count wanted => s!"invalid length {count}, expected {wanted}"
  | .notMap => "invalid type: sequence, expected a map"
  | .notValue found => s!"invalid type: {found}, expected a value"

/-- A mismatch, and the field where a conversion failed. -/
abbrev RowFault := Option Nat × Mismatch

inductive Fault where
  /-- A value has no row. -/
  | refused (text : String)
  /-- A row is longer or shorter than the first. -/
  | unequal (position : Option Position) (fields first : Nat)
  | notUtf8 (position : Position) (field index : Nat)
  /-- A row was read and is not of the wanted shape; a conversion that failed names its field. -/
  | mismatch (position : Position) (field : Option Nat) (reason : Mismatch)
  | io (text : String)
  deriving DecidableEq, Repr

def Position.message (p : Position) : String :=
  s!"record {p.record} (line: {p.line}, byte: {p.byte})"

def Fault.message : Fault → String
  | .refused text => s!"CSV write error: {text}"
  | .unequal position fields first =>
    let place := (position.map fun p => p.message ++ ": ").getD ""
    s!"CSV error: {place}found record with {fields} fields, " ++
      s!"but the previous record has {first} fields"
  | .notUtf8 p field index =>
    s!"CSV parse error: record {p.record} (line {p.line}, field: {field}, byte: {p.byte}): " ++
      s!"invalid utf-8: invalid UTF-8 in field {field} near byte index {index}"
  | .mismatch p field reason =>
    let place := (field.map fun f => s!"field {f}: ").getD ""
    s!"CSV deserialize error: {p.message}: {place}{reason.message}"
  | .io text => text

end PullStreams.Csv
