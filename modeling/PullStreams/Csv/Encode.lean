import PullStreams.Value
import PullStreams.Csv.Row
import PullStreams.Csv.Fault

namespace PullStreams.Csv

def mapRefusal : Fault :=
  .refused ("serializing maps is not supported, if you have a use case, please file an issue at " ++
    "https://github.com/BurntSushi/rust-csv")

inductive HeaderState where
  | start
  /-- A scalar stood outside any field, and must not be followed by a name. -/
  | scalar (met : Fault)
  | inField
  | fields

def looseScalar (v : Value) : Fault :=
  let text :=
    match v with
    | .null => "None"
    | .bytes _ => "&[u8]"
    | v => v.plain
  .refused s!"cannot serialize {text} scalar outside struct when writing headers from structs"

def innerContainer (kind : String) : Fault :=
  .refused s!"cannot serialize {kind} container inside struct when writing headers from structs"

/-- The names met so far, last first. -/
abbrev Header := HeaderState × List String

def headerScalar (v : Value) : Header → Except Fault Header
  | (.start, names) => .ok (.scalar (looseScalar v), names)
  | (.fields, _) => .error (looseScalar v)
  | header => .ok header

mutual

def headerFrom (header : Header) (v : Value) : Except Fault Header :=
  match v with
  | .list items =>
    match header.1 with
    | .inField => .error (innerContainer "sequence")
    | _ => headerItems header items
  | .record fields =>
    match header.1 with
    | .inField => .error (innerContainer "Rec")
    | _ => headerFields header fields
  | .map _ => .error mapRefusal
  | .unwritable reason => .error (.refused reason)
  | v => headerScalar v header

def headerItems (header : Header) : List Value → Except Fault Header
  | [] => .ok header
  | v :: rest => do headerItems (← headerFrom header v) rest

def headerFields (header : Header) : List (String × Value) → Except Fault Header
  | [] => .ok header
  | (name, v) :: rest =>
    match header.1 with
    | .scalar met => .error met
    | _ => do
      let inside ← headerFrom (.inField, name :: header.2) v
      headerFields (.fields, inside.2) rest

end

def headerOf (v : Value) : Except Fault (List String) :=
  (headerFrom (.start, []) v).map fun header => header.2.reverse

mutual

def fieldsOf : Value → Except Fault (List Bytes)
  | .null => .ok [[]]
  | .bytes bs => .ok [bs]
  | .list items => fieldsOfItems items
  | .record fields => fieldsOfFields fields
  | .map _ => .error mapRefusal
  | .unwritable reason => .error (.refused reason)
  | v => .ok [Utf8.bytesOf v.plain]

def fieldsOfItems : List Value → Except Fault (List Bytes)
  | [] => .ok []
  | v :: rest => do
    let first ← fieldsOf v
    return first ++ (← fieldsOfItems rest)

def fieldsOfFields : List (String × Value) → Except Fault (List Bytes)
  | [] => .ok []
  | (_, v) :: rest => do
    let first ← fieldsOf v
    return first ++ (← fieldsOfFields rest)

end

/-- The row of a value, after its header if one is wanted. Header and row must agree in length. -/
def encode (sep : Separator) (wantsHeader : Bool) (v : Value) : Except Fault Bytes := do
  let names ← if wantsHeader then headerOf v else pure []
  let fields ← fieldsOf v
  if names.isEmpty then return encodeRow sep fields
  if fields.length ≠ names.length then throw (.unequal none fields.length names.length)
  return encodeRow sep (names.map Utf8.bytesOf) ++ encodeRow sep fields

end PullStreams.Csv
