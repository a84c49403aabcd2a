import PullStreams.Text.Utf8

namespace PullStreams.Csv

inductive Separator where
  | comma
  | tab
  deriving DecidableEq, Repr

def Separator.byte : Separator → UInt8
  | .comma => 0x2C
  | .tab => 0x09

structure Options where
  separator : Separator := .comma
  hasHeaders : Bool := true
  deriving DecidableEq, Repr

def quoteByte : UInt8 := 0x22

def lf : UInt8 := 0x0A

def cr : UInt8 := 0x0D

def isLineEnd (b : UInt8) : Bool := b = lf || b = cr

def needsQuotes (sep : Separator) (field : Bytes) : Bool :=
  field.any fun b => b = sep.byte || b = quoteByte || isLineEnd b

/-- A field that could be mistaken for more than one stands in quotes, its own quotes doubled. -/
def encodeField (sep : Separator) (field : Bytes) : Bytes :=
  if needsQuotes sep field then
    quoteByte :: field.flatMap (fun b => if b = quoteByte then [b, b] else [b]) ++ [quoteByte]
  else field

/-- A row that would come to no bytes is an empty field in quotes. -/
def encodeRow (sep : Separator) (fields : List Bytes) : Bytes :=
  let line := [sep.byte].intercalate (fields.map (encodeField sep))
  (if line.isEmpty then [quoteByte, quoteByte] else line) ++ [lf]

inductive Mode where
  | startRow
  | startField
  | inField
  | inQuotes
  /-- After a quote within quotes, which closes them or is the first of a pair. -/
  | afterQuote
  deriving DecidableEq, Repr

/-- A row being read; the field and the fields before it are kept last first. -/
structure Scanner where
  mode : Mode := .startRow
  field : Bytes := []
  fields : List Bytes := []

namespace Scanner

def endField (s : Scanner) (mode : Mode) : Scanner := ⟨mode, [], s.field.reverse :: s.fields⟩

def add (s : Scanner) (b : UInt8) (mode : Mode) : Scanner := { s with mode, field := b :: s.field }

/-- The fields of the row, in order. -/
def row (s : Scanner) : List Bytes := (s.field.reverse :: s.fields).reverse

def stepPlain (sep : Separator) (s : Scanner) (b : UInt8) : Option Scanner :=
  if b = sep.byte then some (s.endField .startField)
  else if isLineEnd b then none
  else some (s.add b .inField)

/-- One byte; `none` if it ends the row. Line ends before the first byte of a row are passed over,
and a quote opens quotes only at the start of a field. -/
def step (sep : Separator) (s : Scanner) (b : UInt8) : Option Scanner :=
  match s.mode with
  | .startRow =>
    if isLineEnd b then some s
    else if b = quoteByte then some { s with mode := .inQuotes }
    else stepPlain sep s b
  | .startField => if b = quoteByte then some { s with mode := .inQuotes } else stepPlain sep s b
  | .inField => stepPlain sep s b
  | .inQuotes =>
    if b = quoteByte then some { s with mode := .afterQuote } else some (s.add b .inQuotes)
  | .afterQuote => if b = quoteByte then some (s.add b .inQuotes) else stepPlain sep s b

def run (sep : Separator) (s : Scanner) (bs : Bytes) : Option Scanner := bs.foldlM (step sep) s

theorem run_cons {sep : Separator} {s t : Scanner} {b : UInt8} (h : step sep s b = some t)
    (bs : Bytes) : run sep s (b :: bs) = run sep t bs := by
  simp [run, h]

/-- The row that the end of the input leaves, if one has begun. -/
def atEnd (s : Scanner) : Option (List Bytes) :=
  if s.mode = .startRow then none else some s.row

end Scanner
end PullStreams.Csv
