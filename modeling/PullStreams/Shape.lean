import PullStreams.Text.Integer
import PullStreams.Value

namespace PullStreams

inductive Scalar where
  /-- `title` is what messages call the type. -/
  | integer (range : Text.IntegerRange) (title : String)
  | text
  | bool

def Scalar.title : Scalar → String
  | .integer _ title => title
  | .text => "a string"
  | .bool => "a boolean"

inductive Presence where
  | required
  /-- A field that may be null, and is null where it is missing. -/
  | optional
  /-- A field that takes a value of its own where it is missing. -/
  | defaulted (value : Value)

structure Field where
  name : String
  scalar : Scalar
  presence : Presence := .required

inductive Shape where
  | scalar (s : Scalar)
  | record (title : String) (fields : List Field)
  | tuple (scalars : List Scalar)
  | list (s : Scalar)
  /-- Texts by name, sorted by the bytes of the names. -/
  | texts
  /-- Whatever is there, numbers with a fraction apart. -/
  | any

namespace Scalar

def blank : Scalar → Value
  | .integer _ _ => .int 0
  | .text => .text ""
  | .bool => .bool false

end Scalar

namespace Shape

def title : Shape → String
  | .scalar s => s.title
  | .record title _ => title
  | .tuple scalars => s!"a tuple of size {scalars.length}"
  | .list _ => "a sequence"
  | .texts => "a map"
  | .any => "a value"

def countedTitle : Shape → String
  | .record title fields => s!"{title} with {fields.length} elements"
  | s => s.title

def fieldBlank (f : Field) : Value :=
  match f.presence with
  | .required => f.scalar.blank
  | .optional => .null
  | .defaulted v => v

def blank : Shape → Value
  | .scalar s => s.blank
  | .record _ fields => .record (fields.map fun f => (f.name, fieldBlank f))
  | .tuple scalars => .list (scalars.map Scalar.blank)
  | .list _ => .list []
  | .texts => .record []
  | .any => .null

/-- Entries sorted by their names, of which the first with a name counts. The order of texts is that
of their bytes. -/
def sortByName (entries : List (String × Value)) : List (String × Value) :=
  (entries.mergeSort fun a b => !(b.1 < a.1)).foldr keepFirst []
where
  keepFirst (entry : String × Value) : List (String × Value) → List (String × Value)
    | [] => [entry]
    | other :: rest => if other.1 = entry.1 then entry :: rest else entry :: other :: rest

end Shape
end PullStreams
