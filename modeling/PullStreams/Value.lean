import PullStreams.Text.Utf8

namespace PullStreams

inductive Value where
  | null
  | bool (b : Bool)
  | int (n : Int)
  | text (s : String)
  | bytes (bs : Bytes)
  | list (items : List Value)
  /-- Named fields in order; a name may repeat. -/
  | record (fields : List (String × Value))
  | map (entries : List (Value × Value))
  /-- A value that no format can write, for the reason given. -/
  | unwritable (reason : String)

namespace Value

instance : Inhabited Value := ⟨.null⟩

instance : Coe String Value := ⟨.text⟩

mutual

def beq : Value → Value → Bool
  | .null, .null => true
  | .bool a, .bool b => a == b
  | .int a, .int b => a == b
  | .text a, .text b => a == b
  | .bytes a, .bytes b => a == b
  | .list a, .list b => beqItems a b
  | .record a, .record b => beqFields a b
  | .map a, .map b => beqEntries a b
  | .unwritable a, .unwritable b => a == b
  | _, _ => false

def beqItems : List Value → List Value → Bool
  | [], [] => true
  | a :: as, b :: bs => beq a b && beqItems as bs
  | _, _ => false

def beqFields : List (String × Value) → List (String × Value) → Bool
  | [], [] => true
  | (n, a) :: as, (m, b) :: bs => n == m && beq a b && beqFields as bs
  | _, _ => false

def beqEntries : List (Value × Value) → List (Value × Value) → Bool
  | [], [] => true
  | (k, a) :: as, (l, b) :: bs => beq k l && beq a b && beqEntries as bs
  | _, _ => false

end

instance : BEq Value := ⟨beq⟩

def hexDigit (n : Nat) : Char :=
  if n < 10 then Char.ofNat ('0'.toNat + n) else Char.ofNat ('a'.toNat + n - 10)

def hexOfBytes (bs : Bytes) : String :=
  .ofList (bs.flatMap fun b => [hexDigit (b.toNat / 16), hexDigit (b.toNat % 16)])

mutual

def plain : Value → String
  | .null => "null"
  | .bool b => toString b
  | .int n => toString n
  | .text s => s
  | .bytes bs => hexOfBytes bs
  | .list items => "[" ++ ",".intercalate (plainItems items) ++ "]"
  | .record fields => "\x7b" ++ ",".intercalate (plainFields fields) ++ "\x7d"
  | .map entries => "\x7b" ++ ",".intercalate (plainEntries entries) ++ "\x7d"
  | .unwritable reason => reason

def plainItems : List Value → List String
  | [] => []
  | v :: rest => plain v :: plainItems rest

def plainFields : List (String × Value) → List String
  | [] => []
  | (name, v) :: rest => (name ++ "=" ++ plain v) :: plainFields rest

def plainEntries : List (Value × Value) → List String
  | [] => []
  | (k, v) :: rest => (plain k ++ "=" ++ plain v) :: plainEntries rest

end

/-- Characters of a text, entries of a collection; other values have none. -/
def length : Value → Nat
  | .text s => s.length
  | .bytes bs => bs.length
  | .list items => items.length
  | .record fields => fields.length
  | .map entries => entries.length
  | _ => 0

def toBytes : Value → Bytes
  | .bytes bs => bs
  | v => Utf8.bytesOf v.plain

/-- The value as a collection: a list is its items, null has none, any other value is its own. -/
def elements : Value → List Value
  | .list items => items
  | .null => []
  | v => [v]

end Value
end PullStreams
