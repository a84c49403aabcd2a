import PullStreams.Value
import PullStreams.Json.Fault

namespace PullStreams.Json

def escapeChar (c : Char) : List Char :=
  match c with
  | '"' => ['\\', '"']
  | '\\' => ['\\', '\\']
  | '\x08' => ['\\', 'b']
  | '\x0c' => ['\\', 'f']
  | '\n' => ['\\', 'n']
  | '\r' => ['\\', 'r']
  | '\t' => ['\\', 't']
  | c =>
    if c.toNat < 0x20 then
      ['\\', 'u', '0', '0', Value.hexDigit (c.toNat / 16), Value.hexDigit (c.toNat % 16)]
    else [c]

def quote (s : String) : List Char := '"' :: s.toList.flatMap escapeChar ++ ['"']

/-- Names of an object are texts; an integer or a truth value stands in quotes. -/
def encodeKey : Value → Except Fault (List Char)
  | .text s => .ok (quote s)
  | .int n => .ok (quote (toString n))
  | .bool b => .ok (quote (toString b))
  | .unwritable reason => .error (.ofMessage reason)
  | _ => .error (.ofMessage Problem.keyNotString.message)

def sepBy (parts : List (List Char)) : List Char := [','].intercalate parts

mutual

def encodeChars : Value → Except Fault (List Char)
  | .null => .ok "null".toList
  | .bool b => .ok (toString b).toList
  | .int n => .ok (toString n).toList
  | .text s => .ok (quote s)
  | .bytes bs => .ok ('[' :: sepBy (bs.map fun b => (toString b.toNat).toList) ++ [']'])
  | .list items => (encodeItems items).map fun parts => '[' :: sepBy parts ++ [']']
  | .record fields => (encodeFields fields).map fun parts => '\x7b' :: sepBy parts ++ ['\x7d']
  | .map entries => (encodeEntries entries).map fun parts => '\x7b' :: sepBy parts ++ ['\x7d']
  | .unwritable reason => .error (.ofMessage reason)

def encodeItems : List Value → Except Fault (List (List Char))
  | [] => .ok []
  | v :: rest => do
    let part ← encodeChars v
    return part :: (← encodeItems rest)

def encodeFields : List (String × Value) → Except Fault (List (List Char))
  | [] => .ok []
  | (name, v) :: rest => do
    let part ← encodeChars v
    return (quote name ++ ':' :: part) :: (← encodeFields rest)

def encodeEntries : List (Value × Value) → Except Fault (List (List Char))
  | [] => .ok []
  | (k, v) :: rest => do
    let key ← encodeKey k
    let part ← encodeChars v
    return (key ++ ':' :: part) :: (← encodeEntries rest)

end

def encode (v : Value) : Except Fault Bytes :=
  (encodeChars v).map fun cs => Utf8.bytesOf (.ofList cs)

end PullStreams.Json
