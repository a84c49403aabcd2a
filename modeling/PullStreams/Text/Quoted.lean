import PullStreams.Text.Hidden

namespace PullStreams.Text.Quoted

def hexText (n : Nat) : List Char := Nat.toDigits 16 n

def encodeChar (c : Char) : List Char :=
  match c with
  | '"' => ['\\', '"']
  | '\\' => ['\\', '\\']
  | '\n' => ['\\', 'n']
  | '\r' => ['\\', 'r']
  | '\t' => ['\\', 't']
  | '\x00' => ['\\', '0']
  | c => if isHidden c then ['\\', 'u', '\x7b'] ++ hexText c.toNat ++ ['\x7d'] else [c]

def encode (s : String) : String := .ofList ('"' :: s.toList.flatMap encodeChar ++ ['"'])

end PullStreams.Text.Quoted
