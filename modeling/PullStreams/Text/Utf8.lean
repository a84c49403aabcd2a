namespace PullStreams

abbrev Bytes := List UInt8

/-- Where bytes stop being UTF-8, counted from their start. -/
inductive Utf8Fault where
  /-- `length` bytes from `index` begin no character. -/
  | invalid (index length : Nat)
  /-- The bytes end inside the character that starts at `index`. -/
  | incomplete (index : Nat)
  deriving DecidableEq, Repr

namespace Utf8Fault

def index : Utf8Fault → Nat
  | .invalid i _ => i
  | .incomplete i => i

def message : Utf8Fault → String
  | .invalid i n => s!"invalid utf-8 sequence of {n} bytes from index {i}"
  | .incomplete i => s!"incomplete utf-8 byte sequence from index {i}"

end Utf8Fault

namespace Utf8

def bytesOf (s : String) : Bytes := s.toUTF8.toList

/-- The ranges in which the bytes after a first byte must lie; `none` if no character starts so. -/
def tails (b : UInt8) : Option (List (UInt8 × UInt8)) :=
  let tail : UInt8 × UInt8 := (0x80, 0xBF)
  if b ≤ 0x7F then some []
  else if 0xC2 ≤ b ∧ b ≤ 0xDF then some [tail]
  else if b = 0xE0 then some [(0xA0, 0xBF), tail]
  else if b = 0xED then some [(0x80, 0x9F), tail]
  else if 0xE1 ≤ b ∧ b ≤ 0xEF then some [tail, tail]
  else if b = 0xF0 then some [(0x90, 0xBF), tail, tail]
  else if 0xF1 ≤ b ∧ b ≤ 0xF3 then some [tail, tail, tail]
  else if b = 0xF4 then some [(0x80, 0x8F), tail, tail]
  else none

/-- `start` is where the open character began, `seen` how many of its bytes have passed, `owed` the
ranges of those to come. -/
def faultFrom (start seen : Nat) (owed : List (UInt8 × UInt8)) : Bytes → Option Utf8Fault
  | [] => if owed.isEmpty then none else some (.incomplete start)
  | b :: rest =>
    match owed with
    | [] =>
      match tails b with
      | none => some (.invalid start 1)
      | some [] => faultFrom (start + 1) 0 [] rest
      | some owed => faultFrom start 1 owed rest
    | (low, high) :: owed =>
      if low ≤ b ∧ b ≤ high then
        if owed.isEmpty then faultFrom (start + seen + 1) 0 [] rest
        else faultFrom start (seen + 1) owed rest
      else some (.invalid start seen)

def fault? (bs : Bytes) : Option Utf8Fault := faultFrom 0 0 [] bs

def decode (bs : Bytes) : Except Utf8Fault String :=
  match String.fromUTF8? ⟨bs.toArray⟩ with
  | some s => .ok s
  | none => .error ((fault? bs).getD (.incomplete bs.length))

end Utf8
end PullStreams
