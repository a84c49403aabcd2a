import PullStreams.Text.Utf8
import PullStreams.Json.Fault

namespace PullStreams.Json

structure Cursor where
  rest : Bytes
  /-- How many bytes the whole text has. -/
  size : Nat
  consumed : Nat := 0

/-- Why reading stopped. A problem with a value has no place of its own until the reader around it
puts one on. -/
structure Stop where
  problem : Problem
  place : Option Nat

/-- What is read, and how far reading got, be it with a result or without. -/
abbrev Reader := ExceptT Stop (StateM Cursor)

namespace Reader

def run {α : Type} (r : Reader α) (c : Cursor) : Except Stop α × Cursor := ExceptT.run r c

/-- A problem up to and with the bytes consumed. -/
def failHere {α : Type} (p : Problem) : Reader α := do
  throw ⟨p, some (← get).consumed⟩

/-- A problem with the next byte, if there is one. -/
def failNext {α : Type} (p : Problem) : Reader α := do
  let c ← get
  throw ⟨p, some (if c.rest.isEmpty then c.consumed else c.consumed + 1)⟩

/-- A problem that is placed by the reader around. -/
def failValue {α : Type} (p : Problem) : Reader α := throw ⟨p, none⟩

def placed {α : Type} (r : Reader α) : Reader α := fun c =>
  match r.run c with
  | (.error ⟨p, none⟩, c) => (.error ⟨p, some c.consumed⟩, c)
  | other => other

/-- Runs `last` after `r`, also where `r` fails; the problem of `r` is the one that counts. -/
def closedBy {α : Type} (r : Reader α) (last : Reader Unit) : Reader α := fun c =>
  match r.run c with
  | (.ok a, c) => ((do last; return a : Reader α).run c)
  | (.error e, c) => (.error e, (last.run c).2)

def peek : Reader (Option UInt8) := return (← get).rest.head?

def skip : Reader Unit :=
  modify fun c =>
    match c.rest with
    | [] => c
    | _ :: rest => { c with rest, consumed := c.consumed + 1 }

def next : Reader (Option UInt8) := do
  let b ← peek
  skip
  return b

def takeWhile (p : UInt8 → Bool) : Reader Bytes := fun c =>
  let taken := c.rest.takeWhile p
  (.ok taken, { c with rest := c.rest.dropWhile p, consumed := c.consumed + taken.length })

/-- One more than the bytes that are left: enough rounds for what consumes a byte in each. -/
def rounds : Reader Nat := do
  let c ← get
  return c.size - c.consumed + 1

end Reader

def isBlankByte (b : UInt8) : Bool := b = 0x20 || b = 0x0A || b = 0x09 || b = 0x0D

def isDigitByte (b : UInt8) : Bool := 0x30 ≤ b && b ≤ 0x39

def peekToken : Reader (Option UInt8) := do
  let _ ← Reader.takeWhile isBlankByte
  Reader.peek

def ascii (c : Char) : UInt8 := UInt8.ofNat c.toNat

def placeAfter (text : Bytes) (count : Nat) : Place := (text.take count).foldl step ⟨1, 0⟩
where
  step (p : Place) (b : UInt8) : Place :=
    if b = 0x0A then ⟨p.line + 1, 0⟩ else ⟨p.line, p.column + 1⟩

def Stop.fault (s : Stop) (text : Bytes) : Fault :=
  .unread s.problem (placeAfter text (s.place.getD text.length))

end PullStreams.Json
