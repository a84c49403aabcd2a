import PullStreams.Json.Cursor

namespace PullStreams.Json
open Reader

def readWord : List Char → Reader Unit
  | [] => return
  | c :: rest => do
    match ← next with
    | none => failHere .endInValue
    | some b => if b = ascii c then readWord rest else failHere .wrongWord

def hexDigitByte? (b : UInt8) : Option Nat :=
  if isDigitByte b then some (b.toNat - 0x30)
  else if 0x61 ≤ b && b ≤ 0x66 then some (b.toNat - 0x61 + 10)
  else if 0x41 ≤ b && b ≤ 0x46 then some (b.toNat - 0x41 + 10)
  else none

/-- Four hex digits; where fewer bytes are left, all of them are consumed. -/
def readHex : Reader Nat := do
  match (← get).rest with
  | a :: b :: c :: d :: rest =>
    modify fun cur => { cur with rest, consumed := cur.consumed + 4 }
    match hexDigitByte? a, hexDigitByte? b, hexDigitByte? c, hexDigitByte? d with
    | some a, some b, some c, some d => return ((a * 16 + b) * 16 + c) * 16 + d
    | _, _, _, _ => failHere .badEscape
  | rest =>
    modify fun cur => { cur with rest := [], consumed := cur.consumed + rest.length }
    failHere .endInString

def expectByte (b : UInt8) (p : Problem) : Reader Unit := do
  match ← next with
  | none => failHere .endInString
  | some x => if x = b then return else failHere p

/-- A code point by its hex digits; those beyond 16 bits take a pair of escapes. -/
def readCodePoint : Reader Char := do
  let n ← readHex
  if 0xDC00 ≤ n ∧ n ≤ 0xDFFF then failHere .loneSurrogate
  if n < 0xD800 ∨ 0xDBFF < n then return Char.ofNat n
  expectByte (ascii '\\') .cutSurrogate
  expectByte (ascii 'u') .cutSurrogate
  let low ← readHex
  if low < 0xDC00 ∨ 0xDFFF < low then failHere .loneSurrogate
  return Char.ofNat (0x10000 + (n - 0xD800) * 0x400 + (low - 0xDC00))

def simpleEscapes : List (Char × Char) :=
  [('"', '"'), ('\\', '\\'), ('/', '/'), ('b', '\x08'), ('f', '\x0c'), ('n', '\n'), ('r', '\r'),
    ('t', '\t')]

def simpleEscape? (b : UInt8) : Option Char :=
  (simpleEscapes.find? fun e => ascii e.1 = b).map (·.2)

def readEscape : Reader Bytes := do
  match ← next with
  | none => failHere .endInString
  | some b =>
    match simpleEscape? b with
    | some c => return Utf8.bytesOf (.singleton c)
    | none =>
      if b = ascii 'u' then return Utf8.bytesOf (.singleton (← readCodePoint))
      else failHere .badEscape

def isPlainByte (b : UInt8) : Bool := b ≠ ascii '"' && b ≠ ascii '\\' && 0x20 ≤ b

/-- The bytes of a string, its first quote consumed. Each round consumes a byte, so the number of
bytes that are left bounds the rounds. The pieces read so far stand with the last first. -/
def readString : Reader Bytes := do
  go (← rounds) []
where
  go : Nat → List Bytes → Reader Bytes
    | 0, _ => failHere .endInString
    | rounds + 1, pieces => do
      let pieces := (← Reader.takeWhile isPlainByte) :: pieces
      match ← next with
      | none => failHere .endInString
      | some b =>
        if b = ascii '"' then return pieces.reverse.flatten
        else if b = ascii '\\' then go rounds ((← readEscape) :: pieces)
        else failHere .controlCharacter

def readText : Reader String := do
  match Utf8.decode (← readString) with
  | .ok s => return s
  | .error _ => failHere .badEscape

end PullStreams.Json
