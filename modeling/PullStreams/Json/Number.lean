import PullStreams.Json.Cursor
import PullStreams.Decimal.Notation
import PullStreams.Text.Integer

namespace PullStreams.Json
open Reader

inductive Number where
  | integer (n : Int)
  /-- A number that is no integer, or too large for one. -/
  | float (isNegative : Bool) (magnitude : Decimal.Binary)

/-- What a number is called where another type is wanted. -/
def Number.title : Number → String
  | .integer n => s!"integer \x60{n}\x60"
  | .float isNegative b => s!"floating point \x60{Decimal.Layout.short.text isNegative b}\x60"

def digitValue (d : UInt8) : Nat := d.toNat - 0x30

/-- Takes up digits behind the number `n` while it stays below `limit`, and gives those left over.
-/
def takeDigits (limit : Nat) (n : Nat) : Bytes → Nat × Bytes
  | [] => (n, [])
  | d :: ds =>
    let next := 10 * n + digitValue d
    if next < limit then takeDigits limit next ds else (n, d :: ds)

structure Parts where
  significand : Nat
  exponent : Int

namespace Parts

def limit : Nat := 0x10000000000000000

/-- The digits before a point. One that does not fit any more is dropped like those after it, and
each counts as a factor of ten. -/
def ofWhole (ds : Bytes) : Parts :=
  let (n, left) := takeDigits limit 0 ds
  ⟨n, left.length⟩

def addFraction (p : Parts) (ds : Bytes) : Parts :=
  let (n, left) := takeDigits limit p.significand ds
  ⟨n, p.exponent - (ds.length - left.length)⟩

end Parts

def readFraction : Reader Bytes := do
  let ds ← Reader.takeWhile isDigitByte
  if ds.isEmpty then
    match ← peek with
    | none => failNext .endInValue
    | some _ => failNext .badNumber
  return ds

def exponentLimit : Nat := 0x80000000

/-- The exponent after its letter, which has been consumed; `none` if it is beyond the limit, and
the number is zero for that. Reading stops at the digit that makes a number too large. -/
def readExponent (isZero : Bool) : Reader (Option Int) := do
  let sign ← peek
  let isNegative := sign = some (ascii '-')
  if isNegative || sign = some (ascii '+') then skip
  match ← next with
  | none => failHere .endInValue
  | some d =>
    if !isDigitByte d then failHere .badNumber
    let ds := (← get).rest.takeWhile isDigitByte
    let (e, left) := takeDigits exponentLimit (digitValue d) ds
    if left.isEmpty || isZero || isNegative then
      let _ ← Reader.takeWhile isDigitByte
      return if !left.isEmpty then none else if isNegative then some (-e) else some e
    else
      let count := ds.length - left.length + 1
      modify fun c => { c with rest := c.rest.drop count, consumed := c.consumed + count }
      failHere .hugeNumber

def isExponentMark (b : Option UInt8) : Bool := b = some (ascii 'e') || b = some (ascii 'E')

/-- The digits before a point. Only a zero that stands alone comes first. -/
def readWhole : Reader Bytes := do
  match ← next with
  | none => failHere .endInValue
  | some d =>
    if d = ascii '0' then
      if (← peek).any isDigitByte then failNext .badNumber
      return [d]
    else if isDigitByte d then return d :: (← Reader.takeWhile isDigitByte)
    else failHere .badNumber

def floatOfParts (isNegative : Bool) (p : Parts) (exponent : Int) : Reader Number :=
  let magnitude :=
    (Decimal.Binary.ofNat? p.significand).bind (·.timesPower? (p.exponent + exponent))
  match magnitude with
  | some b => return .float isNegative b
  | none => failHere .hugeNumber

/-- A number, its minus sign consumed if it had one. Integers go from `-2 ^ 63` to below `2 ^ 64`;
the negative zero is none of them. -/
def readNumber (isNegative : Bool) : Reader Number := do
  let whole := Parts.ofWhole (← readWhole)
  let hasPoint := (← peek) = some (ascii '.')
  let parts ← if hasPoint then skip; pure (whole.addFraction (← readFraction)) else pure whole
  if isExponentMark (← peek) then
    skip
    match ← readExponent (parts.significand = 0) with
    | some e => floatOfParts isNegative parts e
    | none => return .float isNegative .zero
  else if hasPoint || whole.exponent ≠ 0 then floatOfParts isNegative parts 0
  else
    let n := whole.significand
    if !isNegative then return .integer n
    else if 0 < n ∧ n ≤ Parts.limit / 2 then return .integer (-n)
    else floatOfParts isNegative parts 0

end PullStreams.Json
