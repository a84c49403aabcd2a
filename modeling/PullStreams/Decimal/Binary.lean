namespace PullStreams.Decimal

/-- `mantissa · 2 ^ exponent`. -/
structure Binary where
  mantissa : Nat
  exponent : Int
  deriving DecidableEq, Repr

structure Ratio where
  num : Nat
  den : Nat

namespace Ratio

def scale (base : Nat) (e : Int) (r : Ratio) : Ratio :=
  if 0 ≤ e then { r with num := r.num * Nat.pow base e.toNat }
  else { r with den := r.den * Nat.pow base (-e).toNat }

def le (a b : Ratio) : Bool := a.num * b.den ≤ b.num * a.den

def lt (a b : Ratio) : Bool := a.num * b.den < b.num * a.den

def mul (a b : Ratio) : Ratio := ⟨a.num * b.num, a.den * b.den⟩

def div (a b : Ratio) : Ratio := ⟨a.num * b.den, a.den * b.num⟩

def roundEven (r : Ratio) : Nat :=
  let q := r.num / r.den
  let twice := 2 * (r.num % r.den)
  if twice > r.den ∨ twice = r.den ∧ q % 2 = 1 then q + 1 else q

end Ratio

namespace Binary

def leastExponent : Int := -1074

def greatestExponent : Int := 971

def nearest? (r : Ratio) : Option Binary :=
  let guess : Int := (Nat.log2 r.num : Int) - Nat.log2 r.den - 53
  let fits (e : Int) : Bool := (r.scale 2 (-e)).roundEven < 1 <<< 53
  let e := max leastExponent (if fits guess then guess else if fits (guess + 1) then guess + 1
    else guess + 2)
  if e ≤ greatestExponent then some ⟨(r.scale 2 (-e)).roundEven, e⟩ else none

def ratio (b : Binary) : Ratio := Ratio.scale 2 b.exponent ⟨b.mantissa, 1⟩

def zero : Binary := ⟨0, 0⟩

def ofNat? (n : Nat) : Option Binary := nearest? ⟨n, 1⟩

def largestPower : Nat := 308

def powerOfTen (n : Nat) : Binary := (ofNat? (Nat.pow 10 n)).getD zero

def mul? (a b : Binary) : Option Binary := nearest? (a.ratio.mul b.ratio)

def div? (a b : Binary) : Option Binary := nearest? (a.ratio.div b.ratio)

/-- Multiplied by `10 ^ e` in steps, each of which rounds: powers beyond the largest take several.
`none` if the result is too large. -/
def timesPower? (b : Binary) (e : Int) : Option Binary :=
  if b.mantissa = 0 then some b
  else if 0 ≤ e then if e ≤ largestPower then b.mul? (powerOfTen e.toNat) else none
  else if -e ≤ largestPower then b.div? (powerOfTen (-e).toNat)
  else (b.div? (powerOfTen largestPower)).bind (·.timesPower? (e + largestPower))
termination_by (-e).toNat
decreasing_by
  simp only [largestPower] at *
  omega

/-- The fractions that are read as `b`: the ends of the interval, which belong to it if the mantissa
is even. -/
def interval (b : Binary) : Ratio × Ratio :=
  let low := if b.mantissa = 1 <<< 52 ∧ b.exponent > leastExponent then 4 * b.mantissa - 1
    else 4 * b.mantissa - 2
  (Ratio.scale 2 (b.exponent - 2) ⟨low, 1⟩,
    Ratio.scale 2 (b.exponent - 2) ⟨4 * b.mantissa + 2, 1⟩)

def reads (b : Binary) (r : Ratio) : Bool :=
  let (low, high) := b.interval
  if b.mantissa % 2 = 0 then low.le r && r.le high else low.lt r && r.lt high

/-- The exponent of the first decimal digit: `10 ^ e ≤ r < 10 ^ (e + 1)`. -/
def firstDigit (r : Ratio) : Int :=
  let guess : Int := ((Nat.log2 r.num : Int) - Nat.log2 r.den) * 30103 / 100000
  let fits (e : Int) : Bool :=
    (Ratio.scale 10 e ⟨1, 1⟩).le r && r.lt (Ratio.scale 10 (e + 1) ⟨1, 1⟩)
  ([guess - 1, guess, guess + 1, guess + 2].find? fits).getD guess

/-- The fewest digits that read back, and the power of ten of the last; of two, the nearer. -/
def shortest (b : Binary) : Nat × Int :=
  let r := b.ratio
  let first := firstDigit r
  let tries := (List.range 17).filterMap fun (n : Nat) =>
    let grid : Int := first - n
    let scaled := r.scale 10 (-grid)
    let near := scaled.roundEven
    let other := if near * scaled.den ≤ scaled.num then near + 1 else near - 1
    ([near, other].find? fun d => b.reads (Ratio.scale 10 grid ⟨d, 1⟩)).map fun d => (d, grid)
  tries.headD (0, 0)

end Binary
end PullStreams.Decimal
