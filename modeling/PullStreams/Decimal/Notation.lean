import PullStreams.Decimal.Binary

namespace PullStreams.Decimal

def trimZeros : Nat → Nat × Int → Nat × Int
  | 0, n => n
  | fuel + 1, (d, e) => if d ≠ 0 ∧ d % 10 = 0 then trimZeros fuel (d / 10, e + 1) else (d, e)

/-- The digits `ds`, the last of which counts `10 ^ grid`, with at least one after the point. -/
def positional (ds : List Char) (grid : Int) : List Char :=
  let first : Int := grid + ds.length - 1
  if 0 ≤ grid then ds ++ List.replicate grid.toNat '0' ++ ['.', '0']
  else if 0 ≤ first then ds.take (first.toNat + 1) ++ ['.'] ++ ds.drop (first.toNat + 1)
  else ['0', '.'] ++ List.replicate (-first - 1).toNat '0' ++ ds

def scientific (ds : List Char) (grid : Int) : List Char :=
  let first : Int := grid + ds.length - 1
  ds.take 1 ++ (if ds.length = 1 then [] else '.' :: ds.drop 1) ++
    ['e', if first < 0 then '-' else '+'] ++ Nat.toDigits 10 first.natAbs

/-- Numbers whose first digit counts `10 ^ least` to `10 ^ greatest` have no exponent. -/
structure Layout where
  least : Int
  greatest : Int

namespace Layout

/-- The layout of numbers in JSON texts. -/
def short : Layout := ⟨-5, 15⟩

def long : Layout := ⟨-400, 400⟩

def text (l : Layout) (isNegative : Bool) (b : Binary) : String :=
  let body :=
    if b.mantissa = 0 then ['0', '.', '0']
    else
      let (digits, grid) := trimZeros 20 b.shortest
      let ds := Nat.toDigits 10 digits
      let first : Int := grid + ds.length - 1
      if l.least ≤ first ∧ first ≤ l.greatest then positional ds grid else scientific ds grid
  .ofList (if isNegative then '-' :: body else body)

end Layout
end PullStreams.Decimal
