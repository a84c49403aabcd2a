import PullStreams.Decimal.Notation

namespace PullStreams.Decimal

inductive Numeral where
  | finite (isNegative : Bool) (magnitude : Binary)
  | infinite (isNegative : Bool)
  | notANumber
  deriving DecidableEq, Repr

namespace Numeral

def digitsValue (ds : List Char) : Nat := ds.foldl (fun n c => 10 * n + (c.toNat - '0'.toNat)) 0

def exponent? : List Char → Option Int
  | [] => some 0
  | c :: rest =>
    if c ≠ 'e' && c ≠ 'E' then none
    else
      let (isNegative, ds) :=
        match rest with
        | '-' :: ds => (true, ds)
        | '+' :: ds => (false, ds)
        | ds => (false, ds)
      if ds.isEmpty || !ds.all Char.isDigit then none
      else some (if isNegative then -digitsValue ds else digitsValue ds)

/-- The number nearest to `digits · 10 ^ exponent`; infinite if that is too large. -/
def ofParts (isNegative : Bool) (ds : List Char) (exponent : Int) : Numeral :=
  let digits := digitsValue ds
  let size : Int := exponent + ds.length
  if digits = 0 || size < -400 then .finite isNegative .zero
  else if 400 < exponent then .infinite isNegative
  else
    match Binary.nearest? (Ratio.scale 10 exponent ⟨digits, 1⟩) with
    | some b => .finite isNegative b
    | none => .infinite isNegative

def lower (cs : List Char) : String := .ofList (cs.map Char.toLower)

def ofUnsigned? (isNegative : Bool) (cs : List Char) : Option Numeral :=
  if lower cs = "inf" || lower cs = "infinity" then some (.infinite isNegative)
  else if lower cs = "nan" then some .notANumber
  else
    let whole := cs.takeWhile Char.isDigit
    let rest := cs.dropWhile Char.isDigit
    let (fraction, rest) :=
      match rest with
      | '.' :: rest => (rest.takeWhile Char.isDigit, rest.dropWhile Char.isDigit)
      | rest => ([], rest)
    let ds := (whole ++ fraction).dropWhile (· = '0')
    if whole.isEmpty && fraction.isEmpty then none
    else (exponent? rest).map fun e => ofParts isNegative ds (e - fraction.length)

def ofText? (text : String) : Option Numeral :=
  match text.toList with
  | '-' :: cs => ofUnsigned? true cs
  | '+' :: cs => ofUnsigned? false cs
  | cs => ofUnsigned? false cs

/-- Finite numbers without an exponent. -/
def text : Numeral → String
  | .finite isNegative b => Layout.long.text isNegative b
  | .infinite isNegative => if isNegative then "-inf" else "inf"
  | .notANumber => "NaN"

end Numeral
end PullStreams.Decimal
