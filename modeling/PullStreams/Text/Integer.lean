namespace PullStreams.Text

structure IntegerRange where
  min : Int
  max : Int

namespace IntegerRange

def unsigned (bits : Nat) : IntegerRange := ⟨0, (1 <<< bits : Nat) - 1⟩

def signed (bits : Nat) : IntegerRange := ⟨-(1 <<< (bits - 1) : Nat), (1 <<< (bits - 1) : Nat) - 1⟩

def contains (r : IntegerRange) (n : Int) : Bool := r.min ≤ n && n ≤ r.max

end IntegerRange

inductive IntegerFault where
  | empty
  | invalidDigit
  | tooLarge
  | tooSmall
  deriving DecidableEq, Repr

def IntegerFault.message : IntegerFault → String
  | .empty => "cannot parse integer from empty string"
  | .invalidDigit => "invalid digit found in string"
  | .tooLarge => "number too large to fit in target type"
  | .tooSmall => "number too small to fit in target type"

def digit? (base : Nat) (c : Char) : Option Nat :=
  let d :=
    if '0' ≤ c ∧ c ≤ '9' then c.toNat - '0'.toNat
    else if 'a' ≤ c ∧ c ≤ 'z' then c.toNat - 'a'.toNat + 10
    else if 'A' ≤ c ∧ c ≤ 'Z' then c.toNat - 'A'.toNat + 10
    else base
  if d < base then some d else none

/-- The value may not leave the range after any digit, so a fault is that of the first digit at
which one shows. -/
def readDigits (range : IntegerRange) (base : Nat) (negative : Bool) (value : Int) :
    List Char → Except IntegerFault Int
  | [] => .ok value
  | c :: rest =>
    match digit? base c with
    | none => .error .invalidDigit
    | some d =>
      let value := if negative then value * base - d else value * base + d
      if range.contains value then readDigits range base negative value rest
      else .error (if negative then .tooSmall else .tooLarge)

/-- One sign may stand before the digits, a minus only where the range goes below zero. -/
def readInteger (range : IntegerRange) (base : Nat) (text : String) : Except IntegerFault Int :=
  match text.toList with
  | [] => .error .empty
  | ['+'] | ['-'] => .error .invalidDigit
  | '+' :: rest => readDigits range base false 0 rest
  | '-' :: rest =>
    if range.min < 0 then readDigits range base true 0 rest else .error .invalidDigit
  | rest => readDigits range base false 0 rest

end PullStreams.Text
