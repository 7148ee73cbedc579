import ClusterInfra.Text.Digit
/-!
Whole numbers in decimal notation.

`Numeral.read` takes an optional plus sign and decimal digits, and refuses what does not fit below
a bound. The characters are judged from left to right, so the first one that is wrong, or that
takes the number past the bound, decides the refusal.
-/

namespace ClusterInfra.Text

/-- Why a text is not a number below a bound. -/
inductive NumeralError
  | empty
  | invalidDigit
  | tooLarge
  deriving DecidableEq, Repr

/-- The wording of a refusal. -/
def NumeralError.message : NumeralError → String
  | .empty => "cannot parse integer from empty string"
  | .invalidDigit => "invalid digit found in string"
  | .tooLarge => "number too large to fit in target type"

namespace Numeral

/-- Reads digits after a number that has been read so far. -/
def readDigits (bound : Nat) : (read : Nat) → List Char → Except NumeralError Nat
  | read, [] => .ok read
  | read, c :: rest =>
    match digit? 10 c with
    | none => .error .invalidDigit
    | some d =>
      if read * 10 + d < bound then readDigits bound (read * 10 + d) rest else .error .tooLarge

/-- Reads a number below a bound. -/
def read (bound : Nat) (text : String) : Except NumeralError Nat :=
  match text.toList with
  | [] => .error .empty
  | ['+'] => .error .invalidDigit
  | '+' :: rest => readDigits bound 0 rest
  | digits => readDigits bound 0 digits

end Numeral

end ClusterInfra.Text
