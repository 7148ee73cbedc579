/-!
The shortest decimal text of a floating point number.

A finite number stands for all reals that are nearer to it than to its neighbours. Among the
decimals in that interval the one with the fewest digits is taken: the grids of multiples of a
power of ten are tried from coarse to fine, and the first grid that has a point in the interval has
one next to the number. Of two such points the nearer is taken, and of two equally near ones the
greater.
-/

namespace ClusterInfra.Text

/-- A positive number `mantissa * 2 ^ exponent`, as a double holds it. -/
structure Binary where
  mantissa : Nat
  exponent : Int
  /-- Whether the neighbour below is only half as far away as the one above. -/
  isPower : Bool
  deriving DecidableEq, Repr

/-- A number `digits * 10 ^ exponent`. -/
structure Decimal where
  digits : Nat
  exponent : Int
  deriving DecidableEq, Repr

namespace Binary

/-- The number that the exponent and fraction fields of a double stand for. -/
def ofFields (exponent fraction : Nat) : Binary :=
  if exponent = 0 then ⟨fraction, -1074, false⟩
  else ⟨Nat.pow 2 52 + fraction, (exponent : Int) - 1075, fraction = 0 && 1 < exponent⟩

/-- The factor that brings the grid of a power of ten and the quarters of a number to whole numbers:
of the quarters, and of the grid. -/
def scale (x : Binary) (grid : Int) : Nat × Nat :=
  let quarter := x.exponent - 2
  (Nat.pow 2 quarter.toNat * Nat.pow 10 (-grid).toNat,
    Nat.pow 2 (-quarter).toNat * Nat.pow 10 grid.toNat)

/-- Whether a multiple of a power of ten reads back as the number: it lies between the midpoints to
the neighbours, or on one of them if the mantissa is even. -/
def readsBack (x : Binary) (decimal : Decimal) : Bool :=
  let (quarter, step) := x.scale decimal.exponent
  let low := (4 * x.mantissa - (if x.isPower then 1 else 2)) * quarter
  let high := (4 * x.mantissa + 2) * quarter
  let point := decimal.digits * step
  if x.mantissa % 2 = 0 then low ≤ point && point ≤ high else low < point && point < high

/-- The points of a grid next to the number: the one at or below it, and the one above it. -/
def nextTo (x : Binary) (grid : Int) : Decimal × Decimal :=
  let (quarter, step) := x.scale grid
  let below := 4 * x.mantissa * quarter / step
  (⟨below, grid⟩, ⟨below + 1, grid⟩)

/-- Whether the number is nearer to the point below it than to the one above it. -/
def isNearerBelow (x : Binary) (below : Decimal) : Bool :=
  let (quarter, step) := x.scale below.exponent
  8 * x.mantissa * quarter < (2 * below.digits + 1) * step

/-- The point of a grid that reads back as the number and is nearest to it. -/
def onGrid? (x : Binary) (grid : Int) : Option Decimal :=
  let (below, above) := x.nextTo grid
  match x.readsBack below, x.readsBack above with
  | true, true => some (if x.isNearerBelow below then below else above)
  | true, false => some below
  | false, true => some above
  | false, false => none

/-- The first grid that has such a point, from a power of ten downwards. -/
def search (x : Binary) : (fuel : Nat) → (grid : Int) → Option Decimal
  | 0, _ => none
  | fuel + 1, grid => (x.onGrid? grid).or (search x fuel (grid - 1))

/-- The exact decimal: a double has at most 1074 digits after the point. -/
def exact (x : Binary) : Decimal :=
  let (quarter, step) := x.scale (-1076)
  ⟨4 * x.mantissa * quarter / step, -1076⟩

/-- The shortest decimal that reads back. Doubles lie below `10 ^ 309`, and grids finer than
`10 ^ (-343)` are not needed. -/
def shortest (x : Binary) : Decimal := (x.search 653 309).getD x.exact

end Binary

namespace Decimal

/-- A decimal in positional notation, without an exponent and without zeros that say nothing. -/
def text (decimal : Decimal) : String :=
  let digits := (toString decimal.digits).toList
  let places := (-decimal.exponent).toNat
  if places = 0 then
    String.ofList (digits ++ List.replicate decimal.exponent.toNat '0')
  else
    let padded := List.replicate (places + 1 - digits.length) '0' ++ digits
    let whole := padded.length - places
    String.ofList (padded.take whole ++ '.' :: padded.drop whole)

end Decimal

/-- The text of a floating point number: the shortest decimal that reads back, positional. -/
def floatText (x : Float) : String :=
  let bits := x.toBits.toNat
  let exponent := bits / Nat.pow 2 52 % Nat.pow 2 11
  let fraction := bits % Nat.pow 2 52
  let sign := if bits / Nat.pow 2 63 = 0 then "" else "-"
  if exponent = 2047 then (if fraction = 0 then sign ++ "inf" else "NaN")
  else if exponent = 0 && fraction = 0 then sign ++ "0"
  else sign ++ (Binary.ofFields exponent fraction).shortest.text

end ClusterInfra.Text
