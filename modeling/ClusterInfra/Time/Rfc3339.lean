import ClusterInfra.Text.Digit
import ClusterInfra.Text.Scan
import ClusterInfra.Time.Instant
/-!
The text form of instants.

An instant is written in UTC with a `Z`, and with as few fractional digits of 0, 3, 6 and 9 as lose
nothing. Reading is more liberal: numbers may be shorter than written and stand after white space,
date and time may be set apart by a `T` or a blank, more than nine fractional digits are cut, and
the offset may be `Z`, `UTC` or hours and minutes.
-/

namespace ClusterInfra.Rfc3339

open Text (Scan decimalValue)
open Text.Scan (blanks next)

/-! ### Writing -/

/-- The last decimal digit of a number. -/
def lastDigit (n : Nat) : Char := Char.ofNat ('0'.toNat + n % 10)

/-- The last decimal digits of a number, so many of them. -/
def fixedDigits : (width : Nat) → Nat → List Char
  | 0, _ => []
  | width + 1, n => fixedDigits width (n / 10) ++ [lastDigit n]

/-- A year has four digits, and a sign where that is not enough. -/
def yearText (year : Int) : List Char :=
  let size := year.natAbs
  let width := if size < 10000 then 4 else if size < 100000 then 5 else 6
  let sign := if year < 0 then ['-'] else if 9999 < year then ['+'] else []
  sign ++ fixedDigits width size

/-- A fraction of a second has 0, 3, 6 or 9 digits. -/
def fractionText (nano : Nat) : List Char :=
  if nano = 0 then []
  else if nano % 1000000 = 0 then '.' :: fixedDigits 3 (nano / 1000000)
  else if nano % 1000 = 0 then '.' :: fixedDigits 6 (nano / 1000)
  else '.' :: fixedDigits 9 nano

/-- The characters of an instant. -/
def chars (t : Instant) : List Char :=
  yearText t.date.year ++ '-' :: fixedDigits 2 t.date.month ++ '-' :: fixedDigits 2 t.date.day
    ++ 'T' :: fixedDigits 2 t.hour ++ ':' :: fixedDigits 2 t.minute
    ++ ':' :: fixedDigits 2 t.second ++ fractionText t.nano ++ ['Z']

/-- The text of an instant. -/
def write (t : Instant) : String := String.ofList (chars t)

/-! ### Reading -/

/-- Reads digits: all that follow, or the first `width` of them, but at least one. -/
def digits (width? : Option Nat) : Scan (List Char) := fun cs =>
  let found := (width?.elim cs cs.take).takeWhile Char.isDigit
  if found.isEmpty then none else some (found, cs.drop found.length)

/-- Reads a number of at most so many digits, after white space. -/
def number (width : Nat) : Scan Nat := do
  blanks
  return decimalValue (← digits (some width))

/-- Reads a year, after white space: at most four digits, or any number of them after a sign. -/
def year : Scan Int := do
  blanks
  match (← get).head? with
  | some '-' => do
    let _ ← next fun _ => true
    return -(decimalValue (← digits none) : Int)
  | some '+' => do
    let _ ← next fun _ => true
    return decimalValue (← digits none)
  | _ => return decimalValue (← digits (some 4))

/-- Reads a separator, after white space. -/
def separator (c : Char) : Scan Unit := do
  blanks
  let _ ← next (· = c)

/-- Reads a fraction of a second, if there is one, as nanoseconds. -/
def fraction : Scan Nat := do
  match (← get).head? with
  | some '.' => do
    let _ ← next fun _ => true
    let found ← digits none
    return decimalValue ((found ++ List.replicate 9 '0').take 9)
  | _ => return 0

/-- Reads two digits, of which the first is at most `tens`. -/
def twoDigits (tens : Char) : Scan Nat := do
  let a ← next fun c => c.isDigit && c ≤ tens
  let b ← next Char.isDigit
  return decimalValue [a, b]

/-- Reads an offset from UTC as the minutes by which the time is ahead; it is less than a day. -/
def offset : Scan Int := do
  let cs ← get
  if (cs.take 3).map Char.toUpper = ['U', 'T', 'C'] then
    set (cs.drop 3)
    return 0
  let sign ← next fun c => c = 'Z' || c = 'z' || c = '+' || c = '-' || c = '−'
  if sign = 'Z' || sign = 'z' then return 0
  let hours ← twoDigits '9'
  set ((← get).dropWhile fun c => c = ':' || Text.isBlank c)
  let minutes ← twoDigits '5'
  let ahead : Int := hours * 60 + minutes
  if ahead < 1440 then return if sign = '+' then ahead else -ahead else failure

/-- Reads an instant and moves it to UTC. -/
def instant : Scan Instant := do
  let y ← year
  separator '-'
  let m ← number 2
  separator '-'
  let d ← number 2
  let _ ← next fun c => c = 'T' || c = 't' || c = ' '
  let hour ← number 2
  separator ':'
  let minute ← number 2
  separator ':'
  let second ← number 2
  let nano ← fraction
  blanks
  let ahead ← offset
  blanks
  let date ← liftM (Date.of? y m d)
  let t ← liftM (Instant.of? date hour minute second nano)
  liftM (t.toUtc? ahead)

/-- Reads a text that holds one instant and nothing else. -/
def read? (text : String) : Option Instant := instant.all? text

end ClusterInfra.Rfc3339
