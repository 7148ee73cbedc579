import ClusterInfra.Json.Basic
import ClusterInfra.Text.Digit
/-!
Reading JSON text.

The reader is strict: blanks are space, tab and line ends only, numbers have no leading zeros,
strings hold no control characters, surrogate escapes come in pairs, and containers nest at most
127 deep. A whole number that fits 64 bits is an `int`; every other number is a `decimal` with the
shortest mantissa, and one beyond the range of a double is refused. The members of an object are
kept as written, repeated ones included.
-/

namespace ClusterInfra.Json

open Text (decimalValue digit?)

/-- Why a text is not a JSON document. -/
inductive ParseError.Cause
  | endInList
  | endInObject
  | endInString
  | endInValue
  | expectedColon
  | expectedCommaOrBracket
  | expectedCommaOrBrace
  | expectedIdent
  | expectedValue
  | invalidEscape
  | invalidNumber
  | numberOutOfRange
  | controlCharacter
  | keyMustBeString
  | loneSurrogate
  | trailingComma
  | trailingCharacters
  | tooDeep
  deriving DecidableEq, Repr

/-- The wording of a cause. -/
def ParseError.Cause.text : ParseError.Cause → String
  | .endInList => "EOF while parsing a list"
  | .endInObject => "EOF while parsing an object"
  | .endInString => "EOF while parsing a string"
  | .endInValue => "EOF while parsing a value"
  | .expectedColon => "expected `:`"
  | .expectedCommaOrBracket => "expected `,` or `]`"
  | .expectedCommaOrBrace => "expected `,` or `\x7d`"
  | .expectedIdent => "expected ident"
  | .expectedValue => "expected value"
  | .invalidEscape => "invalid escape"
  | .invalidNumber => "invalid number"
  | .numberOutOfRange => "number out of range"
  | .controlCharacter => "control character (\\u0000-\\u001F) found while parsing a string"
  | .keyMustBeString => "key must be a string"
  | .loneSurrogate => "lone leading surrogate in hex escape"
  | .trailingComma => "trailing comma"
  | .trailingCharacters => "trailing characters"
  | .tooDeep => "recursion limit exceeded"

/-- A refused text: the cause, and the line and byte column at which it shows. -/
structure ParseError where
  cause : ParseError.Cause
  line : Nat
  column : Nat
  deriving DecidableEq, Repr

/-- The wording of a refusal. -/
def ParseError.message (error : ParseError) : String :=
  error.cause.text ++ " at line " ++ toString error.line ++ " column " ++ toString error.column

/-- A cause together with the characters that were still to be read. A reader of a part returns
a fault, or the part and the characters after it. -/
abbrev Fault := ParseError.Cause × List Char

/-- Space, tab, line feed or carriage return. -/
def isBlank (c : Char) : Bool :=
  c = ' ' || c = '\t' || c = '\n' || c = '\r'

/-- The characters after leading blanks. -/
def skipBlanks (cs : List Char) : List Char :=
  cs.dropWhile isBlank

/-- Reads the rest of a word such as `null`. -/
def word (value : Json) : (letters : List Char) → List Char → Except Fault (Json × List Char)
  | [], cs => .ok (value, cs)
  | _ :: _, [] => .error (.endInValue, [])
  | l :: ls, c :: cs => if l = c then word value ls cs else .error (.expectedIdent, c :: cs)

/-! ### Strings -/

/-- The number that four hexadecimal digits write. -/
def hexUnit? (a b c d : Char) : Option Nat := do
  let digits ← [a, b, c, d].mapM (digit? 16)
  return digits.foldl (fun n digit => n * 16 + digit) 0

/-- A character of a string body, or a code unit given by a `\u` escape. -/
inductive Piece
  | char (c : Char)
  | unit (value : Nat)

/-- The character that a one-letter escape stands for. -/
def escaped? : Char → Option Char
  | '"' => some '"'
  | '\\' => some '\\'
  | '/' => some '/'
  | 'b' => some '\x08'
  | 'f' => some '\x0c'
  | 'n' => some '\n'
  | 'r' => some '\r'
  | 't' => some '\t'
  | _ => none

/-- Reads a string body up to its closing quote into pieces. -/
def pieces : List Char → Except Fault (List Piece × List Char)
  | [] => .error (.endInString, [])
  | '"' :: rest => .ok ([], rest)
  | '\\' :: 'u' :: a :: b :: c :: d :: rest =>
    match hexUnit? a b c d with
    | none => .error (.invalidEscape, a :: b :: c :: d :: rest)
    | some n => do
      let (more, rest) ← pieces rest
      return (.unit n :: more, rest)
  | ['\\'] => .error (.endInString, [])
  | '\\' :: c :: rest =>
    match escaped? c with
    | none => .error (if c = 'u' then .endInString else .invalidEscape, c :: rest)
    | some e => do
      let (more, rest) ← pieces rest
      return (.char e :: more, rest)
  | c :: rest =>
    if c.toNat < 32 then .error (.controlCharacter, c :: rest)
    else do
      let (more, rest) ← pieces rest
      return (.char c :: more, rest)

/-- Whether a code unit is the first of a surrogate pair. -/
def isHighSurrogate (n : Nat) : Bool := 0xD800 ≤ n && n < 0xDC00

/-- Whether a code unit is the second of a surrogate pair. -/
def isLowSurrogate (n : Nat) : Bool := 0xDC00 ≤ n && n < 0xE000

/-- Joins surrogate pairs; nothing if a surrogate stands alone. -/
def join? : List Piece → Option (List Char)
  | [] => some []
  | .char c :: rest => (join? rest).map (c :: ·)
  | .unit h :: .unit l :: rest =>
    if isHighSurrogate h && isLowSurrogate l then
      (join? rest).map (Char.ofNat (0x10000 + (h - 0xD800) * 0x400 + (l - 0xDC00)) :: ·)
    else if isHighSurrogate h || isLowSurrogate h then none
    else (join? (.unit l :: rest)).map (Char.ofNat h :: ·)
  | .unit n :: rest =>
    if isHighSurrogate n || isLowSurrogate n then none
    else (join? rest).map (Char.ofNat n :: ·)

/-- Reads a string after its opening quote. -/
def string (cs : List Char) : Except Fault (String × List Char) := do
  let (parts, rest) ← pieces cs
  match join? parts with
  | some chars => .ok (String.ofList chars, rest)
  | none => .error (.loneSurrogate, rest)

/-! ### Numbers -/

/-- Splits leading digits off. -/
def spanDigits (cs : List Char) : List Char × List Char :=
  (cs.takeWhile Char.isDigit, cs.dropWhile Char.isDigit)

/-- Moves trailing zeros of a mantissa into the exponent. -/
def shorten : (fuel mantissa : Nat) → (exponent : Int) → Nat × Int
  | 0, m, e => (m, e)
  | fuel + 1, m, e => if m ≠ 0 ∧ m % 10 = 0 then shorten fuel (m / 10) (e + 1) else (m, e)

/-- The decimal with the shortest mantissa; zero has the exponent zero. -/
def decimalOf (negative : Bool) (digits : List Char) (exponent : Int) : Json :=
  let (m, e) := shorten digits.length (decimalValue digits) exponent
  .decimal (if negative then -(m : Int) else m) (if m = 0 then 0 else e)

/-- The least number that rounds to no double: the greatest one and half a unit. -/
def doubleBound : Nat := Nat.pow 2 1024 - Nat.pow 2 970

/-- Whether `m * 10 ^ e`, with a mantissa of so many digits, rounds to a double. -/
def inDoubleRange (length m : Nat) (e : Int) : Bool :=
  if m = 0 then true
  else if e ≤ 0 then length + e ≤ 309 || m < doubleBound * Nat.pow 10 e.natAbs
  else length + e ≤ 400 && m * Nat.pow 10 e.toNat < doubleBound

/-- Whether a whole number fits a signed or an unsigned 64-bit word. -/
def fitsWord (n : Int) : Bool := -Int.pow 2 63 ≤ n && n < Int.pow 2 64

/-- The number with these digits before and after the point. -/
def numberOf (negative : Bool) (whole : List Char) (fraction exponent : Option (List Char × Int))
    (rest : List Char) : Except Fault (Json × List Char) :=
  let value : Int := if negative then -(decimalValue whole : Int) else decimalValue whole
  if fraction.isNone && exponent.isNone && fitsWord value && !(negative && value = 0) then
    .ok (.int value, rest)
  else
    let digits := whole ++ (fraction.map (·.1)).getD []
    let scale : Int := (exponent.map (·.2)).getD 0 - (fraction.map (·.1.length)).getD 0
    let significant := digits.dropWhile (· = '0')
    if inDoubleRange significant.length (decimalValue digits) scale then
      .ok (decimalOf negative digits scale, rest)
    else .error (.numberOutOfRange, rest)

/-- Reads the digits after a decimal point, if there is one. -/
def fractionPart : List Char → Except Fault (Option (List Char × Int) × List Char)
  | '.' :: cs =>
    match spanDigits cs with
    | ([], rest) => .error (if rest.isEmpty then .endInValue else .invalidNumber, rest)
    | (digits, rest) => .ok (some (digits, 0), rest)
  | cs => .ok (none, cs)

/-- Reads an exponent, if there is one. -/
def exponentPart : List Char → Except Fault (Option (List Char × Int) × List Char)
  | c :: cs =>
    if c = 'e' || c = 'E' then
      let (negative, cs) := match cs with
        | '-' :: cs => (true, cs)
        | '+' :: cs => (false, cs)
        | cs => (false, cs)
      match spanDigits cs with
      | ([], rest) => .error (if rest.isEmpty then .endInValue else .invalidNumber, rest)
      | (digits, rest) =>
        let size : Int := decimalValue digits
        .ok (some (digits, if negative then -size else size), rest)
    else .ok (none, c :: cs)
  | [] => .ok (none, [])

/-- Reads a number after its sign. -/
def number (negative : Bool) (cs : List Char) : Except Fault (Json × List Char) := do
  let (whole, rest) := spanDigits cs
  match whole with
  | [] => .error (if rest.isEmpty then .endInValue else .invalidNumber, rest)
  | '0' :: _ :: _ => .error (.invalidNumber, cs.drop 1)
  | _ =>
    let (fraction, rest) ← fractionPart rest
    let (exponent, rest) ← exponentPart rest
    numberOf negative whole fraction exponent rest

/-! ### Documents -/

mutual

/-- Reads a document; `depth` containers may still be opened. -/
def document : (fuel depth : Nat) → List Char → Except Fault (Json × List Char)
  | 0, _, cs => .error (.tooDeep, cs)
  | fuel + 1, depth, cs =>
    match skipBlanks cs with
    | [] => .error (.endInValue, [])
    | 'n' :: rest => word .null ['u', 'l', 'l'] rest
    | 't' :: rest => word (.bool true) ['r', 'u', 'e'] rest
    | 'f' :: rest => word (.bool false) ['a', 'l', 's', 'e'] rest
    | '"' :: rest => do
      let (text, rest) ← string rest
      return (.str text, rest)
    | '[' :: rest =>
      if depth ≤ 1 then .error (.tooDeep, rest)
      else match skipBlanks rest with
        | ']' :: rest => .ok (.arr [], rest)
        | rest => do
          let (items, rest) ← itemList fuel (depth - 1) rest
          return (.arr items, rest)
    | '\x7b' :: rest =>
      if depth ≤ 1 then .error (.tooDeep, rest)
      else match skipBlanks rest with
        | '\x7d' :: rest => .ok (.obj [], rest)
        | rest => do
          let (members, rest) ← memberList fuel (depth - 1) rest
          return (.obj members, rest)
    | '-' :: rest => number true rest
    | c :: rest =>
      if c.isDigit then number false (c :: rest) else .error (.expectedValue, c :: rest)

/-- Reads the items of a list that is not empty, and its closing bracket. -/
def itemList : (fuel depth : Nat) → List Char → Except Fault (List Json × List Char)
  | 0, _, cs => .error (.tooDeep, cs)
  | fuel + 1, depth, cs => do
    if (skipBlanks cs).isEmpty then .error (.endInList, [])
    else
      let (item, rest) ← document fuel depth cs
      match skipBlanks rest with
      | [] => .error (.endInList, [])
      | ']' :: rest => return ([item], rest)
      | ',' :: rest =>
        match skipBlanks rest with
        | ']' :: _ => .error (.trailingComma, rest)
        | _ =>
          let (items, rest) ← itemList fuel depth rest
          return (item :: items, rest)
      | rest => .error (.expectedCommaOrBracket, rest)

/-- Reads the members of an object that is not empty, and its closing brace. -/
def memberList : (fuel depth : Nat) → List Char → Except Fault (List (String × Json) × List Char)
  | 0, _, cs => .error (.tooDeep, cs)
  | fuel + 1, depth, cs => do
    match skipBlanks cs with
    | [] => .error (.endInObject, [])
    | '"' :: rest =>
      let (name, rest) ← string rest
      match skipBlanks rest with
      | [] => .error (.endInObject, [])
      | ':' :: rest =>
        let (value, rest) ← document fuel depth rest
        match skipBlanks rest with
        | [] => .error (.endInObject, [])
        | '\x7d' :: rest => return ([(name, value)], rest)
        | ',' :: rest =>
          match skipBlanks rest with
          | '\x7d' :: _ => .error (.trailingComma, rest)
          | _ =>
            let (members, rest) ← memberList fuel depth rest
            return ((name, value) :: members, rest)
        | rest => .error (.expectedCommaOrBrace, rest)
      | rest => .error (.expectedColon, rest)
    | rest => .error (.keyMustBeString, rest)

end

/-- Containers nest less deep than this. -/
def nestingLimit : Nat := 128

/-- The line and byte column that are reached after reading some characters. -/
def position (read : List Char) : Nat × Nat :=
  read.foldl (fun (line, column) c =>
    if c = '\n' then (line + 1, 0) else (line, column + c.utf8Size)) (1, 0)

/-- A fault placed in its text: at the end, or on the first character that was not read. -/
def locate (cs : List Char) : Fault → ParseError
  | (cause, rest) =>
    let read := cs.length - rest.length
    let (line, column) := position (cs.take (if rest.isEmpty then read else read + 1))
    ⟨cause, line, column⟩

/-- Reads a text that holds one document and nothing else. -/
def parse (text : String) : Except ParseError Json :=
  let cs := text.toList
  match document (cs.length + 1) nestingLimit cs with
  | .error fault => .error (locate cs fault)
  | .ok (value, rest) =>
    match skipBlanks rest with
    | [] => .ok value
    | rest => .error (locate cs (.trailingCharacters, rest))

end ClusterInfra.Json
