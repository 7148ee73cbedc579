/-!
Reading UTF-8 that may be damaged.

Bytes are read one after the other. A byte that cannot go on with a character ends it: what was
there of the character is replaced by one replacement character, and the byte is read anew.
-/

namespace ClusterInfra.Text.Utf8

/-- What stands for bytes that are no character. -/
def replacement : Char := '\ufffd'

/-- Where a reader of bytes is. -/
inductive State
  /-- Between characters. -/
  | idle
  /-- Inside a character: its bits so far, how many bytes are missing, the bounds of the next. -/
  | inside (bits missing low high : Nat)
  deriving DecidableEq, Repr

/-- Reads a byte between characters. -/
def start (byte : Nat) : List Char × State :=
  if byte < 0x80 then ([Char.ofNat byte], .idle)
  else if 0xC2 ≤ byte ∧ byte ≤ 0xDF then ([], .inside (byte - 0xC0) 1 0x80 0xBF)
  else if byte = 0xE0 then ([], .inside 0 2 0xA0 0xBF)
  else if byte = 0xED then ([], .inside 0xD 2 0x80 0x9F)
  else if 0xE1 ≤ byte ∧ byte ≤ 0xEF then ([], .inside (byte - 0xE0) 2 0x80 0xBF)
  else if byte = 0xF0 then ([], .inside 0 3 0x90 0xBF)
  else if byte = 0xF4 then ([], .inside 4 3 0x80 0x8F)
  else if 0xF1 ≤ byte ∧ byte ≤ 0xF3 then ([], .inside (byte - 0xF0) 3 0x80 0xBF)
  else ([replacement], .idle)

/-- Reads a byte: the characters that it completes, and the state after it. -/
def step : State → Nat → List Char × State
  | .idle, byte => start byte
  | .inside bits missing low high, byte =>
    if low ≤ byte ∧ byte ≤ high then
      let bits := bits * 64 + byte % 64
      if missing ≤ 1 then ([Char.ofNat bits], .idle) else ([], .inside bits (missing - 1) 0x80 0xBF)
    else
      let (chars, state) := start byte
      (replacement :: chars, state)

/-- Reads bytes from a state on; a character that is not finished at the end is replaced too. -/
def readFrom : State → List UInt8 → List Char
  | .idle, [] => []
  | .inside .., [] => [replacement]
  | state, byte :: rest =>
    let (chars, state) := step state byte.toNat
    chars ++ readFrom state rest

/-- The text of bytes. -/
def read (bytes : List UInt8) : String := String.ofList (readFrom .idle bytes)

end ClusterInfra.Text.Utf8
