import ClusterInfra.Text.Blank
/-!
Readers of texts, part by part.

A reader takes a part off the front of a text and leaves the rest, or finds that the part is not
there and leaves everything.
-/

namespace ClusterInfra.Text

/-- Reads a part of a text; `none` if the part is not there. -/
abbrev Scan (α : Type) := StateT (List Char) Option α

namespace Scan

/-- Skips white space. -/
def blanks : Scan Unit := fun cs => some ((), skipBlanks cs)

/-- Takes the next character, which has to satisfy a test. -/
def next (test : Char → Bool) : Scan Char
  | c :: rest => if test c then some (c, rest) else none
  | [] => none

/-- Takes a given character. -/
def char (c : Char) : Scan Unit := do
  let _ ← next (· = c)

/-- Reads a part if it is there. -/
def optional {α : Type} (scan : Scan α) : Scan (Option α) := fun cs =>
  match scan cs with
  | some (a, rest) => some (some a, rest)
  | none => some (none, cs)

/-- What a reader makes of a whole text, of which it may leave nothing. -/
def all? {α : Type} (scan : Scan α) (text : String) : Option α :=
  match scan text.toList with
  | some (a, []) => some a
  | _ => none

end Scan

end ClusterInfra.Text
