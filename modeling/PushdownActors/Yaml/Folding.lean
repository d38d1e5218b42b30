-- SUMMARY: The folding of lines within a scalar.
import PushdownActors.Yaml.Character

/-!
# Folding

A scalar may run over several lines. Blanks around a line break are dropped and
the break becomes a space; if empty lines follow, their breaks stand in its
place. Blanks within a line stay as they are.
-/

namespace PushdownActors.Yaml

/-- A part of a scalar as it is written. -/
inductive Piece where
  | text (c : Char)
  | blank (c : Char)
  | lineBreak (c : Char)
  /-- A line break that joins two lines without a space. -/
  | joint
  deriving DecidableEq, Repr

namespace Piece

def ofChar (c : Char) : Piece :=
  if isBreak c then .lineBreak c else if isBlank c then .blank c else .text c

end Piece

/-- What was read behind the last text: blanks, or a line break with those of the
empty lines that follow it. -/
inductive Gap where
  | blanks (cs : List Char)
  | breaks (first : Option Char) (more : List Char)
  deriving DecidableEq, Repr

namespace Gap

/-- What a gap between two texts becomes. -/
def text : Gap → List Char
  | blanks cs => cs
  | breaks (some c) more =>
    if c == '\n' then (if more.isEmpty then [' '] else more) else c :: more
  | breaks none more => more

end Gap

/-- The text that pieces behind a gap make up. -/
def folded : Gap → List Piece → List Char
  | gap, [] => gap.text
  | gap, .text c :: rest => gap.text ++ c :: folded (.blanks []) rest
  | .blanks cs, .blank c :: rest => folded (.blanks (cs ++ [c])) rest
  | .blanks _, .lineBreak c :: rest => folded (.breaks (some c) []) rest
  | .breaks first more, .blank _ :: rest => folded (.breaks first more) rest
  | .breaks first more, .lineBreak c :: rest => folded (.breaks first (more ++ [c])) rest
  | gap, .joint :: rest => gap.text ++ folded (.breaks none []) rest

/-- The text that pieces make up. -/
def foldedText (pieces : List Piece) : String := .ofList (folded (.blanks []) pieces)

end PushdownActors.Yaml
