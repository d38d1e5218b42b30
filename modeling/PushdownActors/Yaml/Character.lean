-- SUMMARY: The characters of a YAML text: blanks, line breaks and document markers, and positions among them.

/-!
# Characters

A text consists of printable characters, tabs and line breaks. Before anything
else is read the ways to end a line become one, but for the two separators that
stand for themselves. A position is a line and a column within it.
-/

namespace PushdownActors.Yaml

/-! ## Classes -/

/-- A character that a text may contain. -/
def isAdmitted (c : Char) : Bool :=
  let n := c.toNat
  n == 0x09 || n == 0x0A || n == 0x0D || (0x20 ≤ n && n ≤ 0x7E) || n == 0x85
    || (0xA0 ≤ n && n ≤ 0xD7FF) || (0xE000 ≤ n && n ≤ 0xFFFD) || 0x10000 ≤ n

def nextLine : Char := Char.ofNat 0x85

def lineSeparator : Char := Char.ofNat 0x2028

def paragraphSeparator : Char := Char.ofNat 0x2029

def byteOrderMark : Char := Char.ofNat 0xFEFF

def isBlank (c : Char) : Bool := c == ' ' || c == '\t'

def isBreak (c : Char) : Bool := c == '\n' || c == lineSeparator || c == paragraphSeparator

/-- Characters of names and handles. -/
def isWordChar (c : Char) : Bool := c.isAlphanum || c == '_' || c == '-'

/-- Characters that structure what stands between brackets. -/
def isBracket (c : Char) : Bool :=
  c == ',' || c == '[' || c == ']' || c == '{' || c == '}'

/-- Every line ends in a line feed, unless a separator ends it. -/
def unifyBreaks : List Char → List Char
  | [] => []
  | '\r' :: '\n' :: rest => '\n' :: unifyBreaks rest
  | c :: rest => (if c == '\r' || c == nextLine then '\n' else c) :: unifyBreaks rest

/-! ## What comes next -/

def skipBlanks (cs : List Char) : List Char := cs.dropWhile isBlank

/-- The line ends here. -/
def endsLine : List Char → Bool
  | [] => true
  | c :: _ => isBreak c

/-- A blank comes next, or the line ends here. -/
def endsWord : List Char → Bool
  | [] => true
  | c :: _ => isBlank c || isBreak c

/-- What is left when the rest of the line is dropped. -/
def skipLine (cs : List Char) : List Char := cs.dropWhile fun c => !isBreak c

/-- The end of the line, with nothing before it but blanks and a comment. -/
def skipComment? (cs : List Char) : Option (List Char) :=
  let rest := skipBlanks cs
  let rest := if rest.head? == some '#' then skipLine rest else rest
  if endsLine rest then some rest else none

/-- A line that begins or ends a document, seen from its first column. -/
def isMarker : List Char → Bool
  | '-' :: '-' :: '-' :: rest => endsWord rest
  | '.' :: '.' :: '.' :: rest => endsWord rest
  | _ => false

/-! ## Positions -/

/-- A position in a text. -/
structure Mark where
  line : Nat
  column : Nat
  deriving DecidableEq, Repr, Inhabited

namespace Mark

/-- The position behind one character. -/
def next (m : Mark) (c : Char) : Mark :=
  if isBreak c then { line := m.line + 1, column := 0 } else { m with column := m.column + 1 }

/-- The position behind several characters. -/
def after (m : Mark) (cs : List Char) : Mark := cs.foldl next m

end Mark

end PushdownActors.Yaml
