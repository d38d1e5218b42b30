-- SUMMARY: The scalars of a YAML text: plain, quoted, and in blocks of lines.
import PushdownActors.Text.Radix
import PushdownActors.Yaml.Folding

/-!
# Scalars

A plain scalar ends where a comment begins, at a colon with a blank behind it,
and between brackets also at a comma or a bracket. It runs on over lines that are
indented far enough. A quoted scalar ends at its closing quote. A block scalar
consists of the lines below it that are indented further; its header says how far,
and what becomes of the line breaks at its end.
-/

namespace PushdownActors.Yaml

/-! ## Plain scalars -/

/-- Characters with a meaning of their own at the beginning of a node. -/
def indicators : List Char :=
  ['-', '?', ':', ',', '[', ']', '{', '}', '#', '&', '*', '!', '|', '>', '\'', '"', '%', '@',
    Char.ofNat 96]

/-- A plain scalar may begin here. A dash, and outside of brackets also a question
mark or a colon, may begin one unless a blank follows. -/
def beginsPlain (bracketed : Bool) : List Char → Bool
  | [] => false
  | c :: rest =>
    if c == '-' then !(rest.head?.any isBlank)
    else if c == '?' || c == ':' then !bracketed && !endsWord rest
    else !indicators.contains c && !isBlank c && !isBreak c

/-- Splits a line at the end of a plain scalar. Between brackets a colon must not
stand before a comma, a question mark or a bracket. -/
def spanPlain? (bracketed : Bool) : List Char → Option (List Char × List Char)
  | [] => some ([], [])
  | c :: rest =>
    if isBreak c || (c == ':' && endsWord rest) || (bracketed && isBracket c)
      || (isBlank c && rest.head? == some '#') then some ([], c :: rest)
    else if bracketed && c == ':' && rest.head?.any (fun d => isBracket d || d == '?') then none
    else (spanPlain? bracketed rest).map fun (text, rest) => (c :: text, rest)

/-- There is a tab before the given column of a line. -/
def tabBefore (margin : Nat) : (column : Nat) → List Char → Bool
  | _, [] => false
  | column, c :: rest =>
    if isBreak c then tabBefore margin 0 rest
    else (c == '\t' && column < margin) || tabBefore margin (column + 1) rest

/-- The column behind line breaks and blanks. -/
def columnAfter (gap : List Char) : Nat := (gap.reverse.takeWhile isBlank).length

/-- A plain scalar as it is written, what follows it, and whether lines have ended
behind it. The lines on which it goes on begin at `margin` or further. -/
def plain? (bracketed : Bool) (margin : Nat) :
    (lines : Nat) → List Char → Option (List Char × List Char × Bool)
  | 0, _ => none
  | lines + 1, cs => do
    let (text, rest) ← spanPlain? bracketed cs
    if rest.isEmpty || !endsLine rest then return (text, rest, false)
    else
      let isGap := fun c => isBlank c || isBreak c
      let gap := rest.takeWhile isGap
      let next := rest.dropWhile isGap
      let column := columnAfter gap
      guard (!tabBefore margin 0 gap)
      if (!bracketed && column < margin) || (column == 0 && isMarker next)
        || next.head? == some '#' then return (text, next, true)
      else if (← spanPlain? bracketed next).1.isEmpty then return (text, next, true)
      else
        let (more, rest, ended) ← plain? bracketed margin lines next
        return (text ++ gap ++ more, rest, ended)

/-- The text of a plain scalar as it is written. -/
def plainText (cs : List Char) : String :=
  foldedText ((cs.reverse.dropWhile isBlank).reverse.map .ofChar)

/-! ## Quoted scalars -/

/-- The pieces up to the closing single quote, which is written twice where it is
meant itself, and what follows. No line may begin or end a document. -/
def singleQuoted? : List Char → Option (List Piece × List Char)
  | [] => none
  | '\'' :: '\'' :: rest =>
    (singleQuoted? rest).map fun (pieces, rest) => (.text '\'' :: pieces, rest)
  | '\'' :: rest => some ([], rest)
  | c :: rest =>
    if isBreak c && isMarker rest then none
    else (singleQuoted? rest).map fun (pieces, rest) => (.ofChar c :: pieces, rest)

/-- What a backslash with one character behind it stands for. -/
def escape? : Char → Option Char
  | '0' => some (Char.ofNat 0)
  | 'a' => some (Char.ofNat 7)
  | 'b' => some (Char.ofNat 8)
  | 't' | '\t' => some '\t'
  | 'n' => some '\n'
  | 'v' => some (Char.ofNat 11)
  | 'f' => some (Char.ofNat 12)
  | 'r' => some '\r'
  | 'e' => some (Char.ofNat 27)
  | ' ' => some ' '
  | '"' => some '"'
  | '/' => some '/'
  | '\\' => some '\\'
  | 'N' => some nextLine
  | '_' => some (Char.ofNat 0xA0)
  | 'L' => some lineSeparator
  | 'P' => some paragraphSeparator
  | _ => none

/-- The character with the given hexadecimal number. -/
def coded? (cs : List Char) : Option Char :=
  ((Radix.number? 16 cs).filter fun n => n.isValidChar).map Char.ofNat

/-- The pieces up to the closing double quote, and what follows. No line may begin
or end a document. -/
def doubleQuoted? : List Char → Option (List Piece × List Char)
  | [] => none
  | '"' :: rest => some ([], rest)
  | '\\' :: 'x' :: a :: b :: rest => do
    let c ← coded? [a, b]
    let (pieces, rest) ← doubleQuoted? rest
    return (.text c :: pieces, rest)
  | '\\' :: 'u' :: a :: b :: c :: d :: rest => do
    let c ← coded? [a, b, c, d]
    let (pieces, rest) ← doubleQuoted? rest
    return (.text c :: pieces, rest)
  | '\\' :: 'U' :: a :: b :: c :: d :: e :: f :: g :: h :: rest => do
    let c ← coded? [a, b, c, d, e, f, g, h]
    let (pieces, rest) ← doubleQuoted? rest
    return (.text c :: pieces, rest)
  | '\\' :: c :: rest =>
    if isBreak c then
      if isMarker rest then none
      else (doubleQuoted? rest).map fun (pieces, rest) => (.joint :: pieces, rest)
    else do
      let c ← escape? c
      let (pieces, rest) ← doubleQuoted? rest
      return (.text c :: pieces, rest)
  | c :: rest =>
    if isBreak c && isMarker rest then none
    else (doubleQuoted? rest).map fun (pieces, rest) => (.ofChar c :: pieces, rest)

/-! ## Block scalars -/

/-- What becomes of the line breaks at the end of a block scalar. -/
inductive Chomping where
  | strip
  | clip
  | keep
  deriving DecidableEq, Repr

/-- The header of a block scalar. -/
structure BlockHeader where
  chomping : Chomping := .clip
  /-- How much further than what surrounds it the scalar is indented, if it says. -/
  increment : Option Nat := none
  deriving DecidableEq, Repr

/-- Reads the chomping indicator, if there is one. -/
def BlockHeader.chomp : BlockHeader × List Char → BlockHeader × List Char
  | (h, '+' :: rest) => ({ h with chomping := .keep }, rest)
  | (h, '-' :: rest) => ({ h with chomping := .strip }, rest)
  | other => other

/-- Reads the indentation indicator, if there is one. It is not zero. -/
def BlockHeader.indent? : BlockHeader × List Char → Option (BlockHeader × List Char)
  | (_, '0' :: _) => none
  | (h, c :: rest) =>
    if c.isDigit then some ({ h with increment := some (c.toNat - '0'.toNat) }, rest)
    else some (h, c :: rest)
  | other => some other

/-- The header and the lines below it. The indicators may come in either order. -/
def BlockHeader.read? (cs : List Char) : Option (BlockHeader × List Char) := do
  let chompFirst := cs.head?.any fun c => c == '+' || c == '-'
  let (header, rest) ←
    if chompFirst then indent? (chomp ({}, cs)) else (indent? ({}, cs)).map chomp
  return (header, (← skipComment? rest).drop 1)

/-- The breaks of lines that hold nothing but spaces, the greatest and the last
column that spaces lead to, and the rest. Only `limit` spaces belong to the
indentation of a line, and no tab does. -/
def blockBreaks? (limit : Option Nat) :
    (column widest : Nat) → List Char → Option (List Char × Nat × Nat × List Char)
  | column, widest, [] => some ([], max widest column, column, [])
  | column, widest, c :: rest =>
    let indenting := limit.all (column < ·)
    if indenting && c == ' ' then blockBreaks? limit (column + 1) widest rest
    else if indenting && c == '\t' then none
    else if isBreak c then
      (blockBreaks? limit 0 (max widest column) rest).map
        fun (breaks, widest, column, rest) => (c :: breaks, widest, column, rest)
    else some ([], max widest column, column, c :: rest)

/-- A line of a block scalar, its break, and the breaks of empty lines below it. -/
structure BlockLine where
  text : List Char
  ending : List Char
  breaks : List Char
  deriving DecidableEq, Repr

namespace BlockLine

def beginsBlank (l : BlockLine) : Bool := l.text.head?.any isBlank

/-- What stands between two lines. The break between lines that begin with text is
folded where folding is asked for. -/
def between (folding : Bool) (l next : BlockLine) : List Char :=
  if folding && l.ending == ['\n'] && !l.beginsBlank && !next.beginsBlank then
    if l.breaks.isEmpty then [' '] else l.breaks
  else l.ending ++ l.breaks

/-- What is left of the breaks below the last line. -/
def chomped (chomping : Chomping) (l : BlockLine) : List Char :=
  match chomping with
  | .strip => []
  | .clip => l.ending
  | .keep => l.ending ++ l.breaks

/-- The text of lines. -/
def joined (folding : Bool) (chomping : Chomping) : List BlockLine → List Char
  | [] => []
  | [l] => l.text ++ l.chomped chomping
  | l :: next :: rest =>
    l.text ++ l.between folding next ++ joined folding chomping (next :: rest)

end BlockLine

/-- The lines of a block scalar from the column on that it is indented to, and what
follows them. -/
def blockLines? (indent : Nat) : (lines : Nat) → List Char → Option (List BlockLine × List Char)
  | 0, _ => none
  | _ + 1, [] => some ([], [])
  | lines + 1, cs => do
    let text := cs.takeWhile fun c => !isBreak c
    let rest := skipLine cs
    let (breaks, _, column, next) ← blockBreaks? (some indent) 0 0 (rest.drop 1)
    let line : BlockLine := { text, ending := rest.take 1, breaks }
    if column == indent then
      let (more, rest) ← blockLines? indent lines next
      return (line :: more, rest)
    else return ([line], next)

/-- The text of a block scalar behind its indicator, and what follows it; `outer` is
the indentation of what surrounds it. -/
def blockScalar? (folding : Bool) (outer : Option Nat) (cs : List Char) :
    Option (String × List Char) := do
  let (header, rest) ← BlockHeader.read? cs
  let limit := header.increment.map fun n => outer.getD 0 + n
  let (lead, widest, column, rest) ← blockBreaks? limit 0 0 rest
  let margin := (outer.map (· + 1)).getD 0
  let indent := limit.getD (max 1 (max widest margin))
  let (lines, rest) ←
    if column == indent then blockLines? indent (rest.length + 1) rest else some ([], rest)
  let text :=
    if lines.isEmpty then (if header.chomping == .keep then lead else [])
    else lead ++ BlockLine.joined folding header.chomping lines
  return (.ofList text, rest)

end PushdownActors.Yaml
