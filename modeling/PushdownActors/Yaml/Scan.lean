-- SUMMARY: Splitting a YAML text into tokens, with indentation and keys made explicit.
import PushdownActors.Yaml.Token

/-!
# Scanning

Tokens are read one after the other. The columns of the block collections that are
open form a stack: a token further to the right opens a collection, and one
further to the left closes those that it is outside of. Whether a node is a key
shows only at the colon behind it, so the place of a node that may be one is
remembered, once for every bracket around it; a key that is not introduced by a
question mark ends on its line and is not too long.
-/

namespace PushdownActors.Yaml

/-- A place at which a key may have begun. -/
structure PossibleKey where
  /-- How many tokens there were before it. -/
  count : Nat
  mark : Mark
  /-- Nothing but a key may stand here. -/
  required : Bool
  deriving DecidableEq, Repr

/-- A key that began there may end here: on the same line, and not too far away. -/
def PossibleKey.reaches (k : PossibleKey) (m : Mark) : Bool :=
  k.mark.line == m.line && m.column ≤ k.mark.column + 1024

/-- A text that is read up to a position. -/
structure Scan where
  rest : List Char
  mark : Mark := ⟨0, 0⟩
  /-- The tokens so far, the latest first. -/
  tokens : List Token := []
  count : Nat := 0
  /-- The columns of the open block collections, the innermost first. -/
  indents : List Nat := []
  /-- A key may begin here. -/
  keyAllowed : Bool := true
  /-- Where a key may have begun, within the innermost bracket. -/
  key : Option PossibleKey := none
  /-- The same within each bracket further out. -/
  outer : List (Option PossibleKey) := []
  deriving Inhabited

namespace Scan

/-! ## Moving on -/

/-- We are between brackets. -/
def isBracketed (s : Scan) : Bool := !s.outer.isEmpty

/-- The column that what is inside of the innermost block collection begins at or
behind. -/
def margin (s : Scan) : Nat :=
  match s.indents with
  | [] => 0
  | column :: _ => column + 1

/-- Goes on to a later part of the text. -/
def moveTo (s : Scan) (rest : List Char) : Scan :=
  { s with rest, mark := s.mark.after (s.rest.take (s.rest.length - rest.length)) }

/-- Goes on by some characters. -/
def skip (s : Scan) (n : Nat) : Scan := s.moveTo (s.rest.drop n)

/-- Adds a token. -/
def push (s : Scan) (t : Token) : Scan :=
  { s with tokens := t :: s.tokens, count := s.count + 1 }

/-- Puts a token where there were `count` tokens before it. -/
def insert (s : Scan) (count : Nat) (t : Token) : Scan :=
  let later := s.count - count
  { s with
    tokens := s.tokens.take later ++ t :: s.tokens.drop later
    count := s.count + 1 }

/-- Passes over blanks, comments and line breaks. Tabs are no indentation: outside of
brackets none may stand where a key may begin. On a new line a key may begin. -/
def skipGap (bracketed : Bool) : (comment keyAllowed : Bool) → List Char → Bool × List Char
  | _, keyAllowed, [] => (keyAllowed, [])
  | comment, keyAllowed, c :: rest =>
    if isBreak c then skipGap bracketed false (keyAllowed || !bracketed) rest
    else if comment || c == ' ' || (c == '\t' && (bracketed || !keyAllowed)) then
      skipGap bracketed comment keyAllowed rest
    else if c == '#' then skipGap bracketed true keyAllowed rest
    else (keyAllowed, c :: rest)

/-- Goes on to the next token. -/
def toToken (s : Scan) : Scan :=
  let (keyAllowed, rest) := skipGap s.isBracketed false s.keyAllowed s.rest
  { s.moveTo rest with keyAllowed }

/-! ## Indentation -/

/-- Closes the innermost block collections while they are to the right of a column. -/
def closeWhile (s : Scan) (inside : Nat → Bool) : Scan :=
  let closed := s.indents.takeWhile inside
  { s with
    indents := s.indents.dropWhile inside
    tokens := closed.map (fun _ => Token.blockEnd) ++ s.tokens
    count := s.count + closed.length }

/-- Closes the block collections that a column is outside of. Between brackets
indentation does not count. -/
def closeTo (s : Scan) (column : Nat) : Scan :=
  if s.isBracketed then s else s.closeWhile (column < ·)

/-- Closes all block collections. -/
def closeAll (s : Scan) : Scan :=
  if s.isBracketed then s else s.closeWhile fun _ => true

/-- Opens a block collection at a column behind `count` tokens, unless it is open. -/
def openAt (s : Scan) (column count : Nat) (t : Token) : Scan :=
  if !s.isBracketed && s.margin ≤ column then
    { s.insert count t with indents := column :: s.indents }
  else s

/-! ## Keys -/

/-- Gives up the place of a possible key, which must not be one that is required. -/
def dropKey? (s : Scan) : Option Scan :=
  if s.key.any (·.required) then none else some { s with key := none }

/-- Remembers this place as one at which a key may begin, if it may. -/
def saveKey? (s : Scan) : Option Scan :=
  if s.keyAllowed then
    s.dropKey?.map fun s =>
      { s with
        key := some
          { count := s.count
            mark := s.mark
            required := !s.isBracketed && s.indents.head? == some s.mark.column } }
  else some s

/-! ## Tokens -/

/-- A directive, or a line that begins or ends a document. -/
def between? (s : Scan) (t : Token) (rest : List Char) : Option Scan := do
  let s ← s.closeAll.dropKey?
  return { (s.moveTo rest).push t with keyAllowed := false }

/-- An opening bracket. -/
def opened? (s : Scan) (t : Token) : Option Scan := do
  let s ← s.saveKey?
  return { (s.skip 1).push t with key := none, outer := s.key :: s.outer, keyAllowed := true }

/-- A closing bracket. -/
def closed? (s : Scan) (t : Token) : Option Scan := do
  let s ← s.dropKey?
  let s := { (s.skip 1).push t with keyAllowed := false }
  match s.outer with
  | key :: outer => return { s with key, outer }
  | [] => return s

/-- A comma. -/
def comma? (s : Scan) : Option Scan := do
  let s ← s.dropKey?
  return { (s.skip 1).push .comma with keyAllowed := true }

/-- A dash in front of an item. -/
def item? (s : Scan) : Option Scan := do
  guard (s.isBracketed || s.keyAllowed)
  let s ← (s.openAt s.mark.column s.count .sequenceStart).dropKey?
  return { (s.skip 1).push .item with keyAllowed := true }

/-- A question mark in front of a key. -/
def complexKey? (s : Scan) : Option Scan := do
  guard (s.isBracketed || s.keyAllowed)
  let s ← (s.openAt s.mark.column s.count .mappingStart).dropKey?
  return { (s.skip 1).push .key with keyAllowed := !s.isBracketed }

/-- A colon with no key before it on its line. -/
def bareValue? (s : Scan) : Option Scan := do
  guard (s.isBracketed || s.keyAllowed)
  let s := s.openAt s.mark.column s.count .mappingStart
  return { (s.skip 1).push .value with key := none, keyAllowed := !s.isBracketed }

/-- The colon behind a key. -/
def value? (s : Scan) : Option Scan :=
  match s.key with
  | some k =>
    if k.reaches s.mark then
      let s := (s.insert k.count .key).openAt k.mark.column k.count .mappingStart
      some { (s.skip 1).push .value with key := none, keyAllowed := false }
    else if k.required then none
    else s.bareValue?
  | none => s.bareValue?

/-- A token that may begin a key, and the text behind it. -/
def content? (s : Scan) (read : Option (Token × List Char)) : Option Scan := do
  let s ← s.saveKey?
  let (t, rest) ← read
  return { (s.moveTo rest).push t with keyAllowed := false }

/-- A scalar in quotes, from behind the opening one. -/
def quoted? (s : Scan) (read : Option (List Piece × List Char)) : Option Scan :=
  s.content? (read.map fun (pieces, rest) => (.scalar .quoted (foldedText pieces), rest))

/-- A plain scalar. A key may begin behind it if its line has ended. -/
def plain? (s : Scan) : Option Scan := do
  let s ← s.saveKey?
  let (text, rest, ended) ← Yaml.plain? s.isBracketed s.margin (s.rest.length + 1) s.rest
  return { (s.moveTo rest).push (.scalar .plain (plainText text)) with keyAllowed := ended }

/-- A block scalar. -/
def block? (s : Scan) (style : Style) : Option Scan := do
  let s ← s.dropKey?
  let (text, rest) ← blockScalar? (style == .folded) s.indents.head? (s.rest.drop 1)
  return { (s.moveTo rest).push (.scalar style text) with keyAllowed := true }

/-- Reads the token that begins with the next character. -/
def token? (s : Scan) : Option Scan :=
  match s.rest with
  | [] => none
  | c :: rest =>
    let bracketed := s.isBracketed
    if s.mark.column == 0 && c == '%' then
      (directive? rest).bind fun (t, rest) => s.between? t rest
    else if s.mark.column == 0 && isMarker s.rest then
      s.between? (if c == '-' then .documentStart else .documentEnd) (s.rest.drop 3)
    else if c == '[' then s.opened? .sequenceOpen
    else if c == '{' then s.opened? .mappingOpen
    else if c == ']' then s.closed? .sequenceClose
    else if c == '}' then s.closed? .mappingClose
    else if c == ',' then s.comma?
    else if c == '-' && endsWord rest then s.item?
    else if c == '?' && (bracketed || endsWord rest) then s.complexKey?
    else if c == ':' && (bracketed || endsWord rest) then s.value?
    else if c == '*' then
      s.content? ((anchorName? rest).map fun (name, rest) => (.alias name, rest))
    else if c == '&' then
      s.content? ((anchorName? rest).map fun (name, rest) => (.anchor name, rest))
    else if c == '!' then s.content? (tag? bracketed rest)
    else if c == '|' && !bracketed then s.block? .literal
    else if c == '>' && !bracketed then s.block? .folded
    else if c == '\'' then s.quoted? (singleQuoted? rest)
    else if c == '"' then s.quoted? (doubleQuoted? rest)
    else if beginsPlain bracketed s.rest then s.plain?
    else none

/-- The tokens up to the end of the text; `steps` bounds how many there are. -/
def tokens? : (steps : Nat) → Scan → Option (List Token)
  | 0, _ => none
  | steps + 1, s =>
    let s := s.toToken
    if s.rest.isEmpty then s.closeAll.dropKey?.map fun s => s.tokens.reverse
    else ((s.closeTo s.mark.column).token?).bind (tokens? steps)

end Scan

/-- A byte order mark before everything else takes a column of its own. -/
def Scan.ofText (cs : List Char) : Scan :=
  match cs with
  | c :: rest => if c == byteOrderMark then { rest, mark := ⟨0, 1⟩ } else { rest := c :: rest }
  | [] => { rest := [] }

/-- The tokens of a text. -/
def Token.ofText? (text : String) : Option (List Token) :=
  let cs := text.toList
  if cs.all isAdmitted then Scan.tokens? (cs.length + 1) (.ofText (unifyBreaks cs)) else none

end PushdownActors.Yaml
