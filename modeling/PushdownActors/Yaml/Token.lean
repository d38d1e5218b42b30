-- SUMMARY: The tokens of a YAML text, and the reading of names, tags and directives.
import PushdownActors.Yaml
import PushdownActors.Yaml.Scalar

/-!
# Tokens

Indentation shows in the tokens as the start and the end of block collections.
Keys are marked where they begin. A tag is a suffix behind a handle, which
stands for a text that a directive may set.
-/

namespace PushdownActors.Yaml

/-- A token. -/
inductive Token where
  | version (major minor : Nat)
  /-- What a handle stands for from here on. -/
  | handle (name text : String)
  | documentStart
  | documentEnd
  | sequenceStart
  | mappingStart
  /-- The end of a sequence or mapping that is shown by indentation. -/
  | blockEnd
  | sequenceOpen
  | sequenceClose
  | mappingOpen
  | mappingClose
  /-- A dash. -/
  | item
  | comma
  | key
  | value
  | alias (name : String)
  | anchor (name : String)
  | tag (handle suffix : String)
  | scalar (style : Style) (text : String)
  deriving DecidableEq, Repr, Inhabited

/-! ## Names -/

/-- The name of an anchor, and what follows it. -/
def anchorName? (cs : List Char) : Option (String × List Char) :=
  let name := cs.takeWhile isWordChar
  let rest := cs.dropWhile isWordChar
  let follows : List Char := ['?', ':', ',', ']', '}', '%', '@', Char.ofNat 96]
  if !name.isEmpty && (endsWord rest || rest.head?.any follows.contains) then
    some (.ofList name, rest)
  else none

/-! ## Tags -/

/-- Characters of tags. A tag between angles may hold some more. -/
def isTagChar (angled : Bool) (c : Char) : Bool :=
  isWordChar c || ";/?:@&=+$.!~*'()".toList.contains c
    || (angled && (c == ',' || c == '[' || c == ']'))

/-- The part of a character's number that the first of its octets holds, and how
many octets follow. -/
def leadingOctet? (octet : Nat) : Option (Nat × Nat) :=
  if octet < 128 then some (0, octet)
  else if octet / 32 == 6 then some (1, octet % 32)
  else if octet / 16 == 14 then some (2, octet % 16)
  else if octet / 8 == 30 then some (3, octet % 8)
  else none

/-- The characters of a tag, and what follows them. A percent sign stands before each
octet of a character that is written by its octets; `pending` of them are still to
come for the character whose number begins with `high`. -/
def tagText? (angled : Bool) : (pending high : Nat) → List Char → Option (List Char × List Char)
  | pending + 1, high, '%' :: a :: b :: rest => do
    let octet ← Radix.number? 16 [a, b]
    guard (octet / 64 == 2)
    let n := high * 64 + octet % 64
    let (text, rest) ← tagText? angled pending n rest
    return (if pending == 0 then Char.ofNat n :: text else text, rest)
  | _ + 1, _, _ => none
  | 0, _, [] => some ([], [])
  | 0, _, '%' :: a :: b :: rest => do
    let (pending, n) ← (Radix.number? 16 [a, b]).bind leadingOctet?
    let (text, rest) ← tagText? angled pending n rest
    return (if pending == 0 then Char.ofNat n :: text else text, rest)
  | 0, _, c :: rest =>
    if c == '%' then none
    else if isTagChar angled c then
      (tagText? angled 0 0 rest).map fun (text, rest) => (c :: text, rest)
    else some ([], c :: rest)

/-- The characters of a tag, of which there is at least one. -/
def someTagText? (angled : Bool) (cs : List Char) : Option (List Char × List Char) :=
  (tagText? angled 0 0 cs).filter fun (text, _) => !text.isEmpty

/-- The handle and the suffix of a tag behind its exclamation mark, and what follows.
A tag between angles has no handle, and neither has the mark on its own. -/
def tagParts? : List Char → Option ((String × String) × List Char)
  | '<' :: rest => do
    let (text, rest) ← someTagText? true rest
    match rest with
    | '>' :: rest => return (("", .ofList text), rest)
    | _ => none
  | cs =>
    let word := cs.takeWhile isWordChar
    match cs.dropWhile isWordChar with
    | '!' :: rest => do
      let (text, rest) ← someTagText? false rest
      return ((.ofList ('!' :: word ++ ['!']), .ofList text), rest)
    | rest => do
      let (text, rest) ← tagText? false 0 0 rest
      let suffix := word ++ text
      return (if suffix.isEmpty then ("", "!") else ("!", .ofList suffix), rest)

/-- A tag behind its exclamation mark, and what follows. -/
def tag? (bracketed : Bool) (cs : List Char) : Option (Token × List Char) := do
  let ((handle, suffix), rest) ← tagParts? cs
  guard (endsWord rest || (bracketed && rest.head? == some ','))
  return (.tag handle suffix, rest)

/-! ## Directives -/

/-- A number of at most nine digits, and what follows. -/
def versionNumber? (cs : List Char) : Option (Nat × List Char) :=
  let digits := cs.takeWhile Char.isDigit
  if 9 < digits.length then none
  else (Radix.number? 10 digits).map fun n => (n, cs.dropWhile Char.isDigit)

/-- The version that a directive names. -/
def version? (cs : List Char) : Option (Token × List Char) := do
  let (major, rest) ← versionNumber? (skipBlanks cs)
  match rest with
  | '.' :: rest => do
    let (minor, rest) ← versionNumber? rest
    return (.version major minor, rest)
  | _ => none

/-- The handle that a directive names, and the text that it stands for. -/
def handle? (cs : List Char) : Option (Token × List Char) := do
  match skipBlanks cs with
  | '!' :: cs => do
    let word := cs.takeWhile isWordChar
    let (name, rest) ←
      match word, cs.dropWhile isWordChar with
      | word, '!' :: rest => some ('!' :: word ++ ['!'], rest)
      | [], rest => some (['!'], rest)
      | _, _ => none
    guard (rest.head?.any isBlank)
    let (text, rest) ← someTagText? true (skipBlanks rest)
    guard (endsWord rest)
    return (.handle (.ofList name) (.ofList text), rest)
  | _ => none

/-- A directive behind its percent sign, and the lines below it. -/
def directive? (cs : List Char) : Option (Token × List Char) := do
  let name := cs.takeWhile isWordChar
  let rest := cs.dropWhile isWordChar
  guard (endsWord rest)
  let (token, rest) ←
    if name = "YAML".toList then version? rest
    else if name = "TAG".toList then handle? rest
    else none
  return (token, (← skipComment? rest).drop 1)

end PushdownActors.Yaml
