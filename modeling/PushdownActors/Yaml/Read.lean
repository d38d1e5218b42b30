-- SUMMARY: Reading a YAML document from its tokens.
import PushdownActors.Yaml.Scan

/-!
# Reading documents

A node is an alias, or an anchor and a tag, either of which may be missing, with a
scalar or a collection behind them. Keys, values and items that are left out are
nodes that stand for nothing. An alias names the latest anchor before it, which
may be that of a collection around it. A text holds at most one document.
-/

namespace PushdownActors.Yaml

/-- The tokens that are still to be read, and the anchors so far. -/
structure Reading where
  tokens : List Token
  /-- What the handles of tags stand for. -/
  handles : List (String × String) := []
  /-- The numbers of anchors by name, the latest first. -/
  names : List (String × Nat) := []
  /-- The nodes at anchors, by number. -/
  anchored : List (Nat × Node) := []
  deriving Inhabited

namespace Reading

def drop (r : Reading) (n : Nat) : Reading := { r with tokens := r.tokens.drop n }

/-- The next token is one of these. -/
def nextIs (r : Reading) (ts : List Token) : Bool :=
  match r.tokens with
  | t :: _ => ts.contains t
  | [] => false

/-! ## Properties -/

/-- What stands in front of a node: the name of its anchor, and its tag. -/
structure Properties where
  anchor : Option String := none
  tag : Option (String × String) := none
  deriving DecidableEq, Repr

/-- The properties of a node; anchor and tag may come in either order. -/
def properties (r : Reading) : Properties × Reading :=
  match r.tokens with
  | .anchor name :: .tag handle suffix :: rest
  | .tag handle suffix :: .anchor name :: rest =>
    ({ anchor := some name, tag := some (handle, suffix) }, { r with tokens := rest })
  | .anchor name :: rest => ({ anchor := some name }, { r with tokens := rest })
  | .tag handle suffix :: rest => ({ tag := some (handle, suffix) }, { r with tokens := rest })
  | _ => ({}, r)

/-- The tag that a handle and a suffix stand for. The handle has to be known. -/
def tag? (r : Reading) : Option (String × String) → Option (Option String)
  | none => some none
  | some ("", suffix) => some (some suffix)
  | some (handle, suffix) => (r.handles.lookup handle).map fun text => some (text ++ suffix)

/-- Gives the node that comes next the number of an anchor, if it has a name. -/
def define (r : Reading) (anchor : Option String) : Reading :=
  match anchor with
  | some name => { r with names := (name, r.names.length) :: r.names }
  | none => r

/-- Keeps the node at an anchor that was defined behind `number` others. -/
def keep (r : Reading) (anchor : Option String) (number : Nat) (n : Node) : Reading :=
  if anchor.isSome then { r with anchored := (number, n) :: r.anchored } else r

/-! ## Nodes -/

mutual

/-- A node and what follows it; `steps` bounds the steps taken. Between brackets
there is no block collection. Items without indentation of their own may only be
the key or the value of an entry. -/
def node? (block indentless : Bool) : (steps : Nat) → Reading → Option (Node × Reading)
  | 0, _ => none
  | steps + 1, r =>
    match r.tokens with
    | .alias name :: rest =>
      (r.names.lookup name).map fun number => (.alias number, { r with tokens := rest })
    | _ => do
      let (p, r) := r.properties
      let tag ← r.tag? p.tag
      let number := r.names.length
      let (n, r) ← content? block indentless steps p tag (r.define p.anchor)
      return (n, r.keep p.anchor number n)

/-- A scalar or a collection behind its properties. -/
def content? (block indentless : Bool) (steps : Nat) (p : Properties) (tag : Option String)
    (r : Reading) : Option (Node × Reading) :=
  match steps, r.tokens with
  | 0, _ => none
  | steps + 1, .item :: _ =>
    if indentless then
      (looseItems? steps r).map fun (items, r) => (.sequence items, r)
    else blank? p tag r
  | _ + 1, .scalar style text :: rest =>
    some (.scalar (tag.filter (· != "!")) style text, { r with tokens := rest })
  | steps + 1, .sequenceOpen :: rest =>
    (bracketItems? true steps { r with tokens := rest }).map
      fun (items, r) => (.sequence items, r)
  | steps + 1, .mappingOpen :: rest =>
    (bracketEntries? true steps { r with tokens := rest }).map
      fun (entries, r) => (.mapping entries, r)
  | steps + 1, .sequenceStart :: rest =>
    if block then
      (items? steps { r with tokens := rest }).map fun (items, r) => (.sequence items, r)
    else blank? p tag r
  | steps + 1, .mappingStart :: rest =>
    if block then
      (entries? steps { r with tokens := rest }).map fun (entries, r) => (.mapping entries, r)
    else blank? p tag r
  | _ + 1, _ => blank? p tag r

/-- A node that is left empty behind its properties, of which it has to have one. -/
def blank? (p : Properties) (tag : Option String) (r : Reading) : Option (Node × Reading) :=
  if p.anchor.isSome || p.tag.isSome then some (.scalar tag .plain "", r) else none

/-- A node, unless one of the given tokens comes next in its place. -/
def nodeUnless? (block indentless : Bool) (ends : List Token) (steps : Nat) (r : Reading) :
    Option (Node × Reading) :=
  match steps with
  | 0 => none
  | steps + 1 => if r.nextIs ends then some (.blank, r) else node? block indentless steps r

/-- The value behind a key; without a colon it is left out. -/
def valueUnless? (block indentless : Bool) (ends : List Token) (steps : Nat) (r : Reading) :
    Option (Node × Reading) :=
  match steps with
  | 0 => none
  | steps + 1 =>
    if r.nextIs [.value] then nodeUnless? block indentless ends steps (r.drop 1)
    else some (.blank, r)

/-- The items of an indented sequence. -/
def items? : (steps : Nat) → Reading → Option (List Node × Reading)
  | 0, _ => none
  | steps + 1, r =>
    match r.tokens with
    | .item :: rest => do
      let (item, r) ← nodeUnless? true false [.item, .blockEnd] steps { r with tokens := rest }
      let (items, r) ← items? steps r
      return (item :: items, r)
    | .blockEnd :: rest => some ([], { r with tokens := rest })
    | _ => none

/-- The items of a sequence that is no further to the right than the mapping that it
is part of. -/
def looseItems? : (steps : Nat) → Reading → Option (List Node × Reading)
  | 0, _ => none
  | steps + 1, r =>
    match r.tokens with
    | .item :: rest => do
      let (item, r) ←
        nodeUnless? true false [.item, .key, .value, .blockEnd] steps { r with tokens := rest }
      let (items, r) ← looseItems? steps r
      return (item :: items, r)
    | _ => some ([], r)

/-- The entries of an indented mapping. -/
def entries? : (steps : Nat) → Reading → Option (List (Node × Node) × Reading)
  | 0, _ => none
  | steps + 1, r =>
    match r.tokens with
    | .key :: rest => do
      let ends : List Token := [.key, .value, .blockEnd]
      let (k, r) ← nodeUnless? true true ends steps { r with tokens := rest }
      let (v, r) ← valueUnless? true true ends steps r
      let (entries, r) ← entries? steps r
      return ((k, v) :: entries, r)
    | .blockEnd :: rest => some ([], { r with tokens := rest })
    | _ => none

/-- The items between square brackets; commas stand between them. An item that is
introduced as a key is a mapping of one entry. If that key is left out, the token
in its place is passed over. -/
def bracketItems? (first : Bool) : (steps : Nat) → Reading → Option (List Node × Reading)
  | 0, _ => none
  | steps + 1, r =>
    if r.nextIs [.sequenceClose] then some ([], r.drop 1)
    else if !first && !r.nextIs [.comma] then none
    else
      let r := if first then r else r.drop 1
      if r.nextIs [.sequenceClose] then some ([], r.drop 1)
      else do
        let (item, r) ←
          if r.nextIs [.key] then do
            let r := r.drop 1
            let ends : List Token := [.comma, .sequenceClose]
            let (k, r) ←
              if r.nextIs (.value :: ends) then some (.blank, r.drop 1)
              else node? false false steps r
            let (v, r) ← valueUnless? false false ends steps r
            some (Node.mapping [(k, v)], r)
          else node? false false steps r
        let (items, r) ← bracketItems? false steps r
        return (item :: items, r)

/-- The entries between curly brackets; commas stand between them. What is not
introduced as a key is one without a value. -/
def bracketEntries? (first : Bool) :
    (steps : Nat) → Reading → Option (List (Node × Node) × Reading)
  | 0, _ => none
  | steps + 1, r =>
    if r.nextIs [.mappingClose] then some ([], r.drop 1)
    else if !first && !r.nextIs [.comma] then none
    else
      let r := if first then r else r.drop 1
      if r.nextIs [.mappingClose] then some ([], r.drop 1)
      else do
        let (entry, r) ←
          if r.nextIs [.key] then do
            let ends : List Token := [.comma, .mappingClose]
            let (k, r) ← nodeUnless? false false (.value :: ends) steps (r.drop 1)
            let (v, r) ← valueUnless? false false ends steps r
            some ((k, v), r)
          else (node? false false steps r).map fun (k, r) => ((k, .blank), r)
        let (entries, r) ← bracketEntries? false steps r
        return (entry :: entries, r)

end

/-! ## Documents -/

/-- What the handles of tags stand for unless a directive says otherwise. -/
def standardHandles : List (String × String) := [("!", "!"), ("!!", standardTag)]

/-- Reads directives. The version is named at most once and is one of two, and no
handle is set twice. -/
def directives? : (version : Bool) → (handles : List (String × String)) → List Token →
    Option Reading
  | false, handles, .version 1 minor :: rest =>
    if minor == 1 || minor == 2 then directives? true handles rest else none
  | _, _, .version .. :: _ => none
  | version, handles, .handle name text :: rest =>
    if (handles.lookup name).isSome then none
    else directives? version ((name, text) :: handles) rest
  | _, handles, tokens => some { tokens, handles := handles ++ standardHandles }

/-- The outermost node. Without directives the line that begins a document may be
missing; behind that line there need not be a node. -/
def root? (tokens : List Token) : Option (Node × Reading) := do
  let r ← directives? false [] tokens
  let steps := 4 * tokens.length + 4
  match r.tokens with
  | .documentStart :: rest =>
    let r := { r with tokens := rest }
    if rest.isEmpty || r.nextIs [.documentStart, .documentEnd] then return (.blank, r)
    else node? true false steps r
  | _ => if r.tokens.length < tokens.length then none else node? true false steps r

end Reading

/-- The document that tokens make up. Nothing may follow it but lines that end it. -/
def Document.ofTokens? : List Token → Option Document
  | [] => some {}
  | tokens => do
    let (root, r) ← Reading.root? tokens
    guard (r.tokens.all (· == .documentEnd))
    return { root, anchored := r.anchored }

/-- Reads a text that holds at most one document. -/
def Document.ofText? (text : String) : Option Document :=
  (Token.ofText? text).bind Document.ofTokens?

end PushdownActors.Yaml
