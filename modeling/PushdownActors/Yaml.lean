-- SUMMARY: The nodes of a YAML document, and the reading of scalars.
import PushdownActors.Text.Radix

/-!
# YAML nodes

A document is a tree of mappings and sequences with scalars at its leaves. Nodes
may be anchored, and an alias stands for the node at an anchor. A scalar is text;
the style in which it was written decides what it can be read as. Only a plain
scalar is a number or a truth value, unless a tag says that a literal one is, and
only an empty plain scalar stands for nothing at all.
-/

namespace PushdownActors.Yaml

/-- The way in which a scalar is written. -/
inductive Style where
  | plain
  | quoted
  | literal
  | folded
  deriving DecidableEq, Repr, Inhabited

/-- A node of a document. -/
inductive Node where
  | scalar (tag : Option String) (style : Style) (text : String)
  | sequence (items : List Node)
  /-- Entries in the order in which they are written; keys may repeat. -/
  | mapping (entries : List (Node × Node))
  /-- The node at the anchor of the given number. -/
  | alias (anchor : Nat)
  deriving Inhabited

/-! ## Numbers -/

/-- A decimal number has no leading zero. -/
def decimal? : List Char → Option Nat
  | '0' :: _ :: _ => none
  | cs => Radix.number? 10 cs

/-- A natural number: decimal, or in the base that its first two characters say. A
plus sign may stand before it. -/
def natural? (text : String) : Option Nat :=
  let unsigned : List Char → Option Nat
    | '0' :: 'x' :: rest => Radix.number? 16 rest
    | '0' :: 'o' :: rest => Radix.number? 8 rest
    | '0' :: 'b' :: rest => Radix.number? 2 rest
    | cs => decimal? cs
  match text.toList with
  | '+' :: rest => unsigned rest
  | cs => unsigned cs

/-! ## Reading nodes -/

/-- What the tags of the standard types begin with. -/
def standardTag : String := "tag:yaml.org,2002:"

namespace Node

/-- The node that stands for nothing. -/
def blank : Node := scalar none .plain ""

/-- The text of a scalar that may stand for more than text: a plain one, or a literal
one that is tagged with the standard type of the given name. -/
def bareText? (type : String) : Node → Option String
  | scalar _ .plain text => some text
  | scalar (some tag) .literal text => if tag = standardTag ++ type then some text else none
  | _ => none

/-- A natural number in `0 … limit`. -/
def toNat? (limit : Nat) (n : Node) : Option Nat :=
  ((n.bareText? "int").bind natural?).filter (· ≤ limit)

def toUInt8? (n : Node) : Option UInt8 :=
  (n.toNat? 255).map UInt8.ofNat

def toUInt32? (n : Node) : Option UInt32 :=
  (n.toNat? 4294967295).map UInt32.ofNat

def toUInt64? (n : Node) : Option UInt64 :=
  (n.toNat? 18446744073709551615).map UInt64.ofNat

/-- A truth value, in lower case, in upper case or capitalized. -/
def toBool? (n : Node) : Option Bool :=
  match n.bareText? "bool" with
  | some "true" | some "True" | some "TRUE" => some true
  | some "false" | some "False" | some "FALSE" => some false
  | _ => none

/-- The text of a scalar, written in whatever way. -/
def toText? : Node → Option String
  | scalar _ _ text => some text
  | _ => none

/-- The scalar stands for nothing, or says so. -/
def isNull : Node → Bool
  | scalar _ .plain text => ["", "~", "null", "Null", "NULL"].contains text
  | _ => false

/-- The name of an alternative: a text, or a tag of the document's own on a node that
stands for nothing. -/
def toCase? (n : Node) : Option String :=
  match n with
  | scalar (some tag) _ text =>
    match tag.toList with
    | '!' :: name => if n.isNull then some (.ofList name) else none
    | _ => some text
  | scalar none _ text => some text
  | _ => none

end Node

/-! ## Documents -/

/-- A document: its outermost node, and the nodes at its anchors. -/
structure Document where
  root : Node := .blank
  anchored : List (Nat × Node) := []
  deriving Inhabited

namespace Document

/-- The node that a node stands for. -/
def resolve (d : Document) : Node → Node
  | .alias anchor => (d.anchored.lookup anchor).getD (.alias anchor)
  | n => n

/-- The fields of a node: the entries of a mapping by the texts of their keys. A node
that is left empty has none. -/
def fields? (d : Document) : Node → Option (List (String × Node))
  | .mapping entries => entries.mapM fun (k, v) => do return (← (d.resolve k).toText?, d.resolve v)
  | .scalar _ .plain "" => some []
  | _ => none

end Document

end PushdownActors.Yaml
