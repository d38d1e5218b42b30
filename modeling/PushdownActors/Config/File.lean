-- SUMMARY: Configuration files: what they set, and the file that a configuration is saved as.
import PushdownActors.Config.Record
import PushdownActors.Config.Settings
import PushdownActors.Yaml.Read

/-!
# Configuration files

A configuration file is a YAML mapping with a nested mapping for bug finding. It
may leave out any field and may hold others besides; a field that is there has to
be readable and must not be there twice. A file without content sets nothing.
-/

namespace PushdownActors

open Yaml (Document Node)

/-! ## Reading -/

namespace Settings

/-- No field of the given names is there twice. -/
def noneTwice (names : List String) (entries : List (String × Node)) : Bool :=
  names.all fun name => entries.countP (·.1 == name) ≤ 1

/-- A field that may be left out, but must be readable when it is there. -/
def fileField (entries : List (String × Node)) (name : String) (read : Node → Option α) :
    Option (Option α) :=
  match entries.lookup name with
  | none => some none
  | some node => (read node).map some

/-- What the part of a file about bug finding sets. -/
def ofTestingNode? (d : Document) (node : Node) : Option Settings := do
  let entries ← d.fields? node
  guard (noneTwice Testing.fieldNames entries)
  return { seed := ← fileField entries "seed" Node.toUInt64?
           iterations := ← fileField entries "iterations" Node.toUInt32?
           maxSteps := ← fileField entries "max_steps" Node.toUInt64? }

/-- What a file sets. -/
def ofDocument? (d : Document) : Option Settings := do
  let entries ← d.fields? d.root
  guard (noneTwice Config.fieldNames entries)
  let testing := (← fileField entries "testing" (ofTestingNode? d)).getD {}
  return { testing with
    verbosity := ← fileField entries "verbosity" Node.toUInt8?
    pauseOnFailure := ← fileField entries "pause_on_assertion_failure" Node.toBool?
    mode := ← fileField entries "mode" fun n => n.toCase?.bind Mode.ofText?
    failurePolicy := ← fileField entries "failure_policy" fun n =>
      n.toCase?.bind FailurePolicy.ofText?
    propagatePanics := ← fileField entries "propagate_panics" Node.toBool? }

/-- Reads the text of a file. -/
def ofFileText? (text : String) : Option Settings :=
  (Document.ofText? text).bind ofDocument?

end Settings

/-! ## Writing -/

namespace Settings

def boolText (b : Bool) : String := if b then "true" else "false"

/-- The line for a field, unless nothing is set. -/
def fileLine (indent name : String) : Option String → String
  | some value => indent ++ name ++ ": " ++ value ++ "\n"
  | none => ""

/-- The lines for bug finding, indented by two spaces. -/
def testingLines (s : Settings) : String :=
  fileLine "  " "seed" (s.seed.map fun n => toString n.toNat)
    ++ fileLine "  " "iterations" (s.iterations.map fun n => toString n.toNat)
    ++ fileLine "  " "max_steps" (s.maxSteps.map fun n => toString n.toNat)

/-- The text of a file that sets these fields and no others, each on a line of its
own. -/
def toFileText (s : Settings) : String :=
  fileLine "" "verbosity" (s.verbosity.map fun n => toString n.toNat)
    ++ fileLine "" "pause_on_assertion_failure" (s.pauseOnFailure.map boolText)
    ++ fileLine "" "mode" (s.mode.map Mode.text)
    ++ fileLine "" "failure_policy" (s.failurePolicy.map FailurePolicy.text)
    ++ fileLine "" "propagate_panics" (s.propagatePanics.map boolText)
    ++ (if s.testingLines.isEmpty then "" else "testing:\n" ++ s.testingLines)

end Settings

/-- The text of the file that a configuration is saved as; it sets every field. -/
def Config.toFileText (c : Config) : String :=
  (Settings.ofConfig c).toFileText

end PushdownActors
