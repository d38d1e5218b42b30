-- SUMMARY: Configurations as structured values, written and read.
import PushdownActors.Config
import PushdownActors.Value

/-!
# Configurations as values

A configuration is written with all its fields. It is read field by field, and a
field that is absent takes its default, which for bug finding holds field by
field too.
-/

namespace PushdownActors

namespace Mode

def text : Mode → String
  | production => "production"
  | bugFinding => "bug_finding"

def ofText? : String → Option Mode
  | "production" => some production
  | "bug_finding" => some bugFinding
  | _ => none

def ofValue? (v : Value) : Option Mode :=
  v.plainCase?.bind ofText?

end Mode

namespace FailurePolicy

def text : FailurePolicy → String
  | exit => "exit"
  | report => "report"

def ofText? : String → Option FailurePolicy
  | "exit" => some exit
  | "report" => some report
  | _ => none

def ofValue? (v : Value) : Option FailurePolicy :=
  v.plainCase?.bind ofText?

end FailurePolicy

namespace Testing

/-- The names of the fields, in declaration order. -/
def fieldNames : List String := ["seed", "iterations", "max_steps"]

def toValue (t : Testing) : Value :=
  .ofFields
    [("seed", .integer t.seed.toNat), ("iterations", .integer t.iterations.toNat),
      ("max_steps", .integer t.maxSteps.toNat)]

def ofValue? (v : Value) : Option Testing :=
  match v.record? fieldNames with
  | some [seed, iterations, maxSteps] => do
    let d : Testing := {}
    return { seed := ← Value.defaulted d.seed Value.toUInt64? seed
             iterations := ← Value.defaulted d.iterations Value.toUInt32? iterations
             maxSteps := ← Value.defaulted d.maxSteps Value.toUInt64? maxSteps }
  | _ => none

end Testing

namespace Config

/-- The names of the fields, in declaration order. -/
def fieldNames : List String :=
  ["verbosity", "pause_on_assertion_failure", "mode", "failure_policy", "propagate_panics",
    "testing"]

def toValue (c : Config) : Value :=
  .ofFields
    [("verbosity", .integer c.verbosity.toNat),
      ("pause_on_assertion_failure", .bool c.pauseOnFailure),
      ("mode", .string c.mode.text),
      ("failure_policy", .string c.failurePolicy.text),
      ("propagate_panics", .bool c.propagatePanics),
      ("testing", c.testing.toValue)]

def ofValue? (v : Value) : Option Config :=
  match v.record? fieldNames with
  | some [verbosity, pause, mode, policy, propagate, testing] => do
    let d : Config := {}
    return { verbosity := ← Value.defaulted d.verbosity Value.toUInt8? verbosity
             pauseOnFailure := ← Value.defaulted d.pauseOnFailure Value.toBool? pause
             mode := ← Value.defaulted d.mode Mode.ofValue? mode
             failurePolicy := ← Value.defaulted d.failurePolicy FailurePolicy.ofValue? policy
             propagatePanics := ← Value.defaulted d.propagatePanics Value.toBool? propagate
             testing := ← Value.defaulted d.testing Testing.ofValue? testing }
  | _ => none

end Config

end PushdownActors
