-- SUMMARY: Reports of explorations as structured values.
import PushdownActors.Exploration
import PushdownActors.Failure.Record

/-!
# Reports as values

A report is written with all its fields; where no bug was found, the bug is null.
-/

namespace PushdownActors.Exploration

def Bug.toValue (b : Bug) : Value :=
  .ofFields
    [("iteration", .integer b.iteration), ("seed", .integer b.seed.toNat),
      ("failure", b.failure.toValue), ("trace", .array (b.trace.map Choice.toValue))]

/-- The fields of a report, in the order in which they are shown. -/
def Report.fields (r : Report) : List (String × Value) :=
  [("iterations", .integer r.iterations), ("steps", .integer r.steps),
    ("bounded", .integer r.bounded), ("bug", (r.bug.map Bug.toValue).getD .null)]

def Report.toValue (r : Report) : Value := .ofFields r.fields

end PushdownActors.Exploration
