-- SUMMARY: Partial configurations: what one place of configuration sets, and how several are put together.
import PushdownActors.Config

/-!
# Settings

Each place that a configuration comes from (a file, the environment) sets some
fields and says nothing about the others. Of two places one counts more: a field
has its value from there if it is set there, and from the other place if not.
What no place sets has its default.
-/

namespace PushdownActors

/-- What is set, field by field. -/
structure Settings where
  verbosity : Option UInt8 := none
  pauseOnFailure : Option Bool := none
  mode : Option Mode := none
  failurePolicy : Option FailurePolicy := none
  propagatePanics : Option Bool := none
  seed : Option UInt64 := none
  iterations : Option UInt32 := none
  maxSteps : Option UInt64 := none
  deriving DecidableEq, Repr, Inhabited

namespace Settings

/-- The settings of two places, of which the first counts more. -/
def orElse (a b : Settings) : Settings where
  verbosity := a.verbosity <|> b.verbosity
  pauseOnFailure := a.pauseOnFailure <|> b.pauseOnFailure
  mode := a.mode <|> b.mode
  failurePolicy := a.failurePolicy <|> b.failurePolicy
  propagatePanics := a.propagatePanics <|> b.propagatePanics
  seed := a.seed <|> b.seed
  iterations := a.iterations <|> b.iterations
  maxSteps := a.maxSteps <|> b.maxSteps

/-- The configuration with the set fields in place of those of `c`. -/
def applyTo (s : Settings) (c : Config) : Config where
  verbosity := s.verbosity.getD c.verbosity
  pauseOnFailure := s.pauseOnFailure.getD c.pauseOnFailure
  mode := s.mode.getD c.mode
  failurePolicy := s.failurePolicy.getD c.failurePolicy
  propagatePanics := s.propagatePanics.getD c.propagatePanics
  testing :=
    { seed := s.seed.getD c.testing.seed
      iterations := s.iterations.getD c.testing.iterations
      maxSteps := s.maxSteps.getD c.testing.maxSteps }

/-- The configuration that has its defaults where nothing is set. -/
def toConfig (s : Settings) : Config := s.applyTo {}

/-- Every field set as in a configuration. -/
def ofConfig (c : Config) : Settings where
  verbosity := some c.verbosity
  pauseOnFailure := some c.pauseOnFailure
  mode := some c.mode
  failurePolicy := some c.failurePolicy
  propagatePanics := some c.propagatePanics
  seed := some c.testing.seed
  iterations := some c.testing.iterations
  maxSteps := some c.testing.maxSteps

theorem applyTo_orElse (a b : Settings) (c : Config) :
    (a.orElse b).applyTo c = a.applyTo (b.applyTo c) := by
  simp [applyTo, orElse]

theorem toConfig_ofConfig (c : Config) : (ofConfig c).toConfig = c := rfl

end Settings

end PushdownActors
