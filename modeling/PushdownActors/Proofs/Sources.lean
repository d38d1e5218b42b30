-- SUMMARY: Which source each field of a configuration comes from, for the command and for programs that load one.
import PushdownActors.CommandLine

/-!
# Sources of a configuration

A configuration is put together from arguments, the environment, a file and defaults. A
program that loads one lets the environment count more than the file. The command reads a
file without the environment: it takes its configuration from the file that it is told of,
or else from the environment, and arguments count more than either.

So the two agree where there is no file. With a file they agree as long as the environment
would not change what becomes of the file.
-/

namespace PushdownActors

/-! ## Fields and their sources -/

/-- The value of a field in the first of the sources that sets it, or its default. -/
def Settings.first (sources : List Settings) (field : Settings → Option α) (default : α) : α :=
  (sources.findSome? field).getD default

/-- The configuration in which every field has its value from the first of the sources that
sets it, and its default if none does. -/
def Config.ofSources (sources : List Settings) : Config where
  verbosity := Settings.first sources Settings.verbosity ({} : Config).verbosity
  pauseOnFailure := Settings.first sources Settings.pauseOnFailure ({} : Config).pauseOnFailure
  mode := Settings.first sources Settings.mode ({} : Config).mode
  failurePolicy := Settings.first sources Settings.failurePolicy ({} : Config).failurePolicy
  propagatePanics := Settings.first sources Settings.propagatePanics ({} : Config).propagatePanics
  testing :=
    { seed := Settings.first sources Settings.seed ({} : Testing).seed
      iterations := Settings.first sources Settings.iterations ({} : Testing).iterations
      maxSteps := Settings.first sources Settings.maxSteps ({} : Testing).maxSteps }

/-- The configuration, if it is sensible. -/
def Config.checked (c : Config) : Except ConfigError Config :=
  c.validate.map fun _ => c

theorem Config.checked_eq (c : Config) : (c.validate >>= fun _ => pure c) = c.checked := by
  unfold checked
  cases c.validate <;> rfl

theorem Settings.first_cons (s : Settings) (rest : List Settings) (field : Settings → Option α)
    (default : α) : first (s :: rest) field default = (field s).getD (first rest field default) := by
  cases hfield : field s <;> simp [first, hfield]

namespace Config

variable {s t : Settings} {sources : List Settings}

/-- The first source is applied to what the others say. -/
theorem ofSources_cons (s : Settings) (sources : List Settings) :
    ofSources (s :: sources) = s.applyTo (ofSources sources) := by
  simp only [ofSources, Settings.applyTo, Settings.first_cons]

/-- A source that sets nothing may be left out. -/
theorem ofSources_empty_cons (sources : List Settings) :
    ofSources ({} :: sources) = ofSources sources := by
  rw [ofSources_cons]
  rfl

theorem toConfig_eq_ofSources (s : Settings) : s.toConfig = ofSources [s] :=
  (ofSources_cons s []).symm

theorem toConfig_orElse (s t : Settings) : (s.orElse t).toConfig = ofSources [s, t] := by
  rw [ofSources_cons, ← toConfig_eq_ofSources]
  exact Settings.applyTo_orElse s t {}

end Config

/-- The environment with a variable that names a configuration file. -/
def Environment.naming (env : Environment) (path : String) : Environment :=
  fun name => if name = "ACTOMATON_CONFIG" then some path else env name

/-- The variable sets no field. -/
theorem Settings.ofEnvironment_naming (env : Environment) (path : String) :
    ofEnvironment (env.naming path) = ofEnvironment env :=
  rfl

/-- What a program loads: the environment counts more than the file that it names. -/
theorem Config.load_eq (env : Environment) (files : Files) :
    load env files =
      match env "ACTOMATON_CONFIG" with
      | some path => (Settings.ofFile files path).bind fun file =>
          (ofSources [Settings.ofEnvironment env, file]).checked
      | none => (ofSources [Settings.ofEnvironment env]).checked := by
  unfold load
  cases env "ACTOMATON_CONFIG" with
  | none =>
    have hsources : ((Settings.ofEnvironment env).orElse {}).toConfig
        = ofSources [Settings.ofEnvironment env] := toConfig_orElse _ _
    rw [← hsources]
    exact checked_eq _
  | some path =>
    cases hfile : Settings.ofFile files path with
    | error e => simp only [hfile, bind, Except.bind]
    | ok file =>
      simp only [hfile, bind, Except.bind, toConfig_orElse]
      exact checked_eq _

namespace CommandLine

variable {arguments : List String} {a : Arguments} {env : Environment} {files : Files}
  {path : String}

/-- The greater verbosity counts, and the result has to be sensible. -/
def Arguments.finish (a : Arguments) (c : Config) : Except ConfigError Config :=
  { c with verbosity := max c.verbosity a.verbose }.checked

/-- Nothing is said about the configuration but where its file is. -/
structure Arguments.Plain (a : Arguments) : Prop where
  settings : a.settings = {}
  verbose : a.verbose = 0

theorem Arguments.Plain.finish (h : a.Plain) (c : Config) : a.finish c = c.checked := by
  have hmax : max c.verbosity 0 = if c.verbosity ≤ 0 then 0 else c.verbosity := rfl
  have hsame : max c.verbosity 0 = c.verbosity := by
    rw [hmax]
    split
    · rename_i hzero
      exact (UInt8.le_antisymm hzero UInt8.zero_le).symm
    · rfl
  rw [Arguments.finish, h.verbose, hsame]

/-- A path that is set is the path of the file from then on. -/
theorem Arguments.config_of_set {before : Arguments} (h : before.set .config path = .ok a) :
    a.config = some path := by
  simp only [Arguments.set, setOnce, bind, Except.bind] at h
  split at h
  · contradiction
  · rename_i hset
    split at hset
    · contradiction
    · contradiction
    · rename_i hpath
      cases h
      cases hset
      split at hpath
      · contradiction
      · exact hpath.symm

/-- Without a file among the arguments the environment may name one. -/
theorem Arguments.unnamed_of_read (h : Arguments.read arguments env = .ok a)
    (hconfig : a.config = none) : env "ACTOMATON_CONFIG" = none := by
  unfold Arguments.read at h
  simp only [bind, Except.bind] at h
  split at h
  · contradiction
  · split at h
    · contradiction
    · split at h
      · rw [Arguments.config_of_set h] at hconfig
        contradiction
      · rename_i hnamed
        cases h
        cases hvariable : env "ACTOMATON_CONFIG" with
        | none => rfl
        | some path => exact absurd hvariable (hnamed path hconfig)

theorem configure_of_file (h : a.config = some path) :
    configure a env files = (Settings.ofFile files path).bind fun file =>
      a.finish (Config.ofSources [a.settings, file]) := by
  unfold configure
  simp only [h, Config.ofFile]
  cases hfile : Settings.ofFile files path with
  | error e => rfl
  | ok file =>
    have hsources : a.settings.applyTo file.toConfig = Config.ofSources [a.settings, file] := by
      rw [Config.ofSources_cons, Config.toConfig_eq_ofSources]
    simp only [hsources, Except.map, bind, Except.bind]
    exact Config.checked_eq _

theorem configure_of_environment (h : a.config = none) :
    configure a env files
      = a.finish (Config.ofSources [a.settings, Settings.ofEnvironment env]) := by
  have hsources : a.settings.applyTo (Config.ofEnvironment env)
      = Config.ofSources [a.settings, Settings.ofEnvironment env] := by
    rw [Config.ofSources_cons, ← Config.toConfig_eq_ofSources]
    rfl
  unfold configure
  simp only [h, hsources, bind, Except.bind, pure, Except.pure]
  exact Config.checked_eq _

/-! ## A demonstration

A command that names a file for production mode, in an environment that asks for bug
finding without any iteration. -/

namespace Demo

def line : List String := ["--config", "demo.yaml"]

def environment : Environment := fun name =>
  if name = "ACTOMATON_MODE" then some "bug_finding"
  else if name = "ACTOMATON_ITERATIONS" then some "0"
  else none

def disk : Files := fun path =>
  if path = "demo.yaml" then .ok "mode: production\n" else .error "no such file"

/-- What the arguments ask for. -/
def asked : Arguments := { config := some "demo.yaml" }

theorem read_line : Arguments.read line environment = .ok asked := rfl

theorem ofFile_disk :
    Settings.ofFile disk "demo.yaml" = .ok { mode := some .production } := by
  have htext : Settings.ofFileText? "mode: production\n" = some { mode := some .production } := by
    decide +kernel
  have hdisk : disk "demo.yaml" = .ok "mode: production\n" := rfl
  simp only [Settings.ofFile, hdisk, htext]

theorem ofEnvironment_environment :
    Settings.ofEnvironment environment = { mode := some .bugFinding, iterations := some 0 } := by
  decide +kernel

theorem plain_asked : asked.Plain := ⟨rfl, rfl⟩

end Demo

/-! ## Results -/

/-- Of the command's configuration each field comes from the first place that sets it: with
a file, from the arguments, the file and the defaults, whatever the environment sets; and
without a file from the arguments, the environment and the defaults. The greater verbosity
counts, and what is not sensible is refused. A program that loads the file lets the
environment count more. So without other arguments the two agree where there is no file; and
where there is one, exactly if the environment does not change what becomes of it. -/
theorem configure_sources (hread : Arguments.read arguments env = .ok a) (files : Files) :
    (∀ path, a.config = some path →
      configure a env files = (Settings.ofFile files path).bind fun file =>
        a.finish (Config.ofSources [a.settings, file])) ∧
    (a.config = none →
      configure a env files
        = a.finish (Config.ofSources [a.settings, Settings.ofEnvironment env])) ∧
    (∀ path, Config.load (env.naming path) files = (Settings.ofFile files path).bind fun file =>
      (Config.ofSources [Settings.ofEnvironment env, file]).checked) ∧
    (a.Plain → a.config = none → configure a env files = Config.load env files) ∧
    (a.Plain → ∀ path, a.config = some path →
      (configure a env files = Config.load (env.naming path) files ↔
        ∀ file, Settings.ofFile files path = .ok file →
          (Config.ofSources [file]).checked
            = (Config.ofSources [Settings.ofEnvironment env, file]).checked)) := by
  have hload (path : String) : Config.load (env.naming path) files
      = (Settings.ofFile files path).bind fun file =>
          (Config.ofSources [Settings.ofEnvironment env, file]).checked := by
    rw [Config.load_eq, Settings.ofEnvironment_naming]
    simp only [Environment.naming, if_true]
  have hplain (h : a.Plain) (source : Settings) :
      a.finish (Config.ofSources [a.settings, source]) = (Config.ofSources [source]).checked := by
    rw [h.finish, h.settings, Config.ofSources_empty_cons]
  refine ⟨fun path => configure_of_file, configure_of_environment, hload, ?_, ?_⟩
  · intro h hconfig
    rw [configure_of_environment hconfig, hplain h, Config.load_eq,
      Arguments.unnamed_of_read hread hconfig]
  · intro h path hconfig
    rw [configure_of_file hconfig, hload]
    cases hfile : Settings.ofFile files path with
    | error e =>
      refine iff_of_true rfl ?_
      intro file hread
      contradiction
    | ok file =>
      simp only [Except.bind, hplain h]
      refine ⟨?_, fun hsame => hsame file rfl⟩
      rintro hsame _ ⟨⟩
      exact hsame

/-- The demonstration runs with the defaults. -/
theorem configure_sources_demo :
    Arguments.read Demo.line Demo.environment = .ok Demo.asked ∧
      configure Demo.asked Demo.environment Demo.disk = .ok {} := by
  obtain ⟨hfile, _⟩ := configure_sources Demo.read_line Demo.disk
  refine ⟨Demo.read_line, ?_⟩
  rw [hfile "demo.yaml" rfl, Demo.ofFile_disk]
  rfl

/-- A program that loads the same file in the same environment is refused. -/
theorem demo_environment_ignored :
    Arguments.read Demo.line Demo.environment = .ok Demo.asked ∧ Demo.asked.Plain ∧
      configure Demo.asked Demo.environment Demo.disk = .ok {} ∧
      Config.load (Demo.environment.naming "demo.yaml") Demo.disk
        = .error (.invalid .noIterations) := by
  refine ⟨Demo.read_line, Demo.plain_asked, ?_, ?_⟩
  · rw [configure_of_file rfl, Demo.ofFile_disk]
    rfl
  · have hnamed : Demo.environment.naming "demo.yaml" "ACTOMATON_CONFIG" = some "demo.yaml" := rfl
    rw [Config.load_eq, hnamed, Settings.ofEnvironment_naming, Demo.ofEnvironment_environment]
    simp only [Demo.ofFile_disk]
    rfl

end CommandLine

end PushdownActors
