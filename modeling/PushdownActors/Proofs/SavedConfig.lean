-- SUMMARY: A configuration that is saved reads back as it was, and a file leaves the default to every field that it does not set.
import PushdownActors.Config.Load
import PushdownActors.Proofs.FlatYaml

/-!
# Saved configurations

What a configuration file sets are its fields, in whatever order they stand there. Each of
them is written as a word: a number by its decimal digits, a truth value or an alternative
by its name. The reader finds them again whatever else is there, and a field that it does not
find has its default.

A configuration is saved as the file that sets every field, so that it reads back as it
was.
-/

namespace PushdownActors

open Yaml (Word Key Field Node Document)

/-! ## Numbers -/

section Digits

/-- Decimal digits make up the number that they are written for. -/
theorem Radix.digits?_eq {cs : List Char} (h : ∀ c ∈ cs, c.isDigit = true) (n : Nat) :
    digits? 10 n cs = some (Nat.ofDigitChars 10 cs n) := by
  induction cs generalizing n with
  | nil => rfl
  | cons c cs ih =>
    have hc : '0' ≤ c ∧ c ≤ '9' := by
      simpa [Char.isDigit, Char.le_def] using h c List.mem_cons_self
    have hlt : c.toNat - '0'.toNat < 10 := by
      have hle : c.toNat ≤ 57 := hc.2
      have hzero : '0'.toNat = 48 := rfl
      omega
    have hdigit : digit? 10 c = some (c.toNat - '0'.toNat) := by
      simp only [digit?, if_pos hc, Option.filter_some, decide_eq_true hlt, if_true]
    calc digits? 10 n (c :: cs)
        = digits? 10 (10 * n + (c.toNat - '0'.toNat)) cs := by
          simp only [digits?, hdigit, Option.bind_some, Nat.mul_comm n 10]
      _ = some (Nat.ofDigitChars 10 cs (10 * n + (c.toNat - '0'.toNat))) :=
          ih (fun d hd => h d (List.mem_cons_of_mem c hd)) _

/-- No number but zero begins with a zero. -/
theorem head?_toDigits {n : Nat} (hn : 0 < n) : (Nat.toDigits 10 n).head? ≠ some '0' := by
  induction n using Nat.strongRecOn with
  | ind n ih =>
    by_cases hsmall : n < 10
    · have hdigit : ∀ n < 10, 0 < n → Nat.digitChar n ≠ '0' := by decide
      simpa [Nat.toDigits_of_lt_base hsmall] using hdigit n hsmall hn
    · have hquotient := ih (n / 10) (by omega) (by omega)
      have hsplit := Nat.toDigits_of_base_le (b := 10) (by decide) (Nat.le_of_not_lt hsmall)
      cases hdigits : Nat.toDigits 10 (n / 10) with
      | nil => exact absurd hdigits Nat.toDigits_ne_nil
      | cons c cs => simpa [hsplit, hdigits] using hquotient

/-- A number reads back from its digits. -/
theorem Yaml.natural?_toString (n : Nat) : natural? (toString n) = some n := by
  rcases Nat.eq_zero_or_pos n with rfl | hn
  · decide
  · have hdigits : ∀ c ∈ Nat.toDigits 10 n, c.isDigit = true :=
      fun c hc => Nat.isDigit_of_mem_toDigits (by decide) (by decide) hc
    have hnumber : Radix.digits? 10 0 (Nat.toDigits 10 n) = some n := by
      simp [Radix.digits?_eq hdigits]
    have hhead := head?_toDigits hn
    have htext : (toString n).toList = Nat.toDigits 10 n := by
      simp
    unfold natural?
    rw [htext]
    cases hchars : Nat.toDigits 10 n with
    | nil => exact absurd hchars Nat.toDigits_ne_nil
    | cons c cs =>
      have hplus : c ≠ '+' := by
        rintro rfl
        exact absurd (hdigits '+' (by simp [hchars])) (by decide)
      have hzero : c ≠ '0' := by
        rintro rfl
        exact hhead (by simp [hchars])
      rw [hchars] at hnumber
      simp [hplus, hzero, decimal?, Radix.number?, hnumber]

end Digits

/-! ## Lines -/

/-- The digits of a number. -/
def Yaml.Word.ofNat (n : Nat) : Word where
  text := toString n
  nonempty := by simp
  allPlain := by
    refine List.all_eq_true.mpr fun c hc => ?_
    have hmem : c ∈ Nat.toDigits 10 n := by simpa using hc
    have hdigit : c.isDigit = true := Nat.isDigit_of_mem_toDigits (by decide) (by decide) hmem
    simp [Yaml.isPlain, Char.isAlphanum, hdigit]

def Yaml.Word.ofBool : Bool → Word
  | true => ⟨"true", by decide, by decide⟩
  | false => ⟨"false", by decide, by decide⟩

def Mode.word : Mode → Word
  | production => ⟨"production", by decide, by decide⟩
  | bugFinding => ⟨"bug_finding", by decide, by decide⟩

def FailurePolicy.word : FailurePolicy → Word
  | exit => ⟨"exit", by decide, by decide⟩
  | report => ⟨"report", by decide, by decide⟩

/-- A line about bug finding. -/
inductive Testing.Line where
  | seed (n : UInt64)
  | iterations (n : UInt32)
  | maxSteps (n : UInt64)

namespace Testing.Line

def field : Testing.Line → Field
  | seed n => ⟨⟨⟨"seed", by decide, by decide⟩, by decide⟩, .ofNat n.toNat⟩
  | iterations n => ⟨⟨⟨"iterations", by decide, by decide⟩, by decide⟩, .ofNat n.toNat⟩
  | maxSteps n => ⟨⟨⟨"max_steps", by decide, by decide⟩, by decide⟩, .ofNat n.toNat⟩

def name (l : Testing.Line) : String := l.field.name.text

/-- What the line sets. -/
def sets : Testing.Line → Settings
  | seed n => { seed := some n }
  | iterations n => { iterations := some n }
  | maxSteps n => { maxSteps := some n }

end Testing.Line

/-- What lines set together. -/
def Settings.ofLines (sets : ι → Settings) (lines : List ι) : Settings :=
  lines.foldr (fun l s => (sets l).orElse s) {}

/-- A line of a configuration file, with the lines below it if it is about bug finding. -/
inductive Config.Line where
  | verbosity (n : UInt8)
  | pauseOnFailure (b : Bool)
  | mode (m : Mode)
  | failurePolicy (p : FailurePolicy)
  | propagatePanics (b : Bool)
  | testing (lines : List Testing.Line)

namespace Config.Line

def entry : Config.Line → Yaml.Entry
  | verbosity n => .field ⟨⟨⟨"verbosity", by decide, by decide⟩, by decide⟩, .ofNat n.toNat⟩
  | pauseOnFailure b =>
    .field ⟨⟨⟨"pause_on_assertion_failure", by decide, by decide⟩, by decide⟩, .ofBool b⟩
  | mode m => .field ⟨⟨⟨"mode", by decide, by decide⟩, by decide⟩, m.word⟩
  | failurePolicy p => .field ⟨⟨⟨"failure_policy", by decide, by decide⟩, by decide⟩, p.word⟩
  | propagatePanics b =>
    .field ⟨⟨⟨"propagate_panics", by decide, by decide⟩, by decide⟩, .ofBool b⟩
  | testing lines => .block ⟨⟨"testing", by decide, by decide⟩, by decide⟩ (lines.map (·.field))

def name (l : Config.Line) : String := l.entry.name.text

/-- What the line sets. -/
def sets : Config.Line → Settings
  | verbosity n => { verbosity := some n }
  | pauseOnFailure b => { pauseOnFailure := some b }
  | mode m => { mode := some m }
  | failurePolicy p => { failurePolicy := some p }
  | propagatePanics b => { propagatePanics := some b }
  | testing nested =>
    let s := Settings.ofLines Testing.Line.sets nested
    { seed := s.seed, iterations := s.iterations, maxSteps := s.maxSteps }

end Config.Line

/-- A configuration file in which no field is set twice. -/
structure Config.Sheet where
  lines : List Config.Line
  once : (lines.map Config.Line.name).Nodup
  nestedOnce : ∀ nested, .testing nested ∈ lines → (nested.map Testing.Line.name).Nodup

namespace Config.Sheet

def text (sheet : Config.Sheet) : String := Yaml.textOf (sheet.lines.map (·.entry))

/-- What is set, and nothing else. -/
def settings (sheet : Config.Sheet) : Settings := .ofLines Config.Line.sets sheet.lines

end Config.Sheet

/-! ## Values -/

section Values

theorem Yaml.Node.toNat?_ofNat {n limit : Nat} (h : n ≤ limit) :
    (Node.scalar none .plain (Word.ofNat n).text).toNat? limit = some n := by
  simp only [toNat?, bareText?, Word.ofNat, Option.bind_some, natural?_toString, Option.filter_some,
    decide_eq_true h, if_true]

theorem Yaml.Node.toUInt8?_ofNat (n : UInt8) :
    (Node.scalar none .plain (Word.ofNat n.toNat).text).toUInt8? = some n := by
  have hn : n.toNat ≤ 255 := Nat.le_of_lt_succ n.toNat_lt
  simp [toUInt8?, toNat?_ofNat hn]

theorem Yaml.Node.toUInt32?_ofNat (n : UInt32) :
    (Node.scalar none .plain (Word.ofNat n.toNat).text).toUInt32? = some n := by
  have hn : n.toNat ≤ 4294967295 := Nat.le_of_lt_succ n.toNat_lt
  simp [toUInt32?, toNat?_ofNat hn]

theorem Yaml.Node.toUInt64?_ofNat (n : UInt64) :
    (Node.scalar none .plain (Word.ofNat n.toNat).text).toUInt64? = some n := by
  have hn : n.toNat ≤ 18446744073709551615 := Nat.le_of_lt_succ n.toNat_lt
  simp [toUInt64?, toNat?_ofNat hn]

theorem Yaml.Node.toBool?_ofBool (b : Bool) :
    (Node.scalar none .plain (Word.ofBool b).text).toBool? = some b := by
  cases b <;> rfl

theorem Mode.ofText?_word (m : Mode) :
    (Node.scalar none .plain m.word.text).toCase?.bind ofText? = some m := by
  cases m <;> rfl

theorem FailurePolicy.ofText?_word (p : FailurePolicy) :
    (Node.scalar none .plain p.word.text).toCase?.bind ofText? = some p := by
  cases p <;> rfl

end Values

/-! ## Fields -/

namespace Settings

section Fields

variable {ι α : Type} {lines : List ι} {name : ι → String} {value : ι → Node}

/-- A line is about a field and has a value for it, or it is about another field. -/
def Speaks (key : String) (read : Node → Option α) (name : String) (value : Node) :
    Option α → Prop
  | some a => name = key ∧ read value = some a
  | none => name ≠ key

/-- A field is read from its line, wherever that is. -/
theorem fileField_map {key : String} {read : Node → Option α} {get : ι → Option α}
    (hline : ∀ l ∈ lines, Speaks key read (name l) (value l) (get l)) :
    fileField (lines.map fun l => (name l, value l)) key read = some (lines.findSome? get) := by
  induction lines with
  | nil => rfl
  | cons l lines ih =>
    have hrest := ih fun l hl => hline l (List.mem_cons_of_mem _ hl)
    have hfirst := hline l List.mem_cons_self
    cases hget : get l with
    | some a =>
      rw [hget] at hfirst
      simp [fileField, hfirst.1, hfirst.2, hget]
    | none =>
      rw [hget] at hfirst
      have hname : (key == name l) = false := beq_eq_false_iff_ne.mpr (Ne.symm hfirst)
      simpa [fileField, List.lookup_cons, hname, hget] using hrest

/-- No field is there twice if no line is about the same as another. -/
theorem noneTwice_map (hnodup : (lines.map name).Nodup) (names : List String) :
    noneTwice names (lines.map fun l => (name l, value l)) = true := by
  have hcount (key : String) : lines.countP (fun l => name l == key) ≤ 1 := by
    have hone := List.nodup_iff_count.mp hnodup key
    simpa [List.count, List.countP_map, Function.comp_def] using hone
  simp [noneTwice, List.countP_map, Function.comp_def, hcount]

/-- A field that is read off lines is set by the first of them that sets it. -/
theorem ofLines_eq {sets : ι → Settings} {field : Settings → Option α}
    (hnone : field {} = none)
    (horElse : ∀ a b, field (a.orElse b) = (field a <|> field b)) :
    field (ofLines sets lines) = lines.findSome? fun l => field (sets l) := by
  induction lines with
  | nil => exact hnone
  | cons l lines ih =>
    have hcons : ofLines sets (l :: lines) = (sets l).orElse (ofLines sets lines) := rfl
    cases hfield : field (sets l) <;> simp [hcons, horElse, ih, hfield]

theorem fileField_ofLines {sets : ι → Settings} (lines : List ι) (key : String)
    (read : Node → Option α) (field : Settings → Option α) (hnone : field {} = none)
    (horElse : ∀ a b, field (a.orElse b) = (field a <|> field b))
    (hline : ∀ l ∈ lines, Speaks key read (name l) (value l) (field (sets l))) :
    fileField (lines.map fun l => (name l, value l)) key read
      = some (field (ofLines sets lines)) := by
  rw [fileField_map hline, ofLines_eq hnone horElse]

end Fields

end Settings

/-! ## Sheets -/

theorem Yaml.Document.fields?_mapping (d : Document) (entries : List Yaml.Entry) :
    d.fields? (.mapping (entries.map Yaml.Entry.node))
      = some (entries.map fun e => (e.name.text, e.value)) := by
  have hkey (e : Yaml.Entry) : (d.resolve e.node.1).toText? = some e.name.text := rfl
  have hvalue (e : Yaml.Entry) : d.resolve e.node.2 = e.value := by
    rcases e with _ | ⟨_, _ | _⟩ <;> rfl
  simp only [fields?]
  induction entries with
  | nil => rfl
  | cons e entries ih =>
    simp only [List.map_cons, List.mapM_cons, hkey, hvalue, ih]
    rfl

theorem Yaml.Document.fields?_block (d : Document) (name : Key) (fields : List Field) :
    d.fields? (Yaml.Entry.block name fields).value
      = some (fields.map fun f => (f.name.text, .scalar none .plain f.value.text)) := by
  cases fields with
  | nil => rfl
  | cons f fields =>
    have hfields := d.fields?_mapping ((f :: fields).map .field)
    rw [List.map_map, List.map_map] at hfields
    exact hfields

namespace Testing.Line

/-- The node of the value of a line. -/
def value (l : Testing.Line) : Node := .scalar none .plain l.field.value.text

theorem speaks_seed (l : Testing.Line) :
    Settings.Speaks "seed" Node.toUInt64? l.name l.value l.sets.seed := by
  cases l with
  | seed n => exact ⟨rfl, Node.toUInt64?_ofNat n⟩
  | iterations n => exact (by decide : "iterations" ≠ "seed")
  | maxSteps n => exact (by decide : "max_steps" ≠ "seed")

theorem speaks_iterations (l : Testing.Line) :
    Settings.Speaks "iterations" Node.toUInt32? l.name l.value l.sets.iterations := by
  cases l with
  | seed n => exact (by decide : "seed" ≠ "iterations")
  | iterations n => exact ⟨rfl, Node.toUInt32?_ofNat n⟩
  | maxSteps n => exact (by decide : "max_steps" ≠ "iterations")

theorem speaks_maxSteps (l : Testing.Line) :
    Settings.Speaks "max_steps" Node.toUInt64? l.name l.value l.sets.maxSteps := by
  cases l with
  | seed n => exact (by decide : "seed" ≠ "max_steps")
  | iterations n => exact (by decide : "iterations" ≠ "max_steps")
  | maxSteps n => exact ⟨rfl, Node.toUInt64?_ofNat n⟩

end Testing.Line

namespace Settings

variable {nested : List Testing.Line}

/-- What the lines about bug finding set is read. -/
theorem ofTestingNode?_block (d : Document) (name : Key)
    (hnodup : (nested.map Testing.Line.name).Nodup) :
    ofTestingNode? d (Yaml.Entry.block name (nested.map (·.field))).value
      = some (Config.Line.testing nested).sets := by
  have hfields : d.fields? (Yaml.Entry.block name (nested.map (·.field))).value
      = some (nested.map fun l => (l.name, l.value)) := by
    rw [d.fields?_block, List.map_map]
    rfl
  have htwice : noneTwice Testing.fieldNames (nested.map fun l => (l.name, l.value)) = true :=
    noneTwice_map hnodup Testing.fieldNames
  have hseed := fileField_ofLines nested "seed" Node.toUInt64? Settings.seed rfl
    (fun _ _ => rfl) fun l _ => l.speaks_seed
  have hiterations := fileField_ofLines nested "iterations" Node.toUInt32? Settings.iterations rfl
    (fun _ _ => rfl) fun l _ => l.speaks_iterations
  have hmaxSteps := fileField_ofLines nested "max_steps" Node.toUInt64? Settings.maxSteps rfl
    (fun _ _ => rfl) fun l _ => l.speaks_maxSteps
  simp only [ofTestingNode?, hfields, (Option.guard_eq_some' ()).mpr htwice, hseed, hiterations,
    hmaxSteps, Option.bind_eq_bind, Option.bind_some]
  rfl

end Settings

namespace Config.Line

/-- The node of the value of a line. -/
def value (l : Config.Line) : Node := l.entry.value

/-- What a line sets about bug finding. -/
def testing? : Config.Line → Option Settings
  | testing nested => some (testing nested).sets
  | _ => none

theorem speaks_verbosity (l : Config.Line) :
    Settings.Speaks "verbosity" Node.toUInt8? l.name l.value l.sets.verbosity := by
  cases l with
  | verbosity n => exact ⟨rfl, Node.toUInt8?_ofNat n⟩
  | _ => simp [Settings.Speaks, name, entry, sets, Yaml.Entry.name]

theorem speaks_pauseOnFailure (l : Config.Line) :
    Settings.Speaks "pause_on_assertion_failure" Node.toBool? l.name l.value
      l.sets.pauseOnFailure := by
  cases l with
  | pauseOnFailure b => exact ⟨rfl, Node.toBool?_ofBool b⟩
  | _ => simp [Settings.Speaks, name, entry, sets, Yaml.Entry.name]

theorem speaks_mode (l : Config.Line) :
    Settings.Speaks "mode" (fun n => n.toCase?.bind Mode.ofText?) l.name l.value l.sets.mode := by
  cases l with
  | mode m => exact ⟨rfl, m.ofText?_word⟩
  | _ => simp [Settings.Speaks, name, entry, sets, Yaml.Entry.name]

theorem speaks_failurePolicy (l : Config.Line) :
    Settings.Speaks "failure_policy" (fun n => n.toCase?.bind FailurePolicy.ofText?) l.name l.value
      l.sets.failurePolicy := by
  cases l with
  | failurePolicy p => exact ⟨rfl, p.ofText?_word⟩
  | _ => simp [Settings.Speaks, name, entry, sets, Yaml.Entry.name]

theorem speaks_propagatePanics (l : Config.Line) :
    Settings.Speaks "propagate_panics" Node.toBool? l.name l.value l.sets.propagatePanics := by
  cases l with
  | propagatePanics b => exact ⟨rfl, Node.toBool?_ofBool b⟩
  | _ => simp [Settings.Speaks, name, entry, sets, Yaml.Entry.name]

theorem speaks_testing (d : Document) (l : Config.Line)
    (honce : ∀ nested, l = testing nested → (nested.map Testing.Line.name).Nodup) :
    Settings.Speaks "testing" (Settings.ofTestingNode? d) l.name l.value l.testing? := by
  cases l with
  | testing nested => exact ⟨rfl, Settings.ofTestingNode?_block d _ (honce nested rfl)⟩
  | _ => simp [Settings.Speaks, name, entry, testing?, Yaml.Entry.name]

theorem name_of_testing? {l : Config.Line} {s : Settings} (h : l.testing? = some s) :
    l.name = "testing" ∧ l.sets = s := by
  cases l with
  | testing nested => exact ⟨rfl, Option.some.inj h⟩
  | _ => simp [testing?] at h

/-- Other lines set nothing about bug finding. -/
theorem unset_of_testing? {l : Config.Line} (h : l.testing? = none) :
    l.sets.seed = none ∧ l.sets.iterations = none ∧ l.sets.maxSteps = none := by
  cases l with
  | testing nested => cases h
  | _ => exact ⟨rfl, rfl, rfl⟩

end Config.Line

/-- Of lines that are about different fields one at most is about bug finding, so that what it
sets is what is set about that. -/
theorem Settings.nested_eq {α : Type} {lines : List Config.Line}
    (hnodup : (lines.map Config.Line.name).Nodup) (field : Settings → Option α)
    (hnone : field {} = none)     (horElse : ∀ a b, field (a.orElse b) = (field a <|> field b))
    (hother : ∀ l : Config.Line, l.testing? = none → field l.sets = none) :
    field ((lines.findSome? Config.Line.testing?).getD {})
      = field (ofLines Config.Line.sets lines) := by
  induction lines with
  | nil => rfl
  | cons l lines ih =>
    obtain ⟨hnew, hnodup⟩ := List.nodup_cons.mp hnodup
    have hcons : ofLines Config.Line.sets (l :: lines)
        = l.sets.orElse (ofLines Config.Line.sets lines) := rfl
    rw [hcons, horElse]
    cases hl : l.testing? with
    | none => simpa [hl, hother l hl] using ih hnodup
    | some s =>
      obtain ⟨hname, hsets⟩ := Config.Line.name_of_testing? hl
      have hrest : ∀ l' ∈ lines, field l'.sets = none := by
        intro l' hl'
        cases htesting : l'.testing? with
        | none => exact hother l' htesting
        | some s' =>
          have hname' := (Config.Line.name_of_testing? htesting).1
          exact absurd (List.mem_map.mpr ⟨l', hl', hname'.trans hname.symm⟩) hnew
      have hfield : field (ofLines Config.Line.sets lines) = none := by
        rw [ofLines_eq hnone horElse]
        exact List.findSome?_eq_none_iff.mpr hrest
      simp [hl, hsets, hfield]

namespace Config.Sheet

variable (sheet : Config.Sheet)

/-- The fields of a sheet are found by their names. -/
theorem exists_document : ∃ d : Document, Document.ofText? sheet.text = some d ∧
    d.fields? d.root = some (sheet.lines.map fun l => (l.name, l.value)) := by
  cases hlines : sheet.lines with
  | nil =>
    refine ⟨{}, ?_, rfl⟩
    simp [text, hlines, Document.ofText?_textOf_nil]
  | cons l lines =>
    refine ⟨{ root := .mapping ((l :: lines).map fun l => l.entry.node) }, ?_, ?_⟩
    · have hread := Document.ofText?_textOf l.entry (lines.map (·.entry))
      simpa [text, hlines, Function.comp_def] using hread
    · have hfields := Document.fields?_mapping
        { root := .mapping ((l :: lines).map fun l => l.entry.node) } ((l :: lines).map (·.entry))
      rw [List.map_map, List.map_map] at hfields
      exact hfields

/-- What is read from a sheet is what its lines set. -/
theorem ofFileText?_text : Settings.ofFileText? sheet.text = some sheet.settings := by
  obtain ⟨d, hread, hfields⟩ := sheet.exists_document
  have htwice : Settings.noneTwice fieldNames (sheet.lines.map fun l => (l.name, l.value)) = true :=
    Settings.noneTwice_map sheet.once fieldNames
  have htesting : Settings.fileField (sheet.lines.map fun l => (l.name, l.value)) "testing"
      (Settings.ofTestingNode? d) = some (sheet.lines.findSome? Line.testing?) := by
    refine Settings.fileField_map fun l hl => l.speaks_testing d ?_
    rintro nested rfl
    exact sheet.nestedOnce nested hl
  have hverbosity := Settings.fileField_ofLines sheet.lines "verbosity" Node.toUInt8?
    Settings.verbosity rfl (fun _ _ => rfl) fun l _ => l.speaks_verbosity
  have hpause := Settings.fileField_ofLines sheet.lines "pause_on_assertion_failure" Node.toBool?
    Settings.pauseOnFailure rfl (fun _ _ => rfl) fun l _ => l.speaks_pauseOnFailure
  have hmode := Settings.fileField_ofLines sheet.lines "mode"
    (fun n => n.toCase?.bind Mode.ofText?) Settings.mode rfl (fun _ _ => rfl)
    fun l _ => l.speaks_mode
  have hpolicy := Settings.fileField_ofLines sheet.lines "failure_policy"
    (fun n => n.toCase?.bind FailurePolicy.ofText?) Settings.failurePolicy rfl (fun _ _ => rfl)
    fun l _ => l.speaks_failurePolicy
  have hpanics := Settings.fileField_ofLines sheet.lines "propagate_panics" Node.toBool?
    Settings.propagatePanics rfl (fun _ _ => rfl) fun l _ => l.speaks_propagatePanics
  have hseed := Settings.nested_eq sheet.once Settings.seed rfl (fun _ _ => rfl)
    fun _ hl => (Line.unset_of_testing? hl).1
  have hiterations := Settings.nested_eq sheet.once Settings.iterations rfl (fun _ _ => rfl)
    fun _ hl => (Line.unset_of_testing? hl).2.1
  have hmaxSteps := Settings.nested_eq sheet.once Settings.maxSteps rfl (fun _ _ => rfl)
    fun _ hl => (Line.unset_of_testing? hl).2.2
  simp only [Settings.ofFileText?, hread, Option.bind_some, Settings.ofDocument?, hfields,
    Option.bind_eq_bind, (Option.guard_eq_some' ()).mpr htwice, htesting, hverbosity, hpause, hmode,
    hpolicy, hpanics, hseed, hiterations, hmaxSteps]
  rfl

end Config.Sheet

/-! ## Saved configurations -/

/-- The lines of a saved configuration, one for each field. -/
def Config.sheet (c : Config) : Config.Sheet where
  lines :=
    [.verbosity c.verbosity, .pauseOnFailure c.pauseOnFailure, .mode c.mode,
      .failurePolicy c.failurePolicy, .propagatePanics c.propagatePanics,
      .testing
        [.seed c.testing.seed, .iterations c.testing.iterations, .maxSteps c.testing.maxSteps]]
  once := (by decide : fieldNames.Nodup)
  nestedOnce := by
    intro nested hnested
    have hlines : nested
        = [.seed c.testing.seed, .iterations c.testing.iterations,
            .maxSteps c.testing.maxSteps] := by
      simpa using hnested
    rw [hlines]
    exact (by decide : Testing.fieldNames.Nodup)

theorem Config.settings_sheet (c : Config) : c.sheet.settings = .ofConfig c := rfl

theorem Config.text_sheet (c : Config) : c.sheet.text = c.toFileText := by
  have hbool (b : Bool) : (Word.ofBool b).text = Settings.boolText b := by cases b <;> rfl
  have hmode : c.mode.word.text = c.mode.text := by cases c.mode <;> rfl
  have hpolicy : c.failurePolicy.word.text = c.failurePolicy.text := by
    cases c.failurePolicy <;> rfl
  apply String.toList_inj.mp
  simp [Config.Sheet.text, Config.sheet, Yaml.textOf, Config.Line.entry, Yaml.Entry.chars,
    Field.chars, Config.toFileText, Settings.toFileText, Settings.fileLine, Settings.ofConfig,
    Settings.testingLines, hbool, hmode, hpolicy, Testing.Line.field, Word.ofNat]

/-! ## Any files -/

/-- The value of a field: that which its node reads as, or the default if it has none. -/
def Settings.Reads (entries : List (String × Node)) (name : String) (read : Node → Option α)
    (default value : α) : Prop :=
  match entries.lookup name with
  | none => value = default
  | some node => read node = some value

theorem Settings.reads_iff {entries : List (String × Node)} {name : String}
    {read : Node → Option α} {default value : α} :
    Reads entries name read default value ↔
      ∃ set, fileField entries name read = some set ∧ set.getD default = value := by
  unfold Reads fileField
  cases entries.lookup name with
  | none => simp [eq_comm]
  | some node => cases hread : read node <;> simp [hread]

/-- The entries about bug finding. Without any there is no need for a mapping of them. -/
def Yaml.Document.Nests (d : Document) (top nested : List (String × Node)) : Prop :=
  match top.lookup "testing" with
  | none => nested = []
  | some node => d.fields? node = some nested

/-- A configuration is that of a file with these entries. -/
structure Config.ReadOff (top nested : List (String × Node)) (c : Config) : Prop where
  once : Settings.noneTwice fieldNames top = true
  nestedOnce : Settings.noneTwice Testing.fieldNames nested = true
  verbosity : Settings.Reads top "verbosity" Node.toUInt8? ({} : Config).verbosity c.verbosity
  pauseOnFailure : Settings.Reads top "pause_on_assertion_failure" Node.toBool?
    ({} : Config).pauseOnFailure c.pauseOnFailure
  mode : Settings.Reads top "mode" (fun n => n.toCase?.bind Mode.ofText?) ({} : Config).mode c.mode
  failurePolicy : Settings.Reads top "failure_policy"
    (fun n => n.toCase?.bind FailurePolicy.ofText?) ({} : Config).failurePolicy c.failurePolicy
  propagatePanics : Settings.Reads top "propagate_panics" Node.toBool?
    ({} : Config).propagatePanics c.propagatePanics
  seed : Settings.Reads nested "seed" Node.toUInt64? ({} : Testing).seed c.testing.seed
  iterations : Settings.Reads nested "iterations" Node.toUInt32? ({} : Testing).iterations
    c.testing.iterations
  maxSteps : Settings.Reads nested "max_steps" Node.toUInt64? ({} : Testing).maxSteps
    c.testing.maxSteps

theorem Settings.ofTestingNode?_eq_some {d : Document} {node : Node} {s : Settings} :
    ofTestingNode? d node = some s ↔ ∃ nested, d.fields? node = some nested ∧
      noneTwice Testing.fieldNames nested = true ∧
      ∃ seed iterations maxSteps, fileField nested "seed" Node.toUInt64? = some seed ∧
        fileField nested "iterations" Node.toUInt32? = some iterations ∧
        fileField nested "max_steps" Node.toUInt64? = some maxSteps ∧
        s = { seed, iterations, maxSteps } := by
  simp only [ofTestingNode?, Option.bind_eq_bind, Option.bind_eq_some_iff,
    Option.guard_eq_some']
  constructor
  · rintro ⟨nested, hfields, ⟨⟩, htwice, seed, hseed, iterations, hiterations, maxSteps, hmaxSteps,
      ⟨⟩⟩
    exact ⟨nested, hfields, htwice, seed, iterations, maxSteps, hseed, hiterations, hmaxSteps, rfl⟩
  · rintro ⟨nested, hfields, htwice, seed, iterations, maxSteps, hseed, hiterations, hmaxSteps, rfl⟩
    exact ⟨nested, hfields, (), htwice, seed, hseed, iterations, hiterations, maxSteps, hmaxSteps,
      rfl⟩

/-- What is set about bug finding is set by the entries about it. -/
theorem Settings.testing_iff {d : Document} {top : List (String × Node)} {s : Settings} :
    (∃ testing, fileField top "testing" (ofTestingNode? d) = some testing ∧ testing.getD {} = s) ↔
      ∃ nested, d.Nests top nested ∧ noneTwice Testing.fieldNames nested = true ∧
        ∃ seed iterations maxSteps, fileField nested "seed" Node.toUInt64? = some seed ∧
          fileField nested "iterations" Node.toUInt32? = some iterations ∧
          fileField nested "max_steps" Node.toUInt64? = some maxSteps ∧
          s = { seed, iterations, maxSteps } := by
  rw [← reads_iff]
  unfold Reads Document.Nests
  cases top.lookup "testing" with
  | some node => exact ofTestingNode?_eq_some
  | none =>
    constructor
    · rintro rfl
      exact ⟨[], rfl, rfl, none, none, none, rfl, rfl, rfl, rfl⟩
    · rintro ⟨_, rfl, -, _, _, _, ⟨⟩, ⟨⟩, ⟨⟩, rfl⟩
      rfl

/-- The configuration of a document is read off its entries. -/
theorem Config.readOff_iff {d : Document} {c : Config} :
    (∃ s, Settings.ofDocument? d = some s ∧ s.toConfig = c) ↔
      ∃ top nested, d.fields? d.root = some top ∧ d.Nests top nested ∧ c.ReadOff top nested := by
  simp only [Settings.ofDocument?, Option.bind_eq_bind, Option.bind_eq_some_iff,
    Option.guard_eq_some']
  constructor
  · rintro ⟨s, ⟨top, hfields, ⟨⟩, htwice, testing, htesting, verbosity, hverbosity, pause, hpause,
      mode, hmode, policy, hpolicy, panics, hpanics, ⟨⟩⟩, rfl⟩
    obtain ⟨nested, hnests, hnested, seed, iterations, maxSteps, hseed, hiterations, hmaxSteps,
      hs⟩ := Settings.testing_iff.mp ⟨testing, htesting, rfl⟩
    refine ⟨top, nested, hfields, hnests, ?_⟩
    rw [hs]
    exact
      { once := htwice
        nestedOnce := hnested
        verbosity := Settings.reads_iff.mpr ⟨verbosity, hverbosity, rfl⟩
        pauseOnFailure := Settings.reads_iff.mpr ⟨pause, hpause, rfl⟩
        mode := Settings.reads_iff.mpr ⟨mode, hmode, rfl⟩
        failurePolicy := Settings.reads_iff.mpr ⟨policy, hpolicy, rfl⟩
        propagatePanics := Settings.reads_iff.mpr ⟨panics, hpanics, rfl⟩
        seed := Settings.reads_iff.mpr ⟨seed, hseed, rfl⟩
        iterations := Settings.reads_iff.mpr ⟨iterations, hiterations, rfl⟩
        maxSteps := Settings.reads_iff.mpr ⟨maxSteps, hmaxSteps, rfl⟩ }
  · rintro ⟨top, nested, hfields, hnests, h⟩
    obtain ⟨verbosity, hverbosity, hverbosity'⟩ := Settings.reads_iff.mp h.verbosity
    obtain ⟨pause, hpause, hpause'⟩ := Settings.reads_iff.mp h.pauseOnFailure
    obtain ⟨mode, hmode, hmode'⟩ := Settings.reads_iff.mp h.mode
    obtain ⟨policy, hpolicy, hpolicy'⟩ := Settings.reads_iff.mp h.failurePolicy
    obtain ⟨panics, hpanics, hpanics'⟩ := Settings.reads_iff.mp h.propagatePanics
    obtain ⟨seed, hseed, hseed'⟩ := Settings.reads_iff.mp h.seed
    obtain ⟨iterations, hiterations, hiterations'⟩ := Settings.reads_iff.mp h.iterations
    obtain ⟨maxSteps, hmaxSteps, hmaxSteps'⟩ := Settings.reads_iff.mp h.maxSteps
    obtain ⟨testing, htesting, hs⟩ := Settings.testing_iff.mpr
      ⟨nested, hnests, h.nestedOnce, seed, iterations, maxSteps, hseed, hiterations, hmaxSteps, rfl⟩
    refine ⟨_, ⟨top, hfields, (), h.once, testing, htesting, verbosity, hverbosity, pause,
      hpause, mode, hmode, policy, hpolicy, panics, hpanics, rfl⟩, ?_⟩
    simp only [hs, Settings.toConfig, Settings.applyTo, hverbosity', hpause', hmode', hpolicy',
      hpanics', hseed', hiterations', hmaxSteps']

/-! ## Results -/

/-- The files after a text was written to a path. -/
def Files.write (files : Files) (path text : String) : Files := fun other =>
  if other = path then .ok text else files other

theorem Settings.ofFile_write (files : Files) (path text : String) :
    ofFile (files.write path text) path =
      match ofFileText? text with
      | some s => .ok s
      | none => .error (.malformed path "not a configuration") := by
  cases htext : ofFileText? text <;> simp [ofFile, Files.write, htext]

theorem Config.ofFile_write_sheet (files : Files) (path : String) (sheet : Config.Sheet) :
    ofFile (files.write path sheet.text) path = .ok sheet.settings.toConfig := by
  simp only [ofFile, Settings.ofFile_write, sheet.ofFileText?_text]
  rfl

theorem Config.ofFile_write_iff (files : Files) (path text : String) (c : Config) :
    ofFile (files.write path text) path = .ok c ↔
      ∃ d, Document.ofText? text = some d ∧
        ∃ s, Settings.ofDocument? d = some s ∧ s.toConfig = c := by
  have hread : Settings.ofFileText? text = (Document.ofText? text).bind Settings.ofDocument? := rfl
  simp only [ofFile, Settings.ofFile_write, hread]
  cases Document.ofText? text with
  | none => simp [Except.map]
  | some d => cases hset : Settings.ofDocument? d <;> simp [hset, Except.map]

/-- A saved configuration reads back as it was. A file whose lines set some of the fields, in
any order, is read for what they set, and all other fields have their defaults. And whatever
text a file holds, a configuration is read from it exactly if it is a document with a mapping
of fields, none of which it has twice; then those that are there have the values that they
read as, and those that are not have their defaults. -/
theorem Config.ofFile_saved (files : Files) (path : String) :
    (∀ c : Config, ofFile (files.write path c.toFileText) path = .ok c) ∧
      (∀ sheet : Config.Sheet,
        ofFile (files.write path sheet.text) path = .ok sheet.settings.toConfig) ∧
      ∀ text c, ofFile (files.write path text) path = .ok c ↔
        ∃ d top nested, Document.ofText? text = some d ∧ d.fields? d.root = some top ∧
          d.Nests top nested ∧ c.ReadOff top nested := by
  refine ⟨?_, ofFile_write_sheet files path, ?_⟩
  · intro c
    calc ofFile (files.write path c.toFileText) path
        = .ok c.sheet.settings.toConfig := by
          rw [← c.text_sheet]
          exact ofFile_write_sheet files path c.sheet
      _ = .ok c := by rw [c.settings_sheet, Settings.toConfig_ofConfig]
  · intro text c
    rw [ofFile_write_iff]
    simp only [readOff_iff]
    constructor
    · rintro ⟨d, hread, top, nested, h⟩
      exact ⟨d, top, nested, hread, h⟩
    · rintro ⟨d, top, nested, hread, h⟩
      exact ⟨d, hread, top, nested, h⟩

end PushdownActors
