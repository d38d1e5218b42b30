-- SUMMARY: A file of plain fields, each on its line and some of them in nested mappings, is read as the document that it looks like.
import Mathlib.Data.Option.Basic
import PushdownActors.Yaml.Read

/-!
# Flat documents

The simplest files hold one field on each line: a name, a colon and a value, both of them
words. A line may also hold a name alone, with the fields of a nested mapping indented
below it. What is proved here is that such a file is read for what it is.

A line is scanned in a few tokens, of which none looks further than to the next line. So
the tokens of a file are those of its lines, one after the other, and a mapping is opened
where the first of its lines begins. The parser then finds an entry in the tokens of each
line.
-/

namespace PushdownActors.Yaml

/-! ## Words -/

/-- Letters, digits and underscores. -/
def isPlain (c : Char) : Bool := c.isAlphanum || c == '_'

/-- A text of plain characters, of which there is at least one. -/
structure Word where
  text : String
  nonempty : text.toList ≠ []
  allPlain : text.toList.all isPlain = true

theorem Word.plain (w : Word) : ∀ c ∈ w.text.toList, isPlain c = true :=
  List.all_eq_true.mp w.allPlain

/-- A word that is not too long for a key. -/
structure Key extends Word where
  short : text.toList.length ≤ 1024

section Plain

variable {c : Char} (hc : isPlain c = true)
include hc

theorem isPlain.beq_eq_false {d : Char} (hd : isPlain d = false) : (c == d) = false := by
  refine beq_eq_false_iff_ne.mpr ?_
  rintro rfl
  rw [hc] at hd
  contradiction

theorem isPlain.isBreak_eq_false : isBreak c = false := by
  simp [isBreak, isPlain.beq_eq_false hc (d := '\n') rfl,
    isPlain.beq_eq_false hc (d := lineSeparator) rfl,
    isPlain.beq_eq_false hc (d := paragraphSeparator) rfl]

theorem isPlain.isBlank_eq_false : isBlank c = false := by
  simp [isBlank, isPlain.beq_eq_false hc (d := ' ') rfl, isPlain.beq_eq_false hc (d := '\t') rfl]

theorem isPlain.isMarker_eq_false (rest : List Char) : isMarker (c :: rest) = false := by
  unfold isMarker
  split
  · rename_i heq
    cases heq
    exact absurd hc (by decide)
  · rename_i heq
    cases heq
    exact absurd hc (by decide)
  · rfl

theorem isPlain.isAdmitted : isAdmitted c = true := by
  -- Letters and digits are in three ranges of printable characters, and so is the underscore.
  have hrange {low high : Char} (hlow : 0x20 ≤ low.toNat) (hhigh : high.toNat ≤ 0x7E)
      (h : c.val ≥ low.val ∧ c.val ≤ high.val) : 0x20 ≤ c.toNat ∧ c.toNat ≤ 0x7E :=
    ⟨Nat.le_trans hlow (UInt32.le_iff_toNat_le.mp h.1),
      Nat.le_trans (UInt32.le_iff_toNat_le.mp h.2) hhigh⟩
  have hboth {p q : Prop} [Decidable p] [Decidable q] (h : (decide p && decide q) = true) :
      p ∧ q := by
    simpa using h
  have hprintable : 0x20 ≤ c.toNat ∧ c.toNat ≤ 0x7E := by
    rcases Bool.or_eq_true_iff.mp hc with hword | hunderscore
    · rcases Bool.or_eq_true_iff.mp hword with hletter | hdigit
      · rcases Bool.or_eq_true_iff.mp hletter with hupper | hlower
        · exact hrange (by decide : 0x20 ≤ 'A'.toNat) (by decide : 'Z'.toNat ≤ 0x7E)
            (of_decide_eq_true hupper)
        · exact hrange (by decide : 0x20 ≤ 'a'.toNat) (by decide : 'z'.toNat ≤ 0x7E)
            (hboth hlower)
      · exact hrange (by decide : 0x20 ≤ '0'.toNat) (by decide : '9'.toNat ≤ 0x7E)
          (hboth hdigit)
    · have hc : c = '_' := by simpa using hunderscore
      rw [hc]
      decide
  simp [Yaml.isAdmitted, hprintable]

end Plain

/-- A word may come next, and nothing else but the end. -/
def BeginsPlain (cs : List Char) : Prop := ∀ c ∈ cs.head?, isPlain c = true

theorem BeginsPlain.cases {cs : List Char} (h : BeginsPlain cs) :
    cs = [] ∨ ∃ c rest, cs = c :: rest ∧ isPlain c = true := by
  cases cs with
  | nil => exact .inl rfl
  | cons c rest => exact .inr ⟨c, rest, rfl, h c rfl⟩

theorem Word.beginsPlain (w : Word) (rest : List Char) : BeginsPlain (w.text.toList ++ rest) := by
  cases hchars : w.text.toList with
  | nil => exact absurd hchars w.nonempty
  | cons c cs =>
    rintro d ⟨⟩
    exact w.plain c (by simp [hchars])

/-! ## Lines -/

/-- A field that is a word. -/
structure Field where
  name : Key
  value : Word

namespace Field

/-- The line of a field, without its indentation. -/
def chars (f : Field) : List Char :=
  f.name.text.toList ++ ':' :: ' ' :: f.value.text.toList ++ ['\n']

theorem beginsPlain (f : Field) (rest : List Char) : BeginsPlain (f.chars ++ rest) := by
  simpa [chars] using f.name.beginsPlain
    (':' :: ' ' :: (f.value.text.toList ++ '\n' :: rest))

def tokens (f : Field) : List Token :=
  [.key, .scalar .plain f.name.text, .value, .scalar .plain f.value.text]

def node (f : Field) : Node × Node :=
  (.scalar none .plain f.name.text, .scalar none .plain f.value.text)

end Field

/-- A field that is a word or a mapping of words. -/
inductive Entry where
  | field (f : Field)
  | block (name : Key) (fields : List Field)

namespace Entry

/-- The lines of an entry. -/
def chars : Entry → List Char
  | field f => f.chars
  | block name fields =>
    name.text.toList ++ ':' :: '\n' :: fields.flatMap fun f => ' ' :: ' ' :: f.chars

theorem beginsPlain (e : Entry) (rest : List Char) : BeginsPlain (e.chars ++ rest) := by
  cases e with
  | field f => exact f.beginsPlain rest
  | block name fields =>
    simpa [chars] using name.beginsPlain
      (':' :: '\n' :: (fields.flatMap (fun f => ' ' :: ' ' :: f.chars) ++ rest))

theorem beginsPlain_flatMap (entries : List Entry) : BeginsPlain (entries.flatMap chars) := by
  cases entries with
  | nil => rintro c ⟨⟩
  | cons e entries => exact e.beginsPlain (entries.flatMap chars)

def name : Entry → Key
  | field f => f.name
  | block name _ => name

/-- The tokens behind the colon of an entry. -/
def valueTokens : Entry → List Token
  | field f => [.scalar .plain f.value.text]
  | block _ [] => []
  | block _ (f :: fields) => .mappingStart :: (f :: fields).flatMap Field.tokens ++ [.blockEnd]

def tokens (e : Entry) : List Token :=
  .key :: .scalar .plain e.name.text :: .value :: e.valueTokens

/-- The value of an entry. A mapping without any field is left out. -/
def value : Entry → Node
  | field f => .scalar none .plain f.value.text
  | block _ [] => .blank
  | block _ (f :: fields) => .mapping ((f :: fields).map Field.node)

def node (e : Entry) : Node × Node := (.scalar none .plain e.name.text, e.value)

/-- How many tokens of an entry are written. -/
def steps : Entry → Nat
  | field _ => 3
  | block _ fields => 2 + 3 * fields.length

end Entry

/-- How many tokens of all entries are written. -/
def stepsOf (entries : List Entry) : Nat := entries.foldr (·.steps + ·) 0

/-- The text of a file with these entries. -/
def textOf (entries : List Entry) : String := .ofList (entries.flatMap Entry.chars)

/-! ## Scalars -/

section Scalars

variable {cs : List Char} (hcs : ∀ c ∈ cs, isPlain c = true)
include hcs

theorem plainText_plain : plainText cs = .ofList cs := by
  have hdrop : cs.reverse.dropWhile isBlank = cs.reverse := by
    cases hreverse : cs.reverse with
    | nil => rfl
    | cons c rest =>
      have hc : isPlain c = true := hcs c (List.mem_reverse.mp (by simp [hreverse]))
      simp [isPlain.isBlank_eq_false hc]
  have hfolded : folded (.blanks []) (cs.map .ofChar) = cs := by
    clear hdrop
    induction cs with
    | nil => rfl
    | cons c rest ih =>
      have hc : isPlain c = true := hcs c List.mem_cons_self
      have hpiece : Piece.ofChar c = .text c := by
        simp [Piece.ofChar, isPlain.isBreak_eq_false hc, isPlain.isBlank_eq_false hc]
      simp only [List.map_cons, hpiece, folded, Gap.text, List.nil_append]
      exact congrArg (c :: ·) (ih fun d hd => hcs d (List.mem_cons_of_mem c hd))
  simp only [plainText, hdrop, List.reverse_reverse, foldedText, hfolded]

/-- A word ends with its line, or at a colon that a word cannot go on behind. -/
theorem spanPlain?_plain (c : Char) (rest : List Char)
    (hends : (isBreak c || c == ':' && endsWord rest) = true) :
    spanPlain? false (cs ++ c :: rest) = some (cs, c :: rest) := by
  induction cs with
  | nil => simp [spanPlain?, hends]
  | cons d cs ih =>
    have hd : isPlain d = true := hcs d List.mem_cons_self
    have hrest := ih fun e he => hcs e (List.mem_cons_of_mem d he)
    simp [spanPlain?, isPlain.isBreak_eq_false hd, isPlain.isBlank_eq_false hd,
      isPlain.beq_eq_false hd (d := ':') rfl, hrest]

/-- A word before a colon. -/
theorem plain?_key {rest : List Char} (hrest : endsWord rest = true) (margin lines : Nat) :
    plain? false margin (lines + 1) (cs ++ ':' :: rest) = some (cs, ':' :: rest, false) := by
  have hspan := spanPlain?_plain hcs ':' rest (by simp [hrest])
  simp [plain?, hspan, endsLine, isBreak, lineSeparator, paragraphSeparator]

end Scalars

/-! What separates a word from the next line is a line break, and the blanks that the next
line is indented by. -/

section Indentation

theorem tabBefore_spaces (margin column n : Nat) :
    tabBefore margin column (List.replicate n ' ') = false := by
  induction n generalizing column with
  | zero => rfl
  | succ n ih =>
    have hspace : isBreak ' ' = false := by decide
    simp [List.replicate_succ, tabBefore, hspace, ih]

theorem columnAfter_break (n : Nat) : columnAfter ('\n' :: List.replicate n ' ') = n := by
  have hspace : isBlank ' ' = true := by decide
  have hbreak : isBlank '\n' = false := by decide
  simp [columnAfter, hspace, hbreak]

/-- What may separate two lines. -/
def isGap (c : Char) : Bool := isBlank c || isBreak c

/-- A line break and an indentation end where a word begins. -/
theorem BeginsPlain.gap {next : List Char} (hnext : BeginsPlain next) (n : Nat) :
    ('\n' :: (List.replicate n ' ' ++ next)).takeWhile isGap = '\n' :: List.replicate n ' ' ∧
      ('\n' :: (List.replicate n ' ' ++ next)).dropWhile isGap = next := by
  have hbreak : isGap '\n' = true := by decide
  have hspaces : ∀ c ∈ List.replicate n ' ', isGap c = true := by
    intro c hc
    simp only [List.eq_of_mem_replicate hc]
    decide
  have hstop : next.takeWhile isGap = [] ∧ next.dropWhile isGap = next := by
    rcases hnext.cases with rfl | ⟨c, rest, rfl, hc⟩
    · exact ⟨rfl, rfl⟩
    · have hgap : isGap c = false := by
        simp [isGap, isPlain.isBreak_eq_false hc, isPlain.isBlank_eq_false hc]
      simp [hgap]
  simp [hbreak, List.takeWhile_append_of_pos hspaces, List.dropWhile_append_of_pos hspaces, hstop]

end Indentation

/-- A word that its line ends with. What is indented no further than to the margin is not
part of it. -/
theorem plain?_value {cs next : List Char} (hcs : ∀ c ∈ cs, isPlain c = true)
    (hnext : BeginsPlain next) {margin indent : Nat} (hindent : indent < margin) (lines : Nat) :
    plain? false margin (lines + 1) (cs ++ '\n' :: (List.replicate indent ' ' ++ next))
      = some (cs, next, true) := by
  have hspan := spanPlain?_plain hcs '\n' (List.replicate indent ' ' ++ next) rfl
  obtain ⟨hgap, hdrop⟩ := hnext.gap indent
  have htab : tabBefore margin 0 ('\n' :: List.replicate indent ' ') = false :=
    tabBefore_spaces margin 0 indent
  have hline : endsLine ('\n' :: (List.replicate indent ' ' ++ next)) = true := rfl
  have hisGap : (fun c => isBlank c || isBreak c) = isGap := rfl
  have hguard : (guard True : Option Unit) = some () := (Option.guard_eq_some' ()).mpr trivial
  simp [plain?, hspan, hisGap, hline, hgap, hdrop, htab, hguard, columnAfter_break, hindent]

/-! ## Scanning -/

/-- A position moves on along its line. -/
theorem Mark.after_of_plain {cs : List Char} (h : ∀ c ∈ cs, isBreak c = false) (m : Mark) :
    m.after cs = { m with column := m.column + cs.length } := by
  induction cs generalizing m with
  | nil => rfl
  | cons c cs ih =>
    have hc : m.next c = { m with column := m.column + 1 } := by
      simp [Mark.next, h c List.mem_cons_self]
    calc m.after (c :: cs)
        = (m.next c).after cs := rfl
      _ = { m.next c with column := (m.next c).column + cs.length } :=
        ih (fun d hd => h d (List.mem_cons_of_mem c hd)) (m.next c)
      _ = { m with column := m.column + (cs.length + 1) } := by
        simp only [hc, Nat.add_assoc, Nat.add_comm 1 cs.length]

theorem Mark.after_append (m : Mark) (cs ds : List Char) :
    m.after (cs ++ ds) = (m.after cs).after ds := List.foldl_append

theorem isBreak_of_mem_spaces {n : Nat} : ∀ c ∈ List.replicate n ' ', isBreak c = false := by
  intro c hc
  simp only [List.eq_of_mem_replicate hc]
  decide

theorem Mark.after_gap (m : Mark) (n : Nat) :
    m.after ('\n' :: List.replicate n ' ') = { line := m.line + 1, column := n } := by
  have hbreak : m.next '\n' = { line := m.line + 1, column := 0 } := rfl
  calc m.after ('\n' :: List.replicate n ' ')
      = (m.next '\n').after (List.replicate n ' ') := rfl
    _ = { line := m.line + 1, column := n } := by
      simp [hbreak, after_of_plain isBreak_of_mem_spaces]

namespace Scan

variable {s t u : Scan} {m n : Nat}

/-- The scan goes from one state to another with so many tokens. -/
def Goes (n : Nat) (s t : Scan) : Prop := ∀ steps, tokens? (steps + n) s = tokens? steps t

theorem Goes.refl (s : Scan) : Goes 0 s s := fun _ => rfl

theorem Goes.trans (hst : Goes m s t) (htu : Goes n t u) : Goes (m + n) s u := by
  intro steps
  calc tokens? (steps + (m + n)) s
      = tokens? (steps + n + m) s := by simp only [Nat.add_assoc, Nat.add_comm n m]
    _ = tokens? (steps + n) t := hst _
    _ = tokens? steps u := htu _

theorem moveTo_append (s : Scan) (cs rest : List Char) :
    { s with rest := cs ++ rest }.moveTo rest = { s with rest, mark := s.mark.after cs } := by
  simp [moveTo]

/-- A state outside of brackets and between two tokens. -/
def between (rest : List Char) (mark : Mark) (tokens : List Token) (indents : List Nat)
    (keyAllowed : Bool) : Scan :=
  { rest, mark, tokens, count := tokens.length, indents, keyAllowed }

section Between

variable {rest next : List Char} {mark : Mark} {tokens : List Token} {indents : List Nat}
  {keyAllowed : Bool}

theorem skipGap_plain (hnext : BeginsPlain next) :
    skipGap false false keyAllowed next = (keyAllowed, next) := by
  rcases hnext.cases with rfl | ⟨c, rest, rfl, hc⟩
  · rfl
  · simp [skipGap, isPlain.isBreak_eq_false hc, isPlain.beq_eq_false hc (d := ' ') rfl,
      isPlain.beq_eq_false hc (d := '\t') rfl, isPlain.beq_eq_false hc (d := '#') rfl]

theorem skipGap_spaces (hnext : BeginsPlain next) (n : Nat) :
    skipGap false false keyAllowed (List.replicate n ' ' ++ next) = (keyAllowed, next) := by
  induction n with
  | zero => exact skipGap_plain hnext
  | succ n ih =>
    have hspace : isBreak ' ' = false := by decide
    simpa [List.replicate_succ, skipGap, hspace] using ih

theorem toToken_between (cs : List Char) (mark : Mark) (tokens : List Token)
    (indents : List Nat) {allowed : Bool}
    (hskip : skipGap false false keyAllowed (cs ++ next) = (allowed, next)) :
    (between (cs ++ next) mark tokens indents keyAllowed).toToken
      = between next (mark.after cs) tokens indents allowed := by
  have hmove : (between (cs ++ next) mark tokens indents keyAllowed).moveTo next
      = between next (mark.after cs) tokens indents keyAllowed :=
    moveTo_append (between [] mark tokens indents keyAllowed) cs next
  have hskip : skipGap (between (cs ++ next) mark tokens indents keyAllowed).isBracketed false
      (between (cs ++ next) mark tokens indents keyAllowed).keyAllowed
      (between (cs ++ next) mark tokens indents keyAllowed).rest = (allowed, next) := hskip
  simp only [toToken, hskip, hmove]
  rfl

/-- A word is a token's beginning, and so is the end of the text. -/
theorem toToken_plain (hnext : BeginsPlain next) :
    (between next mark tokens indents keyAllowed).toToken
      = between next mark tokens indents keyAllowed :=
  toToken_between [] mark tokens indents (skipGap_plain hnext)

theorem goes_of_toToken (h : s.toToken = t) (ht : t.toToken = t) : Goes 0 s t := by
  rintro (_ | steps)
  · rfl
  · simp only [tokens?, h, ht]

/-- Blanks in front of a word are passed over. -/
theorem goes_spaces (mark : Mark) (tokens : List Token) (indents : List Nat) (keyAllowed : Bool)
    (hnext : BeginsPlain next) (n : Nat) :
    Goes 0 (between (List.replicate n ' ' ++ next) mark tokens indents keyAllowed)
      (between next { mark with column := mark.column + n } tokens indents keyAllowed) := by
  have hmark : mark.after (List.replicate n ' ') = { mark with column := mark.column + n } := by
    simp [Mark.after_of_plain isBreak_of_mem_spaces]
  have hskip : skipGap false false keyAllowed (List.replicate n ' ' ++ next) = (keyAllowed, next) :=
    skipGap_spaces hnext n
  have hthere := toToken_between (List.replicate n ' ') mark tokens indents hskip
  rw [hmark] at hthere
  exact goes_of_toToken hthere (toToken_plain hnext)

/-- A line that ends behind a colon is left. -/
theorem goes_break (mark : Mark) (tokens : List Token) (indents : List Nat)
    (hnext : BeginsPlain next) (n : Nat) :
    Goes 0 (between ('\n' :: List.replicate n ' ' ++ next) mark tokens indents false)
      (between next { line := mark.line + 1, column := n } tokens indents true) := by
  have hskip : skipGap false false false ('\n' :: List.replicate n ' ' ++ next) = (true, next) :=
    skipGap_spaces hnext n
  have hthere := toToken_between ('\n' :: List.replicate n ' ') mark tokens indents hskip
  rw [Mark.after_gap] at hthere
  exact goes_of_toToken hthere (toToken_plain hnext)

/-- The end of a nested mapping is seen where a line begins further to the left. -/
theorem goes_outdent (line : Nat) (tokens : List Token) (hnext : BeginsPlain next) :
    Goes 0 (between next { line, column := 0 } tokens [2, 0] true)
      (between next { line, column := 0 } (.blockEnd :: tokens) [0] true) := by
  rintro (_ | steps)
  · rfl
  · simp only [tokens?, toToken_plain hnext]
    rfl

end Between

/-! ### Tokens -/

theorem token?_plain {c : Char} {rest : List Char} (hc : isPlain c = true)
    (hrest : s.rest = c :: rest) (hs : s.isBracketed = false) : s.token? = s.plain? := by
  have hne {d : Char} (hd : isPlain d = false) : (c == d) = false := isPlain.beq_eq_false hc hd
  have hbegins : beginsPlain false (c :: rest) = true := by
    have hindicators : indicators.contains c = false := by
      simp (disch := decide) only [indicators, List.contains_cons, List.contains_nil, hne,
        Bool.or_false]
    simp (disch := decide) only [beginsPlain, hne, hindicators, isPlain.isBlank_eq_false hc,
      isPlain.isBreak_eq_false hc, Bool.false_eq_true, if_false, Bool.or_false, Bool.not_false,
      Bool.and_self]
  simp (disch := decide) only [token?, hrest, hs, isPlain.isMarker_eq_false hc, hbegins, hne,
    Bool.and_false, Bool.false_and, Bool.false_eq_true, if_false, if_true]

section Word

variable (w : Word) {rest : List Char}

theorem token?_word (hrest : s.rest = w.text.toList ++ rest) (hs : s.isBracketed = false) :
    s.token? = s.plain? := by
  cases hchars : w.text.toList with
  | nil => exact absurd hchars w.nonempty
  | cons c cs =>
    have hc : isPlain c = true := w.plain c (by simp [hchars])
    exact token?_plain hc (by simpa [hchars] using hrest) hs

theorem after_word (mark : Mark) :
    mark.after w.text.toList = { mark with column := mark.column + w.text.toList.length } :=
  Mark.after_of_plain (fun c hc => isPlain.isBreak_eq_false (w.plain c hc)) mark

theorem plainText_word : plainText w.text.toList = w.text := by
  simp [plainText_plain w.plain]

end Word

section Tokens

variable {more next : List Char} {mark : Mark} {tokens : List Token} {indents : List Nat}

theorem plain?_eq {cs rest : List Char} {ended : Bool} (hsave : s.saveKey? = some t)
    (hread : Yaml.plain? t.isBracketed t.margin (t.rest.length + 1) t.rest
      = some (cs, rest, ended)) :
    s.plain?
      = some { (t.moveTo rest).push (.scalar .plain (plainText cs)) with keyAllowed := ended } := by
  simp [plain?, hsave, hread]

/-- The column that the next line has to reach to be inside. -/
def marginOf : List Nat → Nat
  | [] => 0
  | column :: _ => column + 1

/-- The open collections behind a key at a column. -/
def opened (column : Nat) (indents : List Nat) : List Nat :=
  if marginOf indents ≤ column then column :: indents else indents

/-- The token that opens a mapping in front of a key at a column, unless it is open. -/
def opening (column : Nat) (indents : List Nat) : List Token :=
  if marginOf indents ≤ column then [.mappingStart] else []

/-- A key that may have begun here. -/
def possibleKey (mark : Mark) (tokens : List Token) (indents : List Nat) : PossibleKey :=
  { count := tokens.length, mark, required := indents.head? == some mark.column }

/-- The state behind a word that may be a key. -/
def behindKey (k : Key) (more : List Char) (mark : Mark) (tokens : List Token)
    (indents : List Nat) : Scan :=
  { between (':' :: more) { mark with column := mark.column + k.text.toList.length }
      (.scalar .plain k.text :: tokens) indents false with
    key := some (possibleKey mark tokens indents) }

theorem token?_key (k : Key) (hmore : endsWord more = true) :
    (between (k.text.toList ++ ':' :: more) mark tokens indents true).token?
      = some (behindKey k more mark tokens indents) := by
  let saved : Scan := { between (k.text.toList ++ ':' :: more) mark tokens indents true with
    key := some (possibleKey mark tokens indents) }
  have hread : Yaml.plain? saved.isBracketed saved.margin (saved.rest.length + 1) saved.rest
      = some (k.text.toList, ':' :: more, false) := plain?_key k.plain hmore _ _
  have hmove : saved.moveTo (':' :: more)
      = { saved with rest := ':' :: more, mark := mark.after k.text.toList } :=
    moveTo_append saved k.text.toList (':' :: more)
  calc (between (k.text.toList ++ ':' :: more) mark tokens indents true).token?
      = (between (k.text.toList ++ ':' :: more) mark tokens indents true).plain? :=
        token?_word k.toWord rfl rfl
    _ = some { (saved.moveTo (':' :: more)).push (.scalar .plain (plainText k.text.toList)) with
          keyAllowed := false } := plain?_eq rfl hread
    _ = some (behindKey k more mark tokens indents) := by
      rw [hmove, after_word k.toWord, plainText_word k.toWord]
      rfl

theorem token?_value (w : Word) (hnext : BeginsPlain next) {indent : Nat}
    (hindent : indent < marginOf indents) :
    (between (w.text.toList ++ '\n' :: (List.replicate indent ' ' ++ next)) mark tokens indents
        false).token?
      = some (between next { line := mark.line + 1, column := indent }
          (.scalar .plain w.text :: tokens) indents true) := by
  let s := between (w.text.toList ++ '\n' :: (List.replicate indent ' ' ++ next)) mark tokens
    indents false
  let gap := '\n' :: List.replicate indent ' '
  have hread : Yaml.plain? s.isBracketed s.margin (s.rest.length + 1) s.rest
      = some (w.text.toList, next, true) := plain?_value w.plain hnext hindent _
  have hmark : mark.after (w.text.toList ++ gap) = { line := mark.line + 1, column := indent } := by
    rw [Mark.after_append, after_word w, Mark.after_gap]
  have hmove : s.moveTo next
      = { s with rest := next, mark := mark.after (w.text.toList ++ gap) } := by
    have hsplit : s = { s with rest := (w.text.toList ++ gap) ++ next } := by
      simp [s, between, gap]
    rw [hsplit]
    exact moveTo_append s (w.text.toList ++ gap) next
  calc s.token?
      = s.plain? := token?_word w rfl rfl
    _ = some { (s.moveTo next).push (.scalar .plain (plainText w.text.toList)) with
          keyAllowed := true } := plain?_eq rfl hread
    _ = _ := by
      rw [hmove, hmark, plainText_word w]
      rfl

/-- A colon behind a key. It opens a mapping if the key is further to the right than what is
open. -/
theorem token?_colon (k : Key) (hmore : endsWord more = true) :
    (behindKey k more mark tokens indents).token?
      = some (between more { mark with column := mark.column + k.text.toList.length + 1 }
          (.value :: .scalar .plain k.text :: .key :: (opening mark.column indents ++ tokens))
          (opened mark.column indents) false) := by
  have hmarker : isMarker (':' :: more) = false := rfl
  have hvalue : (behindKey k more mark tokens indents).token?
      = (behindKey k more mark tokens indents).value? := by
    simp [token?, behindKey, between, hmarker, hmore]
  have hreaches : (possibleKey mark tokens indents).reaches
      { mark with column := mark.column + k.text.toList.length } = true :=
    Bool.and_eq_true_iff.mpr
      ⟨beq_self_eq_true _, decide_eq_true (Nat.add_le_add_left k.short _)⟩
  -- The key token is put in front of the scalar, and the mapping that it may open in front of both.
  have hinsert : (behindKey k more mark tokens indents).insert tokens.length .key
      = { behindKey k more mark tokens indents with
          tokens := .scalar .plain k.text :: .key :: tokens, count := tokens.length + 2 } := by
    simp [Scan.insert, behindKey, between]
  have hopen : ({ behindKey k more mark tokens indents with
        tokens := .scalar .plain k.text :: .key :: tokens
        count := tokens.length + 2 } : Scan).openAt mark.column tokens.length .mappingStart
      = { behindKey k more mark tokens indents with
          tokens := .scalar .plain k.text :: .key :: (opening mark.column indents ++ tokens)
          count := (opening mark.column indents).length + tokens.length + 2
          indents := opened mark.column indents } := by
    have hmargin (s : Scan) : s.margin = marginOf s.indents := rfl
    by_cases h : marginOf indents ≤ mark.column <;>
      simp [openAt, isBracketed, hmargin, behindKey, between, Scan.insert, opening, opened, h,
        Nat.add_comm 1]
  have hskip (s : Scan) (h : s.rest = ':' :: more) :
      s.skip 1 = { s with rest := more, mark := { s.mark with column := s.mark.column + 1 } } := by
    have hcolon : isBreak ':' = false := by decide
    simp [skip, moveTo, h, Mark.after, Mark.next, hcolon]
  calc (behindKey k more mark tokens indents).token?
      = (behindKey k more mark tokens indents).value? := hvalue
    _ = some { ((((behindKey k more mark tokens indents).insert tokens.length .key).openAt
          mark.column tokens.length .mappingStart).skip 1).push .value with
          key := none, keyAllowed := false } := if_pos hreaches
    _ = _ := by
      rw [hinsert, hopen, hskip _ rfl]
      simp [behindKey, between, push]

end Tokens

/-! ### Lines -/

section Lines

variable {more next : List Char} {mark : Mark} {tokens : List Token} {indents outer : List Nat}
  {column line indent : Nat}

theorem goes_token (htoken : s.toToken = s) (hrest : s.rest.isEmpty = false)
    (hclose : s.closeTo s.mark.column = s) (h : s.token? = some t) : Goes 1 s t := by
  intro steps
  simp only [tokens?, htoken, hrest, hclose, h, Option.bind_some, Bool.false_eq_true, if_false]

/-- Nothing is open to the right of the column. -/
def Inside (indents : List Nat) (column : Nat) : Prop :=
  ∀ innermost ∈ indents.head?, innermost ≤ column

theorem Inside.closeTo (h : Inside s.indents column) : s.closeTo column = s := by
  have hclosed : s.indents.takeWhile (column < ·) = [] ∧
      s.indents.dropWhile (column < ·) = s.indents := by
    cases hindents : s.indents with
    | nil => exact ⟨rfl, rfl⟩
    | cons innermost outer =>
      have hle : innermost ≤ column := h innermost (by simp [hindents])
      have hlt : decide (column < innermost) = false := by simp [hle]
      simp [hlt]
  simp [Scan.closeTo, closeWhile, hclosed]

theorem goes_key (mark : Mark) (tokens : List Token) (k : Key) {more : List Char}
    (hmore : endsWord more = true) (hinside : Inside indents mark.column) :
    Goes 2 (between (k.text.toList ++ ':' :: more) mark tokens indents true)
      (between more { mark with column := mark.column + k.text.toList.length + 1 }
        (.value :: .scalar .plain k.text :: .key :: (opening mark.column indents ++ tokens))
        (opened mark.column indents) false) := by
  have hcolon : (behindKey k more mark tokens indents).toToken
      = behindKey k more mark tokens indents := by
    have hbreak : isBreak ':' = false := by decide
    simp [toToken, behindKey, between, skipGap, hbreak, moveTo, Mark.after]
  have hinside' : Inside indents (mark.column + k.text.toList.length) :=
    fun column hcolumn => Nat.le_trans (hinside column hcolumn) (Nat.le_add_right _ _)
  have hword : Goes 1 (between (k.text.toList ++ ':' :: more) mark tokens indents true)
      (behindKey k more mark tokens indents) :=
    goes_token (toToken_plain (k.beginsPlain _)) (by simp [between]) hinside.closeTo
      (token?_key k hmore)
  exact hword.trans (goes_token hcolon rfl hinside'.closeTo (token?_colon k hmore))

theorem goes_value (mark : Mark) (tokens : List Token) (w : Word) (hnext : BeginsPlain next)
    (hindent : indent < marginOf indents) (hinside : Inside indents mark.column) :
    Goes 1 (between (' ' :: w.text.toList ++ '\n' :: (List.replicate indent ' ' ++ next)) mark
        tokens indents false)
      (between next { line := mark.line + 1, column := indent }
        (.scalar .plain w.text :: tokens) indents true) := by
  have hinside' : Inside indents (mark.column + 1) :=
    fun column hcolumn => Nat.le_trans (hinside column hcolumn) (Nat.le_add_right _ _)
  have hblank := goes_spaces mark tokens indents false
    (w.beginsPlain ('\n' :: (List.replicate indent ' ' ++ next))) 1
  exact hblank.trans (goes_token (toToken_plain (w.beginsPlain _)) (by simp [between])
    hinside'.closeTo (token?_value w hnext hindent))

theorem goes_field (mark : Mark) (tokens : List Token) (f : Field) (hnext : BeginsPlain next)
    (hindent : indent ≤ mark.column)
    (hopened : opened mark.column indents = mark.column :: outer)
    (hinside : Inside indents mark.column) :
    Goes 3 (between (f.chars ++ (List.replicate indent ' ' ++ next)) mark tokens indents true)
      (between next { line := mark.line + 1, column := indent }
        (f.tokens.reverse ++ (opening mark.column indents ++ tokens)) (mark.column :: outer)
        true) := by
  let behind := { mark with column := mark.column + f.name.text.toList.length + 1 }
  let value := ' ' :: f.value.text.toList ++ '\n' :: (List.replicate indent ' ' ++ next)
  have hvalued : endsWord value = true := rfl
  have hkey := goes_key mark tokens f.name hvalued hinside
  have hinside' : Inside (mark.column :: outer) behind.column := by
    rintro column ⟨⟩
    exact Nat.le_trans (Nat.le_add_right _ _) (Nat.le_add_right _ _)
  have hmargin : indent < marginOf (mark.column :: outer) := Nat.lt_succ_of_le hindent
  have hvalue := goes_value behind
    (.value :: .scalar .plain f.name.text :: .key :: (opening mark.column indents ++ tokens))
    f.value hnext hmargin hinside'
  rw [hopened] at hkey
  simpa [Field.chars, Field.tokens, value] using hkey.trans hvalue

/-- The lines of a nested mapping, from the first of them on. -/
theorem goes_fields (line : Nat) (tokens : List Token) (f : Field) (fields : List Field)
    (hnext : BeginsPlain next) (hindents : indents = [0] ∨ indents = [2, 0]) :
    Goes (3 * (f :: fields).length)
      (between (f.chars ++ (fields.flatMap (fun f => ' ' :: ' ' :: f.chars) ++ next))
        { line, column := 2 } tokens indents true)
      (between next { line := line + (f :: fields).length, column := 0 }
        (((f :: fields).flatMap Field.tokens).reverse ++ (opening 2 indents ++ tokens)) [2, 0]
        true) := by
  have hopened : opened 2 indents = [2, 0] := by
    rcases hindents with rfl | rfl <;> rfl
  have hinside : Inside indents 2 := by
    rcases hindents with rfl | rfl <;> rintro column ⟨⟩ <;> decide
  induction fields generalizing f indents line tokens with
  | nil =>
    have hlast := goes_field { line, column := 2 } tokens f hnext (Nat.zero_le 2) hopened hinside
    simpa using hlast
  | cons f' fields ih =>
    have hfirst := goes_field { line, column := 2 } tokens f
      (f'.beginsPlain (fields.flatMap (fun f => ' ' :: ' ' :: f.chars) ++ next))
      (Nat.le_refl 2) hopened hinside
    have hrest := ih (line + 1) (f.tokens.reverse ++ (opening 2 indents ++ tokens)) f' (.inr rfl)
      rfl (by rintro column ⟨⟩; decide)
    have hboth := hfirst.trans hrest
    have hcount : 3 * (f :: f' :: fields).length = 3 + 3 * (f' :: fields).length := by
      simp only [List.length_cons]
      omega
    have hline : line + (f :: f' :: fields).length = line + 1 + (f' :: fields).length := by
      simp only [List.length_cons]
      omega
    have hopening : opening 2 [2, 0] = [] := rfl
    rw [hcount, hline]
    simpa [hopening, List.replicate_succ] using hboth

/-- The lines of an entry. Of a nested mapping the end is not written, but it shows where the
next line begins. -/
theorem goes_entry (tokens : List Token) (e : Entry) (hnext : BeginsPlain next)
    (hindents : indents = [] ∨ indents = [0]) (line : Nat) :
    ∃ line', Goes e.steps (between (e.chars ++ next) { line, column := 0 } tokens indents true)
      (between next { line := line', column := 0 }
        (e.tokens.reverse ++ (opening 0 indents ++ tokens)) [0] true) := by
  have hopened : opened 0 indents = [0] := by
    rcases hindents with rfl | rfl <;> rfl
  have hinside : Inside indents 0 := by
    rcases hindents with rfl | rfl <;> rintro column ⟨⟩
    exact Nat.le_refl _
  cases e with
  | field f =>
    have hline := goes_field { line, column := 0 } tokens f hnext (Nat.le_refl 0) hopened hinside
    exact ⟨line + 1, hline⟩
  | block name fields =>
    have hbroken (more : List Char) : endsWord ('\n' :: more) = true := rfl
    have hkey (more : List Char) :=
      goes_key { line, column := 0 } tokens name (hbroken more) hinside
    simp only [hopened] at hkey
    let behind : Mark := { line, column := 0 + name.text.toList.length + 1 }
    let written := .value :: .scalar .plain name.text :: .key :: (opening 0 indents ++ tokens)
    cases fields with
    | nil =>
      have hbreak := goes_break behind written [0] hnext 0
      refine ⟨line + 1, ?_⟩
      simpa [Entry.chars, Entry.tokens, Entry.name, Entry.valueTokens, Entry.steps, written]
        using (hkey next).trans hbreak
    | cons f fields =>
      let lines := fields.flatMap (fun f => ' ' :: ' ' :: f.chars) ++ next
      have hbreak := goes_break behind written [0] (f.beginsPlain lines) 2
      have hfields := goes_fields (line + 1) written f fields hnext (.inl rfl)
      have hend := goes_outdent (line + 1 + (f :: fields).length)
        (((f :: fields).flatMap Field.tokens).reverse ++ (opening 2 [0] ++ written)) hnext
      have hopening : opening 2 [0] = [.mappingStart] := rfl
      refine ⟨line + 1 + (f :: fields).length, ?_⟩
      simpa [Entry.chars, Entry.tokens, Entry.name, Entry.valueTokens, Entry.steps, lines, hopening,
        written, List.replicate_succ] using (hkey _).trans (hbreak.trans (hfields.trans hend))

/-- The lines of all entries behind the first. -/
theorem goes_entries (tokens : List Token) (entries : List Entry) (line : Nat) :
    ∃ line', Goes (stepsOf entries)
      (between (entries.flatMap Entry.chars) { line, column := 0 } tokens [0] true)
      (between [] { line := line', column := 0 } ((entries.flatMap Entry.tokens).reverse ++ tokens)
        [0] true) := by
  induction entries generalizing line tokens with
  | nil => exact ⟨line, Goes.refl _⟩
  | cons e entries ih =>
    obtain ⟨line', hentry⟩ := goes_entry tokens e
      (Entry.beginsPlain_flatMap entries) (.inr rfl) line
    obtain ⟨line'', hrest⟩ := ih (e.tokens.reverse ++ (opening 0 [0] ++ tokens)) line'
    have hopening : opening 0 [0] = [] := rfl
    have hsteps : stepsOf (e :: entries) = e.steps + stepsOf entries := rfl
    refine ⟨line'', ?_⟩
    simpa [hopening, hsteps] using hentry.trans hrest

end Lines

end Scan

/-! ### Texts -/

/-- The characters of words and of what stands around them. -/
def isSimple (c : Char) : Bool := isPlain c || c == ':' || c == ' ' || c == '\n'

theorem isSimple_of_word (w : Word) : ∀ c ∈ w.text.toList, isSimple c = true := by
  intro c hc
  simp [isSimple, w.plain c hc]

theorem isSimple_of_field (f : Field) : ∀ c ∈ f.chars, isSimple c = true := by
  intro c hc
  simp only [Field.chars, List.append_assoc, List.mem_append, List.mem_cons, List.cons_append,
    List.not_mem_nil, or_false] at hc
  rcases hc with hc | rfl | rfl | hc | rfl
  · exact isSimple_of_word f.name.toWord c hc
  · decide
  · decide
  · exact isSimple_of_word f.value c hc
  · decide

theorem isSimple_of_entry (e : Entry) : ∀ c ∈ e.chars, isSimple c = true := by
  cases e with
  | field f => exact isSimple_of_field f
  | block name fields =>
    intro c hc
    simp only [Entry.chars, List.mem_append, List.mem_cons, List.mem_flatMap] at hc
    rcases hc with hc | rfl | rfl | ⟨f, -, rfl | rfl | hc⟩
    · exact isSimple_of_word name.toWord c hc
    · decide
    · decide
    · decide
    · decide
    · exact isSimple_of_field f c hc

theorem isAdmitted_of_isSimple {c : Char} (h : isSimple c = true) : isAdmitted c = true := by
  simp only [isSimple, Bool.or_eq_true, beq_iff_eq] at h
  rcases h with ((h | rfl) | rfl) | rfl
  · exact isPlain.isAdmitted h
  · decide
  · decide
  · decide

theorem unifyBreaks_of_isSimple {cs : List Char} (h : ∀ c ∈ cs, isSimple c = true) :
    unifyBreaks cs = cs := by
  induction cs with
  | nil => rfl
  | cons c cs ih =>
    have hc : isSimple c = true := h c List.mem_cons_self
    have hrest : unifyBreaks cs = cs := ih fun d hd => h d (List.mem_cons_of_mem c hd)
    have hreturn : c ≠ '\r' := by
      rintro rfl
      exact absurd hc (by decide)
    have hnext : c ≠ nextLine := by
      rintro rfl
      exact absurd hc (by decide)
    simp [unifyBreaks, hreturn, hnext, hrest]

theorem Entry.steps_le (e : Entry) : e.steps ≤ e.chars.length := by
  cases e with
  | field f =>
    simp only [steps, chars, Field.chars, List.length_append, List.length_cons]
    omega
  | block name fields =>
    have hfields : 3 * fields.length
        ≤ (fields.flatMap fun f => ' ' :: ' ' :: f.chars).length := by
      induction fields with
      | nil => exact Nat.le_refl _
      | cons f fields ih =>
        simp only [List.flatMap_cons, List.length_append, List.length_cons, Field.chars] at ih ⊢
        omega
    simp only [steps, chars, List.length_append, List.length_cons]
    omega

theorem stepsOf_le (entries : List Entry) :
    stepsOf entries ≤ (entries.flatMap Entry.chars).length := by
  induction entries with
  | nil => exact Nat.le_refl _
  | cons e entries ih =>
    have he := e.steps_le
    simp only [stepsOf, List.foldr_cons, List.flatMap_cons, List.length_append] at ih ⊢
    omega

theorem isSimple_of_mem {entries : List Entry} :
    ∀ c ∈ entries.flatMap Entry.chars, isSimple c = true := by
  intro c hc
  obtain ⟨e, -, hc⟩ := List.mem_flatMap.mp hc
  exact isSimple_of_entry e c hc

/-- Nothing has to be done with a text of simple characters before it is scanned. -/
theorem ofText?_of_isSimple {cs : List Char} (h : ∀ c ∈ cs, isSimple c = true) :
    Token.ofText? (.ofList cs)
      = Scan.tokens? (cs.length + 1) (.between cs { line := 0, column := 0 } [] [] true) := by
  have hadmitted : cs.all isAdmitted = true :=
    List.all_eq_true.mpr fun c hc => isAdmitted_of_isSimple (h c hc)
  have hstart : Scan.ofText cs = .between cs { line := 0, column := 0 } [] [] true := by
    cases cs with
    | nil => rfl
    | cons c rest =>
      have hmark : c ≠ byteOrderMark := by
        rintro rfl
        exact absurd (h _ List.mem_cons_self) (by decide)
      simp [Scan.ofText, hmark, Scan.between]
  simp only [Token.ofText?, String.toList_ofList, hadmitted, if_true, unifyBreaks_of_isSimple h,
    hstart]

/-- At the end of the text the outermost mapping is closed. -/
theorem Scan.tokens?_end (steps line : Nat) (tokens : List Token) :
    tokens? (steps + 1) (between [] { line, column := 0 } tokens [0] true)
      = some (.blockEnd :: tokens).reverse := by
  have hend : BeginsPlain [] := by rintro c ⟨⟩
  simp only [tokens?, toToken_plain hend]
  rfl

/-- The tokens of a file are those of its lines. -/
theorem tokens_textOf (e : Entry) (entries : List Entry) :
    Token.ofText? (textOf (e :: entries))
      = some (.mappingStart :: (e :: entries).flatMap Entry.tokens ++ [.blockEnd]) := by
  let cs := (e :: entries).flatMap Entry.chars
  let steps := e.steps + stepsOf entries
  have hopening : Scan.opening 0 [] = [.mappingStart] := rfl
  obtain ⟨line, hfirst⟩ := Scan.goes_entry [] e
    (Entry.beginsPlain_flatMap entries) (.inl rfl) 0
  obtain ⟨line', hrest⟩ := Scan.goes_entries
    (e.tokens.reverse ++ (Scan.opening 0 [] ++ [])) entries line
  have hsteps : cs.length + 1 = cs.length - steps + 1 + steps := by
    have hle : steps ≤ cs.length := stepsOf_le (e :: entries)
    omega
  calc Token.ofText? (textOf (e :: entries))
      = Scan.tokens? (cs.length + 1) (.between cs { line := 0, column := 0 } [] [] true) :=
        ofText?_of_isSimple isSimple_of_mem
    _ = Scan.tokens? (cs.length - steps + 1) (.between [] { line := line', column := 0 }
          ((entries.flatMap Entry.tokens).reverse
            ++ (e.tokens.reverse ++ (Scan.opening 0 [] ++ []))) [0] true) := by
        rw [hsteps]
        exact (hfirst.trans hrest) _
    _ = _ := Scan.tokens?_end _ _ _
    _ = _ := by simp [hopening]

/-! ## Reading -/

namespace Reading

variable {r : Reading} {rest : List Token} {block indentless : Bool} {ends : List Token}

theorem node?_scalar (r : Reading) (rest : List Token) (block indentless : Bool) (steps : Nat)
    (style : Style) (text : String) :
    node? block indentless (steps + 2) { r with tokens := .scalar style text :: rest }
      = some (.scalar none style text, { r with tokens := rest }) := by
  simp [node?, content?, properties, tag?, define, keep]

/-- The tokens that end an entry that is left out. -/
def entryEnds : List Token := [.key, .value, .blockEnd]

theorem nodeUnless?_scalar (r : Reading) (rest : List Token) (steps : Nat) (style : Style)
    (text : String) :
    nodeUnless? true true entryEnds (steps + 3) { r with tokens := .scalar style text :: rest }
      = some (.scalar none style text, { r with tokens := rest }) := by
  simp [nodeUnless?, nextIs, entryEnds, node?_scalar]

theorem entries?_end (r : Reading) (rest : List Token) (steps : Nat) :
    entries? (steps + 1) { r with tokens := .blockEnd :: rest }
      = some ([], { r with tokens := rest }) := by
  simp [entries?]

theorem entries?_cons {name : String} {v : Node} {after : Reading}
    {entries : List (Node × Node)} {left : Reading} (r : Reading) (rest : List Token) (steps : Nat)
    (hvalue : valueUnless? true true entryEnds (steps + 3) { r with tokens := rest }
      = some (v, after))
    (hrest : entries? (steps + 3) after = some (entries, left)) :
    entries? (steps + 4) { r with tokens := .key :: .scalar .plain name :: rest }
      = some ((.scalar none .plain name, v) :: entries, left) := by
  have hname := nodeUnless?_scalar r rest steps .plain name
  rw [entryEnds] at hname hvalue
  rw [entries?]
  simp [hname, hvalue, hrest]

theorem valueUnless?_scalar (r : Reading) (rest : List Token) (steps : Nat) (style : Style)
    (text : String) :
    valueUnless? true true entryEnds (steps + 4)
        { r with tokens := .value :: .scalar style text :: rest }
      = some (.scalar none style text, { r with tokens := rest }) := by
  have hnode := nodeUnless?_scalar r rest steps style text
  simp [valueUnless?, nextIs, Reading.drop, hnode]

theorem entries?_fields (r : Reading) (rest : List Token) (fields : List Field) {steps : Nat}
    (hsteps : fields.length + 4 ≤ steps) :
    entries? (steps + 1) { r with tokens := fields.flatMap Field.tokens ++ .blockEnd :: rest }
      = some (fields.map Field.node, { r with tokens := rest }) := by
  induction fields generalizing steps with
  | nil => exact entries?_end r rest steps
  | cons f fields ih =>
    obtain ⟨steps, rfl⟩ : ∃ n, steps = n + 4 := ⟨steps - 4, by omega⟩
    have hsteps : fields.length + 4 ≤ steps + 3 := by
      simp only [List.length_cons] at hsteps
      omega
    have hrest := ih hsteps
    have hvalue := valueUnless?_scalar r (fields.flatMap Field.tokens ++ .blockEnd :: rest)
      steps .plain f.value.text
    simpa [Field.tokens, Field.node] using entries?_cons r _ (steps + 1) hvalue hrest

theorem valueUnless?_mapping (r : Reading) (rest : List Token) (fields : List Field) {steps : Nat}
    (hsteps : fields.length + 4 ≤ steps) :
    valueUnless? true true entryEnds (steps + 5)
        { r with
          tokens := .value :: .mappingStart :: fields.flatMap Field.tokens ++ .blockEnd :: rest }
      = some (.mapping (fields.map Field.node), { r with tokens := rest }) := by
  have hentries := entries?_fields r rest fields hsteps
  simp [valueUnless?, nodeUnless?, node?, content?, properties, tag?, define, keep, nextIs,
    Reading.drop, entryEnds, hentries]

/-- Behind an entry there is another one, or the end of the mapping. -/
theorem nextIs_entryEnds (r : Reading) (rest : List Token) (entries : List Entry) :
    nextIs { r with tokens := entries.flatMap Entry.tokens ++ .blockEnd :: rest } entryEnds
      = true := by
  cases entries <;> rfl

theorem valueUnless?_entry (r : Reading) (rest : List Token) (e : Entry) (entries : List Entry)
    {steps : Nat} (hsteps : e.tokens.length ≤ steps) :
    valueUnless? true true entryEnds (steps + 5)
        { r with tokens := .value :: e.valueTokens
            ++ (entries.flatMap Entry.tokens ++ .blockEnd :: rest) }
      = some (e.value, { r with tokens := entries.flatMap Entry.tokens ++ .blockEnd :: rest }) := by
  let more := entries.flatMap Entry.tokens ++ .blockEnd :: rest
  cases e with
  | field f => exact valueUnless?_scalar r more (steps + 1) .plain f.value.text
  | block name fields =>
    cases fields with
    | nil =>
      have hnext : nextIs { r with tokens := more } entryEnds = true :=
        nextIs_entryEnds r rest entries
      have hvalue : nextIs { r with tokens := .value :: more } [.value] = true := rfl
      simp only [more] at hnext hvalue
      simp only [Entry.valueTokens, Entry.value, List.cons_append, List.nil_append, valueUnless?,
        nodeUnless?, hvalue, hnext, if_true, Reading.drop, List.drop_succ_cons, List.drop_zero]
    | cons f fields =>
      have hlength : (f :: fields).length + 4 ≤ steps := by
        have hfields (fields : List Field) :
            (fields.flatMap Field.tokens).length = 4 * fields.length := by
          induction fields with
          | nil => rfl
          | cons f fields ih =>
            simp only [List.flatMap_cons, List.length_append, ih, Field.tokens, List.length_cons,
              List.length_nil]
            omega
        simp only [Entry.tokens, Entry.valueTokens, List.length_cons, List.length_append, hfields,
          List.length_nil] at hsteps ⊢
        omega
      simpa [Entry.valueTokens, Entry.value] using
        valueUnless?_mapping r more (f :: fields) hlength

theorem entries?_entries (r : Reading) (rest : List Token) (entries : List Entry) {steps : Nat}
    (hsteps : (entries.flatMap Entry.tokens).length + 5 ≤ steps) :
    entries? (steps + 1) { r with tokens := entries.flatMap Entry.tokens ++ .blockEnd :: rest }
      = some (entries.map Entry.node, { r with tokens := rest }) := by
  induction entries generalizing steps with
  | nil => exact entries?_end r rest steps
  | cons e entries ih =>
    simp only [List.flatMap_cons, List.length_append] at hsteps
    obtain ⟨steps, rfl⟩ : ∃ n, steps = n + 5 := ⟨steps - 5, by omega⟩
    have hlength : 3 ≤ e.tokens.length := by
      simp only [Entry.tokens, List.length_cons]
      omega
    have he : e.tokens.length ≤ steps := by omega
    have hmore : (entries.flatMap Entry.tokens).length + 5 ≤ steps + 4 := by omega
    have hvalue := valueUnless?_entry r rest e entries he
    have hrest := ih hmore
    simpa [Entry.tokens, Entry.node] using entries?_cons r _ (steps + 2) hvalue hrest

end Reading

/-- A file is read as the mapping of its entries. -/
theorem Document.ofText?_textOf (e : Entry) (entries : List Entry) :
    Document.ofText? (textOf (e :: entries))
      = some { root := .mapping ((e :: entries).map Entry.node) } := by
  let tokens := (e :: entries).flatMap Entry.tokens ++ [Token.blockEnd]
  let r : Reading := { tokens := [], handles := Reading.standardHandles }
  have hsteps : ((e :: entries).flatMap Entry.tokens).length + 5 ≤ 4 * tokens.length + 5 := by
    simp only [tokens, List.length_append]
    omega
  have hentries := Reading.entries?_entries r [] (e :: entries) hsteps
  have hnode : Reading.node? true false (4 * tokens.length + 8)
        { r with tokens := .mappingStart :: tokens }
      = some (.mapping ((e :: entries).map Entry.node), r) := by
    have hmore : Reading.content? true false (4 * tokens.length + 7) {} none
          { r with tokens := .mappingStart :: tokens }
        = some (.mapping ((e :: entries).map Entry.node), r) := by
      simp only [Reading.content?, tokens, if_true, hentries, Option.map_some]
      rfl
    simp [Reading.node?, Reading.properties, Reading.tag?, Reading.define, Reading.keep, hmore]
  have hroot : Reading.root? (.mappingStart :: tokens)
      = some (.mapping ((e :: entries).map Entry.node), r) := by
    have hsteps : 4 * (tokens.length + 1) + 4 = 4 * tokens.length + 8 := by omega
    simp only [Reading.root?, Reading.directives?, Option.bind_eq_bind, Option.bind_some,
      List.nil_append, List.length_cons, hsteps, Nat.lt_irrefl, if_false]
    exact hnode
  have hread : Document.ofTokens? (.mappingStart :: tokens)
      = some { root := .mapping ((e :: entries).map Entry.node) } := by
    have hguard : (guard True : Option Unit) = some () := (Option.guard_eq_some' ()).mpr trivial
    simp [Document.ofTokens?, hroot, hguard, r]
  calc Document.ofText? (textOf (e :: entries))
      = Document.ofTokens? (.mappingStart :: tokens) := by
        simp only [Document.ofText?, tokens_textOf, Option.bind_some, tokens]
        rfl
    _ = _ := hread

/-- A file without entries is empty. -/
theorem Document.ofText?_textOf_nil : Document.ofText? (textOf []) = some {} := rfl

end PushdownActors.Yaml
