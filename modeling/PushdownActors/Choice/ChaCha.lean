-- SUMMARY: The ChaCha generator with eight rounds, expanded from a 64-bit seed.

/-!
# A seeded generator of random words

The ChaCha stream cipher with eight rounds, used as a random number generator.
A 64-bit seed is expanded into the key by a small congruential generator. The
key and a block counter determine a block of sixteen words, and the words of all
blocks in order are the random words. A 64-bit number takes two of them, the low
half first.
-/

namespace PushdownActors

/-- A key, the number of the next block, and the words of earlier blocks that
were not used yet. -/
structure ChaCha where
  key : Vector UInt32 8
  block : UInt64
  buffered : List UInt32

namespace ChaCha

/-! ## Keys -/

def rotateRight (x : UInt32) (n : UInt32) : UInt32 :=
  if n % 32 = 0 then x else (x >>> (n % 32)) ||| (x <<< (32 - n % 32))

/-- The next state of the generator that expands seeds. -/
def expand (s : UInt64) : UInt64 :=
  s * 6364136223846793005 + 11634580027462260723

/-- The word that a state of the expanding generator stands for. -/
def scramble (s : UInt64) : UInt32 :=
  rotateRight (((s >>> 18) ^^^ s) >>> 27).toUInt32 (s >>> 59).toUInt32

def keyWords : Nat → UInt64 → List UInt32
  | 0, _ => []
  | n + 1, s => scramble (expand s) :: keyWords n (expand s)

theorem length_keyWords (n : Nat) (s : UInt64) : (keyWords n s).length = n := by
  induction n generalizing s with
  | zero => rfl
  | succ n ih => simp [keyWords, ih]

/-- The generator that a seed stands for. -/
def ofSeed (seed : UInt64) : ChaCha where
  key := ⟨(keyWords 8 seed).toArray, by simp [length_keyWords]⟩
  block := 0
  buffered := []

/-! ## Blocks -/

abbrev Block := Vector UInt32 16

def rotateLeft (x n : UInt32) : UInt32 :=
  (x <<< n) ||| (x >>> (32 - n))

def quarterRound (a b c d : Fin 16) (v : Block) : Block :=
  let v := v.set a (v[a] + v[b])
  let v := v.set d (rotateLeft (v[d] ^^^ v[a]) 16)
  let v := v.set c (v[c] + v[d])
  let v := v.set b (rotateLeft (v[b] ^^^ v[c]) 12)
  let v := v.set a (v[a] + v[b])
  let v := v.set d (rotateLeft (v[d] ^^^ v[a]) 8)
  let v := v.set c (v[c] + v[d])
  v.set b (rotateLeft (v[b] ^^^ v[c]) 7)

/-- One round on the columns and one on the diagonals. -/
def doubleRound (v : Block) : Block :=
  let v := quarterRound 0 4 8 12 v
  let v := quarterRound 1 5 9 13 v
  let v := quarterRound 2 6 10 14 v
  let v := quarterRound 3 7 11 15 v
  let v := quarterRound 0 5 10 15 v
  let v := quarterRound 1 6 11 12 v
  let v := quarterRound 2 7 8 13 v
  quarterRound 3 4 9 14 v

/-- The block before the rounds: four constants, the key, the counter with its
low word first, and two zeros. -/
def initialBlock (key : Vector UInt32 8) (counter : UInt64) : Block :=
  #v[0x61707865, 0x3320646e, 0x79622d32, 0x6b206574,
     key[0], key[1], key[2], key[3], key[4], key[5], key[6], key[7],
     counter.toUInt32, (counter >>> 32).toUInt32, 0, 0]

/-- The words of one block: the block after the rounds added to the one before. -/
def blockWords (key : Vector UInt32 8) (counter : UInt64) : List UInt32 :=
  let before := initialBlock key counter
  let after := doubleRound (doubleRound (doubleRound (doubleRound before)))
  List.zipWith (· + ·) before.toList after.toList

/-! ## Drawing -/

/-- The next word. -/
def nextWord (g : ChaCha) : UInt32 × ChaCha :=
  match g.buffered with
  | w :: rest => (w, { g with buffered := rest })
  | [] =>
    match blockWords g.key g.block with
    | w :: rest => (w, { g with block := g.block + 1, buffered := rest })
    | [] => (0, { g with block := g.block + 1 })

/-- The next 64-bit number. -/
def next (g : ChaCha) : UInt64 × ChaCha :=
  let (low, g) := g.nextWord
  let (high, g) := g.nextWord
  (low.toUInt64 ||| (high.toUInt64 <<< 32), g)

end ChaCha

end PushdownActors
