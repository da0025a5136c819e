import Questionnaire.Random.Source

/-!
# Keystreams

A seeded survey draws its numbers from the keystream of the ChaCha cipher with eight rounds. The
seed is stretched to a key of eight words by a linear congruential generator with permuted output;
the stream is the sequence of the cipher's blocks with counters from zero on and no nonce, word by
word. A number below `n` is the high half of a word times `n`; words whose low half falls beyond the
greatest multiple of equal shares are passed over, so that every number is equally likely.
-/

namespace Questionnaire

/-- A keystream at some place. -/
structure Keystream where
  /-- The key. -/
  key : Vector UInt32 8
  /-- The counter of the next block. -/
  counter : UInt64
  /-- The words of the current block that are still to come. -/
  pending : List UInt32
deriving DecidableEq

namespace Keystream

/-! ## The cipher -/

/-- The word with its bits moved to the left in a circle. -/
def rotateLeft (word count : UInt32) : UInt32 :=
  word <<< count ||| word >>> (32 - count)

/-- The quarter round on four of the sixteen words of a block. -/
def quarterRound (block : Vector UInt32 16) (a b c d : Fin 16) : Vector UInt32 16 :=
  let block := block.set a (block[a] + block[b])
  let block := block.set d (rotateLeft (block[d] ^^^ block[a]) 16)
  let block := block.set c (block[c] + block[d])
  let block := block.set b (rotateLeft (block[b] ^^^ block[c]) 12)
  let block := block.set a (block[a] + block[b])
  let block := block.set d (rotateLeft (block[d] ^^^ block[a]) 8)
  let block := block.set c (block[c] + block[d])
  block.set b (rotateLeft (block[b] ^^^ block[c]) 7)

/-- A round on the columns of the block and one on its diagonals. -/
def doubleRound (block : Vector UInt32 16) : Vector UInt32 16 :=
  let block := quarterRound block 0 4 8 12
  let block := quarterRound block 1 5 9 13
  let block := quarterRound block 2 6 10 14
  let block := quarterRound block 3 7 11 15
  let block := quarterRound block 0 5 10 15
  let block := quarterRound block 1 6 11 12
  let block := quarterRound block 2 7 8 13
  quarterRound block 3 4 9 14

/-- The block that the rounds start from: four constants, the key, the counter, and no nonce. -/
def initialBlock (key : Vector UInt32 8) (counter : UInt64) : Vector UInt32 16 :=
  #v[0x61707865, 0x3320646e, 0x79622d32, 0x6b206574,
    key[0], key[1], key[2], key[3], key[4], key[5], key[6], key[7],
    counter.toUInt32, (counter >>> 32).toUInt32, 0, 0]

/-- The sixteen words of the stream that belong to a counter. -/
def blockWords (key : Vector UInt32 8) (counter : UInt64) : List UInt32 :=
  let start := initialBlock key counter
  let mixed := doubleRound (doubleRound (doubleRound (doubleRound start)))
  (Vector.zipWith (· + ·) mixed start).toList

/-! ## The stream -/

/-- One step of the generator that stretches a seed. -/
def stretchState (state : UInt64) : UInt64 :=
  state * 6364136223846793005 + 11634580027462260723

/-- The word that the generator gives in a state. -/
def stretchWord (state : UInt64) : UInt32 :=
  let shifted := (((state >>> 18) ^^^ state) >>> 27).toUInt32
  let turn := (state >>> 59).toUInt32
  shifted >>> turn ||| shifted <<< (32 - turn)

/-- The stream of a seed, at its start. -/
def ofSeed (seed : UInt64) : Keystream :=
  let s1 := stretchState seed
  let s2 := stretchState s1
  let s3 := stretchState s2
  let s4 := stretchState s3
  let s5 := stretchState s4
  let s6 := stretchState s5
  let s7 := stretchState s6
  let s8 := stretchState s7
  ⟨#v[stretchWord s1, stretchWord s2, stretchWord s3, stretchWord s4,
    stretchWord s5, stretchWord s6, stretchWord s7, stretchWord s8], 0, []⟩

/-- The next word and the stream after it. -/
def next (stream : Keystream) : UInt32 × Keystream :=
  match stream.pending with
  | word :: rest => (word, { stream with pending := rest })
  | [] =>
    match blockWords stream.key stream.counter with
    | word :: rest => (word, ⟨stream.key, stream.counter + 1, rest⟩)
    | [] => (0, stream)

/-! ## Numbers below a bound -/

/-- How many words are tried before one is taken whatever its low half. Each is passed over with a
chance below one half. -/
def attempts : Nat := 256

/-- The greatest low half at which a word is taken, for a bound from 1 up to `2 ^ 32 - 1`. -/
def acceptedBelow (bound : Nat) : Nat :=
  bound <<< (31 - bound.log2) - 1

/-- A number below the bound from at most `tries + 1` words, and the stream after them. -/
def drawWithin (bound : Nat) : Nat → Keystream → Nat × Keystream
  | 0, stream =>
    let (word, stream) := stream.next
    (word.toNat * bound / UInt32.size, stream)
  | tries + 1, stream =>
    let (word, stream) := stream.next
    if word.toNat * bound % UInt32.size ≤ acceptedBelow bound then
      (word.toNat * bound / UInt32.size, stream)
    else drawWithin bound tries stream

/-- The high half of a word times a bound is below the bound. -/
theorem high_half_lt (word : UInt32) {bound : Nat} (h : 0 < bound) :
    word.toNat * bound / UInt32.size < bound := by
  rw [Nat.div_lt_iff_lt_mul (by decide), Nat.mul_comm bound]
  exact Nat.mul_lt_mul_of_pos_right word.toNat_lt h

/-- What is drawn is below the bound. -/
theorem drawWithin_lt {bound : Nat} (h : 0 < bound) (tries : Nat) (stream : Keystream) :
    (drawWithin bound tries stream).1 < bound := by
  induction tries generalizing stream with
  | zero => exact high_half_lt _ h
  | succ tries ih =>
    simp only [drawWithin]
    split
    · exact high_half_lt _ h
    · exact ih _

/-- Keystreams are a source of draws. -/
instance : Source Keystream where
  below bound stream := drawWithin bound attempts stream
  below_lt _ stream h := drawWithin_lt h attempts stream

end Keystream

end Questionnaire
