import TurtleSystems.Random.Source

/-!
# Words from a stream cipher

A seeded stream of words is the key stream of the ChaCha cipher with twelve
rounds.  The key is spread out of the seed by a permuted congruential
generator, the nonce is zero, and the blocks are counted from zero.
-/

namespace TurtleSystems

/-- The sixteen words that the cipher works on. -/
abbrev CipherBlock := Vector UInt32 16

namespace CipherBlock

/-- Rotate a word to the left by a number of bits between 1 and 31. -/
def rotateLeft (word bits : UInt32) : UInt32 :=
  (word <<< bits) ||| (word >>> (32 - bits))

def quarterRound (block : CipherBlock) (i j k l : Fin 16) : CipherBlock :=
  let a := block[i]
  let b := block[j]
  let c := block[k]
  let d := block[l]
  let a := a + b
  let d := rotateLeft (d ^^^ a) 16
  let c := c + d
  let b := rotateLeft (b ^^^ c) 12
  let a := a + b
  let d := rotateLeft (d ^^^ a) 8
  let c := c + d
  let b := rotateLeft (b ^^^ c) 7
  (((block.set i a).set j b).set k c).set l d

/-- Mix the columns and then the diagonals of a block. -/
def doubleRound (block : CipherBlock) : CipherBlock :=
  let block := block.quarterRound 0 4 8 12
  let block := block.quarterRound 1 5 9 13
  let block := block.quarterRound 2 6 10 14
  let block := block.quarterRound 3 7 11 15
  let block := block.quarterRound 0 5 10 15
  let block := block.quarterRound 1 6 11 12
  let block := block.quarterRound 2 7 8 13
  block.quarterRound 3 4 9 14

/-- The output of the cipher for a block: twelve rounds, added to the block. -/
def scramble (block : CipherBlock) : CipherBlock :=
  let mixed := (List.range 6).foldl (fun mixed _ => doubleRound mixed) block
  mixed.zipWith (· + ·) block

end CipherBlock

/-- A seeded stream of words: the key, the number of the next block, and the
words left of the current block. -/
structure CipherStream where
  key : Vector UInt32 8
  counter : UInt64
  pending : List UInt32

namespace CipherStream

/-- One step of the generator that spreads a seed, and the word it gives. -/
def spread (state : UInt64) : UInt32 × UInt64 :=
  let state := state * 6364136223846793005 + 11634580027462260723
  let word := (((state >>> 18) ^^^ state) >>> 27).toUInt32
  let turn := (state >>> 59).toUInt32
  let rotated :=
    if turn = 0 then word else (word >>> turn) ||| (word <<< (32 - turn))
  (rotated, state)

def ofSeed (seed : UInt64) : CipherStream :=
  let (k0, state) := spread seed
  let (k1, state) := spread state
  let (k2, state) := spread state
  let (k3, state) := spread state
  let (k4, state) := spread state
  let (k5, state) := spread state
  let (k6, state) := spread state
  let (k7, _) := spread state
  ⟨#v[k0, k1, k2, k3, k4, k5, k6, k7], 0, []⟩

/-- The block that the cipher turns into the next words. -/
def block (stream : CipherStream) : CipherBlock :=
  let key := stream.key
  #v[0x61707865, 0x3320646e, 0x79622d32, 0x6b206574,
    key[0], key[1], key[2], key[3], key[4], key[5], key[6], key[7],
    stream.counter.toUInt32, (stream.counter >>> 32).toUInt32, 0, 0]

def next (stream : CipherStream) : UInt32 × CipherStream :=
  match stream.pending with
  | word :: words => (word, { stream with pending := words })
  | [] =>
    let following := { stream with counter := stream.counter + 1 }
    match stream.block.scramble.toList with
    | word :: words => (word, { following with pending := words })
    | [] => (0, following)

instance : WordSource CipherStream where
  next := next

end CipherStream

end TurtleSystems
