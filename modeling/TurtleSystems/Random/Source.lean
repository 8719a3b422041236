/-!
# Random numbers from a stream of words

Every random choice is made from a stream of 32-bit words.  A uniform choice
multiplies a word by the number of possibilities and keeps the high part;
words that would favour some possibilities are thrown away and drawn again.
Drawing again may never end, so it is given a budget, and a draw beyond its
budget has no result.
-/

namespace TurtleSystems

/-- A stream of 32-bit words. -/
class WordSource (σ : Type) where
  next : σ → UInt32 × σ

/-- The words of a list; after them, the states of a linear congruential
generator that starts at zero. -/
structure ListedWords where
  words : List UInt32
  state : UInt32

/-- The given words in front of the generated ones. -/
def ListedWords.ofList (words : List UInt32) : ListedWords := ⟨words, 0⟩

instance : WordSource ListedWords where
  next
    | ⟨word :: words, state⟩ => (word, ⟨words, state⟩)
    | ⟨[], state⟩ =>
      let state := state * 1664525 + 1013904223
      (state, ⟨[], state⟩)

/-- A draw from a stream: what it gives and the stream after it, or nothing
if the budget was used up. -/
abbrev Draw (σ α : Type) := StateT σ Option α

namespace Draw

variable {σ : Type} [WordSource σ]

/-- One word as a number. -/
@[inline]
def word32 (source : σ) : Nat × σ :=
  let (word, source) := WordSource.next source
  (word.toNat, source)

/-- Two words as one number, the low half first. -/
@[inline]
def word64 (source : σ) : Nat × σ :=
  let (low, source) := WordSource.next source
  let (high, source) := WordSource.next source
  (high.toNat * UInt32.size + low.toNat, source)

/-- The number of zero bits in front of a number that is not zero, written
with the given number of bits. -/
def leadingZeros (bits number : Nat) : Nat :=
  bits - (Nat.log2 number + 1)

end Draw

/-- A choice among `count` possibilities, made from numbers below `modulus`.
Of the remainders that the product of a number and `count` can leave, as many
are accepted as give every possibility the same chance. -/
structure Choice where
  count : Nat
  modulus : Nat
  accepted : Nat
  deriving DecidableEq, Repr

/-- The choice among `count` possibilities from numbers of the given number of
bits. -/
def Choice.ofBits (bits count : Nat) : Choice where
  count := count
  modulus := Nat.pow 2 bits
  accepted := count * Nat.pow 2 (Draw.leadingZeros bits count)

namespace Draw

variable {σ : Type} [WordSource σ]

/-- Make a choice.  At most `budget` numbers are drawn for it. -/
@[specialize]
def below (draw : σ → Nat × σ) (choice : Choice) :
    (budget : Nat) → Draw σ Nat
  | 0, _ => none
  | budget + 1, source =>
    let (number, source) := draw source
    let product := number * choice.count
    if product % choice.modulus < choice.accepted then
      some (product / choice.modulus, source)
    else below draw choice budget source

/-- Make a choice from single words. -/
@[specialize]
def below32 (budget : Nat) (choice : Choice) : Draw σ Nat :=
  below word32 choice budget

/-- Make a choice from pairs of words. -/
@[specialize]
def below64 (budget : Nat) (choice : Choice) : Draw σ Nat :=
  below word64 choice budget

end Draw

end TurtleSystems
