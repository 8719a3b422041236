import TurtleSystems.Text

/-!
# Readers

A reader takes a part off the front of a text, or fails.  Readers are put
together in sequence, by ordered choice and by greedy repetition, and what
was chosen or repeated is never taken back.  A reader that fails takes
nothing, but it knows how far into the text the parts stand that it tried in
vain: a fault is reported at the furthest of them.
-/

namespace TurtleSystems

/-- A place in a text: what follows it, and the number of characters in front
of it. -/
structure Place where
  rest : Text
  offset : Nat
  deriving DecidableEq, Repr

/-- A part of a text with the numbers of characters in front of it and up to
its end. -/
structure Located (α : Type) where
  value : α
  start : Nat
  stop : Nat
  deriving DecidableEq, Repr

/-- What reading at a place comes to: what was read and the place behind it,
and the offset of the furthest part that could not be read. -/
structure Attempt (α : Type) where
  result : Option (α × Place)
  furthest : Nat

/-- A reader of a part of a text. -/
def Reader (α : Type) : Type := Place → Attempt α

namespace Place

/-- The place in front of a whole text. -/
def first (text : Text) : Place := ⟨text, 0⟩

/-- Behind the characters from here on that pass a test. -/
def passing (test : Char → Bool) : Text → (offset : Nat) → Place
  | [], offset => ⟨[], offset⟩
  | character :: rest, offset =>
    if test character then passing test rest (offset + 1)
    else ⟨character :: rest, offset⟩

end Place

namespace Reader

variable {α β : Type}

/-- Go on behind what a reader has read. -/
def andThen (reader : Reader α) (next : α → Reader β) : Reader β :=
  fun place =>
    let first := reader place
    match first.result with
    | none => ⟨none, first.furthest⟩
    | some (value, after) =>
      let second := next value after
      ⟨second.result, max first.furthest second.furthest⟩

instance : Monad Reader where
  pure value := fun place => ⟨some (value, place), 0⟩
  bind := andThen

/-- Of two readers the first that does not fail. -/
def either (first second : Reader α) : Reader α := fun place =>
  let attempt := first place
  match attempt.result with
  | some _ => attempt
  | none =>
    let other := second place
    ⟨other.result, max attempt.furthest other.furthest⟩

/-- What a reader reads, or nothing where it fails. -/
def optional (reader : Reader α) : Reader (Option α) :=
  either (some <$> reader) (pure none)

/-- The rounds of `many`.  There is at most one for each character of
`bound`; `found` holds what the rounds before have read, in reverse. -/
def manyFrom (reader : Reader α) :
    (bound : Text) → (found : List α) → (furthest : Nat) → Reader (List α)
  | [], found, furthest, place => ⟨some (found.reverse, place), furthest⟩
  | _ :: bound, found, furthest, place =>
    let attempt := reader place
    let furthest := max furthest attempt.furthest
    match attempt.result with
    | none => ⟨some (found.reverse, place), furthest⟩
    | some (value, after) =>
      manyFrom reader bound (value :: found) furthest after

/-- Read one part after the other until the reader fails.  Every part has to
have a character, so a text has rounds enough in its own characters and one
for the failure. -/
def many (reader : Reader α) : Reader (List α) := fun place =>
  manyFrom reader ('\n' :: place.rest) [] 0 place

/-- Look whether a reader would read something here. -/
def ahead (reader : Reader α) : Reader Unit := fun place =>
  let attempt := reader place
  ⟨attempt.result.map fun _ => ((), place), attempt.furthest⟩

/-- A part that is named in reports: where it fails is remembered. -/
def named (reader : Reader α) : Reader α := fun place =>
  let attempt := reader place
  match attempt.result with
  | some _ => attempt
  | none => ⟨none, max place.offset attempt.furthest⟩

/-- A part together with where it stands. -/
def located (reader : Reader α) : Reader (Located α) := fun place =>
  let attempt := reader place
  ⟨attempt.result.map fun (value, after) =>
    (⟨value, place.offset, after.offset⟩, after), attempt.furthest⟩

/-- A given beginning of the text. -/
def literal (beginning : Text) : Reader Unit := fun place =>
  if beginning.isPrefixOf place.rest then
    ⟨some ((), ⟨place.rest.drop beginning.length,
      place.offset + beginning.length⟩), 0⟩
  else ⟨none, 0⟩

/-- All characters from here on that pass a test, one at least. -/
def word (test : Char → Bool) : Reader Text := fun place =>
  let (taken, rest) := place.rest.span test
  if taken.isEmpty then ⟨none, 0⟩
  else ⟨some (taken, ⟨rest, place.offset + taken.length⟩), 0⟩

/-- Pass over the characters from here on that pass a test. -/
def skipping (test : Char → Bool) : Reader Unit := fun place =>
  ⟨some ((), Place.passing test place.rest place.offset), 0⟩

/-- The end of the text. -/
def atEnd : Reader Unit := fun place =>
  if place.rest.isEmpty then ⟨some ((), place), 0⟩ else ⟨none, 0⟩

/-- What a reader takes off the front of a text. -/
def read? (reader : Reader α) (text : Text) : Option α :=
  (reader (.first text)).result.map Prod.fst

end Reader

end TurtleSystems
