/-!
# Text

Every text of the library is a list of characters, so that it can be taken
apart by structural recursion.  This file measures texts in bytes, trims
them and cuts them into lines.  Functions that walk a whole text are folds or
carry an accumulator, because a text may hold hundreds of thousands of
characters.
-/

namespace TurtleSystems

/-- A text is the list of its characters. -/
abbrev Text := List Char

namespace Text

def ofString (string : String) : Text :=
  string.toList

/-- The string that holds a text, for messages and output. -/
def toString (text : Text) : String :=
  String.ofList text

/-- The number of bytes that a text takes in UTF-8. -/
def byteLength (text : Text) : Nat :=
  text.foldl (fun total character => total + character.utf8Size) 0

/-- The characters with the Unicode property `White_Space`. -/
def isBlank (character : Char) : Bool :=
  let code := character.toNat
  (0x09 ≤ code && code ≤ 0x0d) || code == 0x20 || code == 0x85 ||
    code == 0xa0 || code == 0x1680 || (0x2000 ≤ code && code ≤ 0x200a) ||
    code == 0x2028 || code == 0x2029 || code == 0x202f || code == 0x205f ||
    code == 0x3000

/-- Every blank of core's own class is a blank. -/
theorem isBlank_of_isWhitespace {character : Char}
    (white : character.isWhitespace = true) : isBlank character = true := by
  simp only [Char.isWhitespace, Bool.or_eq_true, decide_eq_true_eq] at white
  rcases white with ((rfl | rfl) | rfl) | rfl <;> decide

def trimStart (text : Text) : Text :=
  text.dropWhile isBlank

def trimEnd (text : Text) : Text :=
  (text.reverse.dropWhile isBlank).reverse

/-- Remove the blanks on both sides. -/
def trim (text : Text) : Text :=
  trimEnd (trimStart text)

/-- The blanks that may stand inside a line: a space or a tab. -/
def isSpaceOrTab (character : Char) : Bool :=
  character == ' ' || character == '\t'

/-- The pieces of a text between the occurrences of a separating character.
A text with `n` separators has `n + 1` pieces. -/
def splitOn (separator : Char) (text : Text) : List Text :=
  text.foldr
    (fun character pieces =>
      if character = separator then [] :: pieces
      else pieces.modifyHead (character :: ·))
    [[]]

@[simp]
theorem splitOn_nil (separator : Char) : splitOn separator [] = [[]] :=
  rfl

theorem splitOn_cons (separator character : Char) (text : Text) :
    splitOn separator (character :: text) =
      if character = separator then [] :: splitOn separator text
      else (splitOn separator text).modifyHead (character :: ·) :=
  rfl

/-- What is left of a text after the given beginning, if it begins so. -/
def after? (beginning text : Text) : Option Text :=
  if beginning.isPrefixOf text then some (text.drop beginning.length) else none

end Text

end TurtleSystems
