import TurtleSystems.Text

/-!
# Symbols

The six turtle symbols, as commands and as the characters that stand for
them.  A program is a text whose characters are all symbols.
-/

namespace TurtleSystems

/-- One turtle command.  The marks `x` and `y` are inert: they take part in
derivations and draw nothing. -/
inductive Symbol where
  | draw
  | move
  | left
  | right
  | inert (mark : Char)
  deriving DecidableEq

namespace Symbol

/-- The symbol that a character stands for. -/
def ofChar? : Char → Option Symbol
  | 'f' => some .draw
  | 'g' => some .move
  | '+' => some .left
  | '-' => some .right
  | 'x' => some (.inert 'x')
  | 'y' => some (.inert 'y')
  | _ => none

def toChar : Symbol → Char
  | draw => 'f'
  | move => 'g'
  | left => '+'
  | right => '-'
  | inert mark => mark

/-- A character that stands for a symbol is the character of that symbol. -/
theorem toChar_of_ofChar? {character : Char} {symbol : Symbol}
    (found : ofChar? character = some symbol) : symbol.toChar = character := by
  unfold ofChar? at found
  split at found <;> simp_all <;> subst found <;> rfl

end Symbol

namespace Text

/-- The characters of the alphabet. -/
def isSymbol (character : Char) : Bool :=
  (Symbol.ofChar? character).isSome

/-- A program is a text over the alphabet. -/
def isProgram (text : Text) : Bool :=
  text.all isSymbol

/-- A blank is no symbol, so programs are not changed by trimming. -/
theorem not_isBlank_of_isSymbol {character : Char}
    (symbol : isSymbol character = true) : isBlank character = false := by
  unfold isSymbol Symbol.ofChar? at symbol
  split at symbol <;> first | decide | simp at symbol

end Text

end TurtleSystems
