import TurtleSystems.Text.ClusterClass

/-!
# Clusters

A text is cut into clusters, the sequences of characters that a reader sees
as one: a letter with its marks, a Korean syllable, a flag, a picture made of
pictures.  Together the clusters of a text are the text.
-/

namespace TurtleSystems.Text

namespace Cluster

/-- The joiner. -/
def joiner : Char := '\u200d'

/-- The mark that keeps what is around it apart. -/
def separator : Char := '\u200c'

/-- The jamo that can begin a syllable. -/
def leadingJamo : CharacterSet := [(0x1100, 0x115f), (0xa960, 0xa97c)]

/-- The jamo in the middle of a syllable, and vowel signs that behave so. -/
def vowelJamo : CharacterSet := [
  (0x1160, 0x11a7), (0xd7b0, 0xd7c6), (0x16d63, 0x16d63), (0x16d67, 0x16d6a)]

/-- The jamo that can end a syllable. -/
def trailingJamo : CharacterSet := [(0x11a8, 0x11ff), (0xd7cb, 0xd7fb)]

/-- Whether a character is a whole syllable. -/
def isSyllable (character : Char) : Bool :=
  0xac00 ≤ character.toNat && character.toNat ≤ 0xd7a3

/-- Whether a character is a syllable that ends in a vowel. -/
def isOpenSyllable (character : Char) : Bool :=
  isSyllable character && (character.toNat - 0xac00) % 28 == 0

/-- Whether two characters are parts of one Korean syllable. -/
def joinsSyllable (last next : Char) : Bool :=
  if leadingJamo.contains last then
    leadingJamo.contains next || vowelJamo.contains next || isSyllable next
  else if vowelJamo.contains last || isOpenSyllable last then
    vowelJamo.contains next || trailingJamo.contains next
  else if trailingJamo.contains last || isSyllable last then
    trailingJamo.contains next
  else false

/-- The letters that make a flag in pairs. -/
def isFlagLetter (character : Char) : Bool :=
  0x1f1e6 ≤ character.toNat && character.toNat ≤ 0x1f1ff

/-- Whether a flag letter completes the flag at the end of a cluster, which
is given in reverse. -/
def joinsFlag (before : Text) (next : Char) : Bool :=
  isFlagLetter next && (before.takeWhile isFlagLetter).length % 2 == 1

/-- Whether a picture is joined to the picture in front of a joiner at the end
of a cluster, which is given in reverse. -/
def joinsPicture (before : Text) (next : Char) : Bool :=
  match before with
  | last :: earlier =>
    pictographic.contains next && last == joiner &&
      (earlier.dropWhile extending.contains).head?.any pictographic.contains
  | [] => false

/-- Whether a mark may stand between the consonants of a conjunct. -/
def isInsideConjunct (character : Char) : Bool :=
  character == joiner ||
    (extending.contains character && character != separator)

/-- Whether a consonant is joined by a linker to the consonant in a cluster,
which is given in reverse. -/
def joinsConjunct (before : Text) (next : Char) : Bool :=
  conjoined.contains next &&
    (before.takeWhile isInsideConjunct).any linking.contains &&
    (before.dropWhile isInsideConjunct).head?.any conjoined.contains

/-- The characters in front of all marks. -/
def isPlain (character : Char) : Bool :=
  character.toNat < 0x300

/-- Whether a character goes on with a cluster, which is given in reverse. -/
def joins (before : Text) (next : Char) : Bool :=
  match before with
  | [] => false
  | last :: _ =>
    if isPlain last && isPlain next then last == '\r' && next == '\n'
    else if breaking.contains last || breaking.contains next then false
    else
      next == joiner || extending.contains next || spacing.contains next ||
        prepended.contains last || joinsSyllable last next ||
        joinsFlag before next || joinsPicture before next ||
        joinsConjunct before next

/-- Add a character to clusters, all of them in reverse. -/
def add (clusters : List Text) (next : Char) : List Text :=
  match clusters with
  | [] => [[next]]
  | last :: earlier =>
    if joins last next then (next :: last) :: earlier
    else [next] :: last :: earlier

end Cluster

/-- The clusters of a text. -/
def clusters (text : Text) : List Text :=
  ((text.foldl Cluster.add []).map List.reverse).reverse

/-- Adding a character to clusters adds it to their text. -/
private theorem flatten_add (clusters : List Text) (next : Char) :
    (((Cluster.add clusters next).map List.reverse).reverse).flatten =
      ((clusters.map List.reverse).reverse).flatten ++ [next] := by
  unfold Cluster.add
  split
  · simp
  · split <;> simp

/-- Together the clusters of a text are the text. -/
theorem flatten_clusters (text : Text) : (clusters text).flatten = text := by
  have extended (clusters : List Text) :
      (((text.foldl Cluster.add clusters).map List.reverse).reverse).flatten =
        ((clusters.map List.reverse).reverse).flatten ++ text := by
    induction text generalizing clusters with
    | nil => simp
    | cons next text ih =>
        rw [List.foldl_cons, ih, flatten_add]
        simp
  simpa [clusters] using extended []

end TurtleSystems.Text
