import Mathlib.Data.List.Chain
import TurtleSystems.Proofs.Text
import TurtleSystems.Terminal.Row

/-!
# Rows of plain text

Most text on the screen is plain: characters between the space and the tilde,
perhaps with an ellipsis at the end.  Each of them is a cluster of its own and
takes one column, so a row of plain text shows the text itself, as far as
there are columns.
-/

namespace TurtleSystems

namespace Text

namespace Cluster

/-- Whether a character is a letter, digit or sign of plain text, or the space
between them. -/
def isPrintable (character : Char) : Bool :=
  0x20 ≤ character.toNat && character.toNat < 0x7f

/-- Two characters next to each other that are not in one cluster. -/
def Apart (last next : Char) : Prop :=
  joins [last] next = false

theorem apart_of_isPrintable {last next : Char}
    (lastPrintable : isPrintable last = true)
    (nextPrintable : isPrintable next = true) : Apart last next := by
  simp only [isPrintable, Bool.and_eq_true, decide_eq_true_eq]
    at lastPrintable nextPrintable
  have lastPlain : isPlain last = true := by
    simp only [isPlain, decide_eq_true_eq]
    omega
  have nextPlain : isPlain next = true := by
    simp only [isPlain, decide_eq_true_eq]
    omega
  have noReturn : (last == '\r') = false := by
    rw [beq_eq_false_iff_ne]
    rintro rfl
    exact absurd lastPrintable.1 (by decide)
  simp [Apart, joins, lastPlain, nextPlain, noReturn]

theorem foldl_add_of_apart {first : Char} {text : Text}
    (apart : (first :: text).IsChain Apart) (earlier : List Text) :
    text.foldl add ([first] :: earlier) =
      (text.map fun character => [character]).reverse ++
        [first] :: earlier := by
  induction text generalizing first earlier with
  | nil => rfl
  | cons next text ih =>
      obtain ⟨here, apart⟩ := List.isChain_cons_cons.mp apart
      have added : add ([first] :: earlier) next =
          [next] :: [first] :: earlier := by
        have here : joins [first] next = false := here
        simp [add, here]
      rw [List.foldl_cons, added, ih apart]
      simp

end Cluster

/-- Characters that are not joined are clusters by themselves. -/
theorem clusters_of_apart {text : Text}
    (apart : text.IsChain Cluster.Apart) :
    clusters text = text.map fun character => [character] := by
  cases text with
  | nil => rfl
  | cons first text =>
      rw [clusters, List.foldl_cons]
      have started : Cluster.add [] first = [[first]] := rfl
      rw [started, Cluster.foldl_add_of_apart apart]
      simp [Function.comp_def]

theorem ofCluster_singleton (character : Char) :
    Width.ofCluster [character] = Width.ofCharacter character := rfl

theorem width_of_isPrintable {character : Char}
    (printable : Cluster.isPrintable character = true) :
    Width.ofCharacter character = 1 := by
  simp only [Cluster.isPrintable, Bool.and_eq_true, decide_eq_true_eq]
    at printable
  exact if_pos (by omega)

theorem isPrintable_of_isSymbol {character : Char}
    (symbol : isSymbol character = true) :
    Cluster.isPrintable character = true := by
  unfold isSymbol Symbol.ofChar? at symbol
  split at symbol <;> first | rfl | cases symbol

theorem apart_ellipsis_of_isSymbol {character : Char}
    (symbol : isSymbol character = true) :
    Cluster.Apart character '…' := by
  unfold isSymbol Symbol.ofChar? at symbol
  unfold Cluster.Apart
  split at symbol <;> first | decide +kernel | cases symbol

end Text

namespace Terminal.Row

/-- Text of which every character is shown in a column of its own. -/
structure IsPlain (text : Text) : Prop where
  apart : text.IsChain Text.Cluster.Apart
  single : ∀ character ∈ text, Text.Width.ofCharacter character = 1
  unbroken : '\n' ∉ text

variable {text : Text}

theorem isPlain_of_isPrintable
    (printable : ∀ character ∈ text,
      Text.Cluster.isPrintable character = true) : IsPlain text where
  apart := by
    induction text with
    | nil => exact .nil
    | cons character text ih =>
        obtain ⟨here, printable⟩ := List.forall_mem_cons.mp printable
        refine List.isChain_cons.mpr ⟨?_, ih printable⟩
        intro next nextFirst
        exact Text.Cluster.apart_of_isPrintable here
          (printable next (List.mem_of_mem_head? nextFirst))
  single := fun character member =>
    Text.width_of_isPrintable (printable character member)
  unbroken := fun member => absurd (printable '\n' member) (by decide)

theorem isPlain_of_isProgram (program : Text.isProgram text = true) :
    IsPlain text :=
  isPlain_of_isPrintable fun character member =>
    Text.isPrintable_of_isSymbol
      (List.all_eq_true.mp program character member)

/-- A program stays plain with an ellipsis behind it. -/
theorem isPlain_append_ellipsis (program : Text.isProgram text = true) :
    IsPlain (text ++ ['…']) := by
  obtain ⟨apart, single, unbroken⟩ := isPlain_of_isProgram program
  refine ⟨List.isChain_append.mpr ⟨apart, .singleton _, ?_⟩, ?_, ?_⟩
  · intro last lastEq next nextEq
    cases nextEq
    exact Text.apart_ellipsis_of_isSymbol (List.all_eq_true.mp program last
      (List.mem_of_getLast? lastEq))
  · intro character member
    rcases List.mem_append.mp member with member | member
    · exact single character member
    · cases List.mem_singleton.mp member
      decide +kernel
  · simpa using unbroken

theorem clusters_of_isPlain (plain : IsPlain text) :
    clusters text = text.map fun character => [character] := by
  rw [clusters, Text.clusters_of_apart plain.apart, List.filter_eq_self]
  intro cluster member
  obtain ⟨character, present, rfl⟩ := List.mem_map.mp member
  rw [decide_eq_true_eq]
  rintro newline
  cases newline
  exact plain.unbroken present

theorem fitting_singles {columns : Nat}
    (single : ∀ character ∈ text, Text.Width.ofCharacter character = 1) :
    fitting columns (text.map fun character => [character]) =
      (text.take columns).map fun character => [character] := by
  induction text generalizing columns with
  | nil => simp [fitting]
  | cons character text ih =>
      obtain ⟨here, single⟩ := List.forall_mem_cons.mp single
      cases columns with
      | zero => simp [fitting, Text.ofCluster_singleton, here]
      | succ columns =>
          simp [fitting, Text.ofCluster_singleton, here, ih single]

theorem shown_singles
    (single : ∀ character ∈ text, Text.Width.ofCharacter character = 1) :
    shown (text.map fun character => [character]) = Text.trimEnd text := by
  have cellsEq : (text.map fun character => [character]).flatMap cells =
      text := by
    induction text with
    | nil => rfl
    | cons character text ih =>
        obtain ⟨here, single⟩ := List.forall_mem_cons.mp single
        rw [List.map_cons, List.flatMap_cons, ih single]
        simp [cells, Text.ofCluster_singleton, here]
  rw [shown, cellsEq]

/-- Plain text is shown as it is, but for the blanks at its end. -/
theorem shown_clusters (plain : IsPlain text) :
    shown (clusters text) = Text.trimEnd text := by
  rw [clusters_of_isPlain plain, shown_singles plain.single]

/-- A row shows as many characters of a plain text as it has columns. -/
theorem shown_fitting_clusters (plain : IsPlain text) (columns : Nat) :
    shown (fitting columns (clusters text)) =
      Text.trimEnd (text.take columns) := by
  rw [clusters_of_isPlain plain, fitting_singles plain.single, shown_singles]
  intro character member
  exact plain.single character (List.mem_of_mem_take member)

end Terminal.Row

end TurtleSystems
