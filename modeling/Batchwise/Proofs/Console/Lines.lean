import Batchwise.Console.Printed
import Batchwise.Text.Split
import Mathlib.Data.List.Flatten

namespace Batchwise

/-! The lines of what is printed. An entry may have several lines, and each line belongs to
one entry, since every entry ends with a line break of its own. -/

theorem pieces_ne_nil (separator : Char) (text : List Char) : pieces separator text ≠ [] := by
  cases text with
  | nil => exact List.cons_ne_nil _ _
  | cons character rest =>
      rw [pieces]
      split
      · exact List.cons_ne_nil _ _
      · split <;> exact List.cons_ne_nil _ _

theorem pieces_append (separator : Char) (front back : List Char) :
    pieces separator (front ++ separator :: back) =
      pieces separator front ++ pieces separator back := by
  induction front with
  | nil => simp [pieces]
  | cons character rest induction =>
      rw [List.cons_append, pieces, pieces, induction]
      split
      · rfl
      · cases found : pieces separator rest with
        | nil => exact absurd found (pieces_ne_nil _ _)
        | cons piece following => rfl

theorem pieces_of_not_mem {separator : Char} {text : List Char} (absent : separator ∉ text) :
    pieces separator text = [text] := by
  induction text with
  | nil => rfl
  | cons character rest induction =>
      rcases not_or.mp (mt List.mem_cons.mpr absent) with ⟨different, behind⟩
      rw [pieces, if_neg (Ne.symm different), induction behind]

namespace Printed

/-- The lines printed to one stream, without their line breaks. Nothing follows the last
line break. -/
def lines (stream : Stream) (printed : List Printed) : List (List Char) :=
  (pieces '\n' (toText stream printed)).dropLast

theorem lines_eq_flatMap (stream : Stream) (printed : List Printed) :
    lines stream printed =
      (printed.filter (·.stream = stream)).flatMap fun entry => pieces '\n' entry.text := by
  unfold lines toText
  induction printed.filter (·.stream = stream) with
  | nil => rfl
  | cons entry rest induction =>
      rw [List.flatMap_cons, List.flatMap_cons, ← induction, List.append_assoc,
        List.singleton_append, pieces_append, List.dropLast_append_of_ne_nil (pieces_ne_nil _ _)]

theorem lines_append (stream : Stream) (first second : List Printed) :
    lines stream (first ++ second) = lines stream first ++ lines stream second := by
  rw [lines_eq_flatMap, lines_eq_flatMap, lines_eq_flatMap, List.filter_append,
    List.flatMap_append]

theorem lines_sublist (stream : Stream) {fewer more : List Printed}
    (sublist : fewer.Sublist more) :
    (lines stream fewer).Sublist (lines stream more) := by
  rw [lines_eq_flatMap, lines_eq_flatMap]
  exact (sublist.filter _).flatMap _

theorem lines_map_line {texts : List (List Char)} (unbroken : ∀ text ∈ texts, '\n' ∉ text) :
    lines .output (texts.map line) = texts := by
  rw [lines_eq_flatMap]
  induction texts with
  | nil => rfl
  | cons text rest induction =>
      rcases List.forall_mem_cons.mp unbroken with ⟨first, behind⟩
      have own : (line text :: rest.map line).filter (·.stream = .output) =
          line text :: (rest.map line).filter (·.stream = .output) := rfl
      rw [List.map_cons, own, List.flatMap_cons, induction behind]
      exact congrArg (· ++ rest) (pieces_of_not_mem first)

end Printed

end Batchwise
