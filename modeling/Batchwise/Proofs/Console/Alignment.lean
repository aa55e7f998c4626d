import Batchwise.Console.Table
import Batchwise.Proofs.Console.Lines
import Mathlib.Data.List.Forall2

namespace Batchwise

/-! Result sets as tables. A column is as wide as the longest of its texts in bytes, and texts
are filled up by characters. A text has at least as many bytes as characters, so each of
them fits, and the columns of all lines begin at the same offsets. Texts that are longer than
the greatest width cannot be filled up, and a result set with one of them has no table. -/

/-! ## Colours -/

/-- The second text is the first one with codes of styles put in. -/
inductive Coloured : List Char → List Char → Prop
  | nil : Coloured [] []
  | on (style : Style) {plain painted : List Char} (behind : Coloured plain painted) :
      Coloured plain (style.switchOn ++ painted)
  | off {plain painted : List Char} (behind : Coloured plain painted) :
      Coloured plain (Style.switchOff ++ painted)
  | character (character : Char) {plain painted : List Char}
      (behind : Coloured plain painted) :
      Coloured (character :: plain) (character :: painted)

namespace Coloured

theorem append {plain painted more paintedMore : List Char} (front : Coloured plain painted)
    (back : Coloured more paintedMore) :
    Coloured (plain ++ more) (painted ++ paintedMore) := by
  induction front with
  | nil => exact back
  | on style _ induction =>
      rw [List.append_assoc]
      exact .on style induction
  | off _ induction => exact .off induction
  | character character _ induction => exact .character character induction

theorem refl (text : List Char) : Coloured text text := by
  induction text with
  | nil => exact .nil
  | cons character rest induction => exact .character character induction

theorem not_mem_lineFeed {plain painted : List Char} (coloured : Coloured plain painted)
    (absent : '\n' ∉ plain) : '\n' ∉ painted := by
  induction coloured with
  | nil => exact absent
  | on style _ induction =>
      have code : '\n' ∉ style.switchOn := by cases style <;> decide
      exact List.not_mem_append code (induction absent)
  | off _ induction =>
      exact List.not_mem_append (by decide) (induction absent)
  | character character _ induction =>
      rcases not_or.mp (mt List.mem_cons.mpr absent) with ⟨different, behind⟩
      exact List.not_mem_cons_of_ne_of_not_mem different (induction behind)

end Coloured

namespace Style

theorem coloured_switchOnAgain (style : Style) (text : List Char) :
    Coloured text (style.switchOnAgain text) := by
  fun_induction switchOnAgain style text with
  | case1 rest induction =>
      have again : Coloured rest (style.switchOn ++ style.switchOnAgain rest) :=
        .on style induction
      rw [List.append_assoc]
      exact (Coloured.refl switchOff).append again
  | case2 character rest _ induction => exact .character character induction
  | case3 => exact .nil

end Style

/-- What is printed of a text: with colours codes of styles are put in, without them nothing
is. -/
def Painted (colours : Bool) (plain painted : List Char) : Prop :=
  if colours then Coloured plain painted else painted = plain

theorem Style.painted_paint (style : Style) (colours : Bool) (text : List Char) :
    Painted colours text (style.paint colours text) := by
  cases colours with
  | false => rfl
  | true =>
      have painted := (style.coloured_switchOnAgain text).append (.off .nil)
      rw [List.append_nil] at painted
      rw [paint, if_pos rfl, List.append_assoc]
      exact .on style painted

theorem Painted.not_mem_lineFeed {colours : Bool} {plain painted : List Char}
    (isPainted : Painted colours plain painted) (absent : '\n' ∉ plain) : '\n' ∉ painted := by
  cases colours with
  | false =>
      obtain rfl : painted = plain := isPainted
      exact absent
  | true =>
      have coloured : Coloured plain painted := isPainted
      exact coloured.not_mem_lineFeed absent

namespace ResultSet

/-! ## Widths -/

abbrev Fits (widths : List Nat) (texts : List (List Char)) : Prop :=
  List.Forall₂ (fun width text => byteWidth text ≤ width) widths texts

theorem length_le_byteWidth (text : List Char) : text.length ≤ byteWidth text := by
  induction text with
  | nil => exact Nat.le_refl _
  | cons character rest induction =>
      have positive := character.utf8Size_pos
      rw [List.length_cons, byteWidth]
      omega

theorem length_widen (widths : List Nat) (row : List (List Char)) :
    (widen widths row).length = widths.length := by
  fun_induction widen widths row with
  | case1 width widths text row induction => exact congrArg (· + 1) induction
  | case2 => rfl

theorem fits_widen {widths : List Nat} {row : List (List Char)}
    (complete : row.length = widths.length) : Fits (widen widths row) row := by
  induction widths generalizing row with
  | nil =>
      rw [List.length_eq_zero_iff.mp complete]
      exact .nil
  | cons width widths induction =>
      cases row with
      | nil => cases complete
      | cons text row =>
          exact .cons (Nat.le_max_right _ _) (induction (Nat.succ.inj complete))

theorem Fits.widen {widths : List Nat} {texts : List (List Char)} (fits : Fits widths texts)
    (row : List (List Char)) : Fits (widen widths row) texts := by
  induction fits generalizing row with
  | nil => exact .nil
  | cons narrow behind induction =>
      cases row with
      | nil => exact .cons narrow behind
      | cons text row =>
          exact .cons (Nat.le_trans narrow (Nat.le_max_left _ _)) (induction row)

theorem Fits.foldl_widen {widths : List Nat} {texts : List (List Char)}
    (fits : Fits widths texts) (rows : List (List (List Char))) :
    Fits (rows.foldl ResultSet.widen widths) texts := by
  induction rows generalizing widths with
  | nil => exact fits
  | cons row rows induction => exact induction (fits.widen row)

theorem fits_foldl_widen {widths : List Nat} {rows : List (List (List Char))}
    (complete : ∀ row ∈ rows, row.length = widths.length) :
    ∀ row ∈ rows, Fits (rows.foldl ResultSet.widen widths) row := by
  induction rows generalizing widths with
  | nil => exact nofun
  | cons first rows induction =>
      rcases List.forall_mem_cons.mp complete with ⟨own, others⟩
      refine List.forall_mem_cons.mpr ⟨(fits_widen own).foldl_widen rows, ?_⟩
      exact induction fun row member => (others row member).trans (length_widen _ _).symm

theorem fits_headings (result : ResultSet) : Fits result.widths result.headings := by
  have own : Fits (result.headings.map byteWidth) result.headings := by
    induction result.headings with
    | nil => exact .nil
    | cons heading rest induction => exact .cons (Nat.le_refl _) induction
  exact own.foldl_widen _

theorem fits_cellTexts {result : ResultSet}
    (complete : ∀ row ∈ result.rows, row.length = result.columns.length) :
    ∀ row ∈ result.cellTexts, Fits result.widths row := by
  refine fits_foldl_widen ?_
  intro row member
  rcases List.mem_map.mp member with ⟨cells, isRow, rfl⟩
  rw [List.length_map, List.length_map, headings, List.length_map, complete cells isRow]

theorem byteWidth_replicate (times : Nat) (character : Char) :
    byteWidth (List.replicate times character) = times * character.utf8Size := by
  induction times with
  | zero => exact (Nat.zero_mul _).symm
  | succ times induction =>
      rw [List.replicate_succ, byteWidth, induction, Nat.succ_mul, Nat.add_comm]

/-! ## Tables that can be printed -/

def AreNarrow (widths : List Nat) : Prop :=
  ∀ width ∈ widths, width ≤ greatestWidth

instance (widths : List Nat) : Decidable (AreNarrow widths) :=
  inferInstanceAs (Decidable (∀ width ∈ widths, width ≤ greatestWidth))

structure IsNarrow (result : ResultSet) : Prop where
  headings : ∀ heading ∈ result.headings, byteWidth heading ≤ greatestWidth
  cells : ∀ row ∈ result.cellTexts, ∀ text ∈ row, byteWidth text ≤ greatestWidth

theorem AreNarrow.widen {widths : List Nat} {row : List (List Char)}
    (narrow : AreNarrow widths) (narrowRow : ∀ text ∈ row, byteWidth text ≤ greatestWidth) :
    AreNarrow (widen widths row) := by
  fun_induction ResultSet.widen widths row with
  | case1 width widths text row induction =>
      rcases List.forall_mem_cons.mp narrow with ⟨own, others⟩
      rcases List.forall_mem_cons.mp narrowRow with ⟨ownText, otherTexts⟩
      exact List.forall_mem_cons.mpr ⟨Nat.max_le.mpr ⟨own, ownText⟩, induction others otherTexts⟩
  | case2 => exact narrow

theorem AreNarrow.foldl_widen {widths : List Nat} {rows : List (List (List Char))}
    (narrow : AreNarrow widths)
    (narrowRows : ∀ row ∈ rows, ∀ text ∈ row, byteWidth text ≤ greatestWidth) :
    AreNarrow (rows.foldl ResultSet.widen widths) := by
  induction rows generalizing widths with
  | nil => exact narrow
  | cons row rest induction =>
      rcases List.forall_mem_cons.mp narrowRows with ⟨own, others⟩
      exact induction (narrow.widen own) others

theorem Fits.narrow {widths : List Nat} {texts : List (List Char)} (fits : Fits widths texts)
    (narrow : AreNarrow widths) : ∀ text ∈ texts, byteWidth text ≤ greatestWidth := by
  induction fits with
  | nil => exact nofun
  | cons own _ induction =>
      rcases List.forall_mem_cons.mp narrow with ⟨first, others⟩
      exact List.forall_mem_cons.mpr ⟨Nat.le_trans own first, induction others⟩

theorem areNarrow_widths_iff {result : ResultSet}
    (complete : ∀ row ∈ result.rows, row.length = result.columns.length) :
    AreNarrow result.widths ↔ result.IsNarrow := by
  constructor
  · intro narrow
    constructor
    · exact result.fits_headings.narrow narrow
    · intro row member
      exact (fits_cellTexts complete row member).narrow narrow
  · intro narrow
    have headings : AreNarrow (result.headings.map byteWidth) :=
      List.forall_mem_map.mpr narrow.headings
    exact headings.foldl_widen narrow.cells

/-! ## Columns -/

/-- Where a column begins. In front of it each column takes its width and a separator of
three characters. -/
def columnStart : List Nat → Nat → Nat
  | width :: widths, index + 1 => width + 3 + columnStart widths index
  | _, _ => 0

theorem joinColumns_cons_cons (separator field next : List Char) (rest : List (List Char)) :
    joinColumns separator (field :: next :: rest) =
      field ++ separator ++ joinColumns separator (next :: rest) := by
  rw [joinColumns, List.intersperse_cons_cons, List.flatten_cons, List.flatten_cons,
    List.append_assoc]
  rfl

theorem joinColumns_singleton (separator field : List Char) :
    joinColumns separator [field] = field :=
  List.append_nil field

theorem joinColumns_split {separator : List Char} (three : separator.length = 3)
    {fields : List (List Char)} {index : Nat} (inBounds : index < fields.length) :
    ∃ front back, joinColumns separator fields = front ++ fields[index] ++ back ∧
      front.length = columnStart (fields.map List.length) index ∧
      if index + 1 = fields.length then back = [] else separator <+: back := by
  induction fields generalizing index with
  | nil => cases inBounds
  | cons field rest induction =>
      cases rest with
      | nil =>
          obtain rfl : index = 0 := Nat.lt_one_iff.mp inBounds
          refine ⟨[], [], ?_, rfl, ?_⟩
          · rw [joinColumns_singleton]
            exact (List.append_nil field).symm
          · simp
      | cons next others =>
          rw [joinColumns_cons_cons]
          cases index with
          | zero =>
              refine ⟨[], separator ++ joinColumns separator (next :: others), ?_, rfl, ?_⟩
              · exact List.append_assoc _ _ _
              · rw [if_neg (by simp)]
                exact List.prefix_append _ _
          | succ index =>
              rcases induction (Nat.lt_of_succ_lt_succ inBounds) with
                ⟨front, back, joined, offset, behind⟩
              refine ⟨field ++ separator ++ front, back, ?_, ?_, ?_⟩
              · rw [joined, List.getElem_cons_succ]
                simp only [List.append_assoc]
              · rw [List.length_append, List.length_append, offset, three]
                rfl
              · simpa using behind

theorem length_joinColumns {separator : List Char} (three : separator.length = 3)
    (fields : List (List Char)) :
    (joinColumns separator fields).length =
      columnStart (fields.map List.length) fields.length - 3 := by
  induction fields with
  | nil => rfl
  | cons field rest induction =>
      cases rest with
      | nil =>
          rw [joinColumns_singleton]
          rfl
      | cons next others =>
          rw [joinColumns_cons_cons, List.length_append, List.length_append, induction, three]
          simp only [List.map_cons, List.length_cons, columnStart]
          omega

theorem not_mem_joinColumns {character : Char} {separator : List Char}
    {fields : List (List Char)} (outside : character ∉ separator)
    (absent : ∀ field ∈ fields, character ∉ field) :
    character ∉ joinColumns separator fields := by
  induction fields with
  | nil => exact List.not_mem_nil
  | cons field rest induction =>
      rcases List.forall_mem_cons.mp absent with ⟨own, others⟩
      cases rest with
      | nil =>
          rw [joinColumns_singleton]
          exact own
      | cons next behind =>
          rw [joinColumns_cons_cons]
          exact List.not_mem_append (List.not_mem_append own outside) (induction others)

/-- The line has as many characters as the widths say. Each text stands in its column with
nothing but filling behind it, and behind the column there is a separator or the end. -/
structure LaidOut (separator : List Char) (filling : Char) (widths : List Nat)
    (texts : List (List Char)) (line : List Char) : Prop where
  complete : texts.length = widths.length
  length : line.length = columnStart widths widths.length - 3
  column : ∀ index (inText : index < texts.length) (inWidth : index < widths.length),
    ∃ front padding back, line = front ++ texts[index] ++ padding ++ back ∧
      front.length = columnStart widths index ∧
      texts[index].length + padding.length = widths[index] ∧
      (∀ character ∈ padding, character = filling) ∧
      if index + 1 = widths.length then back = [] else separator <+: back

def fillUp (filling : Char) (text : List Char) (width : Nat) : List Char :=
  text ++ List.replicate (width - text.length) filling

theorem length_fillUp (filling : Char) {text : List Char} {width : Nat}
    (fits : byteWidth text ≤ width) : (fillUp filling text width).length = width := by
  have bytes := length_le_byteWidth text
  rw [fillUp, List.length_append, List.length_replicate]
  omega

theorem map_length_fillUp (filling : Char) {widths : List Nat} {texts : List (List Char)}
    (fits : Fits widths texts) :
    (texts.zipWith (fillUp filling) widths).map List.length = widths := by
  induction fits with
  | nil => rfl
  | cons own _ induction =>
      rw [List.zipWith_cons_cons, List.map_cons, length_fillUp filling own, induction]

theorem laidOut_joinColumns {separator : List Char} (three : separator.length = 3)
    (filling : Char) {widths : List Nat} {texts : List (List Char)} (fits : Fits widths texts) :
    LaidOut separator filling widths texts
      (joinColumns separator (texts.zipWith (fillUp filling) widths)) := by
  have complete : texts.length = widths.length := fits.length_eq.symm
  have fields : (texts.zipWith (fillUp filling) widths).length = widths.length := by
    rw [List.length_zipWith, complete, Nat.min_self]
  have lengths := map_length_fillUp filling fits
  refine ⟨complete, ?_, ?_⟩
  · rw [length_joinColumns three, lengths, fields]
  · intro index inText inWidth
    have inFields : index < (texts.zipWith (fillUp filling) widths).length := by
      rw [fields]
      exact inWidth
    rcases joinColumns_split three inFields with ⟨front, back, joined, offset, behind⟩
    rw [lengths] at offset
    rw [fields] at behind
    have own : byteWidth texts[index] ≤ widths[index] := fits.get inWidth inText
    have filled := length_fillUp filling own
    rw [fillUp, List.length_append] at filled
    rw [List.getElem_zipWith, fillUp, ← List.append_assoc] at joined
    exact ⟨front, _, back, joined, offset, filled, fun _ => List.eq_of_mem_replicate, behind⟩

def filledRow (widths : List Nat) (texts : List (List Char)) : List Char :=
  joinColumns [' ', '│', ' '] (texts.zipWith (fillUp ' ') widths)

theorem laidOut_filledRow {widths : List Nat} {texts : List (List Char)}
    (fits : Fits widths texts) :
    LaidOut [' ', '│', ' '] ' ' widths texts (filledRow widths texts) :=
  laidOut_joinColumns rfl ' ' fits

example : filledRow [7, 4] ["größe".toList, []] = "größe   │     ".toList := by decide

theorem tableRow_of_narrow {widths : List Nat} (narrow : AreNarrow widths)
    (texts : List (List Char)) : tableRow widths texts = some (filledRow widths texts) := by
  have filled : ((texts.zip widths).mapM fun entry => pad entry.2 entry.1) =
      some (texts.zipWith (fillUp ' ') widths) := by
    induction texts generalizing widths with
    | nil => rfl
    | cons text rest induction =>
        cases widths with
        | nil => rfl
        | cons width widths =>
            rcases List.forall_mem_cons.mp narrow with ⟨own, others⟩
            rw [List.zip_cons_cons, List.mapM_cons, induction others, pad, if_pos own]
            rfl
  rw [tableRow, filled]
  rfl

theorem tableRow_of_wide {widths : List Nat} (wide : ¬ AreNarrow widths)
    {texts : List (List Char)} (complete : texts.length = widths.length) :
    tableRow widths texts = none := by
  have failed : ((texts.zip widths).mapM fun entry => pad entry.2 entry.1) = none := by
    induction texts generalizing widths with
    | nil =>
        rw [List.length_eq_zero_iff.mp complete.symm] at wide
        exact absurd (List.forall_mem_nil _) wide
    | cons text rest induction =>
        cases widths with
        | nil => cases complete
        | cons width widths =>
            rw [List.zip_cons_cons, List.mapM_cons, pad]
            split
            · rename_i own
              have others : ¬ AreNarrow widths := fun others =>
                wide (List.forall_mem_cons.mpr ⟨own, others⟩)
              rw [induction others (Nat.succ.inj complete)]
              rfl
            · rfl
  rw [tableRow, failed]
  rfl

theorem laidOut_rule (widths : List Nat) :
    LaidOut ['─', '┼', '─'] '─' widths (widths.map fun _ => []) (rule widths) := by
  have fits : Fits widths (widths.map fun _ => []) :=
    List.forall₂_map_right_iff.mpr (List.forall₂_same.mpr fun _ _ => Nat.zero_le _)
  have three : ['─', '┼', '─'].length = 3 := rfl
  have laidOut := laidOut_joinColumns three '─' fits
  rw [List.zipWith_map_left, List.zipWith_self] at laidOut
  exact laidOut

/-! ## Line breaks -/

theorem not_mem_filledRow {texts : List (List Char)} (widths : List Nat)
    (unbroken : ∀ text ∈ texts, '\n' ∉ text) : '\n' ∉ filledRow widths texts := by
  refine not_mem_joinColumns (by decide) ?_
  induction texts generalizing widths with
  | nil => exact nofun
  | cons text rest induction =>
      rcases List.forall_mem_cons.mp unbroken with ⟨own, others⟩
      cases widths with
      | nil => exact nofun
      | cons width widths =>
          refine List.forall_mem_cons.mpr ⟨?_, induction widths others⟩
          refine List.not_mem_append own fun member => ?_
          exact absurd (List.eq_of_mem_replicate member) (by decide)

theorem not_mem_rule (widths : List Nat) : '\n' ∉ rule widths := by
  refine not_mem_joinColumns (by decide) fun field member inField => ?_
  rcases List.mem_map.mp member with ⟨width, _, rfl⟩
  exact absurd (List.eq_of_mem_replicate inField) (by decide)

/-! ## Tables -/

/-- The lines begin with the table of a result set: the headings, the line below them, and
one line for each row, all laid out by the same widths. Only the first two are painted. -/
def IsTable (colours : Bool) (result : ResultSet) (lines : List (List Char)) : Prop :=
  ∃ widths header paintedHeader rule paintedRule rows footer,
    lines = paintedHeader :: paintedRule :: rows ++ footer ∧
    Painted colours header paintedHeader ∧
    Painted colours rule paintedRule ∧
    LaidOut [' ', '│', ' '] ' ' widths result.headings header ∧
    LaidOut ['─', '┼', '─'] '─' widths (widths.map fun _ => []) rule ∧
    List.Forall₂ (LaidOut [' ', '│', ' '] ' ' widths) result.cellTexts rows

def PrintsTable (colours : Bool) (result : ResultSet) : Prop :=
  ∃ printed, result.print .table colours = some printed ∧
    result.IsTable colours (Printed.lines .output printed)

theorem printTable_of_narrow {result : ResultSet} (narrow : AreNarrow result.widths)
    (colours : Bool) :
    result.printTable colours = some (
      (Style.boldWhite.paint colours (filledRow result.widths result.headings) ::
        Style.faint.paint colours (rule result.widths) ::
        result.cellTexts.map (filledRow result.widths)).map Printed.line ++
      [.blank, .line (Style.cyan.paint colours (toString result.rows.length).toList ++
        " row(s) returned".toList)]) := by
  have rows : result.cellTexts.mapM (tableRow result.widths) =
      some (result.cellTexts.map (filledRow result.widths)) := by
    rw [funext (tableRow_of_narrow narrow)]
    exact List.mapM_pure
  rw [printTable, tableRow_of_narrow narrow, rows]
  rfl

/-- The line of the headings is the first to be printed, and fails the table. -/
theorem printTable_of_wide {result : ResultSet} (wide : ¬ AreNarrow result.widths)
    (colours : Bool) : result.printTable colours = none := by
  rw [printTable, tableRow_of_wide wide result.fits_headings.length_eq.symm]
  rfl

theorem printTable_eq_none_iff (result : ResultSet) (colours : Bool) :
    result.printTable colours = none ↔ ¬ AreNarrow result.widths := by
  constructor
  · intro failed narrow
    rw [printTable_of_narrow narrow] at failed
    cases failed
  · intro wide
    exact printTable_of_wide wide colours

theorem printsTable_of_narrow {result : ResultSet} (narrow : AreNarrow result.widths)
    (colours : Bool) (complete : ∀ row ∈ result.rows, row.length = result.columns.length)
    (unbrokenNames : ∀ heading ∈ result.headings, '\n' ∉ heading)
    (unbrokenCells : ∀ row ∈ result.cellTexts, ∀ text ∈ row, '\n' ∉ text) :
    result.PrintsTable colours := by
  have header := Style.painted_paint .boldWhite colours (filledRow result.widths result.headings)
  have belowIt := Style.painted_paint .faint colours (rule result.widths)
  have unbroken : ∀ text ∈ Style.boldWhite.paint colours (filledRow result.widths result.headings) ::
      Style.faint.paint colours (rule result.widths) ::
      result.cellTexts.map (filledRow result.widths), '\n' ∉ text := by
    refine List.forall_mem_cons.mpr ⟨?_, List.forall_mem_cons.mpr ⟨?_, ?_⟩⟩
    · exact header.not_mem_lineFeed (not_mem_filledRow _ unbrokenNames)
    · exact belowIt.not_mem_lineFeed (not_mem_rule _)
    · intro text member
      rcases List.mem_map.mp member with ⟨row, isRow, rfl⟩
      exact not_mem_filledRow _ (unbrokenCells row isRow)
  let count : List Char := (toString result.rows.length).toList
  refine ⟨_, printTable_of_narrow narrow colours, result.widths, _, _, _, _,
    result.cellTexts.map (filledRow result.widths), Printed.lines .output
      [.blank, .line (Style.cyan.paint colours count ++ " row(s) returned".toList)],
    ?_, header, belowIt, laidOut_filledRow result.fits_headings, laidOut_rule _, ?_⟩
  · rw [Printed.lines_append, Printed.lines_map_line unbroken]
  · refine List.forall₂_map_right_iff.mpr (List.forall₂_same.mpr fun row member => ?_)
    exact laidOut_filledRow (fits_cellTexts complete row member)

end ResultSet

open ResultSet in
/-- A result set whose rows are complete is printed as a table, whatever its texts are as long
as none has a line break, exactly if none of its texts is longer than the greatest width.
Otherwise nothing is printed of it. -/
theorem tables_are_aligned (colours : Bool) (result : ResultSet)
    (complete : ∀ row ∈ result.rows, row.length = result.columns.length)
    (unbrokenNames : ∀ heading ∈ result.headings, '\n' ∉ heading)
    (unbrokenCells : ∀ row ∈ result.cellTexts, ∀ text ∈ row, '\n' ∉ text) :
    (result.PrintsTable colours ↔ result.IsNarrow) ∧
      (result.print .table colours = none ↔ ¬ result.IsNarrow) := by
  have failed := result.printTable_eq_none_iff colours
  rw [areNarrow_widths_iff complete] at failed
  refine ⟨?_, failed⟩
  constructor
  · rintro ⟨printed, isPrinted, -⟩
    by_contra wide
    cases isPrinted.symm.trans (failed.mpr wide)
  · intro narrow
    have areNarrow := (areNarrow_widths_iff complete).mpr narrow
    exact printsTable_of_narrow areNarrow colours complete unbrokenNames unbrokenCells

/-- One name and one cell have more bytes than characters, and one of each is empty. -/
theorem tables_are_aligned_beyond_ascii :
    let result : ResultSet := {
      columns := [⟨"größe".toList, "TEXT"⟩, ⟨[], "TEXT"⟩]
      rows := [[.text "日本語".toList, .null], [.text [], .boolean true]] }
    (∀ row ∈ result.rows, row.length = result.columns.length) ∧
      (∀ heading ∈ result.headings, '\n' ∉ heading) ∧
      (∀ row ∈ result.cellTexts, ∀ text ∈ row, '\n' ∉ text) ∧
      result.PrintsTable true := by
  intro result
  have complete : ∀ row ∈ result.rows, row.length = result.columns.length := by decide
  have unbrokenNames : ∀ heading ∈ result.headings, '\n' ∉ heading := by decide
  have unbrokenCells : ∀ row ∈ result.cellTexts, ∀ text ∈ row, '\n' ∉ text := by decide
  have narrow : result.IsNarrow := ⟨by decide, by decide⟩
  have aligned := tables_are_aligned true result complete unbrokenNames unbrokenCells
  exact ⟨complete, unbrokenNames, unbrokenCells, aligned.1.mpr narrow⟩

namespace ResultSet

def ofLongCell (length : Nat) : ResultSet :=
  ⟨[⟨['c'], "TEXT"⟩], [[.text (List.replicate length 'x')]]⟩

theorem not_areNarrow_ofLongCell {length : Nat} (tooLong : greatestWidth < length) :
    ¬ AreNarrow (ofLongCell length).widths := by
  intro narrow
  have fits := narrow _ List.mem_cons_self
  have wide := Nat.le_trans (Nat.le_max_right _ _) fits
  have oneByte : Char.utf8Size 'x' = 1 := by decide
  rw [Cell.written, byteWidth_replicate, oneByte, Nat.mul_one] at wide
  exact Nat.not_lt.mpr wide tooLong

end ResultSet

open ResultSet in
/-- A cell with one character more than the greatest width has no table. -/
theorem not_printsTable_of_long_cell :
    (∀ row ∈ (ofLongCell 65536).rows, row.length = (ofLongCell 65536).columns.length) ∧
      (∀ heading ∈ (ofLongCell 65536).headings, '\n' ∉ heading) ∧
      (∀ row ∈ (ofLongCell 65536).cellTexts, ∀ text ∈ row, '\n' ∉ text) ∧
      ∀ colours, (ofLongCell 65536).print .table colours = none ∧
        ¬ (ofLongCell 65536).PrintsTable colours := by
  refine ⟨?_, ?_, ?_, ?_⟩
  · intro row member
    rw [List.mem_singleton.mp member]
    rfl
  · intro heading member
    rw [List.mem_singleton.mp member]
    decide
  · intro row isRow text member
    rw [List.mem_singleton.mp isRow] at member
    rw [List.mem_singleton.mp member]
    intro inText
    exact absurd (List.eq_of_mem_replicate inText) (by decide)
  · intro colours
    have failed : (ofLongCell 65536).print .table colours = none :=
      printTable_of_wide (not_areNarrow_ofLongCell (by decide)) colours
    apply And.intro failed
    rintro ⟨printed, isPrinted, -⟩
    cases isPrinted.symm.trans failed

end Batchwise
