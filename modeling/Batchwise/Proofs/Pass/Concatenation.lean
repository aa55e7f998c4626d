import Batchwise.Proofs.Element.Concatenation
import Batchwise.Proofs.Pass.Part

namespace Batchwise

/-! A separator at the end of a script closes whatever is open, so a script behind it
is read as if it stood alone: with the context that the first script leaves, and with
every place moved down by the lines of the first script. -/

/-! ## Reading further down -/

def Piece.down (lines : Nat) (piece : Piece) : Piece :=
  { piece with element := piece.element.down lines }

def Batch.down (lines : Nat) (batch : Batch) : Batch :=
  ⟨batch.pieces.map (Piece.down lines), batch.start.down lines, batch.count⟩

def Delivery.down (lines : Nat) (delivery : Delivery) : Delivery :=
  { delivery with batch := delivery.batch.down lines }

def Fault.down (lines : Nat) (fault : Fault) : Fault :=
  { fault with position := fault.position.down lines }

def Progress.down (lines : Nat) (progress : Progress) : Progress :=
  ⟨progress.context, progress.pending.map (Piece.down lines),
    progress.start.map (Position.down lines)⟩

def Moved.down (lines : Nat) (moved : Moved) : Moved :=
  ⟨moved.batch.map (Batch.down lines), moved.progress.down lines,
    moved.rest.map (Element.down lines)⟩

def Parsed.down (lines : Nat) (parsed : Parsed) : Parsed :=
  ⟨parsed.deliveries.map (Delivery.down lines), parsed.fault.map (Fault.down lines),
    parsed.context⟩

@[simp] theorem Batch.text_down (lines : Nat) (batch : Batch) :
    (batch.down lines).text = batch.text := by
  rw [Batch.text, Batch.text, Batch.down, List.flatMap_map]
  rfl

theorem Parsed.down_deliver (lines : Nat) (parsed : Parsed) (delivery : Option Delivery) :
    (parsed.deliver delivery).down lines =
      (parsed.down lines).deliver (delivery.map (Delivery.down lines)) := by
  cases delivery <;> rfl

theorem Moved.delivery_down (lines : Nat) (moved : Moved) :
    (moved.down lines).delivery = moved.delivery.map (Delivery.down lines) := by
  rcases moved with ⟨batch, progress, rest⟩
  cases batch <;> rfl

namespace Progress

def Consistent (progress : Progress) : Prop :=
  progress.start.isNone = progress.pending.isEmpty

theorem down_append (lines : Nat) (progress : Progress) (element : Element) :
    (progress.append element).down lines =
      (progress.down lines).append (element.down lines) := by
  rcases progress with ⟨context, pending, start⟩
  cases start <;> rfl

theorem isEmpty_down (lines : Nat) (progress : Progress) :
    (progress.down lines).pending.isEmpty = progress.pending.isEmpty :=
  List.isEmpty_map

theorem Consistent.down_close {progress : Progress} (consistent : progress.Consistent)
    (opened : progress.pending.isEmpty = false) (lines : Nat) (count : Int) :
    (progress.close count).down lines = (progress.down lines).close count := by
  rcases progress with ⟨context, pending, start⟩
  cases start with
  | none => exact absurd (consistent.trans opened) (by simp)
  | some position =>
      have pieces := (List.map_reverse (f := Piece.down lines) (l := pending)).symm
      exact congrArg (fun pieces => Batch.mk pieces (position.down lines) count) pieces.symm

theorem Consistent.eq_ofContext {progress : Progress} (consistent : progress.Consistent)
    (nothing : progress.pending = []) : progress = .ofContext progress.context := by
  rcases progress with ⟨context, pending, start⟩
  dsimp only at nothing
  subst nothing
  have noStart : start = none := Option.isNone_iff_eq_none.mp consistent
  rw [noStart]
  rfl

end Progress

namespace Pass

theorem consistent_of_step {progress : Progress} {element : Element} {rest : List Element}
    {moved : Moved} (consistent : progress.Consistent)
    (taken : step progress element rest = .ok moved) : moved.progress.Consistent := by
  rcases step_takes taken with ⟨part, -, -, moves⟩
  cases part with
  | separator separator =>
      rcases moves with ⟨count, -, moves⟩
      split at moves
      · rw [moves.2]
        exact consistent
      · rw [moves.2]
        rfl
  | directive directive literal =>
      rw [moves.2]
      exact consistent
  | content content =>
      rw [moves.2]
      rfl

theorem step_down {progress : Progress} (consistent : progress.Consistent) (lines : Nat)
    (element : Element) (rest : List Element) :
    step (progress.down lines) (element.down lines) (rest.map (Element.down lines)) =
      match step progress element rest with
      | .error (fault, left) => .error (fault.down lines, left.map (Element.down lines))
      | .ok moved => .ok (moved.down lines) := by
  have sameLine : Line.read (progress.down lines).context.mode.isScripting
      (element.down lines) = Line.read progress.context.mode.isScripting element := rfl
  have sameCount (written) : (progress.down lines).repeatCount written =
      progress.repeatCount written := by
    cases written <;> rfl
  rw [step, step, sameLine]
  cases Line.read progress.context.mode.isScripting element with
  | error malformation => rfl
  | ok line =>
      cases line with
      | separator written =>
          dsimp only
          rw [sameCount]
          cases progress.repeatCount written with
          | none => rfl
          | some count =>
              dsimp only
              rw [Progress.isEmpty_down]
              cases opened : progress.pending.isEmpty with
              | true => rfl
              | false =>
                  rw [if_neg Bool.false_ne_true, if_neg Bool.false_ne_true]
                  rw [← consistent.down_close opened]
                  rfl
      | assignLiteral name =>
          cases rest with
          | nil => rfl
          | cons literal rest =>
              rw [List.map_cons]
              dsimp only
              have sameKind : (literal.down lines).kind = literal.kind := rfl
              rw [sameKind]
              split <;> rfl
      | assign name value => rfl
      | onError continueOnError => rfl
      | content =>
          dsimp only
          rw [← Progress.down_append]
          rfl

theorem parse_down (lines : Nat) (unterminated : Option Unterminated) (progress : Progress)
    (elements : List Element) :
    progress.Consistent →
      parse ⟨elements.map (Element.down lines), unterminated.map (Unterminated.down lines),
          progress.down lines⟩ =
        (parse ⟨elements, unterminated, progress⟩).down lines := by
  induction progress, elements using induct with
  | atEnd progress =>
      intro consistent
      rw [List.map_nil, parse_nil, parse_nil]
      cases unterminated with
      | some region => rfl
      | none =>
          dsimp only [Option.map_none]
          rw [Progress.isEmpty_down]
          cases opened : progress.pending.isEmpty with
          | true => rfl
          | false =>
              rw [if_neg Bool.false_ne_true, if_neg Bool.false_ne_true,
                ← consistent.down_close opened]
              rfl
  | atFault progress element rest found taken =>
      intro consistent
      have takenDown := step_down consistent lines element rest
      rw [taken] at takenDown
      rw [List.map_cons, parse_of_step_error _ takenDown, parse_of_step_error _ taken]
      rfl
  | before progress element rest moved taken induction =>
      intro consistent
      have takenDown := step_down consistent lines element rest
      rw [taken] at takenDown
      have behind := induction (consistent_of_step consistent taken)
      rw [List.map_cons, parse_of_step _ takenDown, parse_of_step _ taken, Parsed.down_deliver,
        ← Moved.delivery_down, ← behind]
      rfl

end Pass

/-! ## Reading on behind a separator -/

namespace Parsed

/-- Read on in the context that is left, unless there has been a fault. -/
def andThen (parsed : Parsed) (following : Context → Parsed) : Parsed :=
  match parsed.fault with
  | some _ => parsed
  | none =>
    let behind := following parsed.context
    ⟨parsed.deliveries ++ behind.deliveries, behind.fault, behind.context⟩

theorem deliver_andThen (parsed : Parsed) (delivery : Option Delivery)
    (following : Context → Parsed) :
    (parsed.deliver delivery).andThen following =
      (parsed.andThen following).deliver delivery := by
  rcases parsed with ⟨deliveries, fault, context⟩
  cases fault with
  | some fault => rfl
  | none =>
      have assoc := List.append_assoc delivery.toList deliveries (following context).deliveries
      exact congrArg (fun all => Parsed.mk all _ _) assoc

end Parsed

namespace Pass

/-- Only an assignment that waits for its literal looks at the elements behind it. -/
theorem step_append (progress : Progress) {element : Element} {rest : List Element}
    (more : List Element) (closed : rest = [] → element.isSeparator = true) :
    step progress element (rest ++ more) =
      match step progress element rest with
      | .error (fault, left) => .error (fault, left ++ more)
      | .ok moved => .ok { moved with rest := moved.rest ++ more } := by
  rw [step, step]
  cases read : Line.read progress.context.mode.isScripting element with
  | error malformation => rfl
  | ok line =>
      cases line with
      | separator written =>
          dsimp only
          cases progress.repeatCount written with
          | none => rfl
          | some count =>
              dsimp only
              split <;> rfl
      | assignLiteral name =>
          cases rest with
          | nil =>
              have notSeparator := (Line.renders_of_read read).1
              rw [closed rfl] at notSeparator
              cases notSeparator
          | cons literal rest =>
              rw [List.cons_append]
              dsimp only
              split <;> rfl
      | assign name value => rfl
      | onError continueOnError => rfl
      | content => rfl

/-- Behind a separator no batch is open, and only a separator leads to the end of a
script that ends with one. -/
theorem pending_of_step_to_end {progress : Progress} {element : Element}
    {rest : List Element} {moved : Moved} (taken : step progress element rest = .ok moved)
    (ends : ∀ last ∈ (element :: rest).getLast?, last.isSeparator = true)
    (atEnd : moved.rest = []) : moved.progress.pending = [] := by
  rcases step_takes taken with ⟨part, split, judged, moves⟩
  rw [split, atEnd, List.append_nil] at ends
  cases part with
  | separator separator =>
      rcases moves with ⟨count, -, moves⟩
      split at moves
      · rename_i nothing
        rw [moves.2]
        exact List.isEmpty_iff.mp nothing
      · rw [moves.2]
        rfl
  | directive directive literal =>
      have isLast := List.getLast?_eq_some_getLast (List.cons_ne_nil directive literal.toList)
      have separates := ends _ isLast
      rw [judged _ (List.mem_of_getLast? isLast)] at separates
      cases separates
  | content content =>
      have separates := ends content rfl
      rw [judged] at separates
      cases separates

theorem step_suffix {progress : Progress} {element : Element} {rest : List Element}
    {moved : Moved} (taken : step progress element rest = .ok moved) :
    moved.rest <:+ element :: rest := by
  rcases step_takes taken with ⟨part, split, -, -⟩
  exact ⟨part.elements, split.symm⟩

theorem getLast?_of_suffix {front back : List Element} (suffix : back <:+ front)
    (nonempty : back ≠ []) : back.getLast? = front.getLast? := by
  rcases suffix with ⟨before, rfl⟩
  rw [List.getLast?_append_of_ne_nil _ nonempty]

theorem parse_append (more : List Element) (unterminated : Option Unterminated)
    (progress : Progress) (elements : List Element) :
    progress.Consistent → (elements = [] → progress.pending = []) →
      (∀ last ∈ elements.getLast?, last.isSeparator = true) →
      parse ⟨elements ++ more, unterminated, progress⟩ =
        (parse ⟨elements, none, progress⟩).andThen fun context =>
          parse ⟨more, unterminated, .ofContext context⟩ := by
  induction progress, elements using induct with
  | atEnd progress =>
      intro consistent nothing _
      have pending := nothing rfl
      rw [List.nil_append, parse_nil, pending]
      have fresh := consistent.eq_ofContext pending
      exact congrArg (fun progress => parse ⟨more, unterminated, progress⟩) fresh
  | atFault progress element rest found taken =>
      intro _ _ ends
      have closed : rest = [] → element.isSeparator = true := by
        rintro rfl
        exact ends element rfl
      have takenWith := step_append progress more closed
      rw [taken] at takenWith
      rw [List.cons_append, parse_of_step_error _ takenWith, parse_of_step_error _ taken]
      rfl
  | before progress element rest moved taken induction =>
      intro consistent _ ends
      have closed : rest = [] → element.isSeparator = true := by
        rintro rfl
        exact ends element rfl
      have takenWith := step_append progress more closed
      rw [taken] at takenWith
      have endsBehind : ∀ last ∈ moved.rest.getLast?, last.isSeparator = true := by
        intro last isLast
        have nonempty : moved.rest ≠ [] := by
          rintro empty
          rw [empty] at isLast
          cases isLast
        rw [getLast?_of_suffix (step_suffix taken) nonempty] at isLast
        exact ends last isLast
      have behind := induction (consistent_of_step consistent taken)
        (pending_of_step_to_end taken ends) endsBehind
      rw [List.cons_append, parse_of_step _ takenWith, parse_of_step _ taken,
        Parsed.deliver_andThen, ← behind]
      rfl

end Pass

/-- A script behind another one that ends with a separator line is read on its own. If
the first script has a fault, the whole is read as the first one is. Otherwise the
batches and the fault of the second script, read in the context that the first one
leaves, follow at places moved down by the line feeds of the first one. -/
theorem parse_append_of_separator (first second : List Char) (context : Context)
    {elements : List Element} {separator : Element}
    (scanned : (Cursor.ofScript first).elements = ⟨elements, none⟩)
    (isLast : elements.getLast? = some separator) (separates : separator.isSeparator = true)
    (lineFeed : separator.text.getLast? = some '\n') :
    (Pass.ofScript (first ++ second) context).parse =
      (Pass.ofScript first context).parse.andThen fun left =>
        (Pass.ofScript second left).parse.down (first.count '\n') := by
  have source : first = sourceOf elements :=
    (Cursor.elements_eq_iff.mp scanned).1.source.symm
  have firstEnds : first.getLast? = some '\n' := by
    rcases List.getLast?_eq_some_iff.mp isLast with ⟨front, rfl⟩
    have nonempty : separator.text ≠ [] := by
      intro empty
      rw [empty] at lineFeed
      cases lineFeed
    rw [source, sourceOf, List.flatMap_append, List.flatMap_singleton,
      List.getLast?_append_of_ne_nil _ nonempty, lineFeed]
  have ends : EndsInLineFeed elements := by
    intro last other
    rw [isLast] at other
    cases other
    exact ⟨kind_of_isSeparator separates, lineFeed⟩
  have whole := elements_ofScript_append second scanned ends firstEnds
  have closed : ∀ last ∈ elements.getLast?, last.isSeparator = true := by
    intro last other
    rw [isLast] at other
    cases other
    exact separates
  have split := Pass.parse_append
    ((Cursor.ofScript second).elements.elements.map (Element.down (first.count '\n')))
    ((Cursor.ofScript second).elements.unterminated.map (Unterminated.down (first.count '\n')))
    (.ofContext context) elements rfl (fun _ => rfl) closed
  rw [Pass.ofScript, Pass.ofScript, whole, scanned, split]
  congr 1
  funext left
  exact Pass.parse_down (first.count '\n') (Cursor.ofScript second).elements.unterminated
    (.ofContext left) (Cursor.ofScript second).elements.elements rfl

/-- The second script has a batch and a fault, and refers to the first one. -/
theorem parse_append_of_separator_with_count :
    let first := ":SETVAR a 1\nS\nGo 2\n".toList
    let second := "$(a)\nGO\n:x".toList
    let separator : Element := ⟨.text, "Go 2\n".toList, ⟨3, 1⟩, .endOfLine⟩
    (Cursor.ofScript first).elements.unterminated = none ∧
      (Cursor.ofScript first).elements.elements.getLast? = some separator ∧
      separator.isSeparator = true ∧ separator.text.getLast? = some '\n' ∧
      (Pass.ofScript (first ++ second) (.ofOptions {})).parse =
        (Pass.ofScript first (.ofOptions {})).parse.andThen fun left =>
          (Pass.ofScript second left).parse.down 3 := by
  intro first second separator
  have noRegion : (Cursor.ofScript first).elements.unterminated = none := by decide +kernel
  have isLast : (Cursor.ofScript first).elements.elements.getLast? = some separator := by
    decide +kernel
  have scanned : (Cursor.ofScript first).elements =
      ⟨(Cursor.ofScript first).elements.elements, none⟩ := by
    rw [← noRegion]
  have separates : separator.isSeparator = true := by decide
  have lineFeed : separator.text.getLast? = some '\n' := by decide
  refine ⟨noRegion, isLast, separates, lineFeed, ?_⟩
  exact parse_append_of_separator first second (.ofOptions {}) scanned isLast separates lineFeed

end Batchwise
