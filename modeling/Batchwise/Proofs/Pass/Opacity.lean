import Batchwise.Proofs.Pass.Assembly
import Batchwise.Proofs.Pass.Policy

namespace Batchwise

/-! What comments and literals cannot change. A pass looks at the kinds of the elements,
at the words of plain text and at the literals that are assigned to variables. Whatever
else stands inside of a comment or a literal goes into its batch and decides nothing, so
two scripts that differ there alone are read side by side, construct by construct. -/

/-! ## Elements that match -/

/-- The two are of one kind, and plain text is the same in both. -/
structure Element.Matches (first second : Element) : Prop where
  kind : first.kind = second.kind
  text : first.kind = .text → first.text = second.text ∧ first.ending = second.ending

/-- The elements match one by one. In scripting modes, a literal that is the value of an
assignment has the same text in both scripts. -/
structure Matching (scripting : Bool) (firsts seconds : List Element) : Prop where
  elements : List.Forall₂ Element.Matches firsts seconds
  values : scripting = true → ∀ index assignment, firsts[index]? = some assignment →
    assignment.assignsLiteral = true →
    firsts[index + 1]?.map (·.text) = seconds[index + 1]?.map (·.text)

instance (first second : Element) : Decidable (first.Matches second) :=
  decidable_of_iff (first.kind = second.kind ∧
      (first.kind = .text → first.text = second.text ∧ first.ending = second.ending))
    ⟨fun matched => ⟨matched.1, matched.2⟩, fun matched => ⟨matched.kind, matched.text⟩⟩

namespace Element.Matches

variable {first second : Element}

theorem firstWord? (matched : first.Matches second) :
    first.firstWord? = second.firstWord? := by
  rw [Element.firstWord?, Element.firstWord?, ← matched.kind]
  cases kind : first.kind with
  | text => rw [(matched.text kind).1]
  | lineComment | blockComment | literal => rfl

theorem isSeparator (matched : first.Matches second) :
    first.isSeparator = second.isSeparator := by
  rw [Element.isSeparator, Element.isSeparator, matched.firstWord?]

theorem isDirective (matched : first.Matches second) :
    first.isDirective = second.isDirective := by
  rw [Element.isDirective, Element.isDirective, matched.firstWord?]

theorem judged_alike (matched : first.Matches second) (isText : first.kind = .text) :
    first.assignsLiteral = second.assignsLiteral ∧ first.directs = second.directs ∧
      first.misdirection = second.misdirection := by
  rcases matched.text isText with ⟨text, ending⟩
  have assignsLiteral : first.assignsLiteral = second.assignsLiteral := by
    rw [Element.assignsLiteral, Element.assignsLiteral, awaitsLiteral, awaitsLiteral, text,
      ending]
  refine ⟨assignsLiteral, ?_, ?_⟩
  · rw [directs, directs, assignsLiteral, assignsWord, assignsWord, policy?, policy?, text,
      ending]
  · rw [misdirection, misdirection, text, ending]

end Element.Matches

theorem Element.content_congr {first second : Element} (kind : first.kind = second.kind)
    (text : first.text = second.text) : first.content = second.content := by
  rw [content, content, kind, text]

theorem Context.direct_congr (context : Context) {first second literal other : Element}
    (text : first.text = second.text) (content : literal.content = other.content) :
    context.direct first (some literal) = context.direct second (some other) := by
  simp only [direct, text]
  rcases words second.text with _ | ⟨command, _ | ⟨name, _ | ⟨value, operands⟩⟩⟩
  · rfl
  · rfl
  · dsimp only
    rw [content]
  · cases operands <;> rfl

namespace Matching

variable {scripting : Bool} {first second : Element} {firsts seconds : List Element}

instance (scripting : Bool) (firsts seconds : List Element) :
    Decidable (Matching scripting firsts seconds) :=
  decidable_of_iff (List.Forall₂ Element.Matches firsts seconds ∧
      (scripting = true → ∀ (index : Nat) (inside : index < firsts.length),
        firsts[index].assignsLiteral = true →
          firsts[index + 1]?.map (·.text) = seconds[index + 1]?.map (·.text)))
    ⟨fun matching => ⟨matching.1, fun isScripting index assignment stands assigns => by
        rcases List.getElem?_eq_some_iff.mp stands with ⟨inside, rfl⟩
        exact matching.2 isScripting index inside assigns⟩,
      fun matching => ⟨matching.elements, fun isScripting index inside =>
        matching.values isScripting index _ (List.getElem?_eq_getElem inside)⟩⟩

theorem tail (matching : Matching scripting (first :: firsts) (second :: seconds)) :
    Matching scripting firsts seconds where
  elements := (List.forall₂_cons.mp matching.elements).2
  values := fun isScripting index => matching.values isScripting (index + 1)

theorem head_value (matching : Matching scripting (first :: firsts) (second :: seconds))
    (isScripting : scripting = true) (assigns : first.assignsLiteral = true) :
    firsts.head?.map (·.text) = seconds.head?.map (·.text) := by
  have value := matching.values isScripting 0 first rfl assigns
  simpa [List.head?_eq_getElem?] using value

end Matching

/-! ## Constructs that match -/

inductive Part.Matches : Part → Part → Prop
  | separator {first second : Element} (matched : first.Matches second)
      (isText : first.kind = .text) : Part.Matches (.separator first) (.separator second)
  | directive {first second : Element} {literal other : Option Element}
      (matched : first.Matches second) (isText : first.kind = .text)
      (value : Option.Rel (fun one two => one.Matches two ∧ one.text = two.text) literal
        other) :
      Part.Matches (.directive first literal) (.directive second other)
  | content {first second : Element} (matched : first.Matches second) :
      Part.Matches (.content first) (.content second)

theorem constructs_match {scripting : Bool} {firsts seconds : List Element}
    (matching : Matching scripting firsts seconds) :
    List.Forall₂ Part.Matches (constructs scripting firsts)
      (constructs scripting seconds) := by
  have forms := matching.elements
  fun_induction constructs scripting firsts generalizing seconds with
  | case1 =>
      cases forms
      exact .nil
  | case2 element rest separates induction =>
      cases forms with
      | cons matched behind =>
          rw [constructs_of_separator (matched.isSeparator.symm.trans separates)]
          exact .cons (.separator matched (kind_of_isSeparator separates))
            (induction matching.tail behind)
  | case3 element notSeparator isDirective =>
      cases forms with
      | cons matched behind =>
          cases behind
          have isText := kind_of_isDirective (Bool.and_eq_true_iff.mp isDirective).2
          rw [Bool.not_eq_true, matched.isSeparator] at notSeparator
          rw [matched.isDirective] at isDirective
          rw [constructs_of_last_directive notSeparator isDirective]
          exact .cons (.directive matched isText .none) .nil
  | case4 element notSeparator isDirective literal behind assigns induction =>
      cases forms with
      | cons matched following =>
          cases following with
          | cons matchedLiteral following =>
              rcases Bool.and_eq_true_iff.mp isDirective with ⟨isScripting, directive⟩
              have isText := kind_of_isDirective directive
              have value := Option.some.inj (matching.head_value isScripting assigns)
              rw [Bool.not_eq_true, matched.isSeparator] at notSeparator
              rw [matched.isDirective] at isDirective
              rw [(matched.judged_alike isText).1] at assigns
              rw [constructs_of_assignment notSeparator isDirective assigns]
              exact .cons (.directive matched isText (.some ⟨matchedLiteral, value⟩))
                (induction matching.tail.tail following)
  | case5 element notSeparator isDirective literal behind alone induction =>
      cases forms with
      | cons matched following =>
          have isText := kind_of_isDirective (Bool.and_eq_true_iff.mp isDirective).2
          rw [Bool.not_eq_true, matched.isSeparator] at notSeparator
          rw [matched.isDirective] at isDirective
          rw [Bool.not_eq_true, (matched.judged_alike isText).1] at alone
          rw [constructs_of_directive notSeparator isDirective alone]
          exact .cons (.directive matched isText .none) (induction matching.tail following)
  | case6 element rest notSeparator notDirective induction =>
      cases forms with
      | cons matched following =>
          rw [Bool.not_eq_true, matched.isSeparator] at notSeparator
          rw [Bool.not_eq_true, matched.isDirective] at notDirective
          rw [constructs_of_content notSeparator notDirective]
          exact .cons (.content matched) (induction matching.tail following)

namespace Part.Matches

variable {part other : Part}

theorem length_elements (matched : part.Matches other) :
    part.elements.length = other.elements.length := by
  cases matched with
  | separator | content => rfl
  | directive matched isText value => cases value <;> rfl

theorem malformation? (matched : part.Matches other) (context : Context) :
    part.malformation? context = other.malformation? context := by
  cases matched with
  | separator matched isText =>
      rcases matched.text isText with ⟨text, ending⟩
      rw [Part.malformation?, Part.malformation?, Context.separatorCount,
        Context.separatorCount, text, ending]
  | directive matched isText =>
      rcases matched.judged_alike isText with ⟨-, directs, misdirection⟩
      rw [Part.malformation?, Part.malformation?, directs, misdirection]
  | content => rfl

theorem past (matched : part.Matches other) (context : Context) :
    context.past part = context.past other := by
  cases matched with
  | separator | content => rfl
  | directive matched isText value =>
      rw [Context.past, Context.past, (matched.judged_alike isText).2.1]
      cases value with
      | none => simp only [Context.direct, (matched.text isText).1]
      | some same =>
          rw [context.direct_congr (matched.text isText).1
            (Element.content_congr same.1.kind same.2)]

end Part.Matches

/-! ## Batches of matching elements -/

/-- The pieces are made of the elements at these places of the script. -/
def Occupies (elements : List Element) (places : List Nat) (pieces : List Piece) : Prop :=
  pieces.map (fun piece => some piece.element) = places.map (elements[·]?)

structure Piece.Matches (first second : Piece) : Prop where
  element : first.element.Matches second.element
  text : ∃ context, first.text = first.element.textIn context ∧
    second.text = second.element.textIn context

structure Delivery.Matches (first second : Delivery) : Prop where
  pieces : List.Forall₂ Piece.Matches first.batch.pieces second.batch.pieces
  count : first.batch.count = second.batch.count
  policy : first.continueOnError = second.continueOnError

structure Fault.Matches (firsts seconds : List Element) (first second : Fault) : Prop where
  malformation : first.malformation = second.malformation
  place : ∃ index : Nat, firsts[index]?.map Element.position = some first.position ∧
    seconds[index]?.map Element.position = some second.position

/-- The places of the two batches that a construct has closed in both scripts, if any. -/
inductive Delivery.Paired (firsts seconds : List Element) :
    List Nat → Option Delivery → Option Delivery → Prop
  | nothing : Delivery.Paired firsts seconds [] none none
  | batch {places : List Nat} {first second : Delivery} (same : first.Matches second)
      (firstPlaces : Occupies firsts places first.batch.pieces)
      (secondPlaces : Occupies seconds places second.batch.pieces) :
      Delivery.Paired firsts seconds places (some first) (some second)

/-- Both scripts are read in the same way. The batches of both consist of the elements at
the same places, which are among the free ones and in their order. -/
structure Parsed.Matches (firsts seconds : List Element) (free : List Nat)
    (first second : Parsed) : Prop where
  deliveries : List.Forall₂ Delivery.Matches first.deliveries second.deliveries
  places : ∃ places : List (List Nat), places.flatten.Sublist free ∧
    List.Forall₂ (fun places delivery => Occupies firsts places delivery.batch.pieces) places
      first.deliveries ∧
    List.Forall₂ (fun places delivery => Occupies seconds places delivery.batch.pieces) places
      second.deliveries
  fault : Option.Rel (Fault.Matches firsts seconds) first.fault second.fault
  context : first.context = second.context

structure Progress.Matches (firsts seconds : List Element) (opened : List Nat)
    (first second : Progress) : Prop where
  context : first.context = second.context
  pieces : List.Forall₂ Piece.Matches first.pending second.pending
  firstPlaces : Occupies firsts opened first.pending.reverse
  secondPlaces : Occupies seconds opened second.pending.reverse

theorem Occupies.concat {elements : List Element} {places : List Nat} {pieces : List Piece}
    (occupies : Occupies elements places pieces) {place : Nat} {piece : Piece}
    (stands : elements[place]? = some piece.element) :
    Occupies elements (places ++ [place]) (pieces ++ [piece]) := by
  rw [Occupies, List.map_append, List.map_append, occupies]
  simp [stands]

section Matching

variable {firsts seconds : List Element} {opened free : List Nat}

theorem Progress.Matches.isEmpty {first second : Progress}
    (matched : first.Matches firsts seconds opened second) :
    first.pending.isEmpty = second.pending.isEmpty := by
  rw [Bool.eq_iff_iff, List.isEmpty_iff_length_eq_zero, List.isEmpty_iff_length_eq_zero,
    matched.pieces.length_eq]

theorem Progress.Matches.append {first second : Progress}
    (matched : first.Matches firsts seconds opened second) {one two : Element}
    (same : one.Matches two) {place : Nat} (firstStands : firsts[place]? = some one)
    (secondStands : seconds[place]? = some two) :
    (first.append one).Matches firsts seconds (opened ++ [place]) (second.append two) where
  context := matched.context
  pieces := by
    rw [pending_append, pending_append]
    exact .cons ⟨same, first.context, rfl, by rw [matched.context]⟩ matched.pieces
  firstPlaces := by
    rw [pending_append, List.reverse_cons]
    exact matched.firstPlaces.concat firstStands
  secondPlaces := by
    rw [pending_append, List.reverse_cons]
    exact matched.secondPlaces.concat secondStands

theorem Progress.Matches.clear {first second : Progress}
    (matched : first.Matches firsts seconds opened second) :
    first.clear.Matches firsts seconds [] second.clear :=
  ⟨matched.context, .nil, rfl, rfl⟩

theorem Parsed.Matches.mono {first second : Parsed} {more : List Nat}
    (matched : first.Matches firsts seconds free second) (within : free.Sublist more) :
    first.Matches firsts seconds more second := by
  rcases matched.places with ⟨places, chosen, occupied⟩
  exact ⟨matched.deliveries, ⟨places, chosen.trans within, occupied⟩, matched.fault,
    matched.context⟩

theorem Parsed.Matches.deliver {first second : Parsed} {closed : List Nat}
    {delivery other : Option Delivery} (matched : first.Matches firsts seconds free second)
    (closes : Delivery.Paired firsts seconds closed delivery other) :
    (first.deliver delivery).Matches firsts seconds (closed ++ free) (second.deliver other) := by
  cases closes with
  | nothing => exact matched
  | batch same firstPlaces secondPlaces =>
      rcases matched.places with ⟨places, chosen, firstBehind, secondBehind⟩
      refine ⟨.cons same matched.deliveries, ⟨closed :: places, ?_, ?_, ?_⟩, matched.fault,
        matched.context⟩
      · exact (List.Sublist.refl closed).append chosen
      · exact .cons firstPlaces firstBehind
      · exact .cons secondPlaces secondBehind

theorem Progress.Matches.closes {first second : Progress}
    (matched : first.Matches firsts seconds opened second) (count : Int) (policy : Bool) :
    Delivery.Paired firsts seconds opened (some ⟨first.close count, policy⟩)
      (some ⟨second.close count, policy⟩) :=
  .batch ⟨List.rel_reverse matched.pieces, rfl, rfl⟩ matched.firstPlaces matched.secondPlaces

theorem Part.Matches.takes {part other : Part} (same : part.Matches other)
    {first second : Progress} (matched : first.Matches firsts seconds opened second)
    (accepted : part.malformation? first.context = none) {place : Nat}
    (firstStands : firsts[place]? = some part.head)
    (secondStands : seconds[place]? = some other.head) (policy : Bool) :
    ∃ closed next,
      (closed ++ next).Sublist (opened ++ List.range' place part.elements.length) ∧
      Delivery.Paired firsts seconds closed ((first.closed? part).map (Delivery.mk · policy))
        ((second.closed? other).map (Delivery.mk · policy)) ∧
      (first.past part).Matches firsts seconds next (second.past other) := by
  have acceptedToo : other.malformation? second.context = none := by
    rw [← same.malformation?, ← matched.context, accepted]
  cases same with
  | @separator separator another alike isText =>
      rcases Part.count_of_accepted accepted with ⟨count, counted⟩
      have countedToo : second.context.separatorCount another = some count := by
        rw [← counted, matched.context, Context.separatorCount, Context.separatorCount,
          (alike.text isText).1]
      simp only [Progress.closed?, Progress.past, accepted, acceptedToo, counted, countedToo,
        ← matched.isEmpty]
      cases first.pending.isEmpty with
      | true => exact ⟨[], opened, List.sublist_append_left _ _, .nothing, matched⟩
      | false =>
          refine ⟨opened, [], ?_, matched.closes count policy, matched.clear⟩
          rw [List.append_nil]
          exact List.sublist_append_left _ _
  | directive alike isText value =>
      have context := Part.Matches.past (.directive alike isText value) first.context
      rw [← Progress.context_past, matched.context, ← Progress.context_past] at context
      refine ⟨[], opened, List.sublist_append_left _ _, .nothing, ?_⟩
      simp only [Progress.past, accepted, acceptedToo] at context ⊢
      exact ⟨context, matched.pieces, matched.firstPlaces, matched.secondPlaces⟩
  | content alike =>
      exact ⟨[], opened ++ [place], List.Sublist.refl _, .nothing,
        matched.append alike firstStands secondStands⟩

end Matching

/-! ## Two whole scripts -/

theorem getElem?_head (front : List Element) (part : Part) (rest : List Part) :
    (front ++ (part :: rest).flatMap Part.elements)[front.length]? = some part.head := by
  rw [List.getElem?_append_right (Nat.le_refl _), Nat.sub_self]
  cases part <;> rfl

/-- Behind matching fronts, matching constructs are read in the same way. The induction is
over the constructs; `opened` are the places of the batch that is open. -/
theorem parsedFrom_matches {firsts seconds : List Element} {parts others : List Part}
    (matched : List.Forall₂ Part.Matches parts others) :
    ∀ (front otherFront : List Element) (opened : List Nat) (first second : Progress),
      firsts = front ++ parts.flatMap Part.elements →
      seconds = otherFront ++ others.flatMap Part.elements →
      front.length = otherFront.length → first.Matches firsts seconds opened second →
      (parsedFrom none first parts).Matches firsts seconds
        (opened ++ List.range' front.length (parts.flatMap Part.elements).length)
        (parsedFrom none second others) := by
  induction matched with
  | nil =>
      intro front otherFront opened first second _ _ _ progress
      rw [parsedFrom, parsedFrom, Pass.parse_nil, Pass.parse_nil, ← progress.isEmpty,
        ← progress.context]
      have nothing : Parsed.Matches firsts seconds [] ⟨[], none, first.context⟩
          ⟨[], none, first.context⟩ :=
        ⟨.nil, ⟨[], List.nil_sublist _, .nil, .nil⟩, .none, rfl⟩
      dsimp only
      cases first.pending.isEmpty with
      | true => exact nothing.mono (List.nil_sublist _)
      | false => exact nothing.deliver (progress.closes 1 first.context.continueOnError)
  | @cons part other rest following same _ induction =>
      intro front otherFront opened first second split otherSplit length progress
      have firstStands : firsts[front.length]? = some part.head := by
        rw [split, getElem?_head]
      have secondStands : seconds[front.length]? = some other.head := by
        rw [otherSplit, length, getElem?_head]
      rw [parsedFrom, parsedFrom, ← progress.context, ← same.malformation?]
      cases judged : part.malformation? first.context with
      | some malformation =>
          have fault : Fault.Matches firsts seconds ⟨malformation, part.head.position⟩
              ⟨malformation, other.head.position⟩ := by
            refine ⟨rfl, front.length, ?_, ?_⟩
            · rw [firstStands, Option.map_some]
            · rw [secondStands, Option.map_some]
          exact ⟨.nil, ⟨[], List.nil_sublist _, .nil, .nil⟩, .some fault, rfl⟩
      | none =>
          rcases same.takes progress judged firstStands secondStands
            (first.past part).context.continueOnError with ⟨closed, next, within, closes, after⟩
          -- What the construct has taken is the new end of the front, in both scripts.
          have behind := induction (front ++ part.elements) (otherFront ++ other.elements) next
            _ _ (by rw [split, List.flatMap_cons, List.append_assoc])
            (by rw [otherSplit, List.flatMap_cons, List.append_assoc])
            (by rw [List.length_append, List.length_append, length, same.length_elements]) after
          dsimp only
          rw [← after.context]
          refine (behind.deliver closes).mono ?_
          rw [List.flatMap_cons, List.length_append, List.length_append, ← List.append_assoc,
            ← List.range'_append_1, ← List.append_assoc]
          exact within.append (List.Sublist.refl _)

/-- What stands inside of comments and literals is opaque. If two scripts are read to
their ends and differ only there, both are read in the same way in every context: the same
places of both make up the same batches, with the same counts and policies, the same
element of both is rejected for the same reason, if any, and the same context is left. -/
theorem comments_and_literals_are_opaque (first second : List Char) (context : Context)
    {firsts seconds : List Element}
    (scanned : (Cursor.ofScript first).elements = ⟨firsts, none⟩)
    (scannedToo : (Cursor.ofScript second).elements = ⟨seconds, none⟩)
    (matching : Matching context.mode.isScripting firsts seconds) :
    (Pass.ofScript first context).parse.Matches firsts seconds (List.range firsts.length)
      (Pass.ofScript second context).parse := by
  have chain := Cursor.announces_elements (Cursor.ofScript first)
  have chainToo := Cursor.announces_elements (Cursor.ofScript second)
  rw [scanned] at chain
  rw [scannedToo] at chainToo
  have read := @parsedFrom_matches firsts seconds _ _
    (constructs_match matching) [] [] [] (.ofContext context) (.ofContext context)
    (elements_constructs _ _).symm (elements_constructs _ _).symm rfl ⟨rfl, .nil, rfl, rfl⟩
  rw [elements_constructs] at read
  rw [Pass.ofScript, Pass.ofScript, scanned, scannedToo, Pass.parse_constructs _ _ _ chain,
    Pass.parse_constructs _ _ _ chainToo, List.range_eq_range']
  exact read

/-- The second script hides a separator, a directive, openers of comments and a reference,
and its places are others; both have one batch, and fail at the same separator. -/
theorem comments_and_literals_are_opaque_of_hidden_lines :
    let first := ":SETVAR a \"x\"\n--\nA 'b' [c]$(a)\nGO 2\n/**/S\nGO x\n".toList
    let second :=
      ":SETVAR a \"x\"\n-- GO '\nA '\nGO\n:x\n' [$(a)/*]$(a)\nGO 2\n/*\n:x\n*/S\nGO x\n".toList
    let firsts := (Cursor.ofScript first).elements.elements
    let seconds := (Cursor.ofScript second).elements.elements
    (Cursor.ofScript first).elements.unterminated = none ∧
      (Cursor.ofScript second).elements.unterminated = none ∧
      Matching true firsts seconds ∧
      (Pass.ofScript first (.ofOptions {})).parse.Matches firsts seconds
        (List.range firsts.length) (Pass.ofScript second (.ofOptions {})).parse := by
  intro first second firsts seconds
  have closed : (Cursor.ofScript first).elements.unterminated = none := by decide +kernel
  have closedToo : (Cursor.ofScript second).elements.unterminated = none := by decide +kernel
  have scanned : (Cursor.ofScript first).elements = ⟨firsts, none⟩ := by
    rw [← closed]
  have scannedToo : (Cursor.ofScript second).elements = ⟨seconds, none⟩ := by
    rw [← closedToo]
  have matching : Matching true firsts seconds := by decide +kernel
  exact ⟨closed, closedToo, matching,
    comments_and_literals_are_opaque first second _ scanned scannedToo matching⟩

end Batchwise
