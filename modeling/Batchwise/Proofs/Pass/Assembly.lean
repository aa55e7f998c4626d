import Batchwise.Proofs.Element.Tokenization
import Batchwise.Proofs.Pass.Part

namespace Batchwise

/-! Batches are the groups of content between the separators of a script. Content
is never lost, doubled or moved: an empty group gives no batch, and every other one
gives exactly one. -/

def Element.textIn (element : Element) (context : Context) : List Char :=
  if element.kind.isComment || !context.mode.isScripting then element.text
  else expand context.store.get? element.text

theorem Element.textIn_eq (element : Element) (context : Context) :
    element.textIn context =
      if element.kind.isComment then element.text else context.expand element.text := by
  rw [textIn, Context.expand]
  cases element.kind.isComment <;> cases context.mode.isScripting <;> rfl

theorem Progress.pending_append (progress : Progress) (element : Element) :
    (progress.append element).pending =
      ⟨element, element.textIn progress.context⟩ :: progress.pending := by
  rw [Element.textIn_eq]
  rfl

/-- The content up to a separator or up to the end of the script. Everything is
kept with the context in which it was met. -/
structure Group where
  contents : List (Element × Context)
  closing : Option (Element × Context)

namespace Group

/-- A group closes with the count of its separator, and with one at the end of the
script. -/
def count? (group : Group) : Option Int :=
  match group.closing with
  | none => some 1
  | some (separator, context) => context.separatorCount separator

structure Yields (group : Group) (batch : Batch) : Prop where
  elements : batch.pieces.map (·.element) = group.contents.map (·.1)
  start : group.contents.head?.map (·.1.position) = some batch.start
  count : group.count? = some batch.count
  text : batch.text = group.contents.flatMap fun content => content.1.textIn content.2

def prependFirst (contents : List (Element × Context)) : List Group → List Group
  | [] => []
  | group :: following => ⟨contents ++ group.contents, group.closing⟩ :: following

@[simp] theorem prependFirst_nil (groups : List Group) : prependFirst [] groups = groups := by
  cases groups <;> rfl

@[simp] theorem prependFirst_prependFirst (first second : List (Element × Context))
    (groups : List Group) :
    prependFirst first (prependFirst second groups) = prependFirst (first ++ second) groups := by
  cases groups <;> simp [prependFirst]

end Group

/-- The groups of a script, from a context on. Directives change the context and
part no group. -/
def groups (context : Context) : List Part → List Group
  | [] => [⟨[], none⟩]
  | .separator element :: rest => ⟨[], some (element, context)⟩ :: groups context rest
  | .directive element literal :: rest => groups (context.direct element literal) rest
  | .content element :: rest => Group.prependFirst [(element, context)] (groups context rest)

def filled (groups : List Group) : List Group :=
  groups.filter fun group => !group.contents.isEmpty

theorem filled_cons_of_isEmpty {group : Group} (groups : List Group)
    (empty : group.contents.isEmpty = true) : filled (group :: groups) = filled groups := by
  simp [filled, empty]

theorem filled_cons {group : Group} (groups : List Group)
    (nonempty : group.contents.isEmpty = false) :
    filled (group :: groups) = group :: filled groups := by
  simp [filled, nonempty]

/-! ## The open batch -/

structure Progress.Holds (progress : Progress) (contents : List (Element × Context)) :
    Prop where
  pieces : progress.pending.reverse =
    contents.map fun content => ⟨content.1, content.1.textIn content.2⟩
  start : progress.start = contents.head?.map (·.1.position)

namespace Progress.Holds

variable {progress : Progress} {contents : List (Element × Context)}

theorem isEmpty (holds : progress.Holds contents) :
    progress.pending.isEmpty = contents.isEmpty := by
  have pieces := congrArg List.isEmpty holds.pieces
  rwa [List.isEmpty_reverse, List.isEmpty_map] at pieces

theorem ofContext (context : Context) : (Progress.ofContext context).Holds [] :=
  ⟨rfl, rfl⟩

theorem append (holds : progress.Holds contents) (element : Element) :
    (progress.append element).Holds (contents ++ [(element, progress.context)]) where
  pieces := by
    rw [Progress.pending_append, List.reverse_cons, holds.pieces, List.map_append]
    rfl
  start := by
    rw [Progress.append, holds.start]
    cases contents <;> rfl

theorem yields (holds : progress.Holds contents) {closing : Option (Element × Context)}
    {count : Int} (nonempty : contents.isEmpty = false)
    (counted : Group.count? ⟨contents, closing⟩ = some count) :
    Group.Yields ⟨contents, closing⟩ (progress.close count) where
  elements := by
    rw [Progress.close, holds.pieces, List.map_map]
    rfl
  start := by
    rw [Progress.close, holds.start]
    cases contents with
    | nil => cases nonempty
    | cons content following => rfl
  count := counted
  text := by
    rw [Progress.close, Batch.text, holds.pieces, List.flatMap_map]

theorem closes (holds : progress.Holds contents) {closing : Option (Element × Context)}
    {count : Int} {groups : List Group} {batches : List Batch}
    (counted : Group.count? ⟨contents, closing⟩ = some count)
    (behind : List.Forall₂ Group.Yields (filled groups) batches) :
    List.Forall₂ Group.Yields (filled (Group.prependFirst contents (⟨[], closing⟩ :: groups)))
      ((if progress.pending.isEmpty then [] else [progress.close count]) ++ batches) := by
  rw [Group.prependFirst, List.append_nil, holds.isEmpty]
  cases nonempty : contents.isEmpty with
  | true =>
    rw [filled_cons_of_isEmpty _ nonempty]
    exact behind
  | false =>
    rw [filled_cons _ nonempty]
    exact .cons (holds.yields nonempty counted) behind

end Progress.Holds

theorem Part.Moves.behind_separator {progress : Progress} {moved : Moved} {element : Element}
    {contents : List (Element × Context)} (holds : progress.Holds contents)
    (moves : (Part.separator element).Moves progress moved) :
    ∃ count, progress.context.separatorCount element = some count ∧
      moved.batch.toList =
        (if progress.pending.isEmpty then [] else [progress.close count]) ∧
      moved.progress.context = progress.context ∧ moved.progress.Holds [] := by
  rcases moves with ⟨count, counted, moves⟩
  refine ⟨count, counted, ?_⟩
  cases nothing : progress.pending.isEmpty with
  | true =>
    rw [nothing, if_pos rfl] at moves
    rw [holds.isEmpty, List.isEmpty_iff] at nothing
    rw [moves.1, moves.2]
    exact ⟨rfl, rfl, nothing ▸ holds⟩
  | false =>
    rw [nothing, if_neg Bool.false_ne_true] at moves
    rw [moves.1, moves.2]
    exact ⟨rfl, rfl, .ofContext _⟩

/-! ## A whole script -/

/-- Reading on from a place gives one batch for each group that is left and not
empty, the open batch being the front of the first of them. -/
theorem Pass.parse_yields (unterminated : Option Unterminated) (progress : Progress)
    (elements : List Element) :
    ∀ contents, progress.Holds contents →
      (parse ⟨elements, unterminated, progress⟩).fault = none →
      unterminated = none ∧
        List.Forall₂ Group.Yields
          (filled (Group.prependFirst contents
            (groups progress.context (parts progress.context.mode.isScripting elements))))
          (parse ⟨elements, unterminated, progress⟩).batches := by
  induction progress, elements using induct with
  | atEnd progress =>
    intro contents holds success
    rw [parse_nil] at success ⊢
    cases unterminated with
    | some region => cases success
    | none =>
      have last : List.Forall₂ Group.Yields
          (filled (Group.prependFirst contents [⟨[], none⟩])) _ := holds.closes rfl .nil
      refine ⟨rfl, ?_⟩
      rw [parts, groups]
      cases nothing : progress.pending.isEmpty with
      | true =>
        rw [nothing] at last
        exact last
      | false =>
        rw [nothing] at last
        exact last
  | atFault progress element rest found taken =>
    intro contents holds success
    rw [parse_of_step_error _ taken] at success
    cases success
  | before progress element rest moved taken induction =>
    intro contents holds success
    rcases step_part taken with ⟨part, split, moves⟩
    rw [parse_of_step _ taken] at success ⊢
    rw [Parsed.fault_deliver] at success
    rw [moves.mode] at induction
    rw [split, Parsed.batches_deliver]
    cases part with
    | separator element =>
      rcases moves.behind_separator holds with ⟨count, counted, batch, same, nextHolds⟩
      rw [same] at induction
      have behind := induction [] nextHolds success
      rw [Group.prependFirst_nil] at behind
      rw [groups, batch]
      exact ⟨behind.1, holds.closes counted behind.2⟩
    | directive element literal =>
      rw [groups, moves.1]
      rw [moves.2] at induction success ⊢
      exact induction contents ⟨holds.pieces, holds.start⟩ success
    | content element =>
      rw [groups, moves.1]
      rw [moves.2] at induction success ⊢
      have behind := induction _ (holds.append element) success
      rwa [← Group.prependFirst_prependFirst] at behind

def Part.content? : Part → Option Element
  | content element => some element
  | separator _ | directive .. => none

theorem contents_prependFirst (contents : List (Element × Context)) {groups : List Group}
    (nonempty : groups ≠ []) :
    (Group.prependFirst contents groups).flatMap (·.contents) =
      contents ++ groups.flatMap (·.contents) := by
  cases groups with
  | nil => exact absurd rfl nonempty
  | cons group following => simp [Group.prependFirst]

theorem groups_ne_nil (context : Context) (parts : List Part) : groups context parts ≠ [] := by
  fun_induction groups context parts with
  | case1 | case2 => exact List.cons_ne_nil _ _
  | case3 _ _ _ _ induction => exact induction
  | case4 context element rest induction =>
    cases equal : groups context rest with
    | nil => exact absurd equal induction
    | cons group following => exact List.cons_ne_nil _ _

theorem contents_groups (context : Context) (parts : List Part) :
    ((groups context parts).flatMap (·.contents)).map (·.1) = parts.filterMap Part.content? := by
  fun_induction groups context parts with
  | case1 => rfl
  | case2 context element rest induction => exact induction
  | case3 context element literal rest induction => exact induction
  | case4 context element rest induction =>
    rw [contents_prependFirst _ (groups_ne_nil context rest), List.map_append, induction]
    rfl

@[simp] theorem contents_filled (groups : List Group) :
    (filled groups).flatMap (·.contents) = groups.flatMap (·.contents) := by
  induction groups with
  | nil => rfl
  | cons group following induction =>
    cases empty : group.contents.isEmpty with
    | true =>
      rw [filled_cons_of_isEmpty _ empty, induction, List.flatMap_cons,
        List.isEmpty_iff.mp empty, List.nil_append]
    | false => rw [filled_cons _ empty, List.flatMap_cons, List.flatMap_cons, induction]

theorem elements_of_yields {groups : List Group} {batches : List Batch}
    (yields : List.Forall₂ Group.Yields groups batches) :
    (batches.flatMap (·.pieces)).map (·.element) =
      (groups.flatMap (·.contents)).map (·.1) := by
  induction yields with
  | nil => rfl
  | cons first _ induction =>
    rw [List.flatMap_cons, List.flatMap_cons, List.map_append, List.map_append, induction,
      first.elements]

theorem counts_of_yields {groups : List Group} {batches : List Batch}
    (yields : List.Forall₂ Group.Yields groups batches) :
    batches.map (fun batch => (some batch.count, batch.text)) =
      groups.map fun group =>
        (group.count?, group.contents.flatMap fun content => content.1.textIn content.2) := by
  induction yields with
  | nil => rfl
  | cons first _ induction =>
    rw [List.map_cons, List.map_cons, induction, first.count, first.text]

/-- A script that is read to its end falls into parts in order, and its batches are
the groups of content between its separators, the empty ones left out. -/
theorem batches_are_filled_groups (script : List Char) (options : Options)
    (success : (parseScript script options).fault = none) :
    ∃ elements, (Cursor.ofScript script).elements = ⟨elements, none⟩ ∧
      sourceOf elements = script ∧
      (parts options.mode.isScripting elements).flatMap Part.elements = elements ∧
      List.Forall₂ Group.Yields
        (filled (groups (.ofOptions options) (parts options.mode.isScripting elements)))
        (parseScript script options).batches ∧
      ((parseScript script options).batches.flatMap (·.pieces)).map (·.element) =
        (parts options.mode.isScripting elements).filterMap Part.content? := by
  rcases Pass.parse_yields (Cursor.ofScript script).elements.unterminated
    (.ofContext (.ofOptions options)) (Cursor.ofScript script).elements.elements []
    (.ofContext _) success with ⟨noRegion, yields⟩
  rw [Group.prependFirst_nil] at yields
  have scanned : (Cursor.ofScript script).elements =
      ⟨(Cursor.ofScript script).elements.elements, none⟩ := by
    rw [← noRegion]
  have source := (Cursor.elements_eq_iff.mp scanned).1.source
  refine ⟨_, scanned, source, elements_parts _ _, yields, ?_⟩
  refine (elements_of_yields yields).trans ?_
  rw [contents_filled, contents_groups]
  rfl

/-- A variable changes inside of the first batch, and an empty group is left out. -/
theorem batches_are_filled_groups_of_assignments :
    let script := ":SETVAR a 1\nS $(a) -- $(a)\n:SETVAR a \"2\"\n'$(a)'\nGO 3\nGO\nT".toList
    (parseScript script {}).fault = none ∧
      (parseScript script {}).batches.map (fun batch => (some batch.count, batch.text)) =
        [(some 3, "S 1 -- $(a)\n\n'2'\n".toList), (some 1, "T".toList)] := by
  intro script
  have success : (parseScript script {}).fault = none := by decide +kernel
  rcases batches_are_filled_groups script {} success with ⟨elements, scanned, -, -, yields, -⟩
  have same : elements = (Cursor.ofScript script).elements.elements := by rw [scanned]
  refine ⟨success, (counts_of_yields yields).trans ?_⟩
  rw [same]
  decide +kernel

end Batchwise
