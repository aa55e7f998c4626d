import Batchwise.Proofs.Pass.Agreement
import Batchwise.Proofs.Pass.Resumption
import Batchwise.Proofs.Variable.Precedence

namespace Batchwise

/-! Whose value a name has at a place of a script. Everything that decides is in front of
that place: the assignments of the script, the last one of each name, and the variables
of the caller, which come before them or behind them as the dialect says. -/

def Part.assignment? : Part → Option (List Char × List Char)
  | directive element literal =>
    match words element.text, literal with
    | [_, name], some literal =>
      if element.assignsLiteral then some (name, literal.content.getD []) else none
    | [_, name, value], _ => if element.assignsWord then some (name, value) else none
    | _, _ => none
  | separator _ | content _ => none

def lastAssigned? (front : List Part) (name : List Char) : Option (List Char × List Char) :=
  lastNamed? (lowercase · = lowercase name) (front.filterMap Part.assignment?)

def Bindings.supplied? (bindings : Bindings) (name : List Char) :
    Option (List Char × List Char) :=
  lastNamed? (lowercase · = lowercase name) bindings.entries

/-- What a name means behind some constructs: the spelling and the value. -/
def known? (mode : Mode) (bindings : Bindings) (front : List Part) (name : List Char) :
    Option (List Char × List Char) :=
  match mode with
  | .normal => none
  | .sqlcmd => (lastAssigned? front name).or (bindings.supplied? name)
  | .sqlcmdEx => (bindings.supplied? name).or (lastAssigned? front name)

/-! ## What one construct assigns -/

inductive Part.Assigns (name : List Char) : List Char → Part → Prop
  | literal {element quoted : Element} {command : List Char}
      (split : words element.text = [command, name])
      (assigns : element.assignsLiteral = true) :
      Assigns name (quoted.content.getD []) (.directive element (some quoted))
  | word {element : Element} {literal : Option Element} {command value : List Char}
      (split : words element.text = [command, name, value])
      (assigns : element.assignsWord = true) :
      Assigns name value (.directive element literal)

section Assignment

variable {part : Part} {name value : List Char}

theorem assigns_of_assignment? (found : part.assignment? = some (name, value)) :
    part.Assigns name value := by
  cases part with
  | separator | content => cases found
  | directive element literal =>
      simp only [Part.assignment?] at found
      split at found
      · rename_i split
        rw [Option.ite_none_right_eq_some] at found
        rcases found with ⟨assigns, equal⟩
        cases equal
        exact .literal split assigns
      · rename_i split
        rw [Option.ite_none_right_eq_some] at found
        rcases found with ⟨assigns, equal⟩
        cases equal
        exact .word split assigns
      · cases found

theorem Part.Assigns.isWord (assigns : part.Assigns name value) : IsWord name := by
  cases assigns with
  | @literal element quoted command split assigns =>
      have member : name ∈ words element.text := by simp [split]
      exact isWord_of_mem_words member
  | @word element literal command value split assigns =>
      have member : name ∈ words element.text := by simp [split]
      exact isWord_of_mem_words member

theorem Part.Assigns.wellFormed (assigns : part.Assigns name value) (context : Context) :
    part.malformation? context = none := by
  cases assigns with
  | literal split assigns => simp [Part.malformation?, Element.directs, assigns]
  | word split assigns => simp [Part.malformation?, Element.directs, assigns]

theorem Part.Assigns.past (assigns : part.Assigns name value) (context : Context) :
    context.past part = context.assign name value := by
  have accepted := assigns.wellFormed context
  cases assigns with
  | @literal element quoted command split assigns =>
      have directs : element.directs = true := by simp [Element.directs, assigns]
      rw [Context.past, if_pos directs]
      exact context.direct_of_literal quoted split
  | @word element literal command value split assigns =>
      have directs : element.directs = true := by simp [Element.directs, assigns]
      rcases Element.assignsWord_iff.mp assigns with ⟨_, _, _, equal, keyword, -⟩
      cases split.symm.trans equal
      rw [Context.past, if_pos directs]
      simp only [Context.direct, split, if_pos keyword]

theorem store_past_of_no_assignment (nothing : part.assignment? = none) (context : Context) :
    (context.past part).store = context.store := by
  cases part with
  | separator | content => rfl
  | directive element literal =>
      rw [Context.past]
      split
      · rename_i directs
        rcases Element.directs_iff.mp directs with assignsLiteral | assignsWord | ⟨policy, sets⟩
        · rcases Element.assignsLiteral_iff.mp assignsLiteral with ⟨command, name, split, -⟩
          cases literal with
          | none => simp only [Context.direct, split]
          | some quoted => simp [Part.assignment?, split, assignsLiteral] at nothing
        · rcases Element.assignsWord_iff.mp assignsWord with ⟨command, name, value, split, -⟩
          simp [Part.assignment?, split, assignsWord] at nothing
        · rcases Element.policy?_eq_some_iff.mp sets with
            ⟨command, event, policy, split, isOn, -⟩
          have other : sameKeyword command ":SETVAR".toList = false :=
            not_sameKeyword isOn (by decide)
          simp only [Context.direct, split, other]
          rfl
      · rfl

end Assignment

/-! ## Behind several constructs -/

theorem lastAssigned?_cons (part : Part) (front : List Part) (name : List Char) :
    lastAssigned? (part :: front) name =
      (lastAssigned? front name).or (part.assignment?.filter (lowercase ·.1 = lowercase name)) := by
  rw [lastAssigned?, lastAssigned?, List.filterMap_cons]
  cases part.assignment? with
  | none => exact Option.or_none.symm
  | some assigned =>
      rw [lastNamed?_cons]
      rfl

/-- A name that is free has the value of its last assignment, and one that is locked keeps
its own for ever. -/
theorem find?_pastAll (front : List Part) (name : List Char) :
    ∀ context : Context, (context.pastAll front).store.find? name =
      if context.store.isFree name then
        ((lastAssigned? front name).map fun entry => ⟨entry.1, entry.2, true⟩).or
          (context.store.find? name)
      else context.store.find? name := by
  induction front with
  | nil =>
      intro context
      exact (ite_self _).symm
  | cons part rest induction =>
      intro context
      refine (induction (context.past part)).trans ?_
      rw [lastAssigned?_cons]
      cases found : part.assignment? with
      | none =>
          rw [store_past_of_no_assignment found]
          simp
      | some assigned =>
          rcases assigned with ⟨own, value⟩
          have assigns := assigns_of_assignment? found
          have store : (context.past part).store = context.store.assign own value := by
            rw [assigns.past]
            rfl
          rw [store, Store.isFree_assign _ assigns.isWord, Store.find?_assign _ assigns.isWord]
          by_cases same : lowercase own = lowercase name
          · -- Either the assignment is the first of this name, or the name is locked for
            -- all of them.
            have equal := context.store.find?_congr same
            have free : context.store.isFree own = context.store.isFree name := by
              rw [Store.isFree, Store.isFree, equal]
            rw [free]
            cases context.store.isFree name with
            | true => cases lastAssigned? rest name <;> simp [Option.filter_some, same]
            | false => simp
          · simp [Option.filter_some, same]

theorem isFree_past (context : Context) (part : Part) (name : List Char) :
    (context.past part).store.isFree name = context.store.isFree name := by
  cases found : part.assignment? with
  | none => rw [store_past_of_no_assignment found]
  | some assigned =>
      have assigns := assigns_of_assignment? found
      rw [assigns.past]
      exact context.store.isFree_assign assigns.isWord _ name

theorem contents_pastAll (front : List Part) :
    ∀ first second : Context, first.store.contents = second.store.contents →
      (∀ part ∈ front, ∀ name value, part.assignment? = some (name, value) →
        first.store.isFree name = true ∧ second.store.isFree name = true) →
      (first.pastAll front).store.contents = (second.pastAll front).store.contents := by
  induction front with
  | nil => exact fun first second same _ => same
  | cons part rest induction =>
      intro first second same free
      rcases List.forall_mem_cons.mp free with ⟨freeHere, freeBehind⟩
      refine induction (first.past part) (second.past part) ?_ ?_
      · cases found : part.assignment? with
        | none => rw [store_past_of_no_assignment found, store_past_of_no_assignment found, same]
        | some assigned =>
            have assigns := assigns_of_assignment? found
            rcases freeHere _ _ found with ⟨freeFirst, freeSecond⟩
            rw [assigns.past, assigns.past]
            change (first.store.assign _ _).contents = (second.store.assign _ _).contents
            rw [Store.assign_of_free _ assigns.isWord _ freeFirst,
              Store.assign_of_free _ assigns.isWord _ freeSecond, Store.contents_insert,
              Store.contents_insert, same]
      · intro other member name value found
        rw [isFree_past, isFree_past]
        exact freeBehind other member name value found

/-! ## What a pass knows -/

section Knows

variable {bindings : Bindings} {continueOnError : Bool} {name : List Char}

theorem isFree_sqlcmd :
    (Context.ofOptions ⟨.sqlcmd, bindings, continueOnError⟩).store.isFree name = true := by
  rw [Store.isFree, Context.find?_ofOptions rfl]
  cases lastNamed? (lowercase · = lowercase name) bindings.entries <;> rfl

theorem isFree_sqlcmdEx :
    (Context.ofOptions ⟨.sqlcmdEx, bindings, continueOnError⟩).store.isFree name =
      (bindings.supplied? name).isNone := by
  rw [Store.isFree, Context.find?_ofOptions rfl, Bindings.supplied?]
  cases lastNamed? (lowercase · = lowercase name) bindings.entries <;> rfl

theorem find?_of_supplied {entry : List Char × List Char}
    (supplied : bindings.supplied? name = some entry) (front : List Part) :
    ((Context.ofOptions ⟨.sqlcmdEx, bindings, continueOnError⟩).pastAll front).store.find? name =
      some ⟨entry.1, entry.2, false⟩ := by
  rw [find?_pastAll, isFree_sqlcmdEx, supplied, Context.find?_ofOptions rfl]
  rw [Bindings.supplied?] at supplied
  simp [supplied]

theorem get?_known {mode : Mode} (scripting : mode.isScripting = true) (front : List Part) :
    ((Context.ofOptions ⟨mode, bindings, continueOnError⟩).pastAll front).store.get? name =
      (known? mode bindings front name).map (·.2) := by
  rw [Store.get?]
  cases mode with
  | normal => cases scripting
  | sqlcmd =>
      rw [find?_pastAll, isFree_sqlcmd, Context.find?_ofOptions rfl, known?, Bindings.supplied?]
      cases lastAssigned? front name with
      | none => simp [Function.comp_def]
      | some assigned => rfl
  | sqlcmdEx =>
      cases supplied : bindings.supplied? name with
      | some entry =>
          rw [find?_of_supplied supplied, known?, supplied]
          rfl
      | none =>
          rw [find?_pastAll, isFree_sqlcmdEx, supplied, Context.find?_ofOptions rfl, known?,
            supplied]
          rw [Bindings.supplied?] at supplied
          simp [supplied, Function.comp_def]

theorem contents_ofOptions :
    (Context.ofOptions ⟨.sqlcmd, bindings, continueOnError⟩).store.contents =
      (Context.ofOptions ⟨.sqlcmdEx, bindings, continueOnError⟩).store.contents := by
  have written (entries : List (List Char × List Char)) :
      ∀ first second : Store, first.contents = second.contents →
        (entries.foldl (fun store entry => store.insert ⟨entry.1, entry.2, true⟩)
            first).contents =
          (entries.foldl (fun store entry => store.insert ⟨entry.1, entry.2, false⟩)
            second).contents := by
    induction entries with
    | nil => exact fun first second same => same
    | cons entry rest induction =>
        intro first second same
        apply induction
        rw [Store.contents_insert, Store.contents_insert, same]
  exact written bindings.entries .empty .empty rfl

end Knows

theorem readsAlike_of_get? {first second : Context}
    (scripting : first.mode.isScripting = second.mode.isScripting)
    (values : first.store.get? = second.store.get?) (part : Part) :
    part.ReadsAlike first second := by
  have expands : first.expand = second.expand := by
    funext text
    rw [Context.expand, Context.expand, scripting, values]
  cases part with
  | separator element =>
      change first.separatorCount element = second.separatorCount element
      rw [Context.separatorCount, Context.separatorCount, expands]
  | directive => trivial
  | content element =>
      change element.textIn first = element.textIn second
      rw [Element.textIn, Element.textIn, scripting, values]

theorem parsedFrom_of_no_caller_assigned {bindings : Bindings} {parts : List Part}
    (free : ∀ part ∈ parts, ∀ name value, part.assignment? = some (name, value) →
      bindings.supplied? name = none)
    (unterminated : Option Unterminated) (continueOnError : Bool) :
    let start (mode : Mode) := Context.ofOptions ⟨mode, bindings, continueOnError⟩
    let one := parsedFrom unterminated (.ofContext (start .sqlcmd)) parts
    let other := parsedFrom unterminated (.ofContext (start .sqlcmdEx)) parts
    one.deliveries = other.deliveries ∧ one.fault = other.fault ∧
      one.context.store.contents = other.context.store.contents := by
  intro start one other
  have contents (front : List Part) (within : front ⊆ parts) :
      ((start .sqlcmd).pastAll front).store.contents =
        ((start .sqlcmdEx).pastAll front).store.contents := by
    apply contents_pastAll front _ _ contents_ofOptions
    intro part member name value assigns
    refine ⟨isFree_sqlcmd, ?_⟩
    rw [isFree_sqlcmdEx, free part (within member) name value assigns]
    rfl
  have alike : ReadAlike (start .sqlcmd) (start .sqlcmdEx) parts := by
    intro front part back split
    have within : front ⊆ parts := by
      rw [split]
      exact List.subset_append_left _ _
    apply readsAlike_of_get?
    · rw [Context.mode_pastAll, Context.mode_pastAll]
      rfl
    · funext name
      rw [Store.get?_eq_contents, Store.get?_eq_contents, contents front within]
  rcases parsedFrom_concurs unterminated parts (.ofContext (start .sqlcmd))
    (.ofContext (start .sqlcmdEx)) ⟨rfl, rfl, rfl⟩ alike with
    ⟨deliveries, fault, front, isPrefix, context, otherContext⟩
  refine ⟨deliveries, fault, ?_⟩
  rw [context, otherContext]
  exact contents front isPrefix.subset

/-! ## Whole passes -/

namespace Pass

/-- Every state of a pass is the one behind some of the constructs, and the others are
still to be read. -/
theorem Reaches.front {script : List Char} {options : Options} {progress : Progress}
    {elements : List Element} (reached : Reaches script options progress elements) :
    ∃ front,
      constructs options.mode.isScripting (Cursor.ofScript script).elements.elements =
        front ++ constructs options.mode.isScripting elements ∧
      progress = (Progress.ofContext (.ofOptions options)).pastAll front := by
  induction reached with
  | atStart => exact ⟨[], rfl, rfl⟩
  | behind reached taken induction =>
      rcases induction with ⟨front, split, here⟩
      rcases construct_of_step reached.announces taken with ⟨part, parted, -, next, -⟩
      rw [reached.mode] at parted
      refine ⟨front ++ [part], ?_, ?_⟩
      · rw [split, parted, List.append_assoc]
        rfl
      · rw [Progress.pastAll_concat, ← here]
        exact next
  | behindFault reached taken induction =>
      rcases induction with ⟨front, split, here⟩
      rcases construct_of_fault reached.announces taken with
        ⟨part, parted, -, -, found, malformed⟩
      rw [reached.mode] at parted
      rcases Prod.mk.inj found with ⟨-, rfl⟩
      refine ⟨front ++ [part], ?_, ?_⟩
      · rw [split, parted, List.append_assoc]
        rfl
      · rw [Progress.pastAll_concat, ← here, Progress.past_of_malformed _ _ malformed]

theorem step_of_assignment {progress : Progress} {element : Element} {rest : List Element}
    {part : Part} {behind : List Part} {name value : List Char}
    (chain : List.IsChain Element.Announces (element :: rest))
    (split : constructs progress.context.mode.isScripting (element :: rest) = part :: behind)
    (assigns : part.Assigns name value) :
    ∃ left, step progress element rest = .ok ⟨none, progress.assign name value, left⟩ := by
  cases taken : step progress element rest with
  | error found =>
      rcases construct_of_fault chain taken with ⟨other, parted, -, -, -, malformed⟩
      cases (List.cons.inj (split.symm.trans parted)).1
      cases malformed.symm.trans (assigns.wellFormed progress.context)
  | ok moved =>
      rcases construct_of_step chain taken with ⟨other, parted, accepted, next, closed⟩
      cases (List.cons.inj (split.symm.trans parted)).1
      have context := assigns.past progress.context
      rw [← Progress.context_past] at context
      rcases moved with ⟨batch, progressNext, left⟩
      dsimp only at next closed
      refine ⟨left, ?_⟩
      cases assigns with
      | literal | word =>
          simp only [Progress.past, accepted] at next context
          simp only [Progress.closed?] at closed
          rw [next, closed, context]
          rfl

end Pass

/-! ## Precedence -/

/-- The caller gives this for a name: what stands under its last spelling in the order of
code points, or nothing if the name has no spelling. -/
inductive Bindings.Supplies (bindings : Bindings) (name : List Char) :
    Option (List Char × List Char) → Prop
  | nothing (noSpelling : ∀ entry ∈ bindings.entries, lowercase entry.1 ≠ lowercase name) :
      Supplies bindings name none
  | spelled {entry : List Char × List Char} (member : entry ∈ bindings.entries)
      (isLast : IsLastSpelling (bindings.entries.map (·.1)) name entry.1) :
      Supplies bindings name (some entry)

theorem Bindings.supplies (bindings : Bindings) (name : List Char) :
    bindings.Supplies name (bindings.supplied? name) := by
  cases supplied : bindings.supplied? name with
  | none =>
      rw [supplied?, lastNamed?_eq_none_iff] at supplied
      apply Supplies.nothing
      intro entry member
      exact of_decide_eq_false (supplied entry member)
  | some entry =>
      exact .spelled (mem_of_lastNamed? supplied).1 (isLastSpelling supplied)

/-- With these constructs behind it, a pass finds the value that a name means there, and
replaces references by it. -/
structure Progress.Knows (mode : Mode) (bindings : Bindings) (front : List Part)
    (progress : Progress) : Prop where
  value : ∀ name, progress.context.store.get? name = (known? mode bindings front name).map (·.2)
  expands : ∀ text, progress.context.expand text =
    expand (fun name => (known? mode bindings front name).map (·.2)) text

/-- The variables of the caller are as they were given, locked, and an assignment to one of
them is taken without a fault and without an effect. -/
structure Progress.KeepsCaller (bindings : Bindings) (progress : Progress)
    (elements : List Element) : Prop where
  kept : ∀ name entry, bindings.supplied? name = some entry →
    progress.context.store.find? name = some ⟨entry.1, entry.2, false⟩
  taken : ∀ element rest part behind assigned, elements = element :: rest →
    constructs true elements = part :: behind → part.assignment? = some assigned →
    (bindings.supplied? assigned.1).isSome = true →
    ∃ left, Pass.step progress element rest = .ok ⟨none, progress, left⟩

theorem Pass.Waits.asked {script : List Char} {options : Options} {pass : Pass}
    {state : Progress} (waits : Waits script options pass state) (times : Nat) :
    ∃ next, Waits script options (pass.asked times) next := by
  induction times generalizing pass state with
  | zero => exact ⟨state, waits⟩
  | succ times induction =>
      rcases waits.nextBatch with ⟨next, waitsNext⟩
      exact induction waitsNext

section Reached

variable {script : List Char} {bindings : Bindings} {continueOnError : Bool}
  {progress : Progress} {elements : List Element}

theorem Pass.Reaches.knows {mode : Mode} (scripting : mode.isScripting = true)
    (reached : Reaches script ⟨mode, bindings, continueOnError⟩ progress elements) :
    ∃ front,
      constructs true (Cursor.ofScript script).elements.elements =
        front ++ constructs true elements ∧
      progress.Knows mode bindings front := by
  rcases reached.front with ⟨front, split, here⟩
  have values (name : List Char) : progress.context.store.get? name =
      (known? mode bindings front name).map (·.2) := by
    rw [here, Progress.context_pastAll]
    exact get?_known scripting front
  have scriptingHere : progress.context.mode.isScripting = true := by
    rw [reached.mode]
    exact scripting
  rw [← reached.mode, scriptingHere] at split
  refine ⟨front, split, values, ?_⟩
  intro text
  rw [Context.expand, if_pos scriptingHere, funext values]

theorem Pass.Reaches.keepsCaller
    (reached : Reaches script ⟨.sqlcmdEx, bindings, continueOnError⟩ progress elements) :
    progress.KeepsCaller bindings elements := by
  rcases reached.front with ⟨front, -, here⟩
  have kept (name : List Char) (entry : List Char × List Char)
      (supplied : bindings.supplied? name = some entry) :
      progress.context.store.find? name = some ⟨entry.1, entry.2, false⟩ := by
    rw [here, Progress.context_pastAll]
    exact find?_of_supplied supplied front
  refine ⟨kept, ?_⟩
  rintro element rest part behind ⟨name, value⟩ rfl isNext assigned isCaller
  rcases Option.isSome_iff_exists.mp isCaller with ⟨entry, supplied⟩
  have assigns := assigns_of_assignment? assigned
  have locked : progress.context.store.isFree name = false := by
    rw [Store.isFree, kept name entry supplied]
    rfl
  have unchanged : progress.assign name value = progress := by
    rw [Progress.assign, Context.assign,
      progress.context.store.assign_of_locked assigns.isWord value locked]
  have split : constructs progress.context.mode.isScripting (element :: rest) =
      part :: behind := by
    rw [reached.mode]
    exact isNext
  have taken := step_of_assignment reached.announces split assigns
  rwa [unchanged] at taken

end Reached

/-- Whose value a name has. At every place of a pass, a reference means what `known?` says:
in one dialect the last assignment in front of that place, or else what the caller gives;
in the other one what the caller gives, or else the last assignment. In that one the
variables of the caller never change, and to assign to them is no fault and has no
effect. So both dialects agree on a script that assigns to none of them. -/
theorem variables_take_precedence (script : List Char) (bindings : Bindings)
    (continueOnError : Bool) :
    let parts := constructs true (Cursor.ofScript script).elements.elements
    let options (mode : Mode) : Options := ⟨mode, bindings, continueOnError⟩
    (∀ name, bindings.Supplies name (bindings.supplied? name)) ∧
      (∀ mode times, ∃ state, Pass.Waits script (options mode)
        ((Pass.ofScript script (.ofOptions (options mode))).asked times) state) ∧
      (∀ mode progress elements, mode.isScripting = true →
        Pass.Reaches script (options mode) progress elements →
        ∃ front, parts = front ++ constructs true elements ∧
          progress.Knows mode bindings front) ∧
      (∀ progress elements, Pass.Reaches script (options .sqlcmdEx) progress elements →
        progress.KeepsCaller bindings elements) ∧
      ((∀ part ∈ parts, ∀ assigned ∈ part.assignment?, ∀ entry ∈ bindings.entries,
          lowercase entry.1 ≠ lowercase assigned.1) →
        let one := parseScript script (options .sqlcmd)
        let other := parseScript script (options .sqlcmdEx)
        one.deliveries = other.deliveries ∧ one.fault = other.fault ∧
          one.context.store.contents = other.context.store.contents) := by
  intro parts options
  refine ⟨bindings.supplies, ?_, ?_, ?_, ?_⟩
  · intro mode times
    have start : Pass.Waits script (options mode)
        (.ofScript script (.ofOptions (options mode))) (.ofContext (.ofOptions (options mode))) :=
      ⟨.atStart, rfl, fun _ => rfl⟩
    exact start.asked times
  · intro mode progress elements scripting reached
    exact reached.knows scripting
  · intro progress elements reached
    exact reached.keepsCaller
  · intro noCaller one other
    have free : ∀ part ∈ parts, ∀ name value, part.assignment? = some (name, value) →
        bindings.supplied? name = none := by
      intro part member name value assigned
      rw [Bindings.supplied?, lastNamed?_eq_none_iff]
      intro entry given
      exact decide_eq_false (noCaller part member _ assigned entry given)
    have read : one = parsedFrom _ _ parts :=
      Pass.parse_constructs _ _ _ (Cursor.announces_elements _)
    have readToo : other = parsedFrom _ _ parts :=
      Pass.parse_constructs _ _ _ (Cursor.announces_elements _)
    rw [read, readToo]
    exact parsedFrom_of_no_caller_assigned free _ continueOnError

/-- The caller spells one name in two ways, and the script assigns another one twice. Behind
both assignments the dialects agree on a text. -/
theorem variables_take_precedence_of_two_spellings :
    let script := ":SETVAR c 4\n$(a)$(C)\n:SETVAR C \"5\"\nGO\n$(c)".toList
    let bindings := Bindings.ofList [("a".toList, "2".toList), ("A".toList, "1".toList)]
    let options (mode : Mode) : Options := ⟨mode, bindings, true⟩
    let asked (mode : Mode) := (Pass.ofScript script (.ofOptions (options mode))).asked 1
    bindings.Supplies "A".toList (some ("a".toList, "2".toList)) ∧
      (asked .sqlcmd).progress.context.store.get? "C".toList = some "5".toList ∧
      (asked .sqlcmd).progress.context.expand "$(c)$(A)$(d)".toList = "52$(d)".toList ∧
      (asked .sqlcmdEx).progress.context.store.find? "A".toList =
        some ⟨"a".toList, "2".toList, false⟩ ∧
      (parseScript script (options .sqlcmd)).deliveries =
        (parseScript script (options .sqlcmdEx)).deliveries ∧
      (parseScript script (options .sqlcmd)).context.store.contents =
        (parseScript script (options .sqlcmdEx)).context.store.contents := by
  intro script bindings options asked
  have noCaller : ∀ part ∈ constructs true (Cursor.ofScript script).elements.elements,
      ∀ assigned ∈ part.assignment?, ∀ entry ∈ bindings.entries,
        lowercase entry.1 ≠ lowercase assigned.1 := by decide +kernel
  rcases variables_take_precedence script bindings true with
    ⟨supplies, waits, knows, keeps, agree⟩
  rcases waits .sqlcmd 1 with ⟨state, waiting⟩
  rcases waits .sqlcmdEx 1 with ⟨locked, waitingToo⟩
  rcases knows .sqlcmd _ _ rfl waiting.reached with ⟨front, split, known⟩
  -- What is in front of the second batch are the first five constructs.
  have five : front = (constructs true (Cursor.ofScript script).elements.elements).take 5 := by
    have length := congrArg List.length split
    have sizes : (constructs true (Cursor.ofScript script).elements.elements).length = 6 ∧
        (constructs true (asked .sqlcmd).elements).length = 1 := by decide +kernel
    rw [List.length_append, sizes.1, sizes.2] at length
    rw [split, List.take_left' (by omega)]
  have value := known.value "C".toList
  have text := known.expands "$(c)$(A)$(d)".toList
  have callers := (keeps _ _ waitingToo.reached).kept "A".toList ("a".toList, "2".toList) rfl
  rw [← waiting.context, five] at value text
  rw [← waitingToo.context] at callers
  rcases agree noCaller with ⟨deliveries, -, contents⟩
  exact ⟨supplies "A".toList, value.trans (by decide +kernel), text.trans (by decide +kernel),
    callers, deliveries, contents⟩

end Batchwise
