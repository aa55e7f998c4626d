import Batchwise.Proofs.Variable.Bindings

namespace Batchwise

/-! Arguments as items. From left to right, an argument with an equals sign is an item by
itself, and one without takes the argument behind it as its value, whatever that is. There is
one way to read arguments so. Whether they are accepted depends on the items and on what is
left behind them. Items that are written down are read back, in whichever form each of them
was written. -/

inductive VariableItem where
  | joined (name value : List Char)
  | apart (name value : List Char)
  deriving DecidableEq, Repr

namespace VariableItem

def name : VariableItem → List Char
  | joined name _ | apart name _ => name

def entry : VariableItem → List Char × List Char
  | joined name value | apart name value => (name, value)

def fault? : VariableItem → Option ArgumentFault
  | joined [] value => some (.missingName ('=' :: value))
  | _ => none

end VariableItem

/-- The arguments are these items and, behind them, perhaps a name that has no value. -/
inductive Itemizes : List (List Char) → List VariableItem → Option (List Char) → Prop
  | nothing : Itemizes [] [] none
  | dangling {name : List Char} (noSign : '=' ∉ name) : Itemizes [name] [] (some name)
  | joined {name value : List Char} {rest : List (List Char)} {items : List VariableItem}
      {dangling : Option (List Char)} (noSign : '=' ∉ name)
      (behind : Itemizes rest items dangling) :
      Itemizes ((name ++ '=' :: value) :: rest) (.joined name value :: items) dangling
  | apart {name value : List Char} {rest : List (List Char)} {items : List VariableItem}
      {dangling : Option (List Char)} (noSign : '=' ∉ name)
      (behind : Itemizes rest items dangling) :
      Itemizes (name :: value :: rest) (.apart name value :: items) dangling

/-! ## One way to read arguments -/

theorem exists_itemizes : ∀ arguments, ∃ items dangling, Itemizes arguments items dangling
  | [] => ⟨[], none, .nothing⟩
  | argument :: rest => by
      by_cases hasSign : '=' ∈ argument
      · rcases exists_itemizes rest with ⟨items, dangling, behind⟩
        rcases split_at_sign hasSign with ⟨split, noSign⟩
        rw [split]
        exact ⟨_, dangling, .joined noSign behind⟩
      · cases rest with
        | nil => exact ⟨[], some argument, .dangling hasSign⟩
        | cons value rest =>
            rcases exists_itemizes rest with ⟨items, dangling, behind⟩
            exact ⟨_, dangling, .apart hasSign behind⟩

theorem eq_of_first_sign {name value other otherValue : List Char} (noSign : '=' ∉ name)
    (otherNoSign : '=' ∉ other) (equal : name ++ '=' :: value = other ++ '=' :: otherValue) :
    name = other ∧ value = otherValue := by
  induction name generalizing other with
  | nil =>
      cases other with
      | nil => exact ⟨rfl, (List.cons.inj equal).2⟩
      | cons first rest =>
          rw [(List.cons.inj equal).1] at otherNoSign
          exact absurd List.mem_cons_self otherNoSign
  | cons first rest induction =>
      cases other with
      | nil =>
          rw [(List.cons.inj equal).1] at noSign
          exact absurd List.mem_cons_self noSign
      | cons otherFirst otherRest =>
          rcases List.cons.inj equal with ⟨rfl, behind⟩
          rcases induction (mt (List.mem_cons_of_mem _) noSign)
            (mt (List.mem_cons_of_mem _) otherNoSign) behind with ⟨rfl, rfl⟩
          exact ⟨rfl, rfl⟩

section Itemizes

variable {arguments : List (List Char)} {items : List VariableItem} {dangling : Option (List Char)}

theorem Itemizes.unique (itemizes : Itemizes arguments items dangling)
    {others : List VariableItem} {last : Option (List Char)} (itemizesToo : Itemizes arguments others last) :
    others = items ∧ last = dangling := by
  have hasSign : ∀ name value : List Char, '=' ∈ name ++ '=' :: value :=
    fun name value => List.mem_append_right name List.mem_cons_self
  induction itemizes generalizing others with
  | nothing =>
      cases itemizesToo
      exact ⟨rfl, rfl⟩
  | @dangling name noSign =>
      generalize equal : [name] = arguments at itemizesToo
      cases itemizesToo with
      | nothing | apart => cases equal
      | dangling =>
          cases equal
          exact ⟨rfl, rfl⟩
      | joined =>
          cases equal
          exact absurd (hasSign _ _) noSign
  | @joined name value rest _ _ noSign _ induction =>
      generalize equal : (name ++ '=' :: value) :: rest = arguments at itemizesToo
      cases itemizesToo with
      | nothing => cases equal
      | dangling otherNoSign | apart otherNoSign =>
          cases equal
          exact absurd (hasSign _ _) otherNoSign
      | joined otherNoSign behind =>
          rcases List.cons.inj equal with ⟨first, rfl⟩
          rcases eq_of_first_sign noSign otherNoSign first with ⟨rfl, rfl⟩
          rcases induction behind with ⟨rfl, rfl⟩
          exact ⟨rfl, rfl⟩
  | @apart name value rest _ _ noSign _ induction =>
      generalize equal : name :: value :: rest = arguments at itemizesToo
      cases itemizesToo with
      | nothing | dangling => cases equal
      | joined =>
          cases equal
          exact absurd (hasSign _ _) noSign
      | apart _ behind =>
          cases equal
          rcases induction behind with ⟨rfl, rfl⟩
          exact ⟨rfl, rfl⟩

/-! ## What is rejected -/

/-- The first thing that is wrong with arguments. That a value is missing is seen last. -/
def firstFault? (items : List VariableItem) (dangling : Option (List Char)) :
    Option ArgumentFault :=
  (items.findSome? VariableItem.fault?).or (dangling.map .missingValue)

def judge (items : List VariableItem) (dangling : Option (List Char)) :
    Except ArgumentFault (List (List Char × List Char)) :=
  match firstFault? items dangling with
  | some fault => .error fault
  | none => .ok (items.map VariableItem.entry)

theorem judge_cons {item : VariableItem} (noFault : item.fault? = none)
    (items : List VariableItem) (dangling : Option (List Char)) :
    judge (item :: items) dangling = (judge items dangling).map (item.entry :: ·) := by
  have behind : firstFault? (item :: items) dangling = firstFault? items dangling := by
    rw [firstFault?, List.findSome?_cons, noFault, firstFault?]
  rw [judge, behind, judge]
  cases firstFault? items dangling <;> rfl

theorem Itemizes.assignments_eq (itemizes : Itemizes arguments items dangling) :
    assignments arguments = judge items dangling := by
  induction itemizes with
  | nothing => rfl
  | dangling noSign =>
      rw [assignments.eq_def]
      simp only [if_neg noSign]
      rfl
  | @joined name value rest items dangling noSign _ induction =>
      rw [assignments_joined noSign]
      cases name with
      | nil => rfl
      | cons first behind =>
          rw [if_neg (List.cons_ne_nil _ _), induction, judge_cons rfl]
          rfl
  | apart noSign _ induction =>
      rw [assignments_apart noSign, induction, judge_cons rfl]
      rfl

theorem VariableItem.fault?_eq_none_iff {item : VariableItem} :
    item.fault? = none ↔ ∀ value, item ≠ .joined [] value := by
  cases item with
  | apart name value => exact iff_of_true rfl nofun
  | joined name value =>
      cases name with
      | nil => exact iff_of_false nofun fun never => never value rfl
      | cons first rest => exact iff_of_true rfl nofun

theorem firstFault?_eq_none_iff :
    firstFault? items dangling = none ↔
      dangling = none ∧ ∀ value, .joined [] value ∉ items := by
  rw [firstFault?, Option.or_eq_none_iff, List.findSome?_eq_none_iff, Option.map_eq_none_iff,
    and_comm]
  refine and_congr_right fun _ => ?_
  constructor
  · intro noFault value member
    exact VariableItem.fault?_eq_none_iff.mp (noFault _ member) value rfl
  · intro noJoined item member
    refine VariableItem.fault?_eq_none_iff.mpr ?_
    rintro value rfl
    exact noJoined value member

theorem Itemizes.readArguments_eq (itemizes : Itemizes arguments items dangling) :
    readArguments arguments = (judge items dangling).map .ofList := by
  rw [readArguments, itemizes.assignments_eq]

theorem Itemizes.rejected_iff (itemizes : Itemizes arguments items dangling) :
    (∃ fault, readArguments arguments = .error fault) ↔
      dangling ≠ none ∨ ∃ value, .joined [] value ∈ items := by
  have accepted : firstFault? items dangling = none ↔
      ¬ (dangling ≠ none ∨ ∃ value, .joined [] value ∈ items) := by
    rw [firstFault?_eq_none_iff, not_or, not_not, not_exists]
  rw [itemizes.readArguments_eq, judge]
  cases first : firstFault? items dangling with
  | none =>
      refine iff_of_false ?_ (accepted.mp first)
      rintro ⟨fault, equal⟩
      cases equal
  | some fault =>
      refine iff_of_true ⟨fault, rfl⟩ (not_not.mp ?_)
      rw [← accepted, first]
      exact Option.some_ne_none fault

theorem Itemizes.get?_eq (itemizes : Itemizes arguments items dangling) {bindings : Bindings}
    (accepted : readArguments arguments = .ok bindings) (name : List Char) :
    bindings.get? name = lastValue? (· = name) (items.map VariableItem.entry) := by
  rw [itemizes.readArguments_eq, judge] at accepted
  split at accepted
  · cases accepted
  · cases accepted
    exact Bindings.get?_ofList _ name

/-- The rule that one would expect: arguments are rejected if a value is missing or a name
is empty, and otherwise the last item of a name gives its value. -/
structure FollowsRule (items : List VariableItem) (dangling : Option (List Char))
    (result : Except ArgumentFault Bindings) : Prop where
  rejects : (∃ fault, result = .error fault) ↔
    dangling ≠ none ∨ ∃ item ∈ items, item.name = []
  binds : ∀ bindings, result = .ok bindings → ∀ name,
    bindings.get? name = lastValue? (· = name) (items.map VariableItem.entry)

theorem exists_unnamed_iff :
    (∃ item ∈ items, item.name = []) ↔
      (∃ value, .joined [] value ∈ items) ∨ ∃ value, .apart [] value ∈ items := by
  constructor
  · rintro ⟨item, member, unnamed⟩
    cases item with
    | joined name value =>
        cases unnamed
        exact .inl ⟨value, member⟩
    | apart name value =>
        cases unnamed
        exact .inr ⟨value, member⟩
  · rintro (⟨value, member⟩ | ⟨value, member⟩)
    · exact ⟨_, member, rfl⟩
    · exact ⟨_, member, rfl⟩

theorem Itemizes.followsRule_iff (itemizes : Itemizes arguments items dangling) :
    FollowsRule items dangling (readArguments arguments) ↔
      ((∃ value, .apart [] value ∈ items) →
        dangling ≠ none ∨ ∃ value, .joined [] value ∈ items) := by
  constructor
  · intro follows unnamed
    rw [← itemizes.rejected_iff, follows.rejects, exists_unnamed_iff]
    exact .inr (.inr unnamed)
  · intro rejected
    constructor
    · rw [itemizes.rejected_iff, exists_unnamed_iff]
      constructor
      · exact Or.imp_right .inl
      · rintro (missing | joined | apart)
        · exact .inl missing
        · exact .inr joined
        · exact rejected apart
    · intro bindings accepted
      exact itemizes.get?_eq accepted

end Itemizes

/-- Arguments can be read in one way. They are rejected if the last name has no value or an
item starts with its equals sign, and are otherwise bound as their items say. An empty name
in two arguments passes unseen: that alone departs from the rule. -/
theorem arguments_bind_their_items (arguments : List (List Char)) :
    ∃ items dangling, Itemizes arguments items dangling ∧
      (∀ others last, Itemizes arguments others last → others = items ∧ last = dangling) ∧
      readArguments arguments = (judge items dangling).map .ofList ∧
      ((∃ fault, readArguments arguments = .error fault) ↔
        dangling ≠ none ∨ ∃ value, .joined [] value ∈ items) ∧
      (∀ bindings, readArguments arguments = .ok bindings → ∀ name,
        bindings.get? name = lastValue? (· = name) (items.map VariableItem.entry)) ∧
      (FollowsRule items dangling (readArguments arguments) ↔
        ((∃ value, .apart [] value ∈ items) →
          dangling ≠ none ∨ ∃ value, .joined [] value ∈ items)) := by
  rcases exists_itemizes arguments with ⟨items, dangling, itemizes⟩
  refine ⟨items, dangling, itemizes, ?_, itemizes.readArguments_eq, itemizes.rejected_iff, ?_,
    itemizes.followsRule_iff⟩
  · intro others last itemizesToo
    exact itemizes.unique itemizesToo
  · intro bindings accepted
    exact itemizes.get?_eq accepted

/-- An empty argument and the one behind it are bound to each other. -/
theorem not_followsRule_of_empty_name :
    Itemizes [[], ['v']] [.apart [] ['v']] none ∧
      readArguments [[], ['v']] = .ok (.ofList [([], ['v'])]) ∧
      ¬ FollowsRule [.apart [] ['v']] none (readArguments [[], ['v']]) := by
  have bound : readArguments [[], ['v']] = .ok (.ofList [([], ['v'])]) := by decide
  refine ⟨.apart List.not_mem_nil .nothing, bound, ?_⟩
  intro follows
  rcases follows.rejects.mpr (.inr ⟨_, List.mem_cons_self, rfl⟩) with ⟨fault, rejected⟩
  rw [bound] at rejected
  cases rejected

/-! ## Variables that are written as arguments

A value can hold equals signs and can look like a name. It is still read as a value,
because the item in front of it has taken it. -/

def VariableItem.written : VariableItem → List (List Char)
  | joined name value => [name ++ '=' :: value]
  | apart name value => [name, value]

theorem itemizes_written {items : List VariableItem}
    (noSign : ∀ item ∈ items, '=' ∉ item.name) :
    Itemizes (items.flatMap VariableItem.written) items none := by
  induction items with
  | nil => exact .nothing
  | cons item rest induction =>
      rcases List.forall_mem_cons.mp noSign with ⟨here, behind⟩
      cases item with
      | joined name value => exact .joined here (induction behind)
      | apart name value => exact .apart here (induction behind)

theorem judge_of_named {items : List VariableItem} (named : ∀ item ∈ items, item.name ≠ []) :
    judge items none = .ok (items.map VariableItem.entry) := by
  have noFault : firstFault? items none = none := by
    rw [firstFault?_eq_none_iff]
    apply And.intro rfl
    intro value unnamed
    exact named _ unnamed rfl
  rw [judge, noFault]

/-- Each variable can be written in one argument or in two. Whichever way is chosen for each
of them, the arguments are accepted and bind the same: every name to its last value, and no
other name. -/
theorem variables_survive_arguments (entries : List (List Char × List Char))
    (named : ∀ entry ∈ entries, entry.1 ≠ [] ∧ '=' ∉ entry.1) :
    ∃ bindings : Bindings,
      (bindings.entries.Pairwise fun first second => first.1 < second.1) ∧
      (∀ name, bindings.get? name = lastValue? (· = name) entries) ∧
      ∀ items : List VariableItem, items.map VariableItem.entry = entries →
        readArguments (items.flatMap VariableItem.written) = .ok bindings := by
  refine ⟨.ofList entries, Bindings.sorted _, Bindings.get?_ofList entries, ?_⟩
  rintro items rfl
  have isNamed : ∀ item ∈ items, item.name ≠ [] ∧ '=' ∉ item.name := by
    intro item member
    have ofEntry := named item.entry (List.mem_map_of_mem member)
    cases item <;> exact ofEntry
  have itemizes := itemizes_written fun item member => (isNamed item member).2
  rw [itemizes.readArguments_eq, judge_of_named fun item member => (isNamed item member).1]
  rfl

/-- A value that is a name or holds the sign does not end its item, in either form. -/
theorem variables_survive_arguments_of_misleading_values :
    let entries := [("a".toList, "b".toList), ("b".toList, "=x=y".toList), ("a".toList, [])]
    (∀ entry ∈ entries, entry.1 ≠ [] ∧ '=' ∉ entry.1) ∧
      ∃ bindings : Bindings, bindings.get? "a".toList = some [] ∧
        bindings.get? "b".toList = some "=x=y".toList ∧
        readArguments ["a=b".toList, "b".toList, "=x=y".toList, "a".toList, []] =
          .ok bindings ∧
        readArguments ["a".toList, "b".toList, "b==x=y".toList, "a=".toList] = .ok bindings := by
  intro entries
  have named : ∀ entry ∈ entries, entry.1 ≠ [] ∧ '=' ∉ entry.1 := by decide
  rcases variables_survive_arguments entries named with ⟨bindings, -, values, accepted⟩
  refine ⟨named, bindings, ?_, ?_, ?_, ?_⟩
  · rw [values]
    decide
  · rw [values]
    decide
  · exact accepted [.joined "a".toList "b".toList, .apart "b".toList "=x=y".toList,
      .apart "a".toList []] rfl
  · exact accepted [.apart "a".toList "b".toList, .joined "b".toList "=x=y".toList,
      .joined "a".toList []] rfl

end Batchwise
