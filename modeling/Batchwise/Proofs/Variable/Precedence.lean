import Batchwise.Proofs.Variable.Store
import Batchwise.Settings

namespace Batchwise

/-! Which value a script finds under a name that is given more than once. Arguments
and settings tell names apart by their exact spelling, and the store by their
lower-case form. The store is filled in the order of the spellings, so the spelling
that comes last in that order decides, wherever it was given. -/

/-- Of the spellings of a name, the one that comes last in the order of code points. -/
structure IsLastSpelling (spellings : List (List Char)) (name spelling : List Char) : Prop where
  member : spelling ∈ spellings
  same : lowercase spelling = lowercase name
  last : ∀ other ∈ spellings, lowercase other = lowercase name → ¬ spelling < other

theorem IsLastSpelling.unique {spellings : List (List Char)} {name first second : List Char}
    (isLast : IsLastSpelling spellings name first)
    (isLastToo : IsLastSpelling spellings name second) : first = second := by
  rcases lt_trichotomy first second with less | equal | greater
  · exact absurd less (isLast.last second isLastToo.member isLastToo.same)
  · exact equal
  · exact absurd greater (isLastToo.last first isLast.member isLast.same)

theorem IsLastSpelling.congr {spellings others : List (List Char)} {name spelling : List Char}
    (isLast : IsLastSpelling spellings name spelling)
    (equal : ∀ other, other ∈ spellings ↔ other ∈ others) :
    IsLastSpelling others name spelling where
  member := (equal spelling).mp isLast.member
  same := isLast.same
  last other member := isLast.last other ((equal other).mpr member)

namespace Bindings

theorem isLastSpelling {bindings : Bindings} {name : List Char}
    {entry : List Char × List Char}
    (found : lastNamed? (lowercase · = lowercase name) bindings.entries = some entry) :
    IsLastSpelling (bindings.entries.map (·.1)) name entry.1 := by
  have picked := mem_of_lastNamed? found
  refine ⟨List.mem_map_of_mem picked.1, of_decide_eq_true picked.2, ?_⟩
  rcases bindings with ⟨entries, sorted⟩
  dsimp only at *
  clear picked
  induction entries with
  | nil => cases found
  | cons first rest induction =>
      rcases List.pairwise_cons.mp sorted with ⟨least, sortedRest⟩
      rw [lastNamed?_cons] at found
      intro other member same
      rcases Option.or_eq_some_iff.mp found with behind | ⟨nothing, isFirst⟩
      · rcases List.mem_cons.mp member with rfl | member
        · exact lt_asymm (least entry (mem_of_lastNamed? behind).1)
        · exact induction sortedRest behind other member same
      · split at isFirst
        · cases isFirst
          rcases List.mem_cons.mp member with rfl | member
          · exact lt_irrefl _
          · rcases List.mem_map.mp member with ⟨inRest, memberRest, rfl⟩
            have notPicked := lastNamed?_eq_none_iff.mp nothing inRest memberRest
            simp [same] at notPicked
        · cases isFirst

theorem mem_names_iff (bindings : Bindings) (name : List Char) :
    name ∈ bindings.entries.map (·.1) ↔ (bindings.get? name).isSome = true := by
  constructor
  · intro member
    rcases List.mem_map.mp member with ⟨entry, held, rfl⟩
    rw [get?_of_mem held]
    rfl
  · intro isSome
    rcases Option.isSome_iff_exists.mp isSome with ⟨value, found⟩
    exact List.mem_map_of_mem (f := (·.1)) (mem_of_get? found)

end Bindings

/-! ## Arguments over settings -/

theorem isSome_lastValue?_iff (entries : List (List Char × List Char)) (name : List Char) :
    (lastValue? (· = name) entries).isSome = true ↔ name ∈ entries.map (·.1) := by
  rw [lastValue?, Option.isSome_map, Option.isSome_iff_ne_none, ne_eq, lastNamed?_eq_none_iff]
  simp [List.mem_map]

def spelledValue? (table : Bindings) (given : List (List Char × List Char))
    (spelling : List Char) : Option (List Char) :=
  (lastValue? (· = spelling) given).or (table.get? spelling)

def spellings (table : Bindings) (given : List (List Char × List Char)) : List (List Char) :=
  table.entries.map (·.1) ++ given.map (·.1)

def withArguments (table : Bindings) (given : List (List Char × List Char)) : Bindings :=
  table.extend (Bindings.ofList given).entries

section WithArguments

variable {table : Bindings} {given : List (List Char × List Char)} {name : List Char}

theorem get?_withArguments (spelling : List Char) :
    (withArguments table given).get? spelling = spelledValue? table given spelling :=
  Bindings.get?_extend_ofList table given spelling

theorem mem_names_withArguments (spelling : List Char) :
    spelling ∈ (withArguments table given).entries.map (·.1) ↔
      spelling ∈ spellings table given := by
  rw [Bindings.mem_names_iff, get?_withArguments, spelledValue?, Option.isSome_or,
    Bool.or_eq_true, isSome_lastValue?_iff, ← Bindings.mem_names_iff, or_comm, spellings,
    List.mem_append]

/-- The store has the value of the last spelling, or nothing if no spelling is one of
the name. -/
inductive HoldsLastSpelling (table : Bindings) (given : List (List Char × List Char))
    (name : List Char) : Option (List Char) → Prop
  | undefined
      (noSpelling : ∀ spelling ∈ spellings table given, lowercase spelling ≠ lowercase name) :
      HoldsLastSpelling table given name none
  | spelled {spelling value : List Char}
      (isLast : IsLastSpelling (spellings table given) name spelling)
      (valued : spelledValue? table given spelling = some value) :
      HoldsLastSpelling table given name (some value)

theorem found_withArguments :
    HoldsLastSpelling table given name
      (lastValue? (lowercase · = lowercase name) (withArguments table given).entries) := by
  have equal : ∀ spelling, spelling ∈ (withArguments table given).entries.map (·.1) ↔
      spelling ∈ spellings table given := mem_names_withArguments
  cases found : lastNamed? (lowercase · = lowercase name)
      (withArguments table given).entries with
  | none =>
      rw [lastValue?, found]
      refine .undefined ?_
      intro spelling member same
      rcases List.mem_map.mp ((equal spelling).mpr member) with ⟨entry, held, rfl⟩
      have notPicked := lastNamed?_eq_none_iff.mp found entry held
      simp [same] at notPicked
  | some entry =>
      rw [lastValue?, found]
      refine .spelled ((Bindings.isLastSpelling found).congr equal) ?_
      rw [← get?_withArguments]
      exact Bindings.get?_of_mem (mem_of_lastNamed? found).1

/-- The rule that one would expect: the last argument of a name decides, whatever its
spelling, and the table only speaks where the arguments do not. -/
structure ArgumentsPrevail (table : Bindings) (given : List (List Char × List Char))
    (name : List Char) (value : Option (List Char)) : Prop where
  argument : ∀ last, lastNamed? (lowercase · = lowercase name) given = some last →
    value = some last.2
  setting : lastNamed? (lowercase · = lowercase name) given = none →
    (∃ entry ∈ table.entries, lowercase entry.1 = lowercase name) →
    ∃ entry ∈ table.entries, lowercase entry.1 = lowercase name ∧ value = some entry.2
  undefined : lastNamed? (lowercase · = lowercase name) given = none →
    (∀ entry ∈ table.entries, lowercase entry.1 ≠ lowercase name) → value = none

/-- The last argument of a name is not overruled: a spelling behind its own in the order
of code points would have to give the same value. -/
def KeepsLastArgument (table : Bindings) (given : List (List Char × List Char))
    (name : List Char) : Prop :=
  ∀ last spelling, lastNamed? (lowercase · = lowercase name) given = some last →
    last.1 < spelling → IsLastSpelling (spellings table given) name spelling →
    spelledValue? table given spelling = some last.2

theorem spelledValue?_of_lastNamed? {last : List Char × List Char}
    (isLast : lastNamed? (lowercase · = lowercase name) given = some last) :
    spelledValue? table given last.1 = some last.2 := by
  have same := of_decide_eq_true (mem_of_lastNamed? isLast).2
  have sameSpelling : lastNamed? (· = last.1) given = some last := by
    refine lastNamed?_of_imp ?_ isLast (by simp)
    intro other equal
    rw [of_decide_eq_true equal]
    exact decide_eq_true same
  rw [spelledValue?, lastValue?, sameSpelling]
  rfl

theorem spelledValue?_of_no_argument {spelling : List Char}
    (noArgument : lastNamed? (lowercase · = lowercase name) given = none)
    (same : lowercase spelling = lowercase name) :
    spelledValue? table given spelling = table.get? spelling := by
  have notGiven : lastNamed? (· = spelling) given = none := by
    rw [lastNamed?_eq_none_iff] at noArgument ⊢
    intro entry member
    have different := noArgument entry member
    simp only [decide_eq_false_iff_not] at different ⊢
    rintro rfl
    exact different same
  rw [spelledValue?, lastValue?, notGiven]
  rfl

namespace HoldsLastSpelling

variable {value : Option (List Char)}

theorem of_argument (found : HoldsLastSpelling table given name value)
    {last : List Char × List Char}
    (isLastArgument : lastNamed? (lowercase · = lowercase name) given = some last) :
    value = some last.2 ∨
      ∃ spelling, last.1 < spelling ∧ IsLastSpelling (spellings table given) name spelling ∧
        value = spelledValue? table given spelling := by
  rcases mem_of_lastNamed? isLastArgument with ⟨member, same⟩
  have isSpelling : last.1 ∈ spellings table given :=
    List.mem_append_right _ (List.mem_map_of_mem member)
  have sameName := of_decide_eq_true same
  cases found with
  | undefined noSpelling => exact absurd sameName (noSpelling last.1 isSpelling)
  | @spelled spelling value isLast valued =>
      rw [← valued]
      rcases lt_trichotomy last.1 spelling with less | rfl | greater
      · exact .inr ⟨spelling, less, isLast, rfl⟩
      · exact .inl (spelledValue?_of_lastNamed? isLastArgument)
      · exact absurd greater (isLast.last last.1 isSpelling sameName)

theorem of_no_argument (found : HoldsLastSpelling table given name value)
    (noArgument : lastNamed? (lowercase · = lowercase name) given = none) :
    (∃ entry ∈ table.entries, lowercase entry.1 = lowercase name ∧ value = some entry.2) ∨
      value = none ∧ ∀ entry ∈ table.entries, lowercase entry.1 ≠ lowercase name := by
  cases found with
  | undefined noSpelling =>
      refine .inr ⟨rfl, ?_⟩
      intro entry member
      exact noSpelling entry.1 (List.mem_append_left _ (List.mem_map_of_mem member))
  | @spelled spelling value isLast valued =>
      rw [spelledValue?_of_no_argument noArgument isLast.same] at valued
      exact .inl ⟨(spelling, value), Bindings.mem_of_get? valued, isLast.same, rfl⟩

theorem eq_spelledValue? (found : HoldsLastSpelling table given name value)
    {spelling : List Char} (isLast : IsLastSpelling (spellings table given) name spelling) :
    value = spelledValue? table given spelling := by
  cases found with
  | undefined noSpelling => exact absurd isLast.same (noSpelling spelling isLast.member)
  | spelled isLastToo valued => rw [isLast.unique isLastToo, valued]

theorem argumentsPrevail_iff (found : HoldsLastSpelling table given name value) :
    ArgumentsPrevail table given name value ↔ KeepsLastArgument table given name := by
  constructor
  · intro prevail last spelling isLastArgument _ isLast
    rw [← found.eq_spelledValue? isLast]
    exact prevail.argument last isLastArgument
  · intro keeps
    refine ⟨?_, ?_, ?_⟩
    · intro last isLastArgument
      rcases found.of_argument isLastArgument with decides | ⟨spelling, less, isLast, valued⟩
      · exact decides
      · exact valued.trans (keeps last spelling isLastArgument less isLast)
    · rintro noArgument ⟨entry, member, same⟩
      rcases found.of_no_argument noArgument with decides | ⟨-, noEntry⟩
      · exact decides
      · exact absurd same (noEntry entry member)
    · intro noArgument noEntry
      rcases found.of_no_argument noArgument with ⟨entry, member, same, -⟩ | ⟨nothing, -⟩
      · exact absurd same (noEntry entry member)
      · exact nothing

end HoldsLastSpelling

end WithArguments

/-- What a context defines for a name, and when it is what the arguments say. -/
theorem context_value_of_arguments {settings : Settings} {arguments : List (List Char)}
    {mode : Option Mode} {bindings : Bindings}
    (accepted : readArguments arguments = .ok bindings)
    (scripting : (settings.options mode bindings).mode.isScripting = true)
    (name : List Char) :
    ∃ given, Gives arguments given ∧
      HoldsLastSpelling settings.bindings given name
        ((Context.ofOptions (settings.options mode bindings)).store.get? name) ∧
      (ArgumentsPrevail settings.bindings given name
          ((Context.ofOptions (settings.options mode bindings)).store.get? name) ↔
        KeepsLastArgument settings.bindings given name) := by
  rcases readArguments_eq_ok_iff.mp accepted with ⟨given, gives, rfl⟩
  have found : HoldsLastSpelling settings.bindings given name
      ((Context.ofOptions (settings.options mode (.ofList given))).store.get? name) := by
    rw [Context.get?_ofOptions scripting]
    exact found_withArguments
  exact ⟨given, gives, found, found.argumentsPrevail_iff⟩

/-- The setting `x` stands behind the argument `X` and decides. -/
theorem context_value_of_two_spellings :
    ∃ given, Gives ["X=1".toList, "db".toList, "a = b".toList] given ∧
      HoldsLastSpelling (.ofList [("x".toList, "file".toList)]) given "x".toList
        (some "file".toList) := by
  have accepted : readArguments ["X=1".toList, "db".toList, "a = b".toList] =
      .ok (.ofList [("X".toList, "1".toList), ("db".toList, "a = b".toList)]) := rfl
  rcases @context_value_of_arguments { bindings := .ofList [("x".toList, "file".toList)] } _ none
      _ accepted rfl "x".toList with
    ⟨given, gives, found, _⟩
  exact ⟨given, gives, found⟩

/-- A setting overrules an argument, and an argument overrules a later one. -/
theorem not_argumentsPrevail_of_two_spellings :
    (readArguments ["X=cli".toList] = .ok (.ofList [("X".toList, "cli".toList)]) ∧
      Gives ["X=cli".toList] [("X".toList, "cli".toList)] ∧
      ¬ ArgumentsPrevail (.ofList [("x".toList, "file".toList)]) [("X".toList, "cli".toList)]
        "x".toList
        ((Context.ofOptions (Settings.options
          { bindings := .ofList [("x".toList, "file".toList)] } none
          (.ofList [("X".toList, "cli".toList)]))).store.get? "x".toList)) ∧
    (readArguments ["x=1".toList, "X=2".toList] =
        .ok (.ofList [("x".toList, "1".toList), ("X".toList, "2".toList)]) ∧
      Gives ["x=1".toList, "X=2".toList]
        [("x".toList, "1".toList), ("X".toList, "2".toList)] ∧
      ¬ ArgumentsPrevail .empty [("x".toList, "1".toList), ("X".toList, "2".toList)] "x".toList
        ((Context.ofOptions (Settings.options {} none
          (.ofList [("x".toList, "1".toList), ("X".toList, "2".toList)]))).store.get?
            "x".toList)) := by
  refine ⟨⟨by decide, ?_, ?_⟩, by decide, ?_, ?_⟩
  · exact gives_of_assignments (by decide)
  · intro prevail
    exact absurd (prevail.argument ("X".toList, "cli".toList) (by decide)) (by decide)
  · exact gives_of_assignments (by decide)
  · intro prevail
    exact absurd (prevail.argument ("X".toList, "2".toList) (by decide)) (by decide)

end Batchwise
