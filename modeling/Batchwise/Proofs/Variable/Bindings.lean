import Batchwise.Variable.Argument
import Mathlib.Data.Char
import Mathlib.Data.List.Lex
import Mathlib.Data.List.TakeWhile

namespace Batchwise

/-! What bindings hold. Of several entries for one name the last that was added stays,
and the names stand in the order of their code points. -/

def lastNamed? (picked : List Char → Bool) (entries : List (List Char × List Char)) :
    Option (List Char × List Char) :=
  (entries.filter fun entry => picked entry.1).getLast?

def lastValue? (picked : List Char → Bool) (entries : List (List Char × List Char)) :
    Option (List Char) :=
  (lastNamed? picked entries).map (·.2)

section LastEntry

variable {picked : List Char → Bool}

theorem lastNamed?_cons (entry : List Char × List Char)
    (entries : List (List Char × List Char)) :
    lastNamed? picked (entry :: entries) =
      (lastNamed? picked entries).or (if picked entry.1 then some entry else none) := by
  unfold lastNamed?
  cases isPicked : picked entry.1 with
  | true =>
      rw [List.filter_cons_of_pos (by simpa using isPicked), List.getLast?_cons]
      cases (entries.filter fun entry => picked entry.1).getLast? <;> rfl
  | false =>
      rw [List.filter_cons_of_neg (by simp [isPicked])]
      exact (Option.or_none).symm

theorem lastValue?_cons (entry : List Char × List Char)
    (entries : List (List Char × List Char)) :
    lastValue? picked (entry :: entries) =
      (lastValue? picked entries).or (if picked entry.1 then some entry.2 else none) := by
  rw [lastValue?, lastNamed?_cons, Option.map_or, lastValue?]
  cases picked entry.1 <;> rfl

theorem mem_of_lastNamed? {entries : List (List Char × List Char)}
    {entry : List Char × List Char} (found : lastNamed? picked entries = some entry) :
    entry ∈ entries ∧ picked entry.1 = true := by
  have member := List.mem_filter.mp (List.mem_of_getLast? found)
  exact member

theorem lastNamed?_eq_none_iff {entries : List (List Char × List Char)} :
    lastNamed? picked entries = none ↔ ∀ entry ∈ entries, picked entry.1 = false := by
  rw [lastNamed?, List.getLast?_eq_none_iff, List.filter_eq_nil_iff]
  simp

theorem lastNamed?_of_imp {fewer : List Char → Bool} {entries : List (List Char × List Char)}
    {entry : List Char × List Char} (imp : ∀ name, fewer name = true → picked name = true)
    (found : lastNamed? picked entries = some entry) (still : fewer entry.1 = true) :
    lastNamed? fewer entries = some entry := by
  induction entries with
  | nil => cases found
  | cons first rest induction =>
      rw [lastNamed?_cons] at found ⊢
      rcases Option.or_eq_some_iff.mp found with behind | ⟨nothing, isFirst⟩
      · rw [induction behind]
        rfl
      · have nothingFewer : lastNamed? fewer rest = none := by
          rw [lastNamed?_eq_none_iff] at nothing ⊢
          intro other member
          by_contra isPicked
          have pickedToo := imp other.1 (by simpa using isPicked)
          rw [nothing other member] at pickedToo
          cases pickedToo
        split at isFirst
        · cases isFirst
          rw [nothingFewer, if_pos still]
          rfl
        · cases isFirst

end LastEntry

namespace Bindings

theorem get?_insert (bindings : Bindings) (name value other : List Char) :
    (bindings.insert name value).get? other =
      if name = other then some value else bindings.get? other := by
  unfold get? Bindings.insert
  dsimp only
  induction bindings.entries with
  | nil =>
      rw [insertEntry, List.find?_cons]
      by_cases same : name = other <;> simp [same]
  | cons first rest induction =>
      rw [insertEntry]
      split
      · rename_i equal
        by_cases same : name = other
        · simp [same]
        · have different : first.1 ≠ other := equal ▸ same
          simp [same, different]
      · split
        · by_cases same : name = other <;> simp [List.find?_cons, same]
        · rename_i different _
          by_cases isFirst : first.1 = other
          · have differs : name ≠ other := fun same => different (same.trans isFirst.symm)
            simp [isFirst, differs]
          · rw [List.find?_cons_of_neg (by simpa using isFirst), induction,
              List.find?_cons_of_neg (by simpa using isFirst)]

/-- What is added wins over what was there, and what is added later wins. -/
theorem get?_extend (bindings : Bindings) (entries : List (List Char × List Char))
    (name : List Char) :
    (bindings.extend entries).get? name =
      (lastValue? (· = name) entries).or (bindings.get? name) := by
  induction entries generalizing bindings with
  | nil => rfl
  | cons entry rest induction =>
      have behind := induction (bindings.insert entry.1 entry.2)
      rw [get?_insert] at behind
      rw [lastValue?_cons, Option.or_assoc]
      refine behind.trans ?_
      by_cases same : entry.1 = name <;> simp [same]

theorem get?_ofList (entries : List (List Char × List Char)) (name : List Char) :
    (ofList entries).get? name = lastValue? (· = name) entries := by
  rw [ofList, get?_extend]
  exact Option.or_none

theorem mem_of_get? {bindings : Bindings} {name value : List Char}
    (found : bindings.get? name = some value) : (name, value) ∈ bindings.entries := by
  rcases Option.map_eq_some_iff.mp found with ⟨entry, isFirst, rfl⟩
  have same : entry.1 = name := by simpa using List.find?_some isFirst
  rw [← same]
  exact List.mem_of_find?_eq_some isFirst

theorem get?_of_mem {bindings : Bindings} {entry : List Char × List Char}
    (member : entry ∈ bindings.entries) : bindings.get? entry.1 = some entry.2 := by
  rcases bindings with ⟨entries, sorted⟩
  unfold get?
  dsimp only at *
  induction entries with
  | nil => cases member
  | cons first rest induction =>
      rcases List.pairwise_cons.mp sorted with ⟨least, sortedRest⟩
      rcases List.mem_cons.mp member with rfl | behind
      · rw [List.find?_cons_of_pos (by simp)]
        rfl
      · have different : first.1 ≠ entry.1 := ne_of_lt (least entry behind)
        rw [List.find?_cons_of_neg (by simpa using different)]
        exact induction sortedRest behind

theorem lastValue?_entries (bindings : Bindings) (name : List Char) :
    lastValue? (· = name) bindings.entries = bindings.get? name := by
  cases found : lastNamed? (· = name) bindings.entries with
  | none =>
      rw [lastValue?, found]
      cases held : bindings.get? name with
      | none => rfl
      | some value =>
          have absent := lastNamed?_eq_none_iff.mp found _ (mem_of_get? held)
          simp at absent
  | some entry =>
      rcases mem_of_lastNamed? found with ⟨member, same⟩
      have held := get?_of_mem member
      rw [of_decide_eq_true same] at held
      rw [lastValue?, found, held]
      rfl

theorem get?_extend_ofList (bindings : Bindings) (entries : List (List Char × List Char))
    (name : List Char) :
    (bindings.extend (ofList entries).entries).get? name =
      (lastValue? (· = name) entries).or (bindings.get? name) := by
  rw [get?_extend, lastValue?_entries, get?_ofList]

end Bindings

/-! ## Arguments -/

inductive Gives : List (List Char) → List (List Char × List Char) → Prop
  | nothing : Gives [] []
  | joined {name value : List Char} {rest : List (List Char)}
      {given : List (List Char × List Char)} (named : name ≠ []) (noSign : '=' ∉ name)
      (behind : Gives rest given) :
      Gives ((name ++ '=' :: value) :: rest) ((name, value) :: given)
  | apart {name value : List Char} {rest : List (List Char)}
      {given : List (List Char × List Char)} (noSign : '=' ∉ name)
      (behind : Gives rest given) :
      Gives (name :: value :: rest) ((name, value) :: given)

theorem split_at_sign {argument : List Char} (hasSign : '=' ∈ argument) :
    argument = argument.takeWhile (· ≠ '=') ++
        '=' :: (argument.dropWhile (· ≠ '=')).drop 1 ∧
      '=' ∉ argument.takeWhile (· ≠ '=') := by
  constructor
  · induction argument with
    | nil => cases hasSign
    | cons character rest induction =>
        by_cases isSign : character = '='
        · simp [isSign]
        · have behind : '=' ∈ rest := by
            simpa [Ne.symm isSign] using hasSign
          have split := induction behind
          simp only [List.takeWhile_cons, List.dropWhile_cons, isSign, ne_eq, not_false_eq_true,
            decide_true, if_true, List.cons_append] at split ⊢
          exact congrArg (character :: ·) split
  · intro member
    have notSign := List.mem_takeWhile_imp member
    simp at notSign

theorem gives_of_assignments {arguments : List (List Char)}
    {given : List (List Char × List Char)} (read : assignments arguments = .ok given) :
    Gives arguments given := by
  fun_induction assignments arguments generalizing given with
  | case1 =>
      cases read
      exact .nothing
  | case2 => cases read
  | case3 argument rest hasSign name value named =>
      rename_i induction
      cases following : assignments rest with
      | error fault =>
          rw [following] at read
          cases read
      | ok behind =>
          rw [following] at read
          cases read
          rcases split_at_sign hasSign with ⟨split, noSign⟩
          rw [split]
          exact .joined named noSign (induction following)
  | case4 => cases read
  | case5 argument noSign value rest induction =>
      cases following : assignments rest with
      | error fault =>
          rw [following] at read
          cases read
      | ok behind =>
          rw [following] at read
          cases read
          exact .apart noSign (induction following)

theorem assignments_joined {name : List Char} (noSign : '=' ∉ name) (value : List Char)
    (rest : List (List Char)) :
    assignments ((name ++ '=' :: value) :: rest) =
      if name = [] then .error (.missingName ('=' :: value))
      else (assignments rest).map ((name, value) :: ·) := by
  have plain : ∀ character ∈ name, decide (character ≠ '=') = true := by
    intro character member
    refine decide_eq_true ?_
    rintro rfl
    exact noSign member
  have hasSign : '=' ∈ name ++ '=' :: value := by simp
  rw [assignments.eq_def]
  simp only [if_pos hasSign, List.takeWhile_append_of_pos plain,
    List.dropWhile_append_of_pos plain]
  cases name <;> simp

theorem assignments_apart {name : List Char} (noSign : '=' ∉ name) (value : List Char)
    (rest : List (List Char)) :
    assignments (name :: value :: rest) = (assignments rest).map ((name, value) :: ·) := by
  rw [assignments.eq_def]
  simp only [if_neg noSign]

theorem assignments_of_gives {arguments : List (List Char)}
    {given : List (List Char × List Char)} (gives : Gives arguments given) :
    assignments arguments = .ok given := by
  induction gives with
  | nothing => rfl
  | joined named noSign _ induction =>
      rw [assignments_joined noSign, if_neg named, induction]
      rfl
  | apart noSign _ induction =>
      rw [assignments_apart noSign, induction]
      rfl

theorem readArguments_eq_ok_iff {arguments : List (List Char)} {bindings : Bindings} :
    readArguments arguments = .ok bindings ↔
      ∃ given, Gives arguments given ∧ bindings = .ofList given := by
  unfold readArguments
  constructor
  · intro read
    cases assigned : assignments arguments with
    | error fault =>
        rw [assigned] at read
        cases read
    | ok given =>
        rw [assigned] at read
        cases read
        exact ⟨given, gives_of_assignments assigned, rfl⟩
  · rintro ⟨given, gives, rfl⟩
    rw [assignments_of_gives gives]
    rfl

end Batchwise
