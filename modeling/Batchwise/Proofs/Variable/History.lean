import Batchwise.Proofs.Variable.Store
import Mathlib.Data.List.Dedup

namespace Batchwise

/-! The history of a store. Whatever has been inserted and assigned, a store is a map over
lower-cased names: it has the last variable that was written under each of them, and an
assignment that is refused counts for nothing. The order of the variables cannot be seen,
neither when one is looked up nor when all are listed. -/

namespace Store

inductive Operation where
  /-- A variable of the caller, locked or not. -/
  | insert (entry : Variable)
  | assign (name value : List Char)
  deriving DecidableEq, Repr

def Operation.entry : Operation → Variable
  | insert entry => entry
  | assign name value => ⟨name, value, true⟩

def perform (store : Store) : Operation → Option Bool × Store
  | .insert entry => (none, store.insert entry)
  | .assign name value => (some (store.accepts name), store.assign name value)

def after (store : Store) : List Operation → Store
  | [] => store
  | operation :: rest => (store.perform operation).2.after rest

/-- What the operation writes: nothing if it is refused. -/
def writes (store : Store) (operation : Operation) : List Variable :=
  if (store.perform operation).1 = some false then [] else [operation.entry]

def written (store : Store) : List Operation → List Variable
  | [] => []
  | operation :: rest => store.writes operation ++ (store.perform operation).2.written rest

end Store

def lastWritten? (key : List Char) (history : List Variable) : Option Variable :=
  (history.filter (·.key = key)).getLast?

theorem lastWritten?_concat (key : List Char) (history : List Variable) (entry : Variable) :
    lastWritten? key (history ++ [entry]) =
      if entry.key = key then some entry else lastWritten? key history := by
  unfold lastWritten?
  by_cases same : entry.key = key
  · rw [if_pos same, List.filter_append, List.filter_cons_of_pos (by simpa using same),
      List.filter_nil, List.getLast?_concat]
  · rw [if_neg same, List.filter_append, List.filter_cons_of_neg (by simpa using same),
      List.filter_nil, List.append_nil]

theorem lastWritten?_eq_none_iff {key : List Char} {history : List Variable} :
    lastWritten? key history = none ↔ key ∉ history.map Variable.key := by
  rw [lastWritten?, List.getLast?_eq_none_iff, List.filter_eq_nil_iff, List.mem_map]
  simp

namespace Store

/-! ## Keys -/

section Keys

variable {store : Store}

theorem find?_eq_some_iff {name : List Char} {entry : Variable} :
    store.find? name = some entry ↔ entry ∈ store.entries ∧ entry.key = lowercase name := by
  constructor
  · intro found
    exact ⟨List.mem_of_find?_eq_some found, by simpa using List.find?_some found⟩
  · rintro ⟨member, isNamed⟩
    cases found : store.find? name with
    | none =>
        have absent := List.find?_eq_none.mp found entry member
        simp [isNamed] at absent
    | some other =>
        have memberToo := List.mem_of_find?_eq_some found
        have isNamedToo : other.key = lowercase name := by simpa using List.find?_some found
        have same := List.inj_on_of_nodup_map store.distinct memberToo member
          (isNamedToo.trans isNamed.symm)
        rw [same]

theorem find?_of_perm {other : Store} (perm : other.entries.Perm store.entries)
    (name : List Char) : other.find? name = store.find? name := by
  apply Option.ext
  intro entry
  rw [find?_eq_some_iff, find?_eq_some_iff, perm.mem_iff]

end Keys

/-! ## The listing -/

theorem sorted_perm (store : Store) : store.sorted.Perm store.entries :=
  List.mergeSort_perm _ _

theorem sorted_pairwise (store : Store) :
    store.sorted.Pairwise fun first second => first.key ≤ second.key := by
  have ordered := @List.pairwise_mergeSort Variable
    (fun first second => !decide (second.key < first.key)) ?_ ?_ store.entries
  · refine ordered.imp ?_
    intro first second inOrder
    simpa using inOrder
  · intro first second third
    simp only [Bool.not_eq_true', decide_eq_false_iff_not, not_lt]
    exact le_trans
  · intro first second
    simp only [Bool.or_eq_true, Bool.not_eq_true', decide_eq_false_iff_not, not_lt]
    exact le_total _ _

theorem sorted_lt (store : Store) :
    store.sorted.Pairwise fun first second => first.key < second.key := by
  have different := (store.sorted_perm.map Variable.key).nodup_iff.mpr store.distinct
  have both := store.sorted_pairwise.and (List.pairwise_map.mp different)
  refine both.imp ?_
  rintro first second ⟨inOrder, differs⟩
  exact lt_of_le_of_ne inOrder differs

theorem sorted_of_perm {store other : Store} (perm : other.entries.Perm store.entries) :
    other.sorted = store.sorted := by
  have same := (other.sorted_perm.trans perm).trans store.sorted_perm.symm
  refine same.eq_of_pairwise ?_ other.sorted_pairwise store.sorted_pairwise
  intro first second member memberToo inOrder inOrderToo
  have inStore := perm.mem_iff.mp (other.sorted_perm.mem_iff.mp member)
  have inStoreToo := store.sorted_perm.mem_iff.mp memberToo
  exact List.inj_on_of_nodup_map store.distinct inStore inStoreToo
    (le_antisymm inOrder inOrderToo)

/-! ## One operation -/

theorem accepts_eq_true_iff (store : Store) (name : List Char) :
    store.accepts name = true ↔
      (∃ character ∈ name, isBlank character = false) ∧ store.isFree name = true := by
  have visible : trim name ≠ [] ↔ ∃ character ∈ name, isBlank character = false := by
    rw [ne_eq, trim_eq_nil_iff]
    push Not
    simp
  rw [← visible, accepts, isFree]
  simp

structure Obeys (store : Store) (operation : Operation) : Prop where
  /-- An assignment is told whether its name is visible and not that of a locked variable. -/
  answer : ∀ name value, operation = .assign name value →
    ∃ accepted, (store.perform operation).1 = some accepted ∧
      (accepted = true ↔ (∃ character ∈ name, isBlank character = false) ∧
        ∀ entry ∈ store.entries, entry.key = lowercase name → entry.overridable = true)
  refused : (store.perform operation).1 = some false → (store.perform operation).2 = store
  /-- No other name than the one that is written is affected. -/
  written : (store.perform operation).1 ≠ some false → ∀ name,
    (store.perform operation).2.find? name =
      if operation.entry.key = lowercase name then some operation.entry else store.find? name
  locked : ∀ entry ∈ store.entries, entry.overridable = false →
    entry ∈ (store.perform operation).2.entries ∨
      ∃ other, operation = .insert other ∧ other.key = entry.key

theorem isFree_iff (store : Store) (name : List Char) :
    store.isFree name = true ↔
      ∀ entry ∈ store.entries, entry.key = lowercase name → entry.overridable = true := by
  rw [isFree, Option.all_eq_true]
  simp only [find?_eq_some_iff, and_imp]

theorem mem_insert_of_ne {store : Store} {entry other : Variable} (member : entry ∈ store.entries)
    (different : entry.key ≠ other.key) : entry ∈ (store.insert other).entries := by
  apply List.mem_cons_of_mem
  exact List.mem_filter.mpr ⟨member, decide_eq_true different⟩

theorem obeys (store : Store) (operation : Operation) : store.Obeys operation := by
  constructor
  case answer =>
    rintro name value rfl
    refine ⟨store.accepts name, rfl, ?_⟩
    rw [accepts_eq_true_iff, isFree_iff]
  case refused =>
    intro refused
    cases operation with
    | insert entry => cases refused
    | assign name value => exact assign_of_refused (Option.some_inj.mp refused) value
  case written =>
    intro accepted name
    cases operation with
    | insert entry => exact store.find?_insert entry name
    | assign other value =>
        have isAccepted : store.accepts other = true :=
          Bool.not_eq_false _ ▸ mt (congrArg some) accepted
        rw [perform, assign_of_accepted isAccepted]
        exact store.find?_insert _ name
  case locked =>
    intro entry member locked
    cases operation with
    | insert other =>
        by_cases same : other.key = entry.key
        · exact .inr ⟨other, rfl, same⟩
        · exact .inl (mem_insert_of_ne member (Ne.symm same))
    | assign name value =>
        left
        rw [perform, Store.assign]
        split
        · rename_i accepted
          have free := ((accepts_eq_true_iff store name).mp accepted).2
          rw [isFree_iff] at free
          apply mem_insert_of_ne member
          intro same
          rw [free entry member same] at locked
          cases locked
        · exact member

/-! ## A whole history -/

def Reflects (store : Store) (history : List Variable) : Prop :=
  ∀ name, store.find? name = lastWritten? (lowercase name) history

theorem reflects_empty : empty.Reflects [] := fun _ => rfl

section Reflects

variable {store : Store} {history : List Variable} (reflects : store.Reflects history)

include reflects

theorem Reflects.perform (operation : Operation) :
    (store.perform operation).2.Reflects (history ++ store.writes operation) := by
  have obeys := store.obeys operation
  intro name
  rw [writes]
  split
  · rename_i refused
    rw [obeys.refused refused, List.append_nil]
    exact reflects name
  · rename_i accepted
    rw [obeys.written accepted, lastWritten?_concat, reflects]

theorem Reflects.after (operations : List Operation) :
    (store.after operations).Reflects (history ++ store.written operations) := by
  induction operations generalizing store history with
  | nil =>
      rw [written, List.append_nil]
      exact reflects
  | cons operation rest induction =>
      rw [written, ← List.append_assoc]
      exact induction (reflects.perform operation)

theorem Reflects.mem_iff {entry : Variable} :
    entry ∈ store.entries ↔ lastWritten? entry.key history = some entry := by
  have found : store.find? entry.name = some entry ↔
      entry ∈ store.entries ∧ entry.key = entry.key := find?_eq_some_iff
  rw [reflects] at found
  exact (found.trans (and_iff_left rfl)).symm

theorem Reflects.mem_keys_iff {key : List Char} :
    key ∈ store.entries.map Variable.key ↔ key ∈ history.map Variable.key := by
  constructor
  · intro member
    rcases List.mem_map.mp member with ⟨entry, inStore, rfl⟩
    by_contra absent
    rw [reflects.mem_iff, lastWritten?_eq_none_iff.mpr absent] at inStore
    cases inStore
  · intro member
    rcases List.mem_map.mp member with ⟨entry, -, rfl⟩
    cases found : lastWritten? entry.key history with
    | none => exact absurd member (lastWritten?_eq_none_iff.mp found)
    | some last =>
        have finds := (reflects entry.name).trans found
        rcases find?_eq_some_iff.mp finds with ⟨inStore, same⟩
        exact List.mem_map.mpr ⟨last, inStore, same⟩

theorem Reflects.size_eq : store.size = (history.map Variable.key).dedup.length := by
  have perm : (store.entries.map Variable.key).Perm (history.map Variable.key).dedup := by
    rw [List.perm_ext_iff_of_nodup store.distinct (List.nodup_dedup _)]
    intro key
    rw [List.mem_dedup, reflects.mem_keys_iff]
  rw [← perm.length_eq, List.length_map, size]

end Reflects

structure Shows (store : Store) (history : List Variable) : Prop where
  finds : ∀ name, store.find? name = lastWritten? (lowercase name) history
  values : ∀ name, store.get? name = (lastWritten? (lowercase name) history).map (·.value)
  size : store.size = (history.map Variable.key).dedup.length
  entries : ∀ entry, entry ∈ store.entries ↔ lastWritten? entry.key history = some entry
  distinct : (store.entries.map Variable.key).Nodup
  sorted : store.sorted.Perm store.entries ∧
    store.sorted.Pairwise fun first second => first.key < second.key
  /-- Neither the listing nor a look-up shows in which order the variables are kept. -/
  unordered : ∀ other : Store, other.entries.Perm store.entries →
    other.sorted = store.sorted ∧ ∀ name, other.find? name = store.find? name

theorem Reflects.shows {store : Store} {history : List Variable}
    (reflects : store.Reflects history) : store.Shows history where
  finds := reflects
  values name := by rw [get?, reflects]
  size := reflects.size_eq
  entries _ := reflects.mem_iff
  distinct := store.distinct
  sorted := ⟨store.sorted_perm, store.sorted_lt⟩
  unordered _ perm := ⟨sorted_of_perm perm, find?_of_perm perm⟩

end Store

/-- Whatever has been inserted and assigned, each name has the variable that was written last
under its lower-case form, and there are no others. An assignment is refused if its name is
blank or that of a locked variable, and then changes nothing. All others write what they say,
under no other name. What is seen of the variables does not depend on their order. -/
theorem store_keeps_last_writes (operations : List Store.Operation) :
    (Store.empty.after operations).Shows (Store.empty.written operations) ∧
      ∀ operation, (Store.empty.after operations).Obeys operation := by
  have reflects := Store.reflects_empty.after operations
  rw [List.nil_append] at reflects
  exact ⟨reflects.shows, Store.obeys _⟩

/-- Only an insertion replaces a locked variable, and it may free the name. -/
example :
    Store.empty.written [.insert ⟨['D', 'b'], ['1'], false⟩, .assign ['D', 'B'] ['2'],
        .assign [' '] ['3'], .insert ⟨['d', 'B'], ['4'], true⟩, .assign ['D', 'B'] ['5']] =
      [⟨['D', 'b'], ['1'], false⟩, ⟨['d', 'B'], ['4'], true⟩, ⟨['D', 'B'], ['5'], true⟩] := by
  decide +kernel

end Batchwise
