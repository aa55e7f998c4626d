import Batchwise.Context
import Batchwise.Proofs.Text.Words
import Batchwise.Proofs.Variable.Bindings

namespace Batchwise

/-! What a store finds. A name has one variable at most, whichever way it is spelled. An
assignment replaces that variable, unless it is locked: then it stays as it is, and so
does everything else. -/

namespace Store

variable (store : Store)

theorem find?_insert (entry : Variable) (name : List Char) :
    (store.insert entry).find? name =
      if lowercase entry.name = lowercase name then some entry else store.find? name := by
  unfold find? insert
  by_cases same : entry.key = lowercase name
  · have spelled : lowercase entry.name = lowercase name := same
    simp [same, spelled]
  · have spelled : lowercase entry.name ≠ lowercase name := same
    have kept : (store.entries.filter (·.key ≠ entry.key)).find? (·.key = lowercase name) =
        store.entries.find? (·.key = lowercase name) := by
      rw [List.find?_filter]
      congr 1
      funext other
      by_cases isName : other.key = lowercase name
      · have different : other.key ≠ entry.key := by
          rw [isName]
          exact Ne.symm same
        simp [isName, Ne.symm same]
      · simp [isName]
    rw [List.find?_cons_of_neg (by simpa using same), kept, if_neg spelled]

theorem find?_foldl_insert (overridable : Bool) (entries : List (List Char × List Char))
    (name : List Char) :
    (entries.foldl (fun store entry => store.insert ⟨entry.1, entry.2, overridable⟩)
        store).find? name =
      ((lastNamed? (lowercase · = lowercase name) entries).map fun entry =>
        ⟨entry.1, entry.2, overridable⟩).or (store.find? name) := by
  induction entries generalizing store with
  | nil => rfl
  | cons entry rest induction =>
      have behind := induction (store.insert ⟨entry.1, entry.2, overridable⟩)
      rw [find?_insert] at behind
      rw [lastNamed?_cons, Option.map_or, Option.or_assoc]
      refine behind.trans ?_
      by_cases same : lowercase entry.1 = lowercase name <;> simp [same]

def isFree (name : List Char) : Bool :=
  (store.find? name).all (·.overridable)

theorem find?_congr {name other : List Char} (same : lowercase name = lowercase other) :
    store.find? name = store.find? other := by
  rw [find?, find?, same]

section Assign

variable {store} {name : List Char}

theorem assign_of_accepted (accepted : store.accepts name = true) (value : List Char) :
    store.assign name value = store.insert ⟨name, value, true⟩ :=
  if_pos accepted

theorem assign_of_refused (refused : store.accepts name = false) (value : List Char) :
    store.assign name value = store := by
  rw [assign, refused]
  rfl

end Assign

section AssignWord

variable {name : List Char} (isWord : IsWord name) (value other : List Char)

include isWord

theorem accepts_eq : store.accepts name = store.isFree name := by
  have visible : (trim name == []) = false := by
    rw [isWord.trim_eq]
    exact beq_eq_false_iff_ne.mpr isWord.nonempty
  rw [accepts, visible]
  rfl

theorem assign_of_free (free : store.isFree name = true) :
    store.assign name value = store.insert ⟨name, value, true⟩ :=
  assign_of_accepted ((store.accepts_eq isWord).trans free) value

theorem assign_of_locked (locked : store.isFree name = false) :
    store.assign name value = store :=
  assign_of_refused ((store.accepts_eq isWord).trans locked) value

theorem find?_assign :
    (store.assign name value).find? other =
      if lowercase name = lowercase other ∧ store.isFree name = true then
        some ⟨name, value, true⟩
      else store.find? other := by
  cases free : store.isFree name with
  | true =>
      rw [store.assign_of_free isWord value free, find?_insert]
      simp
  | false =>
      rw [store.assign_of_locked isWord value free]
      simp

theorem isFree_assign : (store.assign name value).isFree other = store.isFree other := by
  rw [isFree, store.find?_assign isWord]
  split
  · rename_i written
    have free := written.2
    rw [isFree, store.find?_congr written.1] at free
    rw [isFree, free]
    rfl
  · rfl

end AssignWord

/-! ## Names and values -/

def contents : List (List Char × List Char) :=
  store.entries.map fun entry => (entry.name, entry.value)

theorem contents_insert (entry : Variable) :
    (store.insert entry).contents =
      (entry.name, entry.value) ::
        store.contents.filter fun other => lowercase other.1 ≠ lowercase entry.name := by
  rw [insert, contents, contents, List.map_cons, List.filter_map]
  rfl

theorem get?_eq_contents (name : List Char) :
    store.get? name =
      (store.contents.find? fun entry => lowercase entry.1 = lowercase name).map (·.2) := by
  rw [get?, find?, contents, List.find?_map, Option.map_map]
  rfl

end Store

namespace Context

variable {options : Options}

/-- At the start, a script finds what the caller has given last in the order of names. -/
theorem find?_ofOptions (scripting : options.mode.isScripting = true) (name : List Char) :
    (ofOptions options).store.find? name =
      (lastNamed? (lowercase · = lowercase name) options.bindings.entries).map fun entry =>
        ⟨entry.1, entry.2, options.mode = .sqlcmd⟩ := by
  rw [ofOptions, if_pos scripting, Store.find?_foldl_insert]
  exact Option.or_none

theorem get?_ofOptions (scripting : options.mode.isScripting = true) (name : List Char) :
    (ofOptions options).store.get? name =
      lastValue? (lowercase · = lowercase name) options.bindings.entries := by
  rw [Store.get?, find?_ofOptions scripting, Option.map_map, lastValue?]
  rfl

end Context

end Batchwise
