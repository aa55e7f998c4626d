namespace Batchwise

/-! Names bound to values. Names are told apart by their exact spelling and stand in the
order of their code points, each of them once. -/

structure Bindings where
  entries : List (List Char × List Char)
  sorted : entries.Pairwise fun first second => first.1 < second.1
  deriving DecidableEq, Repr

namespace Bindings

def empty : Bindings := ⟨[], .nil⟩

def insertEntry (name value : List Char) :
    List (List Char × List Char) → List (List Char × List Char)
  | [] => [(name, value)]
  | (other, kept) :: rest =>
    if name = other then (name, value) :: rest
    else if name < other then (name, value) :: (other, kept) :: rest
    else (other, kept) :: insertEntry name value rest

theorem mem_insertEntry {name value : List Char} {entries : List (List Char × List Char)}
    {entry : List Char × List Char} (member : entry ∈ insertEntry name value entries) :
    entry = (name, value) ∨ entry ∈ entries := by
  induction entries with
  | nil => exact .inl (List.mem_singleton.mp member)
  | cons first rest induction =>
      rw [insertEntry] at member
      split at member
      · exact (List.mem_cons.mp member).imp_right (List.mem_cons_of_mem first)
      · split at member
        · exact List.mem_cons.mp member
        · rcases List.mem_cons.mp member with rfl | behind
          · exact .inr List.mem_cons_self
          · exact (induction behind).imp_right (List.mem_cons_of_mem first)

theorem sorted_insertEntry (name value : List Char) {entries : List (List Char × List Char)}
    (sorted : entries.Pairwise fun first second => first.1 < second.1) :
    (insertEntry name value entries).Pairwise fun first second => first.1 < second.1 := by
  induction entries with
  | nil => exact List.pairwise_singleton _ _
  | cons first rest induction =>
      rcases List.pairwise_cons.mp sorted with ⟨least, sortedRest⟩
      rw [insertEntry]
      split
      · rename_i same
        exact List.pairwise_cons.mpr ⟨same ▸ least, sortedRest⟩
      · rename_i different
        split
        · rename_i less
          refine List.pairwise_cons.mpr ⟨?_, sorted⟩
          intro entry member
          rcases List.mem_cons.mp member with rfl | behind
          · exact less
          · exact List.lt_trans less (least entry behind)
        · rename_i notLess
          have greater : first.1 < name := Decidable.not_not.mp fun notGreater =>
            different (List.le_antisymm notGreater notLess)
          refine List.pairwise_cons.mpr ⟨?_, induction sortedRest⟩
          intro entry member
          rcases mem_insertEntry member with rfl | behind
          · exact greater
          · exact least entry behind

def insert (bindings : Bindings) (name value : List Char) : Bindings where
  entries := insertEntry name value bindings.entries
  sorted := sorted_insertEntry name value bindings.sorted

def extend (bindings : Bindings) (entries : List (List Char × List Char)) : Bindings :=
  entries.foldl (fun bindings entry => bindings.insert entry.1 entry.2) bindings

def ofList (entries : List (List Char × List Char)) : Bindings :=
  empty.extend entries

def get? (bindings : Bindings) (name : List Char) : Option (List Char) :=
  (bindings.entries.find? (·.1 = name)).map (·.2)

example : (ofList [(['x'], ['1']), (['X'], ['2']), (['x'], ['3'])]).entries
    = [(['X'], ['2']), (['x'], ['3'])] := by
  decide

end Bindings

end Batchwise
