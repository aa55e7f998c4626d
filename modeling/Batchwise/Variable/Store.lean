import Batchwise.Text.Blank
import Batchwise.Text.Case

namespace Batchwise

/-! The variables of a script. Names are told apart by their lower-case form,
and a variable remembers the spelling it was last written with. -/

structure Variable where
  name : List Char
  value : List Char
  /-- Whether the script may assign a new value. -/
  overridable : Bool
  deriving DecidableEq, Repr

namespace Variable

def key (entry : Variable) : List Char :=
  lowercase entry.name

end Variable

structure Store where
  entries : List Variable
  distinct : (entries.map Variable.key).Nodup
  deriving DecidableEq, Repr

namespace Store

def empty : Store := ⟨[], .nil⟩

def find? (store : Store) (name : List Char) : Option Variable :=
  store.entries.find? (·.key = lowercase name)

def get? (store : Store) (name : List Char) : Option (List Char) :=
  (store.find? name).map (·.value)

def size (store : Store) : Nat :=
  store.entries.length

def insert (store : Store) (entry : Variable) : Store where
  entries := entry :: store.entries.filter (·.key ≠ entry.key)
  distinct := by
    refine List.nodup_cons.mpr ⟨?_, store.distinct.sublist (List.filter_sublist.map _)⟩
    intro member
    rcases List.mem_map.mp member with ⟨other, kept, same⟩
    exact of_decide_eq_true (List.mem_filter.mp kept).2 same

def accepts (store : Store) (name : List Char) : Bool :=
  !trim name == [] && (store.find? name).all (·.overridable)

/-- An assignment by the script. One that is not accepted changes nothing. -/
def assign (store : Store) (name value : List Char) : Store :=
  if store.accepts name then store.insert ⟨name, value, true⟩ else store

def sorted (store : Store) : List Variable :=
  store.entries.mergeSort (fun first second => !decide (second.key < first.key))

end Store

end Batchwise
