import Batchwise.Memory.Tables
import Batchwise.ResultSet
import Mathlib.Algebra.GroupWithZero.Nat

namespace Batchwise

/-! What the statements of a text change, and what is counted. Only an insertion or a
deletion writes the counter of the database, but every completed statement is counted by
it. So a statement of another kind adds what the last insertion or deletion has changed.
The count is kept in a word; what has been changed is a natural number. -/

namespace Step

def changes : Step → Nat
  | row .. => 0
  | completed changes => changes.toNat

end Step

@[simp] theorem Gathering.changes_close (gathering : Gathering) :
    gathering.close.changes = gathering.changes := by
  rw [close]
  split <;> rfl

theorem Gathering.changes_foldl_take (gathering : Gathering) (steps : List Step) :
    (steps.foldl take gathering).changes =
      gathering.changes + .ofNat (steps.map Step.changes).sum := by
  induction steps generalizing gathering with
  | nil => exact (UInt64.add_zero _).symm
  | cons step rest induction =>
      rw [List.foldl_cons, induction, List.map_cons, List.sum_cons, UInt64.ofNat_add,
        ← UInt64.add_assoc]
      cases step with
      | row => exact congrArg (· + _) (UInt64.add_zero _).symm
      | completed changes => rw [take, changes_close, Step.changes, UInt64.ofNat_toNat]

theorem Reply.changes_eq (reply : Reply) :
    reply.changes = .ofNat (reply.steps.map Step.changes).sum := by
  have counted := Gathering.changes_foldl_take .empty reply.steps
  rw [Gathering.empty, UInt64.zero_add] at counted
  rw [Reply.changes, Reply.gathering]
  cases reply.failure with
  | none => exact (Gathering.changes_close _).trans counted
  | some detail => exact counted

namespace Memory

/-! ## One statement -/

namespace Tables

def rowsIn (tables : Tables) (name : List Char) : Nat :=
  ((tables.find? name).map (·.rows.length)).getD 0

end Tables

def Statement.target? : Statement → Option (List Char)
  | insert name _ | delete name => some name
  | create _ | select .. => none

namespace Tables

/-- How many rows an insertion or a deletion has added or removed. Statements of other
kinds have no such number. -/
def difference (before after : Tables) (statement : Statement) : Option Nat :=
  statement.target?.map fun name =>
    (after.rowsIn name - before.rowsIn name) + (before.rowsIn name - after.rowsIn name)

variable {tables : Tables} {name : List Char} {table : Table}

theorem find?_map_replacement (others : List Table) (rows : List (List Cell))
    (found : others.find? (sameName name ·.name) = some table) :
    (others.map fun other =>
        if sameName other.name table.name then { table with rows } else other).find?
      (sameName name ·.name) = some { table with rows } := by
  have isNamed : sameName name table.name = true := by
    simpa using List.find?_some found
  induction others with
  | nil => cases found
  | cons head rest induction =>
      rw [List.map_cons]
      cases here : sameName name head.name with
      | true =>
          simp only [List.find?_cons, here, Option.some.injEq] at found
          subst found
          have same : sameName head.name head.name = true := beq_self_eq_true _
          simp only [same, if_true, List.find?_cons, here]
      | false =>
          have different : sameName head.name table.name = false := by
            rw [Bool.eq_false_iff]
            intro same
            rw [sameName, beq_iff_eq] at same isNamed
            rw [sameName, beq_eq_false_iff_ne] at here
            exact here (isNamed.trans same.symm)
          simp only [List.find?_cons, here] at found
          simp only [different, Bool.false_eq_true, if_false, List.find?_cons, here]
          exact induction found

theorem find?_of_lookUpModifiable (found : tables.lookUpModifiable name = .ok table) :
    tables.find? name = some table ∧ isCatalog name = false ∧
      isTemporaryCatalog name = false := by
  simp only [lookUpModifiable, lookUp] at found
  cases looked : tables.find? name with
  | none =>
      rw [looked] at found
      split at found <;> cases found
  | some other =>
      rw [looked] at found
      cases kept : isCatalog name || isTemporaryCatalog name with
      | true =>
          rw [kept] at found
          split at found <;> cases found
      | false =>
          rw [kept] at found
          split at found
          · cases found
          · cases found
            exact ⟨rfl, Bool.or_eq_false_iff.mp kept⟩

theorem rowsIn_replace (found : tables.lookUpModifiable name = .ok table)
    (rows : List (List Cell)) (changes : Nat) :
    (tables.replace { table with rows } changes).rowsIn name = rows.length ∧
      tables.rowsIn name = table.rows.length := by
  rcases find?_of_lookUpModifiable found with ⟨looked, notCatalog, notTemporary⟩
  constructor
  · have behind : tables.tables.find? (sameName name ·.name) = some table := by
      simpa [find?, notCatalog, notTemporary] using looked
    have replaced := find?_map_replacement tables.tables rows behind
    simp only [rowsIn, find?, notCatalog, notTemporary, Bool.false_eq_true, if_false, replace,
      replaced]
    rfl
  · rw [rowsIn, looked]
    rfl

theorem insert_eq_ok {operands : List (List Operand)} {next : Tables}
    (inserted : tables.insert name operands = .ok next) :
    ∃ table stored, tables.lookUpModifiable name = .ok table ∧
      next = tables.replace { table with rows := table.rows ++ stored } stored.length := by
  rw [insert] at inserted
  cases found : tables.lookUpModifiable name with
  | error failure =>
      rw [found] at inserted
      cases inserted
  | ok table =>
      rw [found] at inserted
      cases values : valuesOf operands with
      | error failure =>
          rw [values] at inserted
          cases inserted
      | ok cells =>
          rw [values] at inserted
          dsimp only [bind, Except.bind] at inserted
          split at inserted
          · cases inserted
          · split at inserted
            · cases inserted
            · cases inserted
              exact ⟨table, _, rfl, rfl⟩

theorem eq_ok_of_map {α β : Type} {transform : α → β} {result : Except Failure α} {value : β}
    (mapped : result.map transform = .ok value) :
    ∃ inner, result = .ok inner ∧ transform inner = value := by
  cases result with
  | error failure => cases mapped
  | ok inner =>
      cases mapped
      exact ⟨inner, rfl, rfl⟩

@[simp] theorem changes_replace (tables : Tables) (table : Table) (changes : Nat) :
    (tables.replace table changes).changes = changes := rfl

theorem changes_of_select {columns : List (List Char × ColumnType)} {rows : List (List Cell)}
    {items : List Item} {steps : List Step} (selected : select columns rows items = .ok steps) :
    (steps.map Step.changes).sum = 0 := by
  rw [select] at selected
  cases chosen : items.mapM (selectItem columns) with
  | error failure =>
      rw [chosen] at selected
      cases selected
  | ok selections =>
      rw [chosen] at selected
      cases selected
      induction rows with
      | nil => rfl
      | cons row rest induction => exact (Nat.zero_add _).trans induction

/-- Only rows are told before a statement is completed, and only insertions and deletions
set the counter, to the number of rows that they change. -/
theorem run_changes {statement : Statement} {steps : List Step} {next : Tables}
    (done : tables.run statement = .ok (steps, next)) :
    next.changes = (tables.difference next statement).getD tables.changes ∧
      (steps.map Step.changes).sum = 0 := by
  cases statement with
  | create definition =>
      rw [run] at done
      split at done
      · cases done
        exact ⟨rfl, rfl⟩
      · cases done
  | insert name operands =>
      rw [run] at done
      rcases eq_ok_of_map done with ⟨behind, inserted, equal⟩
      cases equal
      rcases insert_eq_ok inserted with ⟨table, stored, found, rfl⟩
      rcases rowsIn_replace found (table.rows ++ stored) stored.length with ⟨after, before⟩
      constructor
      · rw [difference, Statement.target?, Option.map_some, after, before, List.length_append,
          Option.getD_some, changes_replace]
        omega
      · rfl
  | delete name =>
      rw [run] at done
      cases found : tables.lookUpModifiable name with
      | error failure =>
          rw [found] at done
          cases done
      | ok table =>
          rw [found] at done
          cases done
          rcases rowsIn_replace found [] table.rows.length with ⟨after, before⟩
          constructor
          · rw [difference, Statement.target?, Option.map_some, after, before, List.length_nil,
              Option.getD_some, changes_replace]
            omega
          · rfl
  | select items name =>
      cases name with
      | none =>
          rw [run] at done
          split at done
          · cases done
          · rcases eq_ok_of_map done with ⟨rows, selected, equal⟩
            cases equal
            exact ⟨rfl, changes_of_select selected⟩
      | some name =>
          rw [run] at done
          cases found : tables.lookUp name with
          | error failure =>
              rw [found] at done
              cases done
          | ok table =>
              rw [found] at done
              rcases eq_ok_of_map done with ⟨rows, selected, equal⟩
              cases equal
              exact ⟨rfl, changes_of_select selected⟩

theorem executeOne_eq_ok {tokens : List Token} {done : List Step × Tables}
    (executed : tables.executeOne tokens = .ok done) :
    ∃ statement, tables.understand tokens = .ok statement ∧ tables.run statement = .ok done := by
  rw [executeOne] at executed
  cases understood : tables.understand tokens with
  | error failure =>
      rw [understood] at executed
      cases executed
  | ok statement =>
      rw [understood] at executed
      cases ran : tables.run statement with
      | error failure =>
          simp only [bind, Except.bind, ran] at executed
          cases executed
      | ok other =>
          simp only [bind, Except.bind, ran] at executed
          cases numbers : checkNumbers tokens with
          | error failure =>
              rw [numbers] at executed
              cases executed
          | ok checked =>
              rw [numbers] at executed
              cases executed
              exact ⟨statement, rfl, ran⟩

end Tables

/-! ## Several statements

What statements have changed is a list of numbers, one for each that is completed; there is
none for a statement that changes no rows by its kind. -/

/-- The rows that have been changed in truth. -/
def total (changes : List (Option Nat)) : Nat :=
  (changes.map fun change => change.getD 0).sum

def latest (last : Nat) (changes : List (Option Nat)) : Nat :=
  changes.foldl (fun last change => change.getD last) last

/-- The rows that are counted once more, by statements that have changed none. -/
def stale (last : Nat) : List (Option Nat) → Nat
  | [] => 0
  | some change :: rest => stale change rest
  | none :: rest => last + stale last rest

/-- A deletion of two rows that is followed by two queries. -/
example : (total [some 2, none, none], stale 5 [some 2, none, none]) = (2, 4) := rfl

theorem latest_append (last : Nat) (first second : List (Option Nat)) :
    latest last (first ++ second) = latest (latest last first) second :=
  List.foldl_append

theorem total_add_stale_cons (last : Nat) (change : Option Nat) (rest : List (Option Nat)) :
    total (change :: rest) + stale last (change :: rest) =
      change.getD last + (total rest + stale (change.getD last) rest) := by
  cases change with
  | none =>
      simp only [total, stale, List.map_cons, List.sum_cons, Option.getD_none]
      omega
  | some changed =>
      simp only [total, stale, List.map_cons, List.sum_cons, Option.getD_some]
      omega

/-- Nothing is counted twice exactly if no statement without a number comes behind a number
of rows that is not zero. -/
theorem stale_eq_zero_iff (last : Nat) (changes : List (Option Nat)) :
    stale last changes = 0 ↔
      ∀ front back, changes = front ++ none :: back → latest last front = 0 := by
  induction changes generalizing last with
  | nil => simp [stale]
  | cons change rest induction =>
      constructor
      · intro nothing front back split
        cases front with
        | nil =>
            cases split
            exact (Nat.add_eq_zero_iff.mp nothing).1
        | cons head front =>
            rcases List.cons.inj split with ⟨rfl, behind⟩
            cases change with
            | none =>
                have restNothing := (Nat.add_eq_zero_iff.mp nothing).2
                exact (induction last).mp restNothing front back behind
            | some changed => exact (induction changed).mp nothing front back behind
      · intro idle
        have onward : stale (change.getD last) rest = 0 := by
          apply (induction _).mpr
          intro front back split
          exact idle (change :: front) back (congrArg _ split)
        cases change with
        | none =>
            have first : last = 0 := idle [] rest rfl
            rw [stale, first, Nat.zero_add]
            exact first ▸ onward
        | some changed => exact onward

namespace Tables

def changesOf (tables : Tables) : List (List Token) → List (Option Nat)
  | [] => []
  | tokens :: rest =>
    match tables.understand tokens, tables.executeOne tokens with
    | .ok statement, .ok (_, next) => tables.difference next statement :: next.changesOf rest
    | _, _ => []

theorem executeAll_changes (tables : Tables) (statements : List (List Token)) :
    (tables.executeAll statements).1.changes =
        .ofNat (total (tables.changesOf statements) +
          stale tables.changes (tables.changesOf statements)) ∧
      (tables.executeAll statements).2.changes =
        latest tables.changes (tables.changesOf statements) := by
  induction statements generalizing tables with
  | nil => exact ⟨rfl, rfl⟩
  | cons tokens rest induction =>
      cases executed : tables.executeOne tokens with
      | error failure =>
          have nothing : tables.changesOf (tokens :: rest) = [] := by
            rw [changesOf, executed]
            cases tables.understand tokens <;> rfl
          rw [nothing, executeAll, executed]
          exact ⟨rfl, rfl⟩
      | ok done =>
          rcases done with ⟨steps, next⟩
          rcases executeOne_eq_ok executed with ⟨statement, understood, ran⟩
          rcases run_changes ran with ⟨counter, rows⟩
          rcases induction next with ⟨counted, final⟩
          have first : tables.changesOf (tokens :: rest) =
              tables.difference next statement :: next.changesOf rest := by
            rw [changesOf, understood, executed]
          rw [first, total_add_stale_cons, latest, List.foldl_cons, ← counter,
            UInt64.ofNat_add, ← counted, Reply.changes_eq, Reply.changes_eq, executeAll,
            executed]
          dsimp only
          rw [List.map_append, List.sum_append, rows, List.map_cons, List.sum_cons,
            Nat.zero_add, UInt64.ofNat_add, Step.changes, UInt64.ofNat_toNat]
          exact ⟨rfl, final⟩

theorem length_changesOf {tables : Tables} {statements : List (List Token)}
    (succeeded : (tables.executeAll statements).1.failure = none) :
    (tables.changesOf statements).length = statements.length := by
  induction statements generalizing tables with
  | nil => rfl
  | cons tokens rest induction =>
      rw [executeAll] at succeeded
      cases executed : tables.executeOne tokens with
      | error failure =>
          rw [executed] at succeeded
          cases succeeded
      | ok done =>
          rcases done with ⟨steps, next⟩
          rcases executeOne_eq_ok executed with ⟨statement, understood, -⟩
          rw [executed] at succeeded
          have behind := induction succeeded
          rw [changesOf, understood, executed, List.length_cons, List.length_cons]
          exact congrArg (· + 1) behind

end Tables

end Memory

end Batchwise
