import Batchwise.Memory.Opening
import Batchwise.Proofs.Memory.Changes
import Batchwise.Proofs.Run.Journal

namespace Batchwise

/-! What a run tells of changed rows, against what its statements have changed. The journal
of a run over databases in memory is kept with an account of each task: what its statements
have changed in truth. -/

/-! ## The message -/

namespace Event

def info? : Event → Option String
  | message .info text => some text
  | _ => none

end Event

def infosOf (events : List Event) : List String :=
  events.filterMap Event.info?

def affectedText (changes : Nat) : String :=
  if changes = 1 then "(1 row affected)"
  else "(" ++ toString changes ++ " rows affected)"

theorem affectedMessage_eq (changes : UInt64) :
    affectedMessage changes = affectedText changes.toNat := by
  rw [affectedMessage, affectedText]
  simp only [← UInt64.toNat_inj]
  rfl

def affectedInfos (changes : Nat) : List String :=
  if 0 < changes then [affectedText changes] else []

theorem affectedText_one_ne {changes : Nat} (several : changes ≠ 1) :
    affectedText 1 ≠ affectedText changes := by
  intro same
  have digits : 0 < (Nat.toDigits 10 changes).length :=
    List.length_pos_iff.mpr Nat.toDigits_ne_nil
  have lengths : (affectedText 1).toList.length = (affectedText changes).toList.length := by
    rw [same]
  rw [affectedText, affectedText, if_pos rfl, if_neg several, String.toList_append,
    String.toList_append, List.length_append, List.length_append, Nat.toString_eq_repr,
    Nat.toList_repr] at lengths
  have short : "(1 row affected)".toList.length = 16 := by decide
  have front : "(".toList.length = 1 := by decide
  have back : " rows affected)".toList.length = 15 := by decide
  omega

theorem affectedText_inj {first second : Nat}
    (same : affectedText first = affectedText second) : first = second := by
  by_cases one : first = 1
  · by_contra different
    subst one
    exact affectedText_one_ne (Ne.symm different) same
  · by_cases oneToo : second = 1
    · subst oneToo
      exact absurd same.symm (affectedText_one_ne one)
    · rw [affectedText, affectedText, if_neg one, if_neg oneToo] at same
      have digits : Nat.toDigits 10 first = Nat.toDigits 10 second := by
        have written := congrArg String.toList same
        simpa [Nat.toString_eq_repr, Nat.toList_repr] using written
      calc
        first = Nat.ofDigitChars 10 (Nat.toDigits 10 first) 0 :=
          Nat.ofDigitChars_ten_toDigits.symm
        _ = Nat.ofDigitChars 10 (Nat.toDigits 10 second) 0 := by rw [digits]
        _ = second := Nat.ofDigitChars_ten_toDigits

theorem affectedInfos_inj {first second : Nat} :
    affectedInfos first = affectedInfos second ↔ first = second := by
  constructor
  · intro same
    rw [affectedInfos, affectedInfos] at same
    split at same
    · split at same
      · exact affectedText_inj (List.singleton_inj.mp same)
      · cases same
    · split at same
      · cases same
      · omega
  · exact congrArg affectedInfos

@[simp] theorem infosOf_append (first second : List Event) :
    infosOf (first ++ second) = infosOf first ++ infosOf second :=
  List.filterMap_append

theorem infosOf_report (execution : Execution) (sql : List Char) {reply : Reply}
    (succeeded : reply.failure = none) :
    infosOf (Run.report execution sql reply) = affectedInfos reply.changes.toNat := by
  have noResult : ∀ number results,
      infosOf (resultEvents execution number results) = [] := by
    intro number results
    induction results generalizing number with
    | nil => rfl
    | cons result rest induction => exact induction (number + 1)
  have tells := Run.tells_report execution sql reply
  generalize Run.report execution sql reply = events at tells
  cases tells with
  | unchanged _ nothing =>
      rw [infosOf_append, nothing]
      exact congrArg (· ++ []) (noResult 1 reply.resultSets)
  | changed _ something =>
      have positive : 0 < reply.changes.toNat := UInt64.lt_iff_toNat_lt.mp something
      rw [infosOf_append, affectedInfos, if_pos positive, ← affectedMessage_eq]
      exact congrArg (· ++ [affectedMessage reply.changes]) (noResult 1 reply.resultSets)
  | failed failure => cases succeeded.symm.trans failure

/-! ## The accounts of a run -/

open Memory

/-- A task that has been done, and what its completed statements have changed. -/
structure Account where
  entry : Entry
  changes : List (Option Nat)

def Entry.statements : Entry → List (List Token)
  | skipped .. => []
  | executed _ delivery _ => statementsOf (trim delivery.batch.text)

def Task.changes (tables : Tables) : Task → List (Option Nat)
  | skip .. => []
  | execute _ delivery => tables.changesOf (statementsOf (trim delivery.batch.text))

def accounts : Tables → List Task → List Account
  | _, [] => []
  | tables, task :: rest =>
    ⟨(task.perform databases.toDatabase tables).1, task.changes tables⟩ ::
      accounts (task.perform databases.toDatabase tables).2 rest

theorem entry_accounts (tables : Tables) (tasks : List Task) :
    (accounts tables tasks).map (·.entry) = journal databases.toDatabase tables tasks := by
  induction tasks generalizing tables with
  | nil => rfl
  | cons task rest induction => exact congrArg (_ :: ·) (induction _)

namespace Account

def succeeds (account : Account) : Bool :=
  match account.entry with
  | .executed _ _ reply => reply.failure.isNone
  | .skipped .. => false

/-- The message about changed rows comes exactly if there are any, and tells how many. -/
def TellsTruth (account : Account) : Prop :=
  infosOf account.entry.events = affectedInfos (total account.changes)

instance (account : Account) : Decidable account.TellsTruth :=
  inferInstanceAs (Decidable (_ = _))

end Account

def changesBefore (front : List Account) : List (Option Nat) :=
  front.flatMap (·.changes)

theorem Task.counter_perform (tables : Tables) (task : Task) :
    (task.perform databases.toDatabase tables).2.changes =
      latest tables.changes (task.changes tables) := by
  cases task with
  | skip => rfl
  | execute execution delivery => exact (tables.executeAll_changes _).2

/-- The account has a number for each statement, and the execution is told as what it has
changed and what is stale. -/
structure Account.Settles (account : Account) (last : Nat) : Prop where
  complete : account.changes.length = account.entry.statements.length
  told : infosOf account.entry.events =
    affectedInfos ((total account.changes + stale last account.changes) % 2 ^ 64)

theorem Task.settles {tables : Tables} {task : Task}
    (succeeded : (Account.mk (task.perform databases.toDatabase tables).1
      (task.changes tables)).succeeds = true) :
    (Account.mk (task.perform databases.toDatabase tables).1
      (task.changes tables)).Settles tables.changes := by
  cases task with
  | skip => cases succeeded
  | execute execution delivery =>
      have noFailure := Option.isNone_iff_eq_none.mp succeeded
      have counted := (tables.executeAll_changes (statementsOf (trim delivery.batch.text))).1
      have told := infosOf_report execution delivery.batch.text noFailure
      constructor
      · exact Tables.length_changesOf noFailure
      · rw [counted, UInt64.toNat_ofNat'] at told
        exact told

theorem settles_accounts {tables : Tables} {tasks : List Task} {front back : List Account}
    {account : Account} (split : accounts tables tasks = front ++ account :: back)
    (succeeded : account.succeeds = true) :
    account.Settles (latest tables.changes (changesBefore front)) := by
  induction tasks generalizing tables front with
  | nil => simp [accounts] at split
  | cons task rest induction =>
      cases front with
      | nil =>
          rcases List.cons.inj split with ⟨rfl, -⟩
          exact Task.settles succeeded
      | cons head front =>
          rcases List.cons.inj split with ⟨rfl, behind⟩
          have settles := induction behind
          rw [Task.counter_perform, ← latest_append] at settles
          exact settles

/-! ## A whole run -/

/-- The accounts of what a run has done: those of the tasks at the front of its journal.
Besides their events it has told of nothing but an error. -/
structure Audits (tables : Tables) (cancellation : Cancellation) (options : Options)
    (script : List Char) (done : List Account) : Prop where
  isPrefix : done <+: accounts tables (tasks 1 (parseScript script options).deliveries)
  told : ∃ ending,
    (runScript databases.toDatabase tables cancellation options script).1.events =
      eventsOf (done.map (·.entry)) ++ ending ∧
    ∀ event ∈ ending, ∃ text, event = .message .error text

theorem Run.Halts.errors_of_ending {cancellation : Cancellation} {fault : Option Fault}
    {done left : List Entry} {code : Code} {error : Option ScriptError} {ending : List Event}
    (halts : Run.Halts cancellation fault done left code error ending) :
    ∀ event ∈ ending, ∃ text, event = .message .error text := by
  intro event member
  cases halts with
  | failed | cancelled | finished => cases member
  | @unreadable found =>
      apply Exists.intro found.toError.message
      exact List.mem_singleton.mp member

theorem exists_audits (tables : Tables) (cancellation : Cancellation) (options : Options)
    (script : List Char) : ∃ done, Audits tables cancellation options script done := by
  rcases runScript_follows databases.toDatabase tables cancellation options script with
    ⟨entries, left, ending, follows⟩
  have split := follows.split
  rw [← entry_accounts] at split
  rcases List.map_eq_append_iff.mp split with ⟨done, behind, whole, rfl, -⟩
  apply Exists.intro done
  constructor
  · exact ⟨behind, whole.symm⟩
  · exact ⟨ending, follows.told, follows.halts.errors_of_ending⟩

/-- What a successful execution is told to have changed is what its insertions and
deletions have changed, and besides, for each of its other statements, what the last
insertion or deletion in front of it has changed, in whichever batch that was. The number
is told as a word has it. So if all numbers fit into a word, all messages of a run tell the
truth exactly if no statement of another kind is completed in a successful execution while
the last insertion or deletion has changed any rows. -/
theorem affected_messages_of_run (tables : Tables) (cancellation : Cancellation)
    (options : Options) (script : List Char) :
    (∃ done, Audits tables cancellation options script done) ∧
      ∀ done, Audits tables cancellation options script done →
        let before (front : List Account) : Nat := latest tables.changes (changesBefore front)
        let counted (front : List Account) (account : Account) : Nat :=
          total account.changes + stale (before front) account.changes
        (∀ front account back, done = front ++ account :: back → account.succeeds = true →
          account.changes.length = account.entry.statements.length ∧
            infosOf account.entry.events = affectedInfos (counted front account % 2 ^ 64)) ∧
        ((∀ front account back, done = front ++ account :: back → account.succeeds = true →
            counted front account < 2 ^ 64) →
          ((∀ account ∈ done, account.succeeds = true → account.TellsTruth) ↔
            ∀ front account back, done = front ++ account :: back → account.succeeds = true →
              ∀ earlier later, account.changes = earlier ++ none :: later →
                latest tables.changes (changesBefore front ++ earlier) = 0)) := by
  apply And.intro (exists_audits tables cancellation options script)
  intro done audits before counted
  have settles : ∀ front account back, done = front ++ account :: back →
      account.succeeds = true → account.Settles (before front) := by
    intro front account back split succeeded
    rcases audits.isPrefix with ⟨behind, whole⟩
    rw [split, List.append_assoc] at whole
    exact settles_accounts whole.symm succeeded
  constructor
  · intro front account back split succeeded
    have settled := settles front account back split succeeded
    exact ⟨settled.complete, settled.told⟩
  intro fits
  have truth : ∀ front account back, done = front ++ account :: back →
      account.succeeds = true →
      (account.TellsTruth ↔ ∀ earlier later, account.changes = earlier ++ none :: later →
        latest tables.changes (changesBefore front ++ earlier) = 0) := by
    intro front account back split succeeded
    have settled := settles front account back split succeeded
    rw [Account.TellsTruth, settled.told, affectedInfos_inj,
      Nat.mod_eq_of_lt (fits front account back split succeeded), Nat.add_eq_left,
      stale_eq_zero_iff]
    simp only [before, latest_append]
  constructor
  · intro allTrue front account back split succeeded
    apply (truth front account back split succeeded).mp
    apply allTrue account _ succeeded
    rw [split]
    exact List.mem_append_right _ List.mem_cons_self
  · intro allIdle account member succeeded
    rcases List.append_of_mem member with ⟨front, back, split⟩
    apply (truth front account back split succeeded).mpr
    exact allIdle front account back split succeeded

/-- A query behind an insertion is told to have changed a row. -/
theorem not_tellsTruth_of_query_behind_insertion :
    let script :=
      "CREATE TABLE t (a INTEGER)\nGO\nINSERT INTO t VALUES (1)\nGO\nSELECT a FROM t".toList
    let done := accounts (.empty .full) (tasks 1 (parseScript script {}).deliveries)
    Audits (.empty .full) .never {} script done ∧
      ¬ ∀ account ∈ done, account.succeeds = true → account.TellsTruth := by
  intro script done
  constructor
  · constructor
    · exact List.prefix_rfl
    · apply Exists.intro []
      constructor
      · decide +kernel
      · exact List.forall_mem_nil _
  · decide +kernel

end Batchwise
