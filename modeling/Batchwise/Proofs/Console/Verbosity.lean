import Batchwise.Console.Command
import Batchwise.Memory.Opening
import Batchwise.Proofs.Console.Alignment

namespace Batchwise

/-! What the level of a console changes. The run itself is the same at every level, and each
level tells all that the levels below it tell, in the same order; the lowest one tells
nothing. One thing breaks this: a result set that has no table. The levels that tell result
sets end with it, and the others do not see it. -/

namespace Verbosity

variable {least lower higher : Verbosity}

theorem tellFrom_sublist (le : lower.level ≤ higher.level) (printed : List Printed) :
    (least.tellFrom lower printed).Sublist (least.tellFrom higher printed) := by
  unfold tellFrom
  by_cases told : least.level ≤ lower.level
  · simp [told, Nat.le_trans told le]
  · rw [if_neg told]
    exact List.nil_sublist _

end Verbosity

/-! ## Events -/

theorem ResultSet.print_eq_none_iff (result : ResultSet) (format : Format) (colours : Bool) :
    result.print format colours = none ↔ format = .table ∧ ¬ AreNarrow result.widths := by
  cases format with
  | table => exact (result.printTable_eq_none_iff colours).trans (and_iff_right rfl).symm
  | json => simp [print]

def Event.IsUnprintable (format : Format) : Event → Prop
  | result _ _ rows => format = .table ∧ ¬ ResultSet.AreNarrow rows.widths
  | started .. | message .. | ended .. => False

instance (format : Format) : DecidablePred (Event.IsUnprintable format)
  | .result _ _ rows =>
    inferInstanceAs (Decidable (format = .table ∧ ¬ ResultSet.AreNarrow rows.widths))
  | .started .. | .message .. | .ended .. => isFalse id

/-- The first report ends as the second one does and tells some of what it tells. -/
structure Report.Filters (fewer more : Report) : Prop where
  exitCode : fewer.exitCode = more.exitCode
  printed : fewer.printed.Sublist more.printed

theorem Report.Filters.behind {fewer more : Report} (filters : fewer.Filters more)
    {front whole : List Printed} (sublist : front.Sublist whole) :
    (fewer.behind front).Filters (more.behind whole) where
  exitCode := filters.exitCode
  printed := sublist.append filters.printed

namespace Console

def withVerbosity (console : Console) (verbosity : Verbosity) : Console :=
  { console with verbosity }

variable (console : Console)

section Levels

variable {lower higher : Verbosity} (le : lower.level ≤ higher.level)

include le

theorem printMessage_sublist (kind : MessageKind) (text : String) :
    ((console.withVerbosity lower).printMessage kind text).Sublist
      ((console.withVerbosity higher).printMessage kind text) := by
  cases kind with
  | error | warning | info => exact Verbosity.tellFrom_sublist le _

theorem printStart_sublist (execution : Execution) (sql : List Char) :
    ((console.withVerbosity lower).printStart execution sql).Sublist
      ((console.withVerbosity higher).printStart execution sql) :=
  (Verbosity.tellFrom_sublist le _).append (Verbosity.tellFrom_sublist le _)

theorem printResult_sublist {result : ResultSet} {printed : List Printed}
    (isPrinted : result.print console.format console.colours = some printed) :
    ∃ fewer more, (console.withVerbosity lower).printResult result = some fewer ∧
      (console.withVerbosity higher).printResult result = some more ∧ fewer.Sublist more := by
  have told (verbosity : Verbosity) :
      (console.withVerbosity verbosity).printResult result =
        some (Verbosity.normal.tellFrom verbosity printed) := by
    unfold printResult Verbosity.tellFrom
    by_cases high : Verbosity.normal.level ≤ verbosity.level
    · rw [if_pos high]
      exact (if_pos high).trans isPrinted
    · rw [if_neg high]
      exact if_neg high
  exact ⟨_, _, told lower, told higher, Verbosity.tellFrom_sublist le printed⟩

theorem printEvent_sublist {event : Event}
    (printable : ¬ event.IsUnprintable console.format) :
    ∃ fewer more, (console.withVerbosity lower).printEvent event = some fewer ∧
      (console.withVerbosity higher).printEvent event = some more ∧ fewer.Sublist more := by
  cases event with
  | started execution sql => exact ⟨_, _, rfl, rfl, console.printStart_sublist le _ _⟩
  | message kind text => exact ⟨_, _, rfl, rfl, console.printMessage_sublist le _ _⟩
  | ended execution error => exact ⟨_, _, rfl, rfl, Verbosity.tellFrom_sublist le _⟩
  | result execution number rows =>
      have isSome := Option.ne_none_iff_exists'.mp
        (mt (rows.print_eq_none_iff console.format console.colours).mp printable)
      rcases isSome with ⟨printed, isPrinted⟩
      exact console.printResult_sublist le isPrinted

theorem reportEvents_filters {events : List Event} {fewer more : Report}
    (printable : ∀ event ∈ events, ¬ event.IsUnprintable console.format)
    (last : fewer.Filters more) :
    ((console.withVerbosity lower).reportEvents events fewer).Filters
      ((console.withVerbosity higher).reportEvents events more) := by
  induction events with
  | nil => exact last
  | cons event rest induction =>
      rcases List.forall_mem_cons.mp printable with ⟨own, others⟩
      rcases console.printEvent_sublist le own with ⟨part, whole, toldPart, told, sublist⟩
      rw [reportEvents, toldPart, reportEvents, told]
      exact (induction others).behind sublist

theorem reportOutcome_filters {outcome : Outcome}
    (printable : ∀ event ∈ outcome.events, ¬ event.IsUnprintable console.format) :
    ((console.withVerbosity lower).reportOutcome outcome).Filters
      ((console.withVerbosity higher).reportOutcome outcome) :=
  console.reportEvents_filters le printable ⟨rfl, Verbosity.tellFrom_sublist le _⟩

end Levels

theorem printEvent_silent (event : Event) :
    (console.withVerbosity .silent).printEvent event = some [] := by
  cases event with
  | message kind text => cases kind <;> rfl
  | started | result | ended => rfl

theorem reportEvents_silent (events : List Event) (last : Report) :
    (console.withVerbosity .silent).reportEvents events last = last := by
  induction events with
  | nil => rfl
  | cons event rest induction =>
      rw [reportEvents, printEvent_silent]
      exact induction

theorem reportOutcome_silent (outcome : Outcome) :
    (console.withVerbosity .silent).reportOutcome outcome = ⟨[], outcome.code.exitCode⟩ :=
  console.reportEvents_silent outcome.events _

theorem exitCode_reportEvents_of_unprintable
    (high : Verbosity.normal.level ≤ console.verbosity.level) {events : List Event}
    {event : Event} (member : event ∈ events) (unprintable : event.IsUnprintable console.format)
    (last : Report) : (console.reportEvents events last).exitCode = 101 := by
  induction events with
  | nil => cases member
  | cons first rest induction =>
      rw [reportEvents]
      cases told : console.printEvent first with
      | none => rfl
      | some printed =>
          rcases List.mem_cons.mp member with rfl | behind
          · cases event with
            | result execution number rows =>
                have failed := (rows.print_eq_none_iff console.format console.colours).mpr
                  unprintable
                rw [printEvent, printResult, if_pos high, failed] at told
                cases told
            | started | message | ended => cases unprintable
          · exact induction behind

end Console

/-! ## Runs -/

section Run

variable {σ : Type} (console : Console) (databases : Databases σ) (files : Files)
  (options : Options) {source : Source} (address : List Char)

/-- Once the database is open, the script can be read. A database that cannot be opened asks
for nothing. -/
def Source.IsReadable (source : Source) (databases : Databases σ) (files : Files)
    (address : List Char) : Prop :=
  ∀ opened state, databases.connect files address = .ok (opened, state) →
    ∃ script, source.read opened = .ok script

/-- The script is run, and a result set comes out of it that cannot be printed. -/
def Source.BreaksOff (source : Source) (databases : Databases σ) (files : Files)
    (options : Options) (address : List Char) (format : Format) : Prop :=
  ∃ opened state script, databases.connect files address = .ok (opened, state) ∧
    source.read opened = .ok script ∧
    ∃ event ∈ (databases.runScript state .never options script).1.events,
      event.IsUnprintable format

namespace Console

theorem run_of_read {opened : Files} {state : σ} {script : List Char}
    (connected : databases.connect files address = .ok (opened, state))
    (read : source.read opened = .ok script) :
    console.run databases files options source address =
      (console.reportOutcome (databases.runScript state .never options script).1).behind
        (Verbosity.verbose.tellFrom console.verbosity
          [.line (console.paint .faint "Connecting to:" ++ ' ' :: address)]) := by
  rw [run, connected]
  dsimp only
  rw [read]

theorem run_filters {lower higher : Verbosity} (le : lower.level ≤ higher.level)
    (readable : source.IsReadable databases files address)
    (printable : ¬ source.BreaksOff databases files options address console.format) :
    ((console.withVerbosity lower).run databases files options source address).Filters
      ((console.withVerbosity higher).run databases files options source address) := by
  cases connected : databases.connect files address with
  | error detail =>
      rw [run, run, connected]
      exact ⟨rfl, (Verbosity.tellFrom_sublist le _).append (Verbosity.tellFrom_sublist le _)⟩
  | ok opened =>
      rcases readable opened.1 opened.2 connected with ⟨script, read⟩
      rw [run_of_read _ databases files options address connected read,
        run_of_read _ databases files options address connected read]
      refine (console.reportOutcome_filters le ?_).behind (Verbosity.tellFrom_sublist le _)
      intro event member unprintable
      exact printable ⟨opened.1, opened.2, script, connected, read, event, member, unprintable⟩

theorem run_silent (readable : source.IsReadable databases files address) :
    ∃ code : Code, (console.withVerbosity .silent).run databases files options source address =
      ⟨[], code.exitCode⟩ := by
  cases connected : databases.connect files address with
  | error detail =>
      refine ⟨.connectionFailed, ?_⟩
      rw [run, connected]
      rfl
  | ok opened =>
      rcases readable opened.1 opened.2 connected with ⟨script, read⟩
      rw [run_of_read _ databases files options address connected read, reportOutcome_silent]
      exact ⟨_, rfl⟩

theorem exitCode_run_of_breaksOff
    (breaksOff : source.BreaksOff databases files options address console.format)
    {verbosity : Verbosity} (high : Verbosity.normal.level ≤ verbosity.level) :
    ((console.withVerbosity verbosity).run databases files options source address).exitCode =
      101 := by
  rcases breaksOff with ⟨opened, state, script, connected, read, event, member, unprintable⟩
  rw [run_of_read _ databases files options address connected read]
  exact (console.withVerbosity verbosity).exitCode_reportEvents_of_unprintable high member
    unprintable _

end Console

end Run

/-! ## Invocations -/

theorem Code.exitCode_ne (code : Code) : code.exitCode ≠ 101 := by
  cases code <;> decide

/-- Reports at all levels that differ in nothing but in how much they tell. -/
structure OnlyFilters (report : Verbosity → Report) : Prop where
  exitCode : ∀ first second, (report first).exitCode = (report second).exitCode
  lines : ∀ lower higher stream, lower.level ≤ higher.level →
    (Printed.lines stream (report lower).printed).Sublist
      (Printed.lines stream (report higher).printed)

namespace Invocation

variable {σ : Type} {invocation : Invocation} {databases : Databases σ}
  {surroundings : Surroundings} {options : Options} {files : Files} {source : Source}
  {address : List Char}

def withVerbosity (invocation : Invocation) (verbosity : Verbosity) : Invocation :=
  { invocation with verbosity }

/-- The invocation is valid: it is to run this script against the database at this address. -/
structure Executes (invocation : Invocation) (surroundings : Surroundings)
    (options : Options) (files : Files) (source : Source) (address : List Char) : Prop where
  notExplained : invocation.explain = false
  given : invocation.source = some source
  prepared : ∃ settings, invocation.prepare surroundings = .ok (settings, options, files) ∧
    invocation.address? surroundings settings = some address

theorem Executes.perform_eq
    (executes : invocation.Executes surroundings options files source address)
    (databases : Databases σ) (verbosity : Verbosity) :
    (invocation.withVerbosity verbosity).perform databases surroundings =
      ((invocation.console surroundings).withVerbosity verbosity).run databases files
        options source address := by
  rcases executes.prepared with ⟨settings, prepared, known⟩
  have prepared' : (invocation.withVerbosity verbosity).prepare surroundings =
      .ok (settings, options, files) := prepared
  have given' : (invocation.withVerbosity verbosity).source = some source := executes.given
  have known' : (invocation.withVerbosity verbosity).address? surroundings settings =
      some address := known
  have notExplained' : (invocation.withVerbosity verbosity).explain = false :=
    executes.notExplained
  rw [perform, report, prepared']
  simp only [bind, Except.bind, notExplained', given', known', Bool.false_eq_true, if_false]
  rfl

section Executes

variable (executes : invocation.Executes surroundings options files source address)
  (readable : source.IsReadable databases files address)

include executes readable

theorem Executes.silent :
    ∃ code : Code, (invocation.withVerbosity .silent).perform databases surroundings =
      ⟨[], code.exitCode⟩ := by
  rw [executes.perform_eq databases]
  exact Console.run_silent _ databases files options address readable

theorem Executes.onlyFilters
    (printable : ¬ source.BreaksOff databases files options address invocation.format) :
    OnlyFilters fun verbosity =>
      (invocation.withVerbosity verbosity).perform databases surroundings := by
  have filters {lower higher : Verbosity} (le : lower.level ≤ higher.level) :
      ((invocation.withVerbosity lower).perform databases surroundings).Filters
        ((invocation.withVerbosity higher).perform databases surroundings) := by
    rw [executes.perform_eq databases, executes.perform_eq databases]
    exact Console.run_filters _ databases files options address le readable printable
  have least (verbosity : Verbosity) : Verbosity.silent.level ≤ verbosity.level :=
    Nat.zero_le _
  constructor
  · intro first second
    exact (filters (least first)).exitCode.symm.trans (filters (least second)).exitCode
  · intro lower higher stream le
    exact Printed.lines_sublist stream (filters le).printed

theorem Executes.not_onlyFilters
    (breaksOff : source.BreaksOff databases files options address invocation.format) :
    ¬ OnlyFilters fun verbosity =>
      (invocation.withVerbosity verbosity).perform databases surroundings := by
  intro onlyFilters
  rcases executes.silent readable with ⟨code, silent⟩
  have same := onlyFilters.exitCode .silent .normal
  rw [silent, executes.perform_eq databases,
    Console.exitCode_run_of_breaksOff _ databases files options address breaksOff
      (Nat.le_refl _)] at same
  exact code.exitCode_ne same

end Executes

end Invocation

/-- A valid run against a database, whether it succeeds, fails, has a malformed script or
finds no database at all, ends with the same exit code at every level, and the lines that it
writes to either stream at one level are some of those at any higher level, in the same
order, exactly if no result set comes out of it that cannot be printed. If one does, the run
breaks off from the level on that tells result sets. At the lowest level nothing is written in
either case. -/
theorem verbosity_only_filters {σ : Type} (databases : Databases σ)
    (surroundings : Surroundings) (invocation : Invocation) {options : Options}
    {files : Files} {source : Source} {address : List Char}
    (executes : invocation.Executes surroundings options files source address)
    (readable : source.IsReadable databases files address) :
    let report (verbosity : Verbosity) :=
      (invocation.withVerbosity verbosity).perform databases surroundings
    (OnlyFilters report ↔
        ¬ source.BreaksOff databases files options address invocation.format) ∧
      (source.BreaksOff databases files options address invocation.format →
        ∀ verbosity, Verbosity.normal.level ≤ verbosity.level →
          (report verbosity).exitCode = 101) ∧
      ∀ stream, Printed.toText stream (report .silent).printed = [] := by
  intro report
  refine ⟨⟨?_, executes.onlyFilters readable⟩, ?_, ?_⟩
  · intro onlyFilters breaksOff
    exact executes.not_onlyFilters readable breaksOff onlyFilters
  · intro breaksOff verbosity high
    simp only [report, executes.perform_eq databases]
    exact Console.exitCode_run_of_breaksOff _ databases files options address breaksOff high
  · intro stream
    rcases executes.silent readable with ⟨code, silent⟩
    simp only [report, silent]
    rfl

/-- Between a result set and a separator with a bad count, one batch fails and another is
skipped. -/
theorem verbosity_only_filters_of_malformed_script :
    let script := "SELECT 1 AS a\nGO\nSELEC $(n)\nGO\nX\nGO 0\nY\nGO x".toList
    let invocation : Invocation := {
      explain := false, source := some (.text script)
      mode := none, definitions := ["n=1".toList], databaseUrl := some "sqlite::memory:".toList
      settingsFile := none, dryRun := false, format := .table, verbosity := .normal
      logFilter := none, logFile := none }
    let surroundings : Surroundings := {
      files := ⟨[]⟩, configDirectory := "/home".toList, databaseUrl := none, colours := true }
    let options := Settings.options {} none (.ofList [("n".toList, "1".toList)])
    let report (verbosity : Verbosity) :=
      (invocation.withVerbosity verbosity).perform Memory.databases surroundings
    invocation.Executes surroundings options ⟨[]⟩ (.text script) "sqlite::memory:".toList ∧
      (Source.text script).IsReadable Memory.databases ⟨[]⟩ "sqlite::memory:".toList ∧
      (report .silent).exitCode = 5 ∧ (report .veryVerbose).exitCode = 5 ∧
      (∀ stream, (Printed.lines stream (report .quiet).printed).Sublist
        (Printed.lines stream (report .normal).printed)) ∧
      ∀ stream, Printed.toText stream (report .silent).printed = [] := by
  intro script invocation surroundings options report
  have executes : invocation.Executes surroundings options ⟨[]⟩ (.text script)
      "sqlite::memory:".toList := ⟨rfl, rfl, {}, rfl, rfl⟩
  have readable : (Source.text script).IsReadable Memory.databases ⟨[]⟩
      "sqlite::memory:".toList := fun _ _ _ => ⟨_, rfl⟩
  rcases verbosity_only_filters Memory.databases surroundings invocation executes readable with
    ⟨filters, -, silent⟩
  have opens : Memory.databases.connect ⟨[]⟩ "sqlite::memory:".toList =
      .ok (⟨[]⟩, .empty .full) := rfl
  have events : ∀ event ∈
      (Memory.databases.runScript (.empty .full) .never options script).1.events,
      ¬ event.IsUnprintable .table := by decide +kernel
  have printable : ¬ (Source.text script).BreaksOff Memory.databases ⟨[]⟩ options
      "sqlite::memory:".toList .table := by
    rintro ⟨opened, state, read, connected, isRead, event, member, unprintable⟩
    rw [opens] at connected
    cases connected
    cases isRead
    exact events event member unprintable
  have onlyFilters := filters.mpr printable
  have code : (report .silent).exitCode = 5 := by decide +kernel
  exact ⟨executes, readable, code, (onlyFilters.exitCode _ _).trans code,
    fun stream => onlyFilters.lines _ _ stream (by decide), silent⟩

def Databases.ofLongCell (length : Nat) : Databases Unit where
  execute _ _ := (⟨[.row [⟨['c'], "TEXT"⟩] [.text (List.replicate length 'x')]], none⟩, ())
  connect files _ := .ok (files, ())
  acquire := .ok

theorem runScript_ofLongCell (length : Nat) :
    ((Databases.ofLongCell length).runScript () .never {} ['x']).1 =
      ⟨.success, 1, 0, none, [.started ⟨1, 1, 1⟩ ['x'],
        .result ⟨1, 1, 1⟩ 1 (ResultSet.ofLongCell length), .ended ⟨1, 1, 1⟩ none]⟩ := by
  have deliveries : (parseScript ['x'] {}).deliveries =
      [⟨⟨[⟨⟨.text, ['x'], .start, .endOfScript⟩, ['x']⟩], .start, 1⟩, true⟩] := by
    decide +kernel
  have readable : (parseScript ['x'] {}).fault = none := by decide +kernel
  have run : ((Databases.ofLongCell length).runScript () .never {} ['x']).1 =
      (runScript (Databases.ofLongCell length).toDatabase () .never {} ['x']).1 := rfl
  rw [run, runScript, deliveries, readable]
  rfl

/-- A cell with one character more than the greatest width ends the run at all levels that
tell result sets. -/
theorem not_onlyFilters_of_long_cell :
    let invocation : Invocation := {
      explain := false, source := some (.text ['x']), mode := none, definitions := []
      databaseUrl := some ['d'], settingsFile := none, dryRun := false, format := .table
      verbosity := .normal, logFilter := none, logFile := none }
    let surroundings : Surroundings := {
      files := ⟨[]⟩, configDirectory := [], databaseUrl := none, colours := false }
    let databases := Databases.ofLongCell 65536
    let report (verbosity : Verbosity) :=
      (invocation.withVerbosity verbosity).perform databases surroundings
    invocation.Executes surroundings {} ⟨[]⟩ (.text ['x']) ['d'] ∧
      (Source.text ['x']).IsReadable databases ⟨[]⟩ ['d'] ∧
      (report .silent).exitCode = 0 ∧ (report .normal).exitCode = 101 ∧
      ¬ OnlyFilters report := by
  intro invocation surroundings databases report
  have executes : invocation.Executes surroundings {} ⟨[]⟩ (.text ['x']) ['d'] :=
    ⟨rfl, rfl, {}, rfl, rfl⟩
  have readable : (Source.text ['x']).IsReadable databases ⟨[]⟩ ['d'] :=
    fun _ _ _ => ⟨_, rfl⟩
  have ran := runScript_ofLongCell 65536
  have breaksOff : (Source.text ['x']).BreaksOff databases ⟨[]⟩ {} ['d'] .table := by
    refine ⟨⟨[]⟩, (), ['x'], rfl, rfl, .result ⟨1, 1, 1⟩ 1 (ResultSet.ofLongCell 65536), ?_,
      rfl, ResultSet.not_areNarrow_ofLongCell (by decide)⟩
    rw [ran]
    simp
  have silent : (report .silent).exitCode = 0 := by
    simp only [report, executes.perform_eq databases]
    rw [Console.run_of_read _ databases ⟨[]⟩ {} ['d'] rfl rfl, Console.reportOutcome_silent, ran]
    rfl
  have normal : (report .normal).exitCode = 101 := by
    simp only [report, executes.perform_eq databases]
    exact Console.exitCode_run_of_breaksOff _ databases ⟨[]⟩ {} ['d'] breaksOff (Nat.le_refl _)
  exact ⟨executes, readable, silent, normal, executes.not_onlyFilters readable breaksOff⟩

end Batchwise
