import Batchwise.Console.Progress
import Batchwise.Options

namespace Batchwise

/-! The options of the command line and their names. -/

inductive Choice where
  | operand
  | query
  | file
  | mode
  | define
  | databaseUrl
  | settingsFile
  | dryRun
  | format
  | verbosity
  | logLevel
  | logFile
  | help
  | version
  deriving DecidableEq, Repr

namespace Choice

def longNames : List (String × Choice) :=
  [("query", query), ("file", file), ("mode", mode), ("var", define),
    ("database-url", databaseUrl), ("config", settingsFile), ("dry-run", dryRun),
    ("format", format), ("verbosity", verbosity), ("log-level", logLevel),
    ("log-file", logFile), ("help", help), ("version", version)]

def shortNames : List (Char × Choice) :=
  [('q', query), ('f', file), ('m', mode), ('v', define), ('h', help), ('V', version)]

def takesValue : Choice → Bool
  | dryRun | help | version => false
  | _ => true

/-- The choice can also be made behind the word `explain`. -/
def isShared : Choice → Bool
  | databaseUrl | dryRun | format | verbosity | version => false
  | _ => true

def accepts (choice : Choice) (value : List Char) : Bool :=
  match choice with
  | mode => (Mode.read value).toOption.isSome
  | format => (Format.ofName? value).isSome
  | verbosity => (Verbosity.ofName? value).isSome
  | file | settingsFile | logFile => !value.isEmpty
  | _ => true

end Choice

/-! An option is written `--name value`, `--name=value`, `-n value`, `-nvalue`
or `-n=value`. A value that stands apart from its option does not start with a
dash, unless it is nothing else. Behind the delimiter `--` no argument is an
option. -/

inductive Form where
  | word
  | delimiter
  | option (choice : Choice) (attached : Option (List Char))
  | unknown
  deriving DecidableEq, Repr

def Form.ofArgument : List Char → Form
  | ['-', '-'] => delimiter
  | '-' :: '-' :: written =>
    let name := written.takeWhile (· ≠ '=')
    let attached := (written.dropWhile (· ≠ '=')).tail?
    match Choice.longNames.lookup (String.ofList name) with
    | some choice =>
      if choice.takesValue || attached.isNone then option choice attached else unknown
    | none => unknown
  | '-' :: letter :: written =>
    match Choice.shortNames.lookup letter with
    | some choice =>
      match written with
      | [] => option choice none
      | '=' :: value => option choice (some value)
      | value => option choice (some value)
    | none => unknown
  | _ => word

def isValue (argument : List Char) : Bool :=
  Form.ofArgument argument = .word

inductive Item where
  | option (choice : Choice) (values : List (List Char))
  | word (text : List Char)
  | operand (text : List Char)
  | unreadable
  deriving DecidableEq, Repr

/-- The items of a command line. A variable takes a second value if there is
one, unless its first is attached. -/
def items : List (List Char) → List Item
  | [] => []
  | argument :: rest =>
    match Form.ofArgument argument with
    | .word => .word argument :: items rest
    | .delimiter => rest.map .operand
    | .unknown => [.unreadable]
    | .option choice attached =>
      if choice.takesValue then
        match attached, rest with
        | some value, rest => .option choice [value] :: items rest
        | none, [] => [.unreadable]
        | none, value :: rest =>
          if !isValue value then [.unreadable]
          else
            match rest with
            | [] => [.option choice [value]]
            | second :: behind =>
              if choice = .define && isValue second then
                .option choice [value, second] :: items behind
              else .option choice [value] :: items (second :: behind)
      else .option choice [] :: items rest

/-- What has been chosen on one side of the word `explain`. -/
structure Given where
  choices : List (Choice × List (List Char))
  deriving DecidableEq, Repr

namespace Given

def nothing : Given := ⟨[]⟩

def has (given : Given) (choice : Choice) : Bool :=
  given.choices.any (·.1 = choice)

def values (given : Given) (choice : Choice) : List (List Char) :=
  (given.choices.filter (·.1 = choice)).flatMap (·.2)

def add? (given : Given) (choice : Choice) (values : List (List Char)) : Option Given :=
  if values.all choice.accepts && (choice = .define || !given.has choice) then
    some ⟨given.choices ++ [(choice, values)]⟩
  else none

def isUnambiguous (given : Given) : Bool :=
  ([.operand, .query, .file].filter given.has).length ≤ 1

end Given

inductive Source where
  | file (path : List Char)
  | text (script : List Char)
  deriving DecidableEq, Repr

structure Invocation where
  explain : Bool
  source : Option Source
  mode : Option Mode
  definitions : List (List Char)
  databaseUrl : Option (List Char)
  settingsFile : Option (List Char)
  dryRun : Bool
  format : Format
  verbosity : Verbosity
  logFilter : Option (List Char)
  logFile : Option (List Char)
  deriving DecidableEq, Repr

def Given.source? (given : Given) : Option Source :=
  match (given.values .file).head? with
  | some path => some (.file path)
  | none => ((given.values .query).head?.or (given.values .operand).head?).map .text

/-- A choice that is made behind the word `explain` replaces the same choice in
front of it. -/
def Invocation.ofGiven (outer : Option Given) (given : Given) : Invocation :=
  let main := outer.getD given
  let shared (choice : Choice) : List (List Char) :=
    if given.has choice then given.values choice else main.values choice
  { explain := outer.isSome
    source := given.source?
    mode := (shared .mode).head?.bind fun name => (Mode.read name).toOption
    definitions := shared .define
    databaseUrl := (main.values .databaseUrl).head?
    settingsFile := (shared .settingsFile).head?
    dryRun := main.has .dryRun
    format := ((main.values .format).head?.bind Format.ofName?).getD .table
    verbosity := ((main.values .verbosity).head?.bind Verbosity.ofName?).getD .normal
    logFilter := (shared .logLevel).head?
    logFile := (shared .logFile).head? }

inductive Order where
  | perform (invocation : Invocation)
  | help
  | version
  | rejected
  deriving DecidableEq, Repr

namespace Order

def conclude (outer : Option Given) (given : Given) : Order :=
  if given.isUnambiguous && outer.all Given.isUnambiguous then
    perform (.ofGiven outer given)
  else rejected

/-- The word `help` may be followed by the name of one command. -/
def ofHelp : List Item → Order
  | [] => help
  | [.word command] =>
    if command = "explain".toList || command = "help".toList then help else rejected
  | _ => rejected

/-- Read items from left to right. The first that cannot be used decides, and
so does a request for help or for the version. Behind the word `explain`,
`outer` is what has been given in front of it. -/
def ofItems (outer : Option Given) (given : Given) : List Item → Order
  | [] => conclude outer given
  | .unreadable :: _ => rejected
  | .option choice values :: rest =>
    if outer.isSome && !choice.isShared then rejected
    else if choice = .help then help
    else if choice = .version then version
    else
      match given.add? choice values with
      | some given => ofItems outer given rest
      | none => rejected
  | .word text :: rest =>
    if outer.isNone && text = "explain".toList then ofItems (some given) .nothing rest
    else if outer.isNone && text = "help".toList then ofHelp rest
    else
      match given.add? .operand [text] with
      | some given => ofItems outer given rest
      | none => rejected
  | .operand text :: rest =>
    match given.add? .operand [text] with
    | some given => ofItems outer given rest
    | none => rejected

def ofArguments (arguments : List (List Char)) : Order :=
  ofItems none .nothing (items arguments)

end Order

end Batchwise
