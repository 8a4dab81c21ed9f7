import CodeAudit.CommandLine.Basic

/-!
Reading the arguments of the program. An option may have its value in the same argument or in the next one; single
letters may stand together behind one dash; behind two dashes alone nothing is an option. A value is looked at when
the argument behind it has been seen, so that an unknown argument there is noticed first.
-/
namespace CodeAudit.CommandLine

/-- What has been read of the arguments of one command: what was given, a value or the option that waits for one, and
whether two dashes have been seen. -/
structure State where
  file : Option String := none
  function : Option String := none
  format : Option OutputFormat := none
  settings : Option String := none
  strict : Bool := false
  verbose : Bool := false
  pending : Option (Argument × Option String) := none
  fileSeen : Bool := false
  dashesSeen : Bool := false

abbrev Step := Except Interruption State

/-- What may be asked of the program itself and of its commands. -/
inductive Level where
  | program
  | analyze
  | system
deriving DecidableEq

namespace Level

/-- What a level takes by name. -/
def arguments : Level → List Argument
  | program => [.verbose, .help, .version]
  | analyze => [.function, .format, .strict, .settings, .verbose, .help]
  | system => [.format, .verbose, .help]

def topic : Level → Topic
  | program => .program
  | analyze => .analyze
  | system => .system

def long? (l : Level) (name : String) : Option Argument :=
  l.arguments.find? (·.long? = some name)

def short? (l : Level) (c : Char) : Option Argument :=
  l.arguments.find? (·.short? = some c)

end Level

def wrong {α : Type} (e : UsageError) : Except Interruption α :=
  .error (.wrongUsage e)

def formatOf? (value : String) : Option OutputFormat :=
  if value = "text" then some .text else if value = "json" then some .json else none

/-- Gives an argument its value. None may be given twice, and paths must not be empty. -/
def give (s : State) (a : Argument) (value : String) : Step :=
  let twice (old : Bool) (s : Step) : Step := if old then wrong (.repeatedArgument a) else s
  let path (s : State) : Step := if value = "" then wrong (.missingValue a) else .ok s
  match a with
  | .file => path { s with file := some value }
  | .function => twice s.function.isSome (.ok { s with function := some value })
  | .settings => twice s.settings.isSome (path { s with settings := some value })
  | .format => twice s.format.isSome <|
    match formatOf? value with
    | some f => .ok { s with format := some f }
    | none => if value = "" then wrong (.missingValue a) else wrong (.invalidValue value a)
  | _ => .ok s

/-- Looks at what is pending. -/
def settle (s : State) : Step :=
  match s.pending with
  | none => .ok s
  | some (a, none) => wrong (.missingValue a)
  | some (a, some value) => give { s with pending := none } a value

/-- A flag. -/
def raise (l : Level) (s : State) (a : Argument) : Step :=
  (settle s).bind fun s =>
    match a with
    | .verbose => if s.verbose then wrong (.repeatedArgument a) else .ok { s with verbose := true }
    | .strict => if s.strict then wrong (.repeatedArgument a) else .ok { s with strict := true }
    | .help => .error (.explain l.topic)
    | .version => .error .showVersion
    | _ => .ok s

/-- An option, with its value if that is in the same argument. -/
def option (s : State) (a : Argument) (value : Option String) : Step :=
  (settle s).bind fun s =>
    match value with
    | some v => give s a v
    | none => .ok { s with pending := some (a, none) }

/-- An argument behind two dashes, split at its first equals sign. -/
def longArgument (l : Level) (s : State) (name : String) (value : Option String) : Step :=
  match l.long? name with
  | none => wrong (.unexpectedArgument ("--" ++ name))
  | some a =>
    if a.takesValue then option s a value
    else match value with
      | some v => wrong (.unexpectedValue v a)
      | none => raise l s a

/-- The value of an option in the letters behind it; an equals sign in front of it does not belong to it. -/
def attached : List Char → Option String
  | [] => none
  | '=' :: rest => some (.ofList rest)
  | cs => some (.ofList cs)

/-- The letters behind one dash. -/
def shortArguments (l : Level) (s : State) : List Char → Step
  | [] => .ok s
  | c :: rest =>
    match l.short? c with
    | none => wrong (.unexpectedArgument (.ofList ['-', c]))
    | some a =>
      if a.takesValue then option s a (attached rest)
      else (raise l s a).bind fun s => shortArguments l s rest

/-- What an argument looks like. -/
inductive Look where
  | dashes
  | long (name : String) (value : Option String)
  | short (letters : List Char)
  | plain

def look (arg : String) : Look :=
  match arg.toList with
  | ['-', '-'] => .dashes
  | '-' :: '-' :: cs =>
    let name := cs.takeWhile (· ≠ '=')
    match cs.dropWhile (· ≠ '=') with
    | _ :: value => .long (.ofList name) (some (.ofList value))
    | [] => .long (.ofList name) none
  | ['-'] => .plain
  | '-' :: cs => .short cs
  | _ => .plain

/-- Whether an option waits for its value. -/
def awaits (s : State) : Option Argument :=
  match s.pending with
  | some (a, none) => some a
  | _ => none

/-- An argument known by its place, of which there is only the file. -/
def placed (l : Level) (s : State) (arg : String) : Step :=
  if l = .analyze && !s.fileSeen then
    (settle s).map fun s => { s with pending := some (.file, some arg), fileSeen := true }
  else wrong (.unexpectedArgument arg)

/-- One argument of a command. -/
def step (l : Level) (s : State) (arg : String) : Step :=
  let plain : Step :=
    match awaits s with
    | some a => .ok { s with pending := some (a, some arg) }
    | none => placed l s arg
  if s.dashesSeen then placed l s arg
  else match look arg with
    | .dashes => .ok { s with dashesSeen := true }
    | .long name value => longArgument l s name value
    | .short letters => shortArguments l s letters
    | .plain => plain

/-- All arguments of a command. -/
def readAll (l : Level) (args : List String) : Step :=
  (args.foldlM (step l) {}).bind settle

def readAnalyze (args : List String) : Except Interruption Request :=
  (readAll .analyze args).bind fun s =>
    match s.file with
    | none => wrong .missingArguments
    | some file =>
      .ok (.analyze { file, function := s.function, format := s.format.getD .text, strict := s.strict
                      settings := s.settings })

def readSystem (args : List String) : Except Interruption Request :=
  (readAll .system args).map fun s => .system (s.format.getD .text)

/-- What the arguments behind `help` ask for. -/
def readHelp : List String → Interruption
  | [] => .explain .program
  | name :: rest =>
    let topic : Option Topic :=
      if name = "analyze" then some .analyze
      else if name = "system" then some .system
      else if name = "help" then some .help
      else none
    match topic, rest with
    | none, _ => .wrongUsage (.unrecognizedCommand name)
    | some t, [] => .explain t
    | some _, other :: _ => .wrongUsage (.unrecognizedCommand other)

def isCommand (name : String) : Bool :=
  name = "analyze" || name = "system" || name = "help"

/-- The arguments of the program: flags of its own, then a command with all that is behind it. -/
def readFrom (s : State) : List String → Except Interruption Request
  | [] => .error (if s.verbose then .wrongUsage .missingCommand else .nothingAsked)
  | arg :: rest =>
    if s.dashesSeen then
      wrong (if isCommand arg then .unexpectedArgument arg else .unrecognizedCommand arg)
    else if arg = "analyze" then readAnalyze rest
    else if arg = "system" then readSystem rest
    else if arg = "help" then .error (readHelp rest)
    else match look arg with
      | .dashes => readFrom { s with dashesSeen := true } rest
      | .long name value => (longArgument .program s name value).bind fun s => readFrom s rest
      | .short letters => (shortArguments .program s letters).bind fun s => readFrom s rest
      | .plain => wrong (.unrecognizedCommand arg)

/-- What the arguments of the program ask for. -/
def read (args : List String) : Except Interruption Request :=
  readFrom {} args

end CodeAudit.CommandLine
