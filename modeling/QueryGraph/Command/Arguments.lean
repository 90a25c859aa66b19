/-!
# `Command.Arguments` — the command line

Options may be written long or short; short ones may be joined, and a value may be attached to its
option or follow it. The first fault in the order of the arguments decides, and so does the first
request for the version or for help.

## Contents
- `Options`, `Request` — what the arguments ask for.
- `ArgumentError` — what can be wrong with them.
- `Draft` — the options seen so far.
- `parseArguments` — reading the arguments.
-/

namespace QueryGraph.Command

/-! ## Requests -/

/-- What a run is asked to do. -/
structure Options where
  /-- The file to read; `-` is standard input. -/
  input : String
  /-- The file to write instead of standard output. -/
  output : Option String
  /-- The name of the output format. -/
  format : String
  /-- Write on one line. -/
  compact : Bool
  /-- Further annotation predicates. -/
  annotationPredicates : List String
  /-- Leave out the usual annotation predicates. -/
  noDefaultAnnotations : Bool
  /-- Show the prefix declarations. -/
  showPrefixes : Bool
  /-- Say more. -/
  verbose : Bool
  /-- Say less. -/
  quiet : Bool
  deriving DecidableEq, Repr, Inhabited

/-- What a command line asks for. -/
inductive Request where
  | run (options : Options)
  | version
  | help
  deriving DecidableEq, Repr

/-- Why a command line is refused. -/
inductive ArgumentError where
  /-- No such option. -/
  | unknownOption (argument : String)
  /-- An option without its value. -/
  | missingValue (option : String)
  /-- A value for an option that takes none. -/
  | unexpectedValue (option : String)
  /-- An option that may be given only once is given again. -/
  | repeatedOption (option : String)
  /-- A second input. -/
  | extraInput (argument : String)
  /-- No input. -/
  | missingInput
  /-- An empty path. -/
  | emptyPath
  deriving DecidableEq, Repr

/-- The text of an argument error. -/
def ArgumentError.message : ArgumentError → String
  | unknownOption argument => "unexpected argument '" ++ argument ++ "' found"
  | missingValue option => "a value is required for '" ++ option ++ "' but none was supplied"
  | unexpectedValue option => "unexpected value for '" ++ option ++ "' found; no more were expected"
  | repeatedOption option => "the argument '" ++ option ++ "' cannot be used multiple times"
  | extraInput argument => "unexpected argument '" ++ argument ++ "' found"
  | missingInput => "the following required arguments were not provided: <INPUT>"
  | emptyPath => "a value is required for a path but none was supplied"

/-! ## Options -/

/-- An option without a value. -/
inductive Flag where
  | compact
  | noDefaultAnnotations
  | showPrefixes
  | verbose
  | quiet
  | version
  | help
  deriving DecidableEq, Repr

/-- An option with a value. -/
inductive Setting where
  | output
  | format
  | annotationPredicate
  deriving DecidableEq, Repr

/-- Any option. -/
inductive Switch where
  | flag (flag : Flag)
  | setting (setting : Setting)
  deriving DecidableEq, Repr

/-- The long name of an option. -/
def Switch.name : Switch → String
  | flag .compact => "compact"
  | flag .noDefaultAnnotations => "no-default-annotations"
  | flag .showPrefixes => "show-prefixes"
  | flag .verbose => "verbose"
  | flag .quiet => "quiet"
  | flag .version => "version"
  | flag .help => "help"
  | setting .output => "output"
  | setting .format => "format"
  | setting .annotationPredicate => "annotation-predicate"

/-- All options. -/
def Switch.all : List Switch :=
  [.flag .compact, .flag .noDefaultAnnotations, .flag .showPrefixes, .flag .verbose, .flag .quiet,
    .flag .version, .flag .help, .setting .output, .setting .format, .setting .annotationPredicate]

/-- The option with a long name. -/
def Switch.ofName? (name : String) : Option Switch := all.find? fun s => s.name = name

/-- The option with a short name. -/
def Switch.ofLetter? : Char → Option Switch
  | 'v' => some (.flag .verbose)
  | 'q' => some (.flag .quiet)
  | 'V' => some (.flag .version)
  | 'h' => some (.flag .help)
  | 'o' => some (.setting .output)
  | 'f' => some (.setting .format)
  | _ => none

/-- Each option is found under its name. -/
theorem Switch.ofName?_name (s : Switch) : Switch.ofName? s.name = some s := by
  cases s with
  | flag f => cases f <;> decide
  | setting s => cases s <;> decide

/-! ## Reading -/

/-- The options seen so far. -/
structure Draft where
  input : Option String
  output : Option String
  format : Option String
  annotationPredicates : List String
  /-- The flags given, each at most once. -/
  flags : List Flag
  deriving DecidableEq, Repr

namespace Draft

/-- Nothing seen yet. -/
def empty : Draft := ⟨none, none, none, [], []⟩

/-- Gives an option its value. -/
def set (d : Draft) (setting : Setting) (value : String) : Except ArgumentError Draft :=
  match setting with
  | .annotationPredicate =>
    .ok { d with annotationPredicates := d.annotationPredicates ++ [value] }
  | .output =>
    if value = "" then .error .emptyPath
    else if d.output.isSome then .error (.repeatedOption (Switch.setting .output).name)
    else .ok { d with output := some value }
  | .format =>
    if d.format.isSome then .error (.repeatedOption (Switch.setting .format).name)
    else .ok { d with format := some value }

/-- Takes an argument as the input. -/
def setInput (d : Draft) (value : String) : Except ArgumentError Draft :=
  if d.input.isSome then .error (.extraInput value)
  else if value = "" then .error .emptyPath
  else .ok { d with input := some value }

/-- The options, once all arguments are read. -/
def finish (d : Draft) : Except ArgumentError Options :=
  match d.input with
  | none => .error .missingInput
  | some input =>
    .ok {
      input := input
      output := d.output
      format := d.format.getD "json"
      compact := .compact ∈ d.flags
      annotationPredicates := d.annotationPredicates
      noDefaultAnnotations := .noDefaultAnnotations ∈ d.flags
      showPrefixes := .showPrefixes ∈ d.flags
      verbose := .verbose ∈ d.flags
      quiet := .quiet ∈ d.flags }

end Draft

/-- How reading goes on after an argument. -/
inductive Progress where
  /-- With the next argument. -/
  | next (draft : Draft)
  /-- With the next argument as the value of an option. -/
  | awaitValue (draft : Draft) (setting : Setting)
  /-- Not at all. -/
  | answer (request : Request)

/-- Raises a flag. -/
def raise (d : Draft) (flag : Flag) : Except ArgumentError Progress :=
  match flag with
  | .version => .ok (.answer .version)
  | .help => .ok (.answer .help)
  | flag =>
    if flag ∈ d.flags then .error (.repeatedOption (Switch.flag flag).name)
    else .ok (.next { d with flags := flag :: d.flags })

/-- Reads a long option; the value behind an equals sign, if there is one, is attached. -/
def readLong (d : Draft) (body : List Char) : Except ArgumentError Progress :=
  let name := String.ofList (body.takeWhile (· ≠ '='))
  match Switch.ofName? name, body.dropWhile (· ≠ '=') with
  | none, _ => .error (.unknownOption name)
  | some (.flag flag), [] => raise d flag
  | some (.flag _), _ :: _ => .error (.unexpectedValue name)
  | some (.setting setting), [] => .ok (.awaitValue d setting)
  | some (.setting setting), _ :: value => (d.set setting (String.ofList value)).map .next

/-- Reads joined short options. What follows the letter of an option with a value is its value, with
or without an equals sign. -/
def readShort (d : Draft) : List Char → Except ArgumentError Progress
  | [] => .ok (.next d)
  | letter :: rest =>
    match Switch.ofLetter? letter with
    | none => .error (.unknownOption (String.ofList ['-', letter]))
    | some (.flag flag) =>
      match raise d flag with
      | .ok (.next d) => readShort d rest
      | stop => stop
    | some (.setting setting) =>
      match rest with
      | [] => .ok (.awaitValue d setting)
      | '=' :: value => (d.set setting (String.ofList value)).map .next
      | value => (d.set setting (String.ofList value)).map .next

/-- Reads one argument that no option waits for. -/
def readArgument (d : Draft) (argument : String) : Except ArgumentError Progress :=
  match argument.toList with
  | '-' :: '-' :: body => readLong d body
  | '-' :: letter :: rest => readShort d (letter :: rest)
  | _ => (d.setInput argument).map .next

/-- Whether an argument can be the value of the option before it: a dash stands for a file, but what
starts with a dash and goes on is an option. -/
def isValue (argument : String) : Bool := argument = "-" || argument.toList.head? ≠ some '-'

/-- Reads the arguments after those in the draft. Two dashes end the options. -/
def readArguments (d : Draft) : List String → Except ArgumentError Request
  | [] => d.finish.map .run
  | argument :: rest =>
    if argument = "--" then (rest.foldlM Draft.setInput d).bind fun d => d.finish.map .run
    else
      match readArgument d argument with
      | .error e => .error e
      | .ok (.answer request) => .ok request
      | .ok (.next d) => readArguments d rest
      | .ok (.awaitValue d setting) =>
        match rest with
        | [] => .error (.missingValue (Switch.setting setting).name)
        | value :: rest =>
          if isValue value then
            match d.set setting value with
            | .error e => .error e
            | .ok d => readArguments d rest
          else .error (.missingValue (Switch.setting setting).name)

/-- What a command line asks for. -/
def parseArguments (arguments : List String) : Except ArgumentError Request :=
  readArguments .empty arguments

end QueryGraph.Command
