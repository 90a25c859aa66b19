import QueryGraph.Command.Arguments
import QueryGraph.Command.Directory
import QueryGraph.Command.LogFilter
import QueryGraph.Graph.Build
import QueryGraph.Graph.Document
import QueryGraph.Sparql.Load
import QueryGraph.Text.LowerCase

/-!
# `Command.Run` — one run of the command

A run reads a query, builds its graph and writes the document. It talks to its surroundings through
the few operations of `Host`, so that the same run can be carried out by a real system or on a
`Session`, which is a value.

## Contents
- `Host` — what a run may do.
- `RunError` — why a run fails.
- `run` — the whole run, up to its exit code.
- `Session` — surroundings as a value, and what has been written to them.
-/

namespace QueryGraph.Command

/-! ## Surroundings -/

/-- What a run may do. -/
class Host (m : Type → Type) where
  /-- All of standard input. -/
  readInput : m ByteArray
  /-- The content of a file. -/
  readFile : String → m (Except FileError ByteArray)
  /-- Makes a file empty, new or not. -/
  createFile : String → m (Except FileError Unit)
  /-- Adds to a file made before. -/
  appendFile : String → String → m (Except FileError Unit)
  /-- Writes to standard output. -/
  print : String → m Unit
  /-- Writes to standard error. -/
  report : String → m Unit
  /-- The log filter asked for by the environment. -/
  askedFilter : m (Option String)

/-- Why a run fails. -/
inductive RunError where
  /-- The input file cannot be read. -/
  | input (error : FileError)
  /-- The input is no query. -/
  | load (error : LoadError)
  /-- The output file cannot be made or written. -/
  | output (error : FileError)
  /-- There is no such format. -/
  | format (name : String)
  deriving Repr

/-- The text of a failure. -/
def RunError.message : RunError → String
  | input error => "IO error: " ++ error.message
  | load error => error.message
  | output error => error.message
  | format name => "Unknown format: " ++ name ++ ". Use 'json' or 'cytoscape'."

/-! ## Parts of a run -/

/-- The annotation predicates of a run. -/
def Options.annotations (o : Options) : Annotations :=
  let base : Annotations := if o.noDefaultAnnotations then .empty else .standard
  base.insertAll o.annotationPredicates

/-- The layout of the document. -/
def Options.layout (o : Options) : Json.Layout := if o.compact then .compact else .pretty

/-- The format with the given name, in any case. -/
def formatOfName (name : String) : Except RunError Format :=
  let name := Text.lowerCase name
  if name = "json" then .ok .json
  else if name = "cytoscape" ∨ name = "cy" then .ok .cytoscape
  else .error (.format name)

/-- The last line of a run. -/
def summary (g : GraphModel) : String :=
  "Built " ++ toString g.nodes.length ++ " nodes and " ++ toString g.edges.length ++ " edges from "
    ++ toString g.tripleCount ++ " WHERE triples (" ++ g.queryType ++ ")"

/-- The lines that show the prefix declarations. -/
def legendLines (prefixes : Prefixes) : List String :=
  if prefixes.legend.isEmpty then ["No PREFIX declarations found."]
  else prefixes.legend.map fun row => row.1 ++ " <" ++ row.2 ++ ">"

/-- The lines of the events that a filter shows; without a filter there are none. -/
def shownLines (filter : Option LogFilter) (events : List Event) : List String :=
  (events.filter fun e => filter.any fun f => f.shows e).map Event.line

/-- The name and version of the program. -/
def versionLine : String := "sparql2graph 0.1.0"

/-- A short reminder of the command line. -/
def usage : String :=
  "Usage: sparql2graph [OPTIONS] <INPUT>\n\n" ++
  "Options: -o/--output FILE, -f/--format FORMAT, --compact, --annotation-predicate IRI,\n" ++
  "  --no-default-annotations, --show-prefixes, -v/--verbose, -q/--quiet, -h/--help, -V/--version"

/-! ## A run -/

section

variable {m : Type → Type} [Monad m] [Host m]

/-- Writes lines to standard error. -/
def reportLines (lines : List String) : m Unit :=
  Host.report (String.join (lines.map fun line => line ++ "\n"))

/-- The query of the input. -/
def loadInput (path : String) : ExceptT RunError m Query := do
  let content : Except FileError ByteArray ←
    if path = "-" then .ok <$> (Host.readInput : m ByteArray) else (Host.readFile path : m _)
  let bytes ← MonadExcept.ofExcept (content.mapError RunError.input)
  MonadExcept.ofExcept ((Query.ofBytes bytes).mapError RunError.load)

/-- Makes the output file, if there is one. -/
def openOutput : Option String → ExceptT RunError m Unit
  | none => pure ()
  | some path => do
    let made ← (Host.createFile path : m _)
    MonadExcept.ofExcept (made.mapError RunError.output)

/-- Writes the document to its place. -/
def deliver (document : String) : Option String → ExceptT RunError m Unit
  | none => (Host.print document : m _)
  | some path => do
    let written ← (Host.appendFile path document : m _)
    MonadExcept.ofExcept (written.mapError RunError.output)

/-- Carries out what the options ask for: reads the query, builds the graph and shows the events,
opens the output, writes the document, and reports what was done. The output is opened before the
format is looked at. -/
def execute (o : Options) : ExceptT RunError m Unit := do
  if o.verbose then
    (reportLines ["Loading input from: " ++ o.input] : m Unit)
  let q ← loadInput o.input
  if o.verbose then
    (reportLines ["Annotation predicates: " ++ toString o.annotations.size] : m Unit)
  let (graph, events) := q.buildWithEvents o.annotations
  let asked ← (Host.askedFilter : m _)
  (reportLines (shownLines (logFilter? o.verbose o.quiet asked) events) : m Unit)
  openOutput o.output
  let format ← MonadExcept.ofExcept (formatOfName o.format)
  deliver (graph.document format o.layout) o.output
  if ¬o.quiet then
    let legend := if o.showPrefixes then legendLines q.prefixes else []
    (reportLines (legend ++ [summary graph]) : m Unit)

/-- A run, up to its exit code: 0 when it succeeds, 1 when it fails, 2 when the arguments are wrong.
-/
def run (arguments : List String) : m Nat :=
  match parseArguments arguments with
  | .error e => do
    reportLines ["error: " ++ e.message]
    return 2
  | .ok .version => do
    Host.print (versionLine ++ "\n")
    return 0
  | .ok .help => do
    Host.print (usage ++ "\n")
    return 0
  | .ok (.run o) => do
    match ← (execute o).run with
    | .ok () => return 0
    | .error e =>
      reportLines ["Error: " ++ e.message]
      return 1

end

/-! ## Sessions -/

/-- Surroundings as a value. -/
structure Session where
  /-- What standard input holds. -/
  input : ByteArray
  /-- The log filter asked for by the environment. -/
  askedFilter : Option String
  files : Directory
  /-- What has been written to standard output. -/
  output : String
  /-- What has been written to standard error. -/
  errors : String

namespace Session

/-- A session in which nothing has been written yet. -/
def start (input : ByteArray) (askedFilter : Option String) (files : Directory) : Session :=
  ⟨input, askedFilter, files, "", ""⟩

/-- Writes to standard output. -/
def print (s : Session) (text : String) : Session := { s with output := s.output ++ text }

/-- Writes to standard error. -/
def report (s : Session) (text : String) : Session := { s with errors := s.errors ++ text }

/-- The content of a file. Of the devices, only standard input holds something. -/
def readFile (s : Session) (path : String) : Except FileError ByteArray :=
  match s.files.entry path with
  | .ok (.file content) => .ok content
  | .ok (.device .standardInput) => .ok s.input
  | .ok (.device _) => .ok .empty
  | .ok .directory => .error .isDirectory
  | .error e => .error e

/-- Adds to a file, or writes to where a device leads. -/
def appendFile (s : Session) (path text : String) : Except FileError Unit × Session :=
  match s.files.entry path with
  | .ok (.device .standardOutput) => (.ok (), s.print text)
  | .ok (.device .standardError) => (.ok (), s.report text)
  | .ok (.device .full) => (.error .noSpace, s)
  | _ => (.ok (), { s with files := s.files.append path text })

/-- A run inside a session reads from it and writes to it. -/
instance : Host (StateM Session) where
  readInput := fun s => (s.input, s)
  readFile := fun path s => (s.readFile path, s)
  createFile := fun path s =>
    match s.files.create path with
    | .ok files => (.ok (), { s with files := files })
    | .error e => (.error e, s)
  appendFile := fun path text s => s.appendFile path text
  print := fun text s => ((), s.print text)
  report := fun text s => ((), s.report text)
  askedFilter := fun s => (s.askedFilter, s)

/-- The exit code of a run inside a session, and the session afterwards. -/
def run (s : Session) (arguments : List String) : Nat × Session :=
  (Command.run arguments : StateM Session Nat) s

end Session

end QueryGraph.Command
