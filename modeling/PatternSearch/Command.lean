import PatternSearch.Document.Form
import PatternSearch.Folder
import PatternSearch.LogFilter
import PatternSearch.Search
/-! # The command

The command reads a file of examples and, if there is one, a document of settings, runs a search and
prints its reports and its outcome. -/
namespace PatternSearch

/-- What the command leaves: its exit code, the lines on its two channels, and the outcome of a
search, which is told last on the first channel. -/
structure Console where
  exit : Nat
  out : List String := []
  outcome : Option Outcome := none
  err : List String := []
  deriving DecidableEq

/-- What the command is given. -/
structure Call where
  /-- The name it is called by. -/
  program : String
  arguments : List String
  read : String → Except FileFault String
  /-- The filter for events as it is written, if there is one. -/
  filter : Option String
  /-- The time that stands before events. -/
  stamp : String
  /-- The words for refused patterns in events, if they are known. -/
  wording : Option Wording := none

/-- The outcome in words, given the seconds that the search took. -/
def Outcome.lines (outcome : Outcome) (seconds : String) : List String :=
  [match outcome.ending with
   | .solved => s!"[Solved] Generated regex: {outcome.best.pattern}"
   | .timedOut => s!"[Timed out] Best partial solution regex: {outcome.best.pattern}",
   s!"Generations: {outcome.tally.generations}, evaluations: {outcome.tally.evaluations}, " ++
   s!"invalid patterns: {outcome.tally.failures}, time: {seconds}s"]

/-- All lines on the first channel. -/
def Console.told (console : Console) (seconds : String) : List String :=
  console.out ++ (console.outcome.map (·.lines seconds)).getD []

namespace Command

def usage (program : String) : List String :=
  [s!"Usage: {program} <examples> [config.json]",
   "",
   "Generate a regex from a file of positive and negative examples.",
   "",
   "Arguments:",
   "  examples     One example per line: <positive> [<negative>],",
   "               whitespace separated. Indent a line to give",
   "               only a negative example.",
   "  config.json  Optional search configuration",
   "",
   "Print the default configuration with --example-config."]

def reportLine (report : Report) : String := s!"{report.score} {report.pattern}"

/-- Further lines of a message are indented. -/
def indented (message : String) : String :=
  String.ofList (message.toList.flatMap fun c =>
    if c = '\n' then ['\n', ' ', ' ', ' ', ' '] else [c])

/-- Level names take five columns. -/
def padded (name : String) : String :=
  String.ofList (name.toList ++ List.replicate (5 - name.length) ' ')

def eventLine (stamp : String) (wording : Option Wording) (event : Event) : String :=
  s!"[{stamp} {padded event.level.name} {event.target}] {indented (event.message wording)}"

/-- The settings in a file; the usual ones without a file. -/
def settings (call : Call) : Option String → Except String Settings
  | none => .ok {}
  | some path =>
    match call.read path with
    | .error fault => .error s!"Error reading config file: {fault.message}"
    | .ok text =>
      match Settings.form.decode text with
      | .error fault => .error s!"Error parsing config: {fault.message text}"
      | .ok settings => .ok settings

def loadedLine (examples : Examples) (path : String) : String :=
  s!"Loaded {examples.positive.length} +examples, {examples.negative.length} -examples from {path}"

/-- The message about a file of examples that cannot be read. -/
def unreadable (path : String) (fault : FileFault) : String :=
  s!"Failed to read examples from {path}: {fault.message}"

/-- Searches with the examples in a file. `say` turns events into the lines that are shown. -/
def search (call : Call) (say : List Event → List String) (path : String)
    (config : Option String) : Console :=
  match call.read path with
  | .error fault => { exit := 1, err := [unreadable path fault] }
  | .ok text =>
    let examples := Examples.parse text
    let warned := if examples.isEmpty then say [.noExamples path] else []
    match settings call config with
    | .error message => { exit := 1, err := warned ++ [message] }
    | .ok settings =>
      let run := ({ settings, examples } : Search).run
      let out := loadedLine examples path :: run.reports.map reportLine
      let err := warned ++ say run.events
      match run.result with
      | .error failure =>
        { exit := 1, out, err := err ++ [s!"Search failed: {failure.message}"] }
      | .ok outcome => { exit := 0, out, outcome := some outcome, err }

def answer (call : Call) (say : List Event → List String) : Console :=
  match call.arguments with
  | [] => { exit := 1, err := usage call.program }
  | path :: rest =>
    if path = "--example-config" then { exit := 0, out := [(Settings.form.write {}).toPretty] }
    else search call say path rest.head?

/-- Runs the command. Complaints about the filter come first. -/
def run (call : Call) : Console :=
  let (filter, complaints) := LogFilter.parse (call.filter.getD "")
  let console := answer call fun events =>
    (events.filter (filter.shows call.wording)).map (eventLine call.stamp call.wording)
  { console with err := complaints.map (fun c => s!"warning: {c}, ignoring it") ++ console.err }

end Command

end PatternSearch
