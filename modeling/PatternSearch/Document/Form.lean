import PatternSearch.Document.Reader
import PatternSearch.Examples
import PatternSearch.Report
import PatternSearch.Settings
/-! # The forms of documents

How settings, examples and the results of a search are written as documents and read from them. -/
namespace PatternSearch
open Document

/-- A way to write the values of a type as documents and to read them back. -/
structure Form (α : Type) where
  write : α → Value
  read : Reader
  /-- What a value that was read stands for. -/
  meaning : Value → α

namespace Form

variable {α : Type}

def encode (form : Form α) (a : α) : String := (form.write a).toCompact

def decode (form : Form α) (text : String) : Except Fault α :=
  (Reader.readAll form.read text).map form.meaning

end Form

def Fragment.form : Form Fragment where
  write fragment := .text fragment.source
  read := Reader.text
  meaning v := ⟨v.toText⟩

def Fragment.writeAll (fragments : List Fragment) : Value := .texts (fragments.map (·.source))

def Fragment.readAll : Reader := Reader.list Reader.text

def Fragment.ofItems (v : Value) : List Fragment := v.toList.map Fragment.form.meaning

namespace Settings

def write (s : Settings) : Value :=
  .record
    [("seed_fragments", Fragment.writeAll s.seeds),
     ("extension_fragments", Fragment.writeAll s.extensions),
     ("max_specialization_bound", .ofNat s.maxCount),
     ("max_generations", .ofNat s.maxGenerations),
     ("survivor_count", .ofNat s.keep)]

/-- Every member may be missing; its default takes its place. -/
def slots : List Reader.Slot :=
  let given (name : String) := Reader.Absent.given ((write {}).member name)
  [⟨"seed_fragments", Fragment.readAll, given "seed_fragments"⟩,
   ⟨"extension_fragments", Fragment.readAll, given "extension_fragments"⟩,
   ⟨"max_specialization_bound", Reader.unsigned32, given "max_specialization_bound"⟩,
   ⟨"max_generations", Reader.size, given "max_generations"⟩,
   ⟨"survivor_count", Reader.size, given "survivor_count"⟩]

def form : Form Settings where
  write
  read := Reader.record "SearchConfig" slots
  meaning v :=
    { seeds := Fragment.ofItems (v.member "seed_fragments")
      extensions := Fragment.ofItems (v.member "extension_fragments")
      maxCount := (v.member "max_specialization_bound").toNat
      maxGenerations := (v.member "max_generations").toNat
      keep := (v.member "survivor_count").toNat }

end Settings

def Examples.form : Form Examples where
  write e := .record [("positive", .texts e.positive), ("negative", .texts e.negative)]
  read := Reader.record "ExampleSet"
    [⟨"positive", Reader.list Reader.text, .refused⟩,
     ⟨"negative", Reader.list Reader.text, .refused⟩]
  meaning v :=
    { positive := (v.member "positive").toList.map Value.toText
      negative := (v.member "negative").toList.map Value.toText }

def Report.form : Form Report where
  write r := .record
    [("generation", .ofNat r.generation), ("candidate_id", .ofNat r.candidate),
     ("score", .whole r.score), ("raw_score", .real r.raw), ("pattern", .text r.pattern)]
  read := Reader.record "EvaluationReport"
    [⟨"generation", Reader.size, .refused⟩, ⟨"candidate_id", Reader.unsigned64, .refused⟩,
     ⟨"score", Reader.signed64, .refused⟩, ⟨"raw_score", Reader.real, .refused⟩,
     ⟨"pattern", Reader.text, .refused⟩]
  meaning v :=
    { generation := (v.member "generation").toNat
      candidate := (v.member "candidate_id").toNat
      score := (v.member "score").toInt
      raw := (v.member "raw_score").toReal
      pattern := (v.member "pattern").toText }

def Snapshot.form : Form Snapshot where
  write s := .record
    [("id", .ofNat s.id), ("generation", .ofNat s.generation),
     ("parent", (s.parent.map Value.ofNat).getD .null),
     ("fragments", Fragment.writeAll s.fragments), ("score", .whole s.score),
     ("raw_score", .real s.raw), ("pattern", .text s.pattern)]
  read := Reader.record "CandidateSnapshot"
    [⟨"id", Reader.unsigned64, .refused⟩, ⟨"generation", Reader.size, .refused⟩,
     ⟨"parent", Reader.optional Reader.unsigned64, .empty⟩,
     ⟨"fragments", Fragment.readAll, .refused⟩, ⟨"score", Reader.signed64, .refused⟩,
     ⟨"raw_score", Reader.real, .refused⟩, ⟨"pattern", Reader.text, .refused⟩]
  meaning v :=
    { id := (v.member "id").toNat
      generation := (v.member "generation").toNat
      parent := (v.member "parent").toOption.map Value.toNat
      fragments := Fragment.ofItems (v.member "fragments")
      score := (v.member "score").toInt
      raw := (v.member "raw_score").toReal
      pattern := (v.member "pattern").toText }

def Ending.form : Form Ending where
  write ending := .text ending.name
  read := Reader.choice [Ending.solved.name, Ending.timedOut.name]
  meaning v := if v.toText = Ending.solved.name then .solved else .timedOut

def Tally.form : Form Tally where
  write t := .record
    [("generations", .ofNat t.generations), ("total_evaluations", .ofNat t.evaluations),
     ("compile_failures", .ofNat t.failures), ("elapsed_seconds", .real t.seconds)]
  read := Reader.record "SearchStats"
    [⟨"generations", Reader.size, .refused⟩, ⟨"total_evaluations", Reader.unsigned64, .refused⟩,
     ⟨"compile_failures", Reader.unsigned64, .refused⟩, ⟨"elapsed_seconds", Reader.real, .refused⟩]
  meaning v :=
    { generations := (v.member "generations").toNat
      evaluations := (v.member "total_evaluations").toNat
      failures := (v.member "compile_failures").toNat
      seconds := (v.member "elapsed_seconds").toReal }

def Outcome.form : Form Outcome where
  write o := .record
    [("stop_reason", Ending.form.write o.ending), ("best", Snapshot.form.write o.best),
     ("stats", Tally.form.write o.tally)]
  read := Reader.record "SearchResult"
    [⟨"stop_reason", Ending.form.read, .refused⟩, ⟨"best", Snapshot.form.read, .refused⟩,
     ⟨"stats", Tally.form.read, .refused⟩]
  meaning v :=
    { ending := Ending.form.meaning (v.member "stop_reason")
      best := Snapshot.form.meaning (v.member "best")
      tally := Tally.form.meaning (v.member "stats") }

end PatternSearch
