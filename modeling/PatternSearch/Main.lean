import PatternSearch.Command
import Std.Time
/-! # The program

Reads the files that the command may ask for, runs it, and prints what it leaves. -/
namespace PatternSearch

/-- The text of a file, or the reason why it cannot be read. -/
def readFile (path : String) : IO (Except FileFault String) := do
  try
    match String.fromUTF8? (← IO.FS.readBinFile path) with
    | some text => return .ok text
    | none => return .error .notText
  catch
    | .noFileOrDirectory .. => return .error .missing
    | .inappropriateType none .. => return .error .isAFolder
    | .inappropriateType .. => return .error .notAFolder
    | e => return .error (.other (toString e))

/-- The time of day in universal time. -/
def stamp : IO String := do
  let now ← Std.Time.Timestamp.now
  return (Std.Time.DateTime.ofTimestampWithZone now Std.Time.TimeZone.UTC).format
    "uuuu-MM-dd'T'HH:mm:ss'Z'"

/-- Milliseconds as seconds with three places. -/
def inSeconds (milliseconds : Nat) : String :=
  let rest := toString (milliseconds % 1000)
  toString (milliseconds / 1000) ++ "." ++
    String.ofList (List.replicate (3 - rest.length) '0') ++ rest

end PatternSearch

open PatternSearch in
def main (arguments : List String) : IO UInt32 := do
  let texts ← arguments.mapM fun path => return (path, ← readFile path)
  let call : Call :=
    { program := "regex-synth"
      arguments
      read := fun path => (texts.lookup path).getD (.error .missing)
      filter := ← IO.getEnv "RUST_LOG"
      stamp := ← stamp }
  let start ← IO.monoMsNow
  let console := Command.run call
  for line in console.err do
    IO.eprintln line
  let stop ← IO.monoMsNow
  for line in console.told (inSeconds (stop - start)) do
    IO.println line
  return UInt32.ofNat console.exit
