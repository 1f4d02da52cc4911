import LossPrevention.CommandLine.LogRecord
import Std.Time.DateTime.Timestamp

/-!
The program: reads events line by line, answers each with the processed event on standard output,
and keeps standard error for itself.
-/

namespace LossPrevention.Program

open CommandLine
open Time (Instant)

def usage : String :=
  "Usage: leakguard [-c|--config PATH] [-p|--policies DIRECTORY] [-i|--input PATH]\n" ++
  "                 [--content-field PATH] [--redact] [--json-logs] [-v|--verbose]"

def now : IO Instant := do
  let time ← Std.Time.Timestamp.now
  return .ofParts 0 time.toNanosecondsSinceUnixEpoch.val

/-- A random identifier of 128 bits, six of which are fixed. -/
def randomId : IO String := do
  let digits ← (List.range 32).mapM fun i => do
    let n ← IO.rand 0 15
    return Nat.digitChar (if i = 12 then 4 else if i = 16 then 8 + n % 4 else n)
  let part (start count : Nat) : String := String.ofList ((digits.drop start).take count)
  return "-".intercalate [part 0 8, part 8 4, part 12 4, part 16 4, part 20 12]

def occasion : IO Processor.Occasion := do
  return { now := ← now, order := .asWritten, recordId := ← randomId, recordTime := ← now }

def item (path : String) : IO Policy.Item := do
  try
    let place ← IO.FS.realPath path
    if ← place.isDir then return .directory
    return .file (← IO.FS.readFile place)
  catch error => return .unreadable (toString error)

/-- What a path leads to, with the contents of a directory's files. -/
def look (path : String) : IO Node := do
  try
    let place ← IO.FS.realPath path
    if ← place.isDir then
      let entries ← place.readDir
      let items ← entries.toList.mapM fun e => do
        return (e.fileName, ← item (path ++ "/" ++ e.fileName))
      return .directory items
    match ← item path with
    | .file content => return .file content
    | _ => return .unreadable
  catch _ => return .missing

def say (shows : List String → Bool) (format : LogFormat) (record : LogRecord) : IO Unit := do
  if shows record.fieldNames then IO.eprintln (record.render format (← now))

def fail (abort : Abort) : IO UInt32 := do
  IO.eprintln ("Error: " ++ abort.message)
  return 1

/-- Answers line after line until the input ends. -/
partial def answer (input : IO.FS.Stream) (output : IO.FS.Stream) (run : Run Unit) :
    IO (Except Failure (Run Unit)) := do
  let line ← input.getLine
  if line = "" then return .ok run
  match run.line (← occasion) line with
  | .error failure => return .error failure
  | .ok (none, run) => answer input output run
  | .ok (some event, run) =>
      output.putStrLn event.compact
      output.flush
      answer input output run

def inputOf (a : Arguments) : IO (Except Abort IO.FS.Stream) := do
  match a.inputPath with
  | none => return .ok (← IO.getStdin)
  | some path =>
      try
        let place ← IO.FS.realPath path
        if ← place.isDir then return .error .inputIsDirectory
        return .ok (.ofHandle (← IO.FS.Handle.mk place .read))
      catch _ => return .error (.input path)

def execute (a : Arguments) (shows : List String → Bool) : IO UInt32 := do
  match ← start look a with
  | .error abort => fail abort
  | .ok s =>
      say shows s.settings.logFormat s.record
      match s.processor with
      | .error failure => fail (.failure failure)
      | .ok processor =>
          match ← inputOf a with
          | .error abort => fail abort
          | .ok input =>
              match ← answer input (← IO.getStdout) { processor } with
              | .error failure => fail (.failure failure)
              | .ok run =>
                  say shows s.settings.logFormat run.record
                  return 0

end LossPrevention.Program

open LossPrevention in
def main (words : List String) : IO UInt32 := do
  let names := ["LEAKGUARD_CONFIG", "LEAKGUARD_POLICIES", CommandLine.LogFilter.environmentName]
  let given ← names.mapM fun name => return (name, ← IO.getEnv name)
  let environment (name : String) : Option String := (given.lookup name).join
  match CommandLine.Arguments.parse environment words with
  | .error .help => do
      IO.println Program.usage
      return 0
  | .error _ => do
      IO.eprintln Program.usage
      return 2
  | .ok a =>
      let directives := environment CommandLine.LogFilter.environmentName
      Program.execute a (CommandLine.LogFilter.showsInfo a.verbose directives)
