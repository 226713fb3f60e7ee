import ScriptTrace.Command.Files
import ScriptTrace.Command.LogSetting

/-! The program: files, streams and the environment around the commands.
Everything that is decided is decided by the commands themselves. -/
namespace ScriptTrace.Program
open Text Command

/-- The failure that a code of the operating system stands for. The code may be negative. -/
def fileError (code : UInt32) (details : String) : FileError :=
  match code.toInt32.toInt.natAbs with
  | 2 => .notFound
  | 20 => .notFolder
  | 21 => .isFolder
  | 36 => .nameTooLong
  | n => .refused details.capitalize.toList n

def ofException : IO.Error → FileError
  | .noFileOrDirectory .. => .notFound
  | .permissionDenied _ code details => fileError code details
  | .inappropriateType _ code details => fileError code details
  | .invalidArgument _ code details => fileError code details
  | .resourceExhausted _ code details => fileError code details
  | .otherError code details => fileError code details
  | e => .refused e.toString.toList 0

def readFile (path : Text) : IO (Except FileError Utf8.Bytes) := do
  if path.contains '\x00' then return .error .nullInPath
  try
    return .ok (← IO.FS.readBinFile (String.ofList path)).toList
  catch e => return .error (ofException e)

def readerOf (paths : List Text) : IO FileReader := do
  let known ← paths.mapM fun path => return (path, ← readFile path)
  return fun path => (known.lookup path).getD (.error .notFound)

partial def readAll (stream : IO.FS.Stream) (before : ByteArray) : IO ByteArray := do
  let more ← stream.read 65536
  if more.isEmpty then return before else readAll stream (before ++ more)

/-- A line of a stream with its line end, none at the end of the stream. -/
partial def readLine (stream : IO.FS.Stream) (before : ByteArray) : IO ByteArray := do
  let more ← stream.read 1
  if more.isEmpty || more.toList = [0x0A] then return before ++ more
  else readLine stream (before ++ more)

/-- Where log records go: nowhere, or to a file that takes those up to a level. -/
structure Logbook where
  level : Option Log.Level
  path : String

def Logbook.add (book : Logbook) (records : List Log.Record) : IO Unit := do
  match book.level with
  | none => return
  | some level =>
    try
      let handle ← IO.FS.Handle.mk book.path .append
      for r in Log.upTo level records do
        let now ← IO.monoNanosNow
        let micros := now / 1000 % 1000000
        let seconds := now / 1000000000
        let padding := "".pushn '0' (6 - (toString micros).length)
        let told := String.ofList r.full
        handle.putStrLn s!"[{seconds}.{padding}{micros}] {told}"
    catch _ => return

partial def serve (home : Option Text) (book : Logbook) (cache : Cache) : IO UInt32 := do
  let bytes ← readLine (← IO.getStdin) .empty
  match inputLines bytes.toList with
  | [] =>
    book.add [closing]
    return 0
  | none :: _ =>
    (← IO.getStderr).putStr (String.ofList (renderError FileError.notText.message))
    return 1
  | some line :: _ =>
    let session := Session.offline (← readerOf (fileOfRequest? line).toList) home
    let outcome := session.serve [line] cache
    let stdout ← IO.getStdout
    for answer in outcome.value do stdout.putStrLn (String.ofList answer)
    stdout.flush
    book.add (Event.records outcome.events)
    serve home book outcome.cache

/-- Shows what there is to choose from and takes lines until one decides. -/
partial def gather (before : ByteArray) : IO ByteArray := do
  let bytes ← readLine (← IO.getStdin) .empty
  match inputLines bytes.toList with
  | some line :: _ =>
    match Prompt.reply line with
    | .answer _ => return before ++ bytes
    | .again remark =>
      (← IO.getStderr).putStr (String.ofList remark)
      gather (before ++ bytes)
  | _ => return before ++ bytes

def carryOut (home : Option Text) (book : Logbook) (task : Task) : IO UInt32 := do
  let stdin ← IO.getStdin
  let stderr ← IO.getStderr
  let mut input := ByteArray.empty
  let mut shown : Text := []
  if let .errors none _ _ := task then input ← readAll stdin .empty
  let named ← readerOf task.namedFiles
  let known : Surroundings := ⟨named, input.toList, home⟩
  if let .errors (some file) _ true := task then
    if let .ok history := known.history (some file) then
      let records := History.extract history
      if 1 < records.length then
        let heading := Prompt.heading (History.candidates records)
        stderr.putStr (String.ofList heading)
        input ← gather .empty
        shown := (Prompt.run (inputLines input.toList) (History.candidates records)).shown
  let traced ← readerOf (task.namedFiles ++ task.tracedFiles known)
  let report := run ⟨traced, input.toList, home⟩ task
  (← IO.getStdout).putStr (String.ofList report.output)
  stderr.putStr (String.ofList (report.errors.drop shown.length))
  book.add report.log
  return report.code.toUInt32

def write (report : Report) : IO UInt32 := do
  (← IO.getStdout).putStr (String.ofList report.output)
  (← IO.getStderr).putStr (String.ofList report.errors)
  return report.code.toUInt32

end ScriptTrace.Program

open ScriptTrace ScriptTrace.Program in
def main (arguments : List String) : IO UInt32 := do
  let setting ← IO.getEnv "VIMSTACK_LOG"
  let folder := (← IO.getEnv "TMPDIR").getD "/tmp"
  let book : Logbook :=
    ⟨setting.bind fun s => Log.Level.ofSetting? s.toList, folder ++ "/vimstack.log"⟩
  book.add []
  let home := (← IO.getEnv "HOME").map String.toList
  match Command.parse (arguments.map String.toList) with
  | .command .serve => serve home book .empty
  | .command task => carryOut home book task
  | .version => write .version
  | .help => write .help
  | .misuse => write .misuse
