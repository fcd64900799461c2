import MarketBars.CommandLine.Program
import Std.Time

/-!
# The command line

Reads the files, the environment and the time that a run of the program needs, runs it, and writes what
it leaves behind. The gateway is out of reach from here: every connection to it is refused.
-/

namespace MarketBars

namespace CommandLine

/-- The file or the folder at a path, with all that is below it; nothing if it is not there. -/
partial def readNode (path : String) : IO (Option FileNode) := do
  let here := (← IO.currentDir) / path
  if ← here.isDir then
    let mut entries : Array (String × FileNode) := #[]
    for entry in ← here.readDir do
      if let some node ← readNode (path ++ "/" ++ entry.fileName) then
        entries := entries.push (entry.fileName, node)
    return some (.folder entries.toList)
  else if ← here.pathExists then
    return some (.file (← IO.FS.readBinFile here).toList)
  else return none

def withPath (files : FileSystem) (path : FilePath) : IO FileSystem := do
  match ← readNode path.text with
  | none => return files
  | some node =>
    return { files with root := node.put (path.place files.workingFolder) files.root }

def readEnvironment : IO Environment := do
  let mut found : List (String × String) := []
  for name in ["QLIB_DIR", "QLIB_REGION", "HOME"] do
    if let some value ← IO.getEnv name then
      found := (name, value) :: found
  return ⟨found⟩

def readClock : IO Instant := do
  let t ← Std.Time.PlainDateTime.now
  let date? := Date.ofCivil?
    ⟨t.date.year.toInt, t.date.month.val.toNat, t.date.day.val.toNat⟩
  let time? := TimeOfDay.ofClock? t.time.hour.val.toNat t.time.minute.val.toNat
    t.time.second.val.toNat t.time.nanosecond.val.toNat
  match date?, time? with
  | some date, some time => return ⟨date, time⟩
  | _, _ => throw (IO.userError "the clock is outside the calendar")

def configOf : Command → Option FilePath
  | .history q => some q.config
  | .price q => some q.config
  | .instruments config _ => some config
  | .backends => none

/-- The files that a command reads: the configuration and the archive that it names. -/
def readFiles (env : Environment) (command : Command) : IO FileSystem := do
  let working := FilePath.parts ⟨(← IO.currentDir).toString⟩
  let start : FileSystem := ⟨FileNode.put (.folder []) working (.folder []), working⟩
  match configOf command with
  | none => return start
  | some config =>
    let files ← withPath start config
    match (Settings.ofFile files config).toOption.bind Settings.archive? with
    | none => return files
    | some archive => withPath files (archive.folder env)

def readSurroundings (args : List String) : IO (Surroundings Unit) := do
  let environment ← readEnvironment
  let files ← match Command.ofArguments args with
    | .error _ => pure ⟨.folder [], []⟩
    | .ok command => readFiles environment command
  return { files, environment, now := ← readClock, transport := .unreachable }

end CommandLine

end MarketBars

def main (args : List String) : IO UInt32 := do
  let surroundings ← MarketBars.CommandLine.readSurroundings args
  let ended := (MarketBars.Program.run surroundings args ⟨(), []⟩).1
  IO.print ended.output
  IO.eprint ended.complaint
  return UInt32.ofNat ended.code
