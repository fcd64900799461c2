import MarketBars.Archive.Feature
import MarketBars.Calendar.Pattern
import MarketBars.DataError
import MarketBars.Files.Tree
import MarketBars.Text.Delimited
import MarketBars.Text.Lowercase

namespace MarketBars

/-- A constituent of an index, with the first and the last day on which it was listed. -/
structure InstrumentSpan where
  symbol : String
  listed : Date
  delisted : Date
  deriving DecidableEq

/-- The constituent was listed on some day from one date to another. -/
def InstrumentSpan.overlaps (span : InstrumentSpan) (start stop : Date) : Bool :=
  span.listed ≤ stop && start ≤ span.delisted

/-- What an archive answers: its calendar, the constituents of an index, and the values of a field. The rest
of the library knows an archive by its answers alone, wherever its files are. -/
structure Archive where
  calendar : Frequency → Except DataError (List Instant)
  constituents : String → Except DataError (List InstrumentSpan)
  /-- The values of a field of an instrument; there are none if it has no file for the field. -/
  feature : String → String → Frequency → Except DataError (Option FeatureSeries)

def Frequency.fileSuffix : Frequency → String
  | min1 => "1min"
  | min5 => "5min"
  | min10 => "10min"
  | min15 => "15min"
  | min30 => "30min"
  | min60 => "60min"
  | daily => "day"
  | weekly => "week"
  | monthly => "month"
  | quarterly => "quarter"
  | yearly => "year"

def archiveStamp (s : String) : Except DataError Instant :=
  match Instant.readStamp s with
  | .ok t => .ok t
  | .error fault => .error (.archive ("bad timestamp '" ++ s ++ "': " ++ fault.message))

/-- The instants of a calendar file: one on each line that is not blank. -/
def calendarOfText (text : String) : Except DataError (List Instant) :=
  (((Text.lines text).map Text.trim).filter fun line => !line.isEmpty).mapM archiveStamp

namespace InstrumentSpan

def column (path : FilePath) (number : Nat) (fields : List String) (i : Nat) :
    Except DataError String :=
  match fields[i]? with
  | some s => .ok (Text.trim s)
  | none =>
    .error (.archive (path.text ++ ":" ++ Nat.repr number ++ ": missing column " ++ Nat.repr i))

/-- The constituent of a row: its symbol and its two dates. Further columns are ignored. -/
def ofFields (path : FilePath) (number : Nat) (fields : List String) :
    Except DataError InstrumentSpan := do
  let symbol ← column path number fields 0
  let listed ← archiveStamp (← column path number fields 1)
  let delisted ← archiveStamp (← column path number fields 2)
  pure ⟨symbol, listed.date, delisted.date⟩

/-- The constituents of the rows of a file, which are numbered from one on. -/
def ofRows (path : FilePath) (rows : List Delimited.Row) : Except DataError (List InstrumentSpan) :=
  rows.zipIdx.mapM fun (row, i) =>
    match row.mapM FileSystem.textOf? with
    | none => .error (.archive (path.text ++ ": CSV"))
    | some fields => ofFields path (i + 1) fields

end InstrumentSpan

structure ArchiveFolder where
  files : FileSystem
  root : FilePath

namespace ArchiveFolder

/-- The archive in a folder, which must be there. -/
def open? (files : FileSystem) (root : FilePath) : Except DataError ArchiveFolder :=
  if files.isFolder root then .ok ⟨files, root⟩
  else .error (.environmentUnavailable ("archive directory " ++ root.text ++ " does not exist"))

def fault (deed : String) (path : FilePath) (reason : String) : DataError :=
  .archive (deed ++ path.text ++ ": " ++ reason)

def calendarPath (a : ArchiveFolder) (f : Frequency) : FilePath :=
  (a.root.join "calendars").join (f.fileSuffix ++ ".txt")

def constituentsPath (a : ArchiveFolder) (index : String) : FilePath :=
  (a.root.join "instruments").join (index ++ ".txt")

/-- The path of a feature file. The folder of an instrument is its symbol in lower case. -/
def featurePath (a : ArchiveFolder) (symbol field : String) (f : Frequency) : FilePath :=
  ((a.root.join "features").join (Text.lower symbol)).join (field ++ "." ++ f.fileSuffix ++ ".bin")

def calendar (a : ArchiveFolder) (f : Frequency) : Except DataError (List Instant) :=
  let path := a.calendarPath f
  match a.files.readText path with
  | .error e => .error (fault "read " path e.message)
  | .ok text => calendarOfText text

/-- The constituents of an index, in the order of their file. -/
def constituents (a : ArchiveFolder) (index : String) : Except DataError (List InstrumentSpan) :=
  let path := a.constituentsPath index
  match a.files.find path with
  | .error e => .error (fault "open " path e.message)
  | .ok (.folder _) => .error (fault "" path FileFault.isFolder.message)
  | .ok (.file bytes) => InstrumentSpan.ofRows path (Delimited.rows 0x09 bytes)

def feature (a : ArchiveFolder) (symbol field : String) (f : Frequency) :
    Except DataError (Option FeatureSeries) :=
  let path := a.featurePath symbol field f
  if a.files.holds path then
    match a.files.read path with
    | .error e => .error (fault "read " path e.message)
    | .ok bytes =>
      match FeatureSeries.decode bytes with
      | .error e => .error (fault "" path e.message)
      | .ok s => .ok (some s)
  else .ok none

def archive (a : ArchiveFolder) : Archive := ⟨a.calendar, a.constituents, a.feature⟩

end ArchiveFolder

end MarketBars
