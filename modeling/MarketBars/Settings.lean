import MarketBars.DataError
import MarketBars.Files.Path
import MarketBars.PriceField
import MarketBars.Session
import MarketBars.Ticker

namespace MarketBars

structure Environment where
  entries : List (String × String)

def Environment.get? (env : Environment) (name : String) : Option String :=
  env.entries.lookup name

/-- The home folder of the user. One that is not named, or by an empty name, is that of the
administrator. -/
def Environment.home (env : Environment) : FilePath :=
  match env.get? "HOME" with
  | none => ⟨"/root"⟩
  | some home => if home.isEmpty then ⟨"/root"⟩ else ⟨home⟩

def frequencySetting (text : String) : Except DataError Frequency :=
  match Frequency.ofName? text with
  | some f => .ok f
  | none => .error (.config (Frequency.unknownMessage text))

/-- Which part of an archive is loaded, and where the archive is. -/
structure ArchiveSettings where
  path? : Option FilePath := none
  region? : Option String := none
  /-- The symbols of stocks. -/
  tickers : List String := []
  /-- The names of indices, which stand for their constituents. -/
  indices : List String := []
  fields : List String := PriceField.all.map PriceField.name
  /-- The price field that a column serves, by the names of the columns in ascending order. -/
  fieldMap : List (String × PriceField) := []
  start : Date
  stop : Date
  frequency : String := Frequency.daily.name
  deriving DecidableEq

namespace ArchiveSettings

/-- The settings for some tickers, with every other setting at its default. -/
def ofTickers (tickers : List Ticker) (start stop : Date) : ArchiveSettings where
  tickers := (tickers.filter fun t => t.kind != .index).map Ticker.symbol
  indices := (tickers.filter fun t => t.kind == .index).map Ticker.symbol
  start := start
  stop := stop

/-- The tickers of the settings, stocks first. -/
def tickerList (s : ArchiveSettings) : List Ticker :=
  s.tickers.map Ticker.stock ++ s.indices.map Ticker.index

/-- The region: as set, or as in the environment, or China. -/
def region (s : ArchiveSettings) (env : Environment) : String :=
  (s.region?.orElse fun _ => env.get? "QLIB_REGION").getD "cn"

/-- The folder of the archive: as set, or as in the environment, or one for the region below the home
folder. -/
def folder (s : ArchiveSettings) (env : Environment) : FilePath :=
  match s.path? with
  | some path => path
  | none =>
    match env.get? "QLIB_DIR" with
    | some folder => ⟨folder⟩
    | none => ((env.home.join ".qlib").join "qlib_data").join (s.region env ++ "_data")

end ArchiveSettings

/-- How the gateway of the broker is reached. -/
structure BrokerSettings where
  baseUrl : String
  timeoutSeconds : Nat := 30
  maxRetries : Nat := 3
  pageSize : Nat := 1000
  frequency : String := Frequency.daily.name
  deriving DecidableEq, Repr

structure Settings where
  sessions : SessionTimes := SessionTimes.usual
  archive? : Option ArchiveSettings := none
  broker? : Option BrokerSettings := none
  deriving DecidableEq

end MarketBars
