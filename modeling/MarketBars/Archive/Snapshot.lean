import MarketBars.Archive.Instrument
import MarketBars.Provider
import MarketBars.Settings

/-!
# Snapshots of an archive

A snapshot holds the tables of some instruments over a range of days. It is loaded once and answers
requests from its tables; an index that was named when it was loaded stands for its constituents.
-/

namespace MarketBars

/-- The tables of some instruments over a range of days. -/
structure Snapshot where
  /-- The instruments that have a table, in the order in which they were loaded. -/
  tables : List (Ticker × Table)
  /-- The constituents of each index that was named. -/
  members : List (String × List Ticker)
  fields : List String
  priceMap? : Option PriceMap
  frequency : Frequency
  start : Instant
  stop : Instant

namespace Snapshot

def name : String := "archive"

def kinds : List SecurityKind := [.stock, .index]

/-- The instruments that have a table. -/
def tickers (s : Snapshot) : List Ticker := s.tables.map Prod.fst

def table? (s : Snapshot) (symbol : String) : Option Table :=
  (s.tables.find? fun e => e.1.symbol == symbol).map Prod.snd

/-- The constituents of an index that were listed on some day of a range. -/
def listed (a : Archive) (start stop : Date) (index : Ticker) : Except DataError (List Ticker) := do
  let spans ← a.constituents index.symbol
  pure ((spans.filter fun span => span.overlaps start stop).map fun span => .stock span.symbol)

/-- What a ticker stands for: an index for its constituents, any other ticker for itself. -/
def expansion (a : Archive) (start stop : Date) (ticker : Ticker) :
    Except DataError (Ticker × List Ticker) :=
  if ticker.kind = .index then do pure (ticker, ← listed a start stop ticker)
  else .ok (ticker, [ticker])

/-- The ticker was asked for by its own name. -/
def isNamed (requested : List Ticker) (ticker : Ticker) : Bool :=
  requested.any fun t => t.kind == .stock && t.same ticker

/-- What is recorded when an instrument has been loaded. An instrument without files is recorded if it
was asked for by name, a constituent of an index is not. -/
def loadNote (requested : List Ticker) (ticker : Ticker) :
    Option (Table × List String) → List Diagnostic
  | none =>
    if isNamed requested ticker then
      [.sourceUnavailable ticker.symbol "no feature files in the archive"]
    else []
  | some (table, missing) =>
    if missing.isEmpty || table.isEmpty then []
    else [.missingFields ticker.symbol (sortedDistinct missing)]

/-- The table with a copy of each mapped column under the name of its price field, one mapping after
the other. -/
def withPrices (map : List (String × PriceField)) (table : Table) : Except DataError Table :=
  map.foldlM (fun t m => if t.names.contains m.1 then t.withAlias m.1 m.2.name else .ok t) table

def loadedTables (map : List (String × PriceField))
    (loaded : List (Ticker × Option (Table × List String))) :
    Except DataError (List (Ticker × Table)) :=
  (loaded.filterMap fun e => e.2.map fun got => (e.1, got.1)).mapM fun e => do
    pure (e.1, ← withPrices map e.2)

/-- The names of the columns of a snapshot: the fields of the settings, and then the price fields that
they are mapped to. -/
def fieldNames (settings : ArchiveSettings) : List String :=
  distinctBy id (settings.fields ++ settings.fieldMap.map fun m => m.2.name)

def loadAll (a : Archive) (fields : List String) (f : Frequency) (calendar : Array Instant)
    (start stop : Instant) (instruments : List Ticker) :
    Except Failure (List (Ticker × Option (Table × List String))) :=
  instruments.mapM fun t => do pure (t, ← a.load t.symbol fields f calendar start stop)

/-- What loading a snapshot gathers before it settles the tables. -/
structure Gathered where
  frequency : Frequency
  requested : List Ticker
  members : List (String × List Ticker)
  loaded : List (Ticker × Option (Table × List String))

def gather (a : Archive) (settings : ArchiveSettings) (start stop : Instant) :
    Except Failure Gathered := do
  let frequency ← liftError (frequencySetting settings.frequency)
  let requested := distinctTickers settings.tickerList
  liftError (checkKinds name kinds requested)
  let expansions ← liftError (requested.mapM (expansion a settings.start settings.stop))
  let calendar ← liftError (a.calendar frequency)
  let loaded ← loadAll a (distinctBy id settings.fields) frequency calendar.toArray start stop
    (distinctTickers (expansions.flatMap Prod.snd))
  let indices := expansions.filter fun e => e.1.kind == .index
  pure {
    frequency, requested, loaded
    members := indices.map fun e => (e.1.symbol, distinctTickers e.2) }

def load (a : Archive) (settings : ArchiveSettings) : Run Unit (Except Failure Snapshot) :=
  let start := Instant.startOf settings.start
  let stop : Instant := ⟨settings.stop, .lastSecond⟩
  match gather a settings start stop with
  | .error e => ⟨.error e, [], ()⟩
  | .ok got =>
    let notes := got.loaded.flatMap fun e => loadNote got.requested e.1 e.2
    match loadedTables settings.fieldMap got.loaded with
    | .error e => ⟨.error (.error e), notes, ()⟩
    | .ok tables =>
      if tables.isEmpty then
        let names := String.intercalate ", " (got.requested.map Ticker.symbol)
        ⟨.error (.error (.noDataFound names)), notes, ()⟩
      else
        let mapped := settings.fieldMap.map Prod.snd
        let priceMap? := if mapped.isEmpty then none else some (PriceMap.identity mapped)
        ⟨.ok ⟨tables, got.members, fieldNames settings, priceMap?, got.frequency, start, stop⟩,
          notes, ()⟩

/-- The loaded constituents of an index; any other ticker stands for itself. -/
def membersOf? (s : Snapshot) (ticker : Ticker) : Option (List Ticker) :=
  if ticker.kind = .index then s.members.lookup ticker.symbol else none

/-- The tickers of a request, with every index that was named replaced by its constituents. -/
def expand (s : Snapshot) (tickers : List Ticker) : List Ticker :=
  tickers.flatMap fun t => (s.membersOf? t).getD [t]

/-- Some index of a request is replaced by its constituents. -/
def expands (s : Snapshot) (tickers : List Ticker) : Bool :=
  tickers.any fun t => (s.membersOf? t).isSome

/-- Answers from the tables of a snapshot, inside the window only. -/
def fetcher {σ : Type} (s : Snapshot) : Fetcher σ := fun call state =>
  match s.table? call.ticker.symbol with
  | none =>
    ⟨.error (.sourceUnavailable call.ticker.symbol "not in the loaded snapshot"), [], state⟩
  | some table => ⟨.ok (table.within call.window.start call.window.stop), [], state⟩

def history {σ : Type} (s : Snapshot) (clock : MarketClock) (r : HistoryRequest) (state : σ) :
    Run σ (Except Failure History) :=
  let frequency := r.frequency?.getD s.frequency
  if frequency ≠ s.frequency then
    .stopped (.error (.unsupportedFrequency name frequency)) state
  else
    let requested := r.tickers.toList
    match checkKinds name kinds requested with
    | .error e => .stopped (.error e) state
    | .ok () =>
      match Window.ofRequest? clock r.start r.stop? frequency r.lookAhead with
      | none => .stopped (.fault .calendarRange) state
      | some window =>
        let plan := r.plan (s.expand requested) (r.tickers.isSingle && !s.expands requested) window
          frequency
        let fetch := if window.isEmpty then Fetcher.nothing else s.fetcher
        (plan.run fetch state).lift

def provider {σ : Type} (s : Snapshot) (clock : MarketClock) : Provider σ where
  name := name
  frequency := s.frequency
  kinds := kinds
  priceMap? := s.priceMap?
  history := s.history clock

def ofSettings (files : FileSystem) (env : Environment) (settings : ArchiveSettings) :
    Run Unit (Except Failure Snapshot) :=
  match ArchiveFolder.open? files (settings.folder env) with
  | .error e => .stopped (.error e) ()
  | .ok folder => load folder.archive settings

end Snapshot

end MarketBars
