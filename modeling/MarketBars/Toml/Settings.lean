import MarketBars.Calendar.Pattern
import MarketBars.Files.Tree
import MarketBars.Settings
import MarketBars.Toml.Reader

/-!
# Settings from configuration texts

The settings that a configuration text describes. Keys that are not known are ignored, settings that
are not given have their defaults, and a value of the wrong kind makes the text as a whole unusable.

A record may also be written as a list of its values in their usual order, and a name from a fixed list
as a table with that name as its only key and an empty table for its value.
-/

namespace MarketBars

namespace Toml

/-- The values of a record by the names of its parts, in their order. -/
def record? (names : List String) : Toml → Option (List (Option Toml))
  | table entries => some (names.map fun n => entries.lookup n)
  | list items => some (names.zipIdx.map fun (_, i) => items[i]?)
  | _ => none

def text? : Toml → Option String
  | text s => some s
  | _ => none

def texts? : Toml → Option (List String)
  | list items => items.mapM text?
  | _ => none

/-- A whole number from zero up to a limit. -/
def nat? (limit : Nat) : Toml → Option Nat
  | integer i => if 0 ≤ i ∧ i ≤ limit then some i.toNat else none
  | _ => none

def date? (v : Toml) : Option Date := do
  (Date.read (← v.text?)).toOption

def time? (v : Toml) : Option TimeOfDay := do
  (TimeOfDay.read (← v.text?)).toOption

def name? : Toml → Option String
  | text s => some s
  | table [(s, table [])] => some s
  | table [(s, list [])] => some s
  | _ => none

def settingOr {α : Type} (default : α) (read : Toml → Option α) : Option Toml → Option α
  | none => some default
  | some v => read v

def setting? {α : Type} (read : Toml → Option α) : Option Toml → Option (Option α)
  | none => some none
  | some v => (read v).map some

/-- The price fields of the columns, in ascending order of the columns. -/
def fieldMap? : Toml → Option (List (String × PriceField))
  | table entries => do
    let fields ← entries.mapM fun (column, v) => do
      pure (column, ← PriceField.ofName? (← v.name?))
    pure (fields.mergeSort fun a b => decide (a.1 ≤ b.1))
  | _ => none

end Toml

def SessionTimes.ofToml? (v : Toml) : Option SessionTimes := do
  match ← v.record? ["open", "close"] with
  | [some opening, some closing] => pure ⟨← opening.time?, ← closing.time?⟩
  | _ => none

def ArchiveSettings.ofToml? (v : Toml) : Option ArchiveSettings := do
  let names := ["path", "region", "tickers", "indices", "fields", "field_map", "start", "end",
    "frequency"]
  match ← v.record? names with
  | [path, region, tickers, indices, fields, map, some start, some stop, frequency] =>
    let blank : ArchiveSettings := { start := ← start.date?, stop := ← stop.date? }
    pure { blank with
      path? := (← Toml.setting? Toml.text? path).map FilePath.mk
      region? := ← Toml.setting? Toml.text? region
      tickers := ← Toml.settingOr blank.tickers Toml.texts? tickers
      indices := ← Toml.settingOr blank.indices Toml.texts? indices
      fields := ← Toml.settingOr blank.fields Toml.texts? fields
      fieldMap := ← Toml.settingOr blank.fieldMap Toml.fieldMap? map
      frequency := ← Toml.settingOr blank.frequency Toml.text? frequency }
  | _ => none

def BrokerSettings.ofToml? (v : Toml) : Option BrokerSettings := do
  let names := ["base_url", "timeout_secs", "max_retries", "page_size", "default_frequency"]
  match ← v.record? names with
  | [some baseUrl, timeout, retries, pageSize, frequency] =>
    let blank : BrokerSettings := { baseUrl := ← baseUrl.text? }
    pure { blank with
      timeoutSeconds := ← Toml.settingOr blank.timeoutSeconds (Toml.nat? (twoTo 64 - 1)) timeout
      maxRetries := ← Toml.settingOr blank.maxRetries (Toml.nat? (twoTo 32 - 1)) retries
      pageSize := ← Toml.settingOr blank.pageSize (Toml.nat? (twoTo 64 - 1)) pageSize
      frequency := ← Toml.settingOr blank.frequency Toml.text? frequency }
  | _ => none

namespace Settings

def ofToml? (v : Toml) : Option Settings := do
  match ← v.record? ["sessions", "archive", "broker"] with
  | [sessions, archive, broker] =>
    pure {
      sessions := ← Toml.settingOr SessionTimes.usual SessionTimes.ofToml? sessions
      archive? := ← Toml.setting? ArchiveSettings.ofToml? archive
      broker? := ← Toml.setting? BrokerSettings.ofToml? broker }
  | _ => none

def ofText (s : String) : Except DataError Settings :=
  match (Toml.parse? s).bind ofToml? with
  | some settings => .ok settings
  | none => .error (.config "parse config TOML")

def ofFile (files : FileSystem) (path : FilePath) : Except DataError Settings :=
  match files.readText path with
  | .error e => .error (.config ("read " ++ path.text ++ ": " ++ e.message))
  | .ok text => ofText text

end Settings

end MarketBars
