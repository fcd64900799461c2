import MarketBars.Distinct

namespace MarketBars

inductive SecurityKind where
  | stock
  | index
  | future
  | fx
  | crypto
  deriving DecidableEq, Repr, Inhabited

namespace SecurityKind

def all : List SecurityKind := [stock, index, future, fx, crypto]

/-- The name of a kind in data. -/
def name : SecurityKind → String
  | stock => "stock"
  | index => "index"
  | future => "future"
  | fx => "fx"
  | crypto => "crypto"

/-- The name of a kind in messages. -/
def title : SecurityKind → String
  | stock => "Stock"
  | index => "Index"
  | future => "Future"
  | fx => "Fx"
  | crypto => "Crypto"

def ofName? (s : String) : Option SecurityKind :=
  all.find? fun k => k.name == s

end SecurityKind

/-- A symbol with the kind of its security. -/
structure Ticker where
  symbol : String
  kind : SecurityKind
  deriving DecidableEq, Repr

namespace Ticker

def stock (symbol : String) : Ticker := ⟨symbol, .stock⟩

def index (symbol : String) : Ticker := ⟨symbol, .index⟩

/-- The same instrument: one symbol, whatever the kinds. -/
def same (a b : Ticker) : Bool := a.symbol == b.symbol

end Ticker

/-- The distinct instruments of a list, each as it first appears. -/
def distinctTickers (tickers : List Ticker) : List Ticker :=
  distinctBy Ticker.symbol tickers

end MarketBars
