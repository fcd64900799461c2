import MarketBars.Http.DomainName
import MarketBars.Http.NumericHost
import MarketBars.Http.Percent

namespace MarketBars

inductive WebHost where
  | named (name : String)
  /-- A host with a number of 32 bits. -/
  | numbered (number : Nat)
  /-- A host with a number of eight words. -/
  | worded (words : List Nat)
  deriving DecidableEq, Repr

namespace WebHost

def text : WebHost → String
  | named name => name
  | numbered number => NumericHost.textOfNumber number
  | worded words => "[" ++ NumericHost.textOfWords words ++ "]"

/-- The host that a folded domain name stands for. What looks like a number in the last part of the name must
be the number of a host as a whole. -/
def ofName? (name : List Char) : Option WebHost :=
  if name.isEmpty then none
  else if NumericHost.endsInNumber name then (NumericHost.number? name).map numbered
  else some (named (String.ofList name))

/-- The host of a text. Words stand between brackets. -/
def ofText? (cs : List Char) : Option WebHost :=
  if cs.head? = some '[' then
    if cs.getLast? = some ']' then (NumericHost.words? (cs.drop 1).dropLast).map worded else none
  else do ofName? (← DomainName.toAscii? (← Percent.decode? cs))

end WebHost

end MarketBars
