import MarketBars.DataError

namespace MarketBars

/-- The code, the output and the complaints of a program. -/
structure ProgramEnd where
  code : Nat
  output : String := ""
  complaint : String := ""
  deriving DecidableEq, Repr

namespace ProgramEnd

def ofFault : ProgramEnd where
  code := 101

/-- The end of a program that starts a provider and names it, or logs why it cannot. -/
def ofStart (name : String) : Except Failure Unit → ProgramEnd
  | .ok () => { code := 0, output := name ++ "\n" }
  | .error (.error e) => { code := 1, complaint := "ERROR " ++ e.message ++ "\n" }
  | .error (.fault _) => ofFault

end ProgramEnd

end MarketBars
