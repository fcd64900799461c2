namespace MarketBars

structure FilePath where
  text : String
  deriving DecidableEq, Repr

namespace FilePath

def isAbsolute (p : FilePath) : Bool := p.text.startsWith "/"

/-- A path below another one, which an absolute path replaces. No second slash is written after one that is
there already. -/
def join (p : FilePath) (below : String) : FilePath :=
  if below.startsWith "/" || p.text.isEmpty then ⟨below⟩
  else if p.text.endsWith "/" then ⟨p.text ++ below⟩
  else ⟨p.text ++ "/" ++ below⟩

/-- The names that a path goes through. Only a folder can be followed by a slash, which is told by a
last name that stands for the folder itself. -/
def parts (p : FilePath) : List String :=
  let names := (p.text.splitOn "/").filter fun name => !name.isEmpty
  if p.text.endsWith "/" then names ++ ["."] else names

/-- The names from the root of the file system to the end of a path that starts in a folder. A name for
the folder above takes one step back. -/
def place (p : FilePath) (workingFolder : List String) : List String :=
  let start := if p.isAbsolute then [] else workingFolder
  p.parts.foldl (fun place name =>
    if name = "." then place
    else if name = ".." then place.dropLast
    else place ++ [name]) start

end FilePath

end MarketBars
