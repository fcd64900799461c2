import MarketBars.Files.Path

/-!
# Files and folders

The files that a program can see, as a tree. Reading a file fails for one of a few causes, each with
the wording of the operating system.
-/

namespace MarketBars

inductive FileNode where
  | file (bytes : List UInt8)
  | folder (entries : List (String × FileNode))

inductive FileFault where
  | notFound
  | notFolder
  | isFolder
  | nameTooLong
  | zeroInName
  | notText
  deriving DecidableEq, Repr

def FileFault.message : FileFault → String
  | notFound => "No such file or directory (os error 2)"
  | notFolder => "Not a directory (os error 20)"
  | isFolder => "Is a directory (os error 21)"
  | nameTooLong => "File name too long (os error 36)"
  | zeroInName => "file name contained an unexpected NUL byte"
  | notText => "stream did not contain valid UTF-8"

namespace FileNode

/-- The entries of a folder; a file has none. -/
def entries : FileNode → List (String × FileNode)
  | file _ => []
  | folder es => es

/-- The entries with one of them replaced or added. -/
def setEntry (name : String) (node : FileNode) :
    List (String × FileNode) → List (String × FileNode)
  | [] => [(name, node)]
  | (n, old) :: rest =>
    if n = name then (name, node) :: rest else (n, old) :: setEntry name node rest

/-- The tree with a node at the given names. Folders on the way are made; a folder that is there
already keeps its entries. -/
def put (node : FileNode) : List String → FileNode → FileNode
  | [], old =>
    match node with
    | file bytes => file bytes
    | folder [] => folder old.entries
    | folder es => folder es
  | name :: rest, old =>
    folder (setEntry name (put node rest ((old.entries.lookup name).getD (folder []))) old.entries)

end FileNode

structure FileSystem where
  root : FileNode
  workingFolder : List String

namespace FileSystem

/-- The longest name of a file, in bytes. -/
def maxName : Nat := 255

/-- The longest path, in bytes. -/
def maxPath : Nat := 4095

/-- One step down a path. The first node of the list is where the path has led to, the others are the
folders above it. -/
def step (place : List FileNode) (name : String) : Except FileFault (List FileNode) :=
  match place with
  | [] => .error .notFound
  | .file _ :: _ => .error .notFolder
  | .folder entries :: above =>
    if name = "." then .ok place
    else if name = ".." then .ok (if above.isEmpty then place else above)
    else if maxName < name.utf8ByteSize then .error .nameTooLong
    else
      match entries.lookup name with
      | none => .error .notFound
      | some node => .ok (node :: place)

def find (fs : FileSystem) (path : FilePath) : Except FileFault FileNode := do
  if path.text.contains (Char.ofNat 0) then throw .zeroInName
  if path.text.isEmpty then throw .notFound
  if maxPath < path.text.utf8ByteSize then throw .nameTooLong
  let start := if path.isAbsolute then [] else fs.workingFolder
  match ← (start ++ path.parts).foldlM step [fs.root] with
  | [] => throw .notFound
  | node :: _ => pure node

def holds (fs : FileSystem) (path : FilePath) : Bool :=
  (fs.find path).isOk

def isFolder (fs : FileSystem) (path : FilePath) : Bool :=
  match fs.find path with
  | .ok (.folder _) => true
  | _ => false

def read (fs : FileSystem) (path : FilePath) : Except FileFault (List UInt8) := do
  match ← fs.find path with
  | .file bytes => pure bytes
  | .folder _ => throw .isFolder

/-- The text of some bytes, if they are valid UTF-8. -/
def textOf? (bytes : List UInt8) : Option String :=
  String.fromUTF8? ⟨bytes.toArray⟩

def readText (fs : FileSystem) (path : FilePath) : Except FileFault String := do
  match textOf? (← fs.read path) with
  | some s => pure s
  | none => throw .notText

end FileSystem

end MarketBars
