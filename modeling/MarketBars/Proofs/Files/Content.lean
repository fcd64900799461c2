import MarketBars.Files.Tree

namespace MarketBars

namespace FileNode

mutual

/-- The tree with the contents of its files changed. -/
def mapFiles (change : List UInt8 → List UInt8) : FileNode → FileNode
  | file bytes => file (change bytes)
  | folder es => folder (mapEntries change es)

def mapEntries (change : List UInt8 → List UInt8) : List (String × FileNode) → List (String × FileNode)
  | [] => []
  | (name, node) :: rest => (name, mapFiles change node) :: mapEntries change rest

end

variable (change : List UInt8 → List UInt8)

theorem lookup_mapEntries (name : String) (es : List (String × FileNode)) :
    (mapEntries change es).lookup name = (es.lookup name).map (mapFiles change) := by
  induction es with
  | nil =>
    rw [mapEntries]
    rfl
  | cons e rest ih =>
    obtain ⟨n, node⟩ := e
    rw [mapEntries, List.lookup_cons, List.lookup_cons, ih]
    cases name == n <;> rfl

end FileNode

namespace FileSystem

variable (change : List UInt8 → List UInt8)

def mapFiles (fs : FileSystem) : FileSystem :=
  { fs with root := fs.root.mapFiles change }

theorem step_mapFiles (place : List FileNode) (name : String) :
    step (place.map (FileNode.mapFiles change)) name =
      (step place name).map (List.map (FileNode.mapFiles change)) := by
  cases place with
  | nil => rfl
  | cons node above =>
    cases node with
    | file bytes =>
      rw [List.map_cons, FileNode.mapFiles]
      rfl
    | folder es =>
      rw [List.map_cons, FileNode.mapFiles, step, step, List.isEmpty_map, FileNode.lookup_mapEntries]
      by_cases hhere : name = "."
      · rw [if_pos hhere, if_pos hhere, ← FileNode.mapFiles]
        rfl
      rw [if_neg hhere, if_neg hhere]
      by_cases habove : name = ".."
      · rw [if_pos habove, if_pos habove]
        cases above.isEmpty with
        | true =>
          rw [← FileNode.mapFiles]
          rfl
        | false => rfl
      rw [if_neg habove, if_neg habove]
      by_cases hlong : maxName < name.utf8ByteSize
      · rw [if_pos hlong, if_pos hlong]
        rfl
      rw [if_neg hlong, if_neg hlong]
      cases es.lookup name with
      | none => rfl
      | some node =>
        rw [← FileNode.mapFiles]
        rfl

theorem foldlM_step_mapFiles (names : List String) (place : List FileNode) :
    names.foldlM step (place.map (FileNode.mapFiles change)) =
      (names.foldlM step place).map (List.map (FileNode.mapFiles change)) := by
  induction names generalizing place with
  | nil => rfl
  | cons name rest ih =>
    rw [List.foldlM_cons, List.foldlM_cons, step_mapFiles]
    cases step place name with
    | error fault => rfl
    | ok next => exact ih next

/-- A path leads to the same place, with the changed contents. -/
theorem find_mapFiles (fs : FileSystem) (path : FilePath) :
    (fs.mapFiles change).find path = (fs.find path).map (FileNode.mapFiles change) := by
  have hfold : ∀ names : List String, names.foldlM step [(fs.mapFiles change).root] =
      (names.foldlM step [fs.root]).map (List.map (FileNode.mapFiles change)) :=
    fun names => foldlM_step_mapFiles change names [fs.root]
  have hfolder : (fs.mapFiles change).workingFolder = fs.workingFolder := rfl
  unfold find
  simp only [hfold, hfolder]
  by_cases hzero : path.text.contains (Char.ofNat 0) = true
  · rw [if_pos hzero, if_pos hzero]
    rfl
  rw [if_neg hzero, if_neg hzero]
  by_cases hempty : path.text.isEmpty = true
  · simp only [if_pos hempty]
    rfl
  simp only [if_neg hempty]
  by_cases hlong : maxPath < path.text.utf8ByteSize
  · simp only [if_pos hlong]
    rfl
  simp only [if_neg hlong]
  change (_ >>= _) = Except.map _ (_ >>= _)
  cases ((if path.isAbsolute = true then [] else fs.workingFolder) ++ path.parts).foldlM step
      [fs.root] with
  | error fault => rfl
  | ok place => cases place <;> rfl

/-- A file is read with its changed content. -/
theorem read_mapFiles (fs : FileSystem) (path : FilePath) :
    (fs.mapFiles change).read path = (fs.read path).map change := by
  rw [read, read, find_mapFiles]
  cases fs.find path with
  | error fault => rfl
  | ok node =>
    cases node with
    | file bytes => simp only [Except.map, bind, Except.bind, FileNode.mapFiles, pure, Except.pure]
    | folder es => simp only [Except.map, bind, Except.bind, FileNode.mapFiles, throw, throwThe,
        MonadExceptOf.throw]

theorem readText_mapFiles (fs : FileSystem) (path : FilePath) :
    (fs.mapFiles change).readText path = (fs.read path).bind fun bytes =>
      match textOf? (change bytes) with
      | some s => .ok s
      | none => .error .notText := by
  rw [readText, read_mapFiles]
  cases fs.read path with
  | error fault => rfl
  | ok bytes => rfl

end FileSystem

end MarketBars
