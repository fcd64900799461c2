import MarketBars.Archive.Folder
import Mathlib.Data.String.Basic

/-!
# Walks along paths

A path is split at its slashes, one piece after the other, and its pieces that are not empty are the names
that it goes through. An absolute path is followed from the root, whatever folder the program works in.
-/

namespace MarketBars

namespace FilePath

/-- A slash is a single character, so splitting at the text of a slash is splitting at the character. -/
theorem splitOnAux_slash (s : String) (b i : String.Pos.Raw) (found : List String) :
    s.splitOnAux "/" b i 0 found = s.splitAux (· == '/') b i found := by
  have hget : (0 : String.Pos.Raw).get "/" = '/' := by decide
  have hend : ((0 : String.Pos.Raw).next "/").atEnd "/" = true := by decide
  induction b, i, found using String.splitAux.induct s (· == '/') with
  | case1 b i found h =>
    rw [String.splitOnAux, String.splitAux]
    simp only [h, if_true, dif_pos]
  | case2 b i found h _ hslash next ih =>
    -- The position after the slash, less the slash, is the position of the slash.
    have hback : (i.next s).unoffsetBy ((0 : String.Pos.Raw).next "/") = i := by
      have hchar : i.get s = '/' := by simpa using hslash
      have hone : ((0 : String.Pos.Raw).next "/").byteIdx = 1 := by decide
      ext
      rw [String.Pos.Raw.byteIdx_unoffsetBy, hone, String.Pos.Raw.next, hchar]
      rfl
    rw [String.splitOnAux, String.splitAux]
    simpa only [h, hget, hslash, hend, hback, if_true, if_false, dif_neg, not_false_iff,
      Bool.false_eq_true] using ih
  | case3 b i found h _ hslash ih =>
    have hback : i.unoffsetBy 0 = i := by simp
    rw [String.splitOnAux, String.splitAux]
    simpa only [h, hget, hslash, hback, if_false, dif_neg, not_false_iff, Bool.false_eq_true] using ih

theorem parts_eq (p : FilePath) :
    p.parts =
      let pieces := (p.text.toList.splitOnP (· == '/')).map String.ofList
      let names := pieces.filter fun name => !name.isEmpty
      if p.text.endsWith "/" then names ++ ["."] else names := by
  have hsplit : p.text.splitOn "/" = (p.text.toList.splitOnP (· == '/')).map String.ofList := by
    rw [← String.splitToList_of_valid]
    exact splitOnAux_slash p.text 0 0 []
  rw [parts, hsplit]

end FilePath

namespace FileSystem

/-- What some names lead to, one after the other from the root. -/
def follow (fs : FileSystem) (names : List String) : Except FileFault FileNode := do
  match ← names.foldlM step [fs.root] with
  | [] => throw .notFound
  | node :: _ => pure node

/-- An absolute path is followed from the root. -/
theorem find_of_isAbsolute (fs : FileSystem) {path : FilePath} (habsolute : path.isAbsolute = true)
    (hplain : Char.ofNat 0 ∉ path.text.toList) (hsize : path.text.utf8ByteSize ≤ maxPath) :
    fs.find path = fs.follow path.parts := by
  have hempty : path.text.isEmpty = false := by
    by_cases h : path.text.isEmpty = true
    · rw [FilePath.isAbsolute, String.isEmpty_iff.mp h] at habsolute
      exact absurd habsolute (by decide +kernel)
    · simpa using h
  unfold find
  rw [String.contains_char_eq]
  simp only [hplain, hempty, habsolute, Nat.not_lt.mpr hsize, if_true, if_false, decide_false,
    Bool.false_eq_true, List.nil_append]
  rfl

end FileSystem

namespace ArchiveFolder

variable {a : ArchiveFolder} {symbol field : String} {f : Frequency} {bytes : List UInt8}

theorem calendar_of_find {text : String} (hfind : a.files.find (a.calendarPath f) = .ok (.file bytes))
    (htext : FileSystem.textOf? bytes = some text) : a.calendar f = calendarOfText text := by
  have hread : a.files.readText (a.calendarPath f) = .ok text := by
    simp only [FileSystem.readText, FileSystem.read, hfind, htext, bind, Except.bind, pure,
      Except.pure]
  simp only [calendar, hread]

theorem feature_of_find {series : FeatureSeries}
    (hfind : a.files.find (a.featurePath symbol field f) = .ok (.file bytes))
    (hseries : FeatureSeries.decode bytes = .ok series) :
    a.feature symbol field f = .ok (some series) := by
  have hread : a.files.read (a.featurePath symbol field f) = .ok bytes := by
    simp only [FileSystem.read, hfind, bind, Except.bind, pure, Except.pure]
  have hholds : a.files.holds (a.featurePath symbol field f) = true := by
    rw [FileSystem.holds, hfind]
    rfl
  simp only [feature, hholds, hread, hseries, if_true]

theorem feature_of_find_error {e : FileFault}
    (hfind : a.files.find (a.featurePath symbol field f) = .error e) :
    a.feature symbol field f = .ok none := by
  have hholds : a.files.holds (a.featurePath symbol field f) = false := by
    rw [FileSystem.holds, hfind]
    rfl
  simp only [feature, hholds, Bool.false_eq_true, if_false]

/-- The files of an instrument in an archive at the root. -/
theorem find_closes (hroot : a.root = ⟨"/"⟩) :
    a.files.find (a.featurePath "A" "close" .daily) =
        a.files.follow ["features", "a", "close.day.bin"] ∧
      a.files.find (a.featurePath "A" "factor" .daily) =
        a.files.follow ["features", "a", "factor.day.bin"] := by
  have hclose : a.featurePath "A" "close" .daily = ⟨"/features/a/close.day.bin"⟩ := by
    rw [featurePath, hroot]
    decide +kernel
  have hfactor : a.featurePath "A" "factor" .daily = ⟨"/features/a/factor.day.bin"⟩ := by
    rw [featurePath, hroot]
    decide +kernel
  have hparts : FilePath.parts ⟨"/features/a/close.day.bin"⟩ = ["features", "a", "close.day.bin"] ∧
      FilePath.parts ⟨"/features/a/factor.day.bin"⟩ = ["features", "a", "factor.day.bin"] := by
    rw [FilePath.parts_eq, FilePath.parts_eq]
    decide +kernel
  rw [hclose, hfactor, ← hparts.1, ← hparts.2]
  constructor <;>
    exact FileSystem.find_of_isAbsolute _ (by decide +kernel) (by decide +kernel) (by decide +kernel)

end ArchiveFolder

end MarketBars
