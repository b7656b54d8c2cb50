import GameLog.SeededPick
import GameLog.Session
import GameLog.Store.File

/-!
# The program

The run of the program in the world: files are read and written, and the outcome is printed.
-/

namespace GameLog

/-- The outcome of reading or writing, with the text of what went wrong. -/
def attempt {α : Type} (x : IO α) : IO (Except String α) := do
  try
    return .ok (← x)
  catch e =>
    return .error (toString e)

/-- The text of a file, or nothing if there is none. -/
def readIfThere (path : String) : IO String := do
  try
    IO.FS.readFile path
  catch e =>
    match e with
    | .noFileOrDirectory .. => return ""
    | _ => throw e

/-- The store in a file, whose folder is made if it is not there. -/
def openStoreFile (path : AbsolutePath) : IO (Except Failure Store) := do
  let folder := (AbsolutePath.mk path.parts.dropLast).text
  match ← attempt (IO.FS.createDirAll folder) with
  | .error e => return .error ⟨["failed to create sqlite parent directory: " ++ folder, e]⟩
  | .ok _ =>
    match ← attempt (readIfThere path.text) with
    | .error e => return .error ⟨["failed to open sqlite database: " ++ path.text, e]⟩
    | .ok text =>
      match Store.ofFileText? text with
      | some store => return .ok store
      | none => return .error ⟨["failed to create sqlite schema", "file is not a database"]⟩

/-- The world as the surroundings of a run. -/
def worldly : Surroundings IO where
  readText path := attempt (IO.FS.readFile path)
  openStore := openStoreFile
  keepStore path store := IO.FS.writeFile path.text store.fileText

end GameLog

open GameLog

/-- Runs the program on its words. -/
def main (words : List String) : IO UInt32 := do
  let directory ← IO.currentDir
  let chance ← IO.rand 0 0x4000000000000000
  let outcome ← run worldly {
    words := words
    directory := directory.toString
    home := ← IO.getEnv "HOME"
    nicks := [← IO.getEnv "LISTGAME_NICK", ← IO.getEnv "USER"]
    pick := fun seed => seededPick (seed.getD chance) }
  IO.print outcome.output
  IO.eprint outcome.diagnostics
  return UInt32.ofNat outcome.code
