import GameLog.Session

/-!
# A table of files

Surroundings that are a value: files and folders by their paths, where a file holds a text or a
store. Runs on them can be followed and compared.

Main statements:
* `file?_keepStore`: a store that was kept is the file at its path;
* `readText_run`: looking at a file changes nothing.
-/

namespace GameLog

open GameLog.Text

/-- What a file holds. -/
inductive Content
  | text (text : String)
  | store (store : Store)
deriving DecidableEq, Repr

/-- Files and folders by the parts of their paths. Every folder on the way to one is there too. -/
structure World where
  files : List (List String × Content)
  folders : List (List String)
deriving DecidableEq, Repr

namespace World

/-! ## Looking -/

/-- What the file at a path holds. -/
def file? (w : World) (path : List String) : Option Content :=
  (w.files.find? (·.1 == path)).map (·.2)

/-- Whether there is a folder at a path. -/
def isFolder (w : World) (path : List String) : Bool :=
  path.isEmpty || w.folders.any (path.isPrefixOf ·) ||
    w.files.any fun (file, _) => path.isPrefixOf file && path != file

/-- Why nothing is found at a path. -/
def absence (w : World) (path : List String) : String :=
  if (w.file? path).isSome then "Not a directory (os error 20)"
  else if w.isFolder path then "Is a directory (os error 21)"
  else "No such file or directory (os error 2)"

/-- The path that segments lead to, one after another. Only folders are passed through. -/
def walk (w : World) (path : List String) : List String → Except String (List String)
  | [] => .ok path
  | segment :: rest =>
    if !w.isFolder path then .error (w.absence path)
    else if segment = "" || segment = "." then w.walk path rest
    else if segment = ".." then w.walk path.dropLast rest
    else w.walk (path ++ [segment]) rest

/-- The text of the file that a path as written leads to from a directory. -/
def read (w : World) (directory : List String) (path : String) : Except String String := do
  let segments := (path.toList.splitOn '/').map String.ofList
  let start := if startsWith path "/" then [] else directory
  let found ← w.walk start segments
  match w.file? found with
  | some (.text text) => .ok text
  | some (.store _) => .error "stream did not contain valid UTF-8"
  | none => .error (w.absence found)

/-! ## Stores -/

/-- The parts of an absolute path: nothing lies above the root. -/
def locate (path : AbsolutePath) : List String := path.parts.filter (· != "..")

/-- The folder of a path. -/
def folderOf (path : List String) : AbsolutePath := ⟨path.dropLast⟩

/-- The store at a path: an empty one where there is no file or an empty one. -/
def openStore (w : World) (path : AbsolutePath) : Except Failure Store :=
  let place := locate path
  let blocked := (List.range place.length).any fun n => (w.file? (place.take n)).isSome
  if blocked then
    .error ⟨["failed to create sqlite parent directory: " ++ (folderOf place).text]⟩
  else if w.isFolder place then .error ⟨["failed to open sqlite database: " ++ path.text]⟩
  else match w.file? place with
    | none => .ok .empty
    | some (.store store) => .ok store
    | some (.text text) =>
      if text = "" then .ok .empty
      else .error ⟨["failed to create sqlite schema", "file is not a database"]⟩

/-- The world with a store at a path. -/
def keepStore (w : World) (path : AbsolutePath) (store : Store) : World :=
  let place := locate path
  { w with files := (place, .store store) :: w.files.filter (·.1 != place) }

/-- The file at a path where a store was kept. -/
theorem file?_keepStore (w : World) (path : AbsolutePath) (store : Store) :
    (w.keepStore path store).file? (locate path) = some (.store store) := by
  simp [file?, keepStore]

/-! ## Surroundings -/

/-- A world as the surroundings of a run that is started in a directory. -/
def surroundings (directory : List String) : Surroundings (StateM World) where
  readText path := return (← get).read directory path
  openStore path := return (← get).openStore path
  keepStore path store := modify (·.keepStore path store)

/-- Looking at a file changes nothing. -/
theorem readText_run (directory : List String) (path : String) (w : World) :
    ((surroundings directory).readText path).run w = (w.read directory path, w) := rfl

end World

end GameLog
