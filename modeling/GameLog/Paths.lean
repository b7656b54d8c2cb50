import GameLog.Text.Basic

/-!
# Absolute paths

The places where a run keeps its data are given by the home directory, the working directory and
two overrides. A path that starts with `~` lies below the home directory; any other relative path
lies below the working directory. All are brought to a form without `.`, and without `..` but for one in
front, which a path leaves that climbs above the root an odd number of times.

Main statements:
* `resolveDots_append`: a path is resolved part by part;
* `ofParts_of_isNormal`: a path in normal form leads to itself.
-/

namespace GameLog

/-- An absolute path by its parts below the root. -/
structure AbsolutePath where
  parts : List String
deriving DecidableEq, Repr

/-- A path as written: whether it starts at the root, and its parts. -/
structure WrittenPath where
  text : String
  absolute : Bool
  parts : List String
deriving DecidableEq, Repr

/-- Why the places of a run are not settled. -/
inductive PathError
  | relativeHome (text : String)
  | relativeWork (text : String)
  | unknownHome (text : String)
deriving DecidableEq, Repr

/-- The text of an error. -/
def PathError.message : PathError → String
  | .relativeHome text => "home_dir must be absolute: " ++ text
  | .relativeWork text => "cwd must be absolute: " ++ text
  | .unknownHome text =>
    "unsupported home expansion syntax (only `~` and `~/...` are supported): " ++ text

/-! ## Reading paths -/

/-- The parts of a path text. Only a `.` in front of a relative path is kept. -/
def WrittenPath.ofText (text : String) : WrittenPath :=
  let segments := (text.toList.splitOn '/').map String.ofList
  let inner (s : String) := s != "" && s != "."
  match segments with
  | "" :: rest => ⟨text, !rest.isEmpty, rest.filter inner⟩
  | "." :: rest => ⟨text, false, "." :: rest.filter inner⟩
  | rest => ⟨text, false, rest.filter inner⟩

/-- The text of an absolute path. -/
def AbsolutePath.text (p : AbsolutePath) : String := "/" ++ Text.joinWith "/" p.parts

/-! ## Dots -/

/-- One part applied to the parts so far, innermost first: `.` stays and `..` climbs, and is kept
where there is nothing to climb from, like any part that a later `..` climbs from. -/
def resolveStep (stack : List String) (part : String) : List String :=
  if part = "." then stack
  else if part = ".." then match stack with
    | [] => [".."]
    | _ :: outer => outer
  else part :: stack

/-- The parts applied one after another to the parts so far, innermost first. -/
def resolveDots (stack parts : List String) : List String := parts.foldl resolveStep stack

/-- A path is resolved part by part. -/
theorem resolveDots_append (stack a b : List String) :
    resolveDots stack (a ++ b) = resolveDots (resolveDots stack a) b := by
  simp [resolveDots]

/-- The absolute path that parts below the root lead to. -/
def AbsolutePath.ofParts (parts : List String) : AbsolutePath := ⟨(resolveDots [] parts).reverse⟩

/-- Whether there are no dots among the parts of a path. -/
def AbsolutePath.isNormal (p : AbsolutePath) : Bool :=
  p.parts.all fun part => part != "." && part != ".."

theorem resolveDots_of_normal (stack : List String) {parts : List String}
    (h : ∀ part ∈ parts, part ≠ "." ∧ part ≠ "..") :
    resolveDots stack parts = parts.reverse ++ stack := by
  induction parts generalizing stack with
  | nil => rfl
  | cons part parts ih =>
    have hp := h part (by simp)
    have hs : resolveStep stack part = part :: stack := by simp [resolveStep, hp.1, hp.2]
    change resolveDots (resolveStep stack part) parts = _
    rw [hs, ih _ fun p hm => h p (by simp [hm])]
    simp

/-- A path in normal form leads to itself. -/
theorem AbsolutePath.ofParts_of_isNormal {p : AbsolutePath} (h : p.isNormal = true) :
    ofParts p.parts = p := by
  have hn : ∀ part ∈ p.parts, part ≠ "." ∧ part ≠ ".." := by simpa [isNormal] using h
  rw [ofParts, resolveDots_of_normal [] hn]
  simp

/-- The absolute path of parts below another. -/
def AbsolutePath.below (p : AbsolutePath) (parts : List String) : AbsolutePath :=
  .ofParts (p.parts ++ parts)

/-! ## The places of a run -/

/-- The places of a run. Without a catalog path the built-in catalog is used. -/
structure Places where
  home : AbsolutePath
  work : AbsolutePath
  database : AbsolutePath
  catalog : Option AbsolutePath
deriving DecidableEq, Repr

/-- Where the database lies below the home directory if nothing else is said. -/
def defaultDatabase : List String := [".listgame", "logfile.sqlite"]

/-- The absolute path that a user means. -/
def resolveUser (home work : AbsolutePath) (path : WrittenPath) : Except PathError AbsolutePath :=
  if path.absolute then .ok (.ofParts path.parts)
  else match path.parts with
    | first :: rest =>
      if first = "~" then .ok (home.below rest)
      else if Text.startsWith first "~" then .error (.unknownHome path.text)
      else .ok (work.below path.parts)
    | [] => .ok (work.below [])

/-- The places that directories and overrides lead to. -/
def resolvePlaces (home work : String) (database catalog : Option String) :
    Except PathError Places := do
  let writtenHome := WrittenPath.ofText home
  let writtenWork := WrittenPath.ofText work
  if !writtenHome.absolute then throw (.relativeHome home)
  if !writtenWork.absolute then throw (.relativeWork work)
  let home := AbsolutePath.ofParts writtenHome.parts
  let work := AbsolutePath.ofParts writtenWork.parts
  let database ← match database with
    | some text => resolveUser home work (.ofText text)
    | none => pure (home.below defaultDatabase)
  let catalog ← match catalog with
    | some text => (resolveUser home work (.ofText text)).map some
    | none => pure none
  return ⟨home, work, database, catalog⟩

/-! ## The default actor -/

/-- The actor of queries that name none: the first candidate that is not blank, else any actor. -/
def defaultActor (candidates : List (Option String)) : String :=
  ((candidates.filterMap id).map Text.trim).find? (· != "") |>.getD "*"

end GameLog
