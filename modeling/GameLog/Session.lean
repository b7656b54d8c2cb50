import GameLog.Catalog.Builtin
import GameLog.Catalog.Form
import GameLog.CommandLine
import GameLog.Execute
import GameLog.Json.Printer
import GameLog.Paths
import GameLog.Store.Load
import GameLog.Store.Select

/-!
# One run of the program

A run reads its command line, settles its places, reads the catalog and opens the store there, and
then does what it is asked to do. It reaches files and stores only through its surroundings, so that
it runs in the world as well as on a table of files.

A run ends with 0 if it did what was asked, with 1 if something failed, with 2 if a query was
refused, with 64 if the command line was not understood, and with 134 if it was aborted.

Main statements:
* `code_outcome`: a run that ends in the error of a query ends with 2 exactly if that is a fault of
  the input;
* `run_usage`: a run whose command line is not understood touches nothing.
-/

namespace GameLog

open GameLog.Text

/-! ## Surroundings -/

/-- What a run may ask for: the text of a file by its path as written, the store at a path, which is
made if it is not there, and that a store is kept. -/
structure Surroundings (m : Type → Type) where
  readText : String → m (Except String String)
  openStore : AbsolutePath → m (Except Failure Store)
  keepStore : AbsolutePath → Store → m Unit

/-- What a run starts from: its words, the directory that it is started in, the variables that it is
given, and how random rows are picked. -/
structure Invocation where
  words : List String
  directory : String
  home : Option String
  nicks : List (Option String)
  pick : Option Nat → Pick

/-- How a run ends: its code, what it says, and what it says about a failure. -/
structure Outcome where
  code : Nat
  output : String
  diagnostics : String
deriving DecidableEq, Repr

/-! ## Errors -/

/-- Why a run does not do what it is asked to do. -/
inductive RunError
  | query (cause : QueryError)
  | failure (cause : Failure)
  | aborted
deriving DecidableEq, Repr

namespace RunError

/-- The error of a chain of messages, outermost first. -/
def ofMessages (messages : List String) : RunError := failure ⟨messages⟩

/-- The error of a load that fails. -/
def ofLoad : Fault LoadError → RunError
  | .refused cause => ofMessages cause.messages
  | .aborted => aborted

/-- The text of an error. -/
def text : RunError → String
  | query cause => cause.message
  | failure cause => cause.text
  | aborted => ""

/-- Whether a query was refused. -/
def isRefusal : RunError → Bool
  | query cause => cause.isInput
  | failure _ => false
  | aborted => false

end RunError

/-- The end of a run that did what it was asked to do. -/
def Outcome.done (reply : String) : Outcome := ⟨0, reply ++ "\n", ""⟩

/-- The end of a run with an error: a refused query is a reply. -/
def RunError.outcome (e : RunError) : Outcome :=
  if e = .aborted then ⟨134, "", ""⟩
  else if e.isRefusal then ⟨2, e.text ++ "\n", ""⟩
  else ⟨1, "", "listgame: " ++ e.text ++ "\n"⟩

/-- A run that ends in the error of a query ends with 2 exactly if that is a fault of the input. -/
theorem RunError.code_outcome (cause : QueryError) :
    (RunError.query cause).outcome.code = 2 ↔ cause.isInput = true := by
  by_cases h : cause.isInput = true <;> simp [outcome, isRefusal, h]

/-! ## Steps -/

/-- A computation of a run. -/
abbrev Running (m : Type → Type) (α : Type) := ExceptT RunError m α

variable {m : Type → Type} [Monad m]

/-- A step of a run, with its error. -/
def orFail {α ε : Type} (error : ε → RunError) (x : Except ε α) : Running m α :=
  ExceptT.mk (pure (x.mapError error))

/-- The places of a run. -/
def Invocation.places (inv : Invocation) (o : Overrides) : Except RunError Places := do
  let some home := o.home.or inv.home | throw (.ofMessages ["HOME is not set; pass --home-dir"])
  (resolvePlaces home (o.work.getD inv.directory) o.database o.catalog).mapError fun e =>
    .ofMessages [e.message]

/-- The catalog at a place, or the built-in one. -/
def readCatalog (w : Surroundings m) : Option AbsolutePath → Running m Catalog
  | none => pure .builtin
  | some path => do
    let text ← orFail (fun reason => .ofMessages ["failed to read catalog: " ++ path.text, reason])
      (← w.readText path.text)
    orFail (fun e => .ofMessages ["invalid catalog: " ++ path.text, e.message]) (Catalog.read text)

/-- The store at a place with the tables of a catalog. -/
def openDeclared (w : Surroundings m) (c : Catalog) (path : AbsolutePath) : Running m Store := do
  let store ← orFail .failure (← w.openStore path)
  let (error, store) := store.declareText c.schemaText
  w.keepStore path store
  match error with
  | none => return store
  | some e => throw (.ofMessages ["failed to create sqlite schema", e.message])

/-! ## Commands -/

/-- Answers a query. -/
def answerQuery (w : Surroundings m) (places : Places) (context : Context) (nick : String)
    (pick : Pick) (terms : List String) : Running m String := do
  let c ← readCatalog w places.catalog
  let store ← openDeclared w c places.database
  orFail .query ((execute store.driver c context nick (tokenize terms) pick).run []).1

/-- Shows the catalog, or the form of its document. -/
def showCatalog (w : Surroundings m) (places : Places) (schema : Bool) : Running m String := do
  if schema then return documentForm.pretty
  return (← readCatalog w places.catalog).toDocument.json.pretty

/-- Declares the tables. -/
def declareTables (w : Surroundings m) (places : Places) : Running m String := do
  let c ← readCatalog w places.catalog
  let _ ← openDeclared w c places.database
  return "init: schema ready db=" ++ places.database.text

/-- The game type that a word names, or the default one. -/
def chooseGame (c : Catalog) : Option String → Except RunError String
  | none => .ok c.defaultGame
  | some word => match c.gameType? word with
    | some game => .ok game
    | none => .error (.ofMessages ["unknown game type: " ++ word])

/-- Loads the records of a file. -/
def loadFile (w : Surroundings m) (places : Places) (input : String) (milestones : Bool)
    (game : Option String) : Running m String := do
  let c ← readCatalog w places.catalog
  let game ← orFail id (chooseGame c game)
  let context := if milestones then Context.milestone else .game
  let text ← orFail (fun reason => .ofMessages ["failed to read records: " ++ input, reason])
    (← w.readText input)
  let records ← orFail (fun e => .ofMessages ["invalid records file: " ++ input, e.message])
    (readRecords text)
  let store ← openDeclared w c places.database
  let (result, store) := (loadRecords c context game records).run store
  w.keepStore places.database store
  let written ← orFail .ofLoad result
  return "load: complete records=" ++ natText written ++ " table=" ++ c.tableName context game ++
    " db=" ++ places.database.text

/-- Does what a command line asks for. -/
def perform (w : Surroundings m) (inv : Invocation) (line : CommandLine) : Running m String := do
  let places ← orFail id (inv.places line.overrides)
  match line.request with
  | .query context seed terms =>
    answerQuery w places context (defaultActor (line.overrides.nick :: inv.nicks)) (inv.pick seed)
      terms
  | .catalog schema => showCatalog w places schema
  | .init => declareTables w places
  | .load input milestones game => loadFile w places input milestones game

/-! ## Runs -/

/-- What the program says about its use. -/
def helpText : String :=
  joinWith "\n"
    ["Query game and milestone logs with listgame shorthand", "",
      "Usage: listgame [OPTIONS] <COMMAND>", "",
      "Commands:",
      "  lg       Query finished games",
      "  lm       Query milestones",
      "  catalog  Show the catalog, or the form of its document with --schema",
      "  init     Declare the tables",
      "  load     Load records, one JSON object a line",
      "  help     Print this message", "",
      "Options:",
      "      --home-dir <PATH>",
      "      --cwd <PATH>",
      "      --db <PATH>",
      "      --catalog <PATH>",
      "      --nick <NAME>     Actor used when a query names none",
      "  -h, --help            Print help",
      "  -V, --version         Print version"]

/-- What the program says about its version. -/
def versionText : String := "listgame 0.1.0"

/-- The end of a run whose command line asks for nothing that can be done. -/
def UsageError.outcome : UsageError → Outcome
  | .help => .done helpText
  | .version => .done versionText
  | e => ⟨64, "", "error: " ++ e.message ++ "\n"⟩

/-- One run of the program. -/
def run (w : Surroundings m) (inv : Invocation) : m Outcome :=
  match CommandLine.read inv.words with
  | .error e => pure e.outcome
  | .ok line => do
    match ← (perform w inv line).run with
    | .ok reply => return .done reply
    | .error e => return e.outcome

/-- A run whose command line is not understood touches nothing. -/
theorem run_usage (w : Surroundings m) {inv : Invocation} {e : UsageError}
    (h : CommandLine.read inv.words = .error e) : run w inv = pure e.outcome := by
  simp [run, h]

end GameLog
