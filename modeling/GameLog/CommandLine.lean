import GameLog.Catalog.Kind
import GameLog.Text.Numeral

/-!
# The command line

The words behind the name of the program: options that every command takes, a command, and what that
command takes. An option is given its value behind an equals sign or by the next word. The commands
that ask queries take all words from their first term on as terms; for the others a word of its own
`--` ends the options.

A value is looked at once the next option, the next term or the end is reached, so that of two
faults an unknown option is reported before a bad value in front of it.

Main statements:
* `settle_repeated`: an option that is given twice is a fault, whatever its values;
* `readOperands_rest`: behind `--` a query takes every word as a term.
-/

namespace GameLog

open GameLog.Text

/-! ## Commands -/

/-- What the program is asked to do. -/
inductive Request
  /-- Answer a query about a context, with the seed of random picks if one is given. -/
  | query (context : Context) (seed : Option Nat) (terms : List String)
  /-- Show the catalog, or the form of its document. -/
  | catalog (schema : Bool)
  /-- Declare the tables. -/
  | init
  /-- Load records from a file into a table of a game type. -/
  | load (input : String) (milestones : Bool) (game : Option String)
deriving DecidableEq, Repr

/-- The options that every command takes. -/
structure Overrides where
  home : Option String
  work : Option String
  database : Option String
  catalog : Option String
  nick : Option String
deriving DecidableEq, Repr

/-- A command line that was read. -/
structure CommandLine where
  request : Request
  overrides : Overrides
deriving DecidableEq, Repr

/-- Why a command line asks for nothing that can be done, or asks only for information. -/
inductive UsageError
  | help
  | version
  | nothingGiven
  | missingCommand
  | unknownCommand (name : String)
  | unknownArgument (text : String)
  | repeated (option : String)
  | missingValue (option : String)
  | badValue (option value : String)
  | unexpectedValue (option : String)
  | missingOperand
deriving DecidableEq, Repr

/-- The text of an error. -/
def UsageError.message : UsageError → String
  | help => "help is asked for"
  | version => "the version is asked for"
  | nothingGiven => "nothing is asked for"
  | missingCommand => "a command is missing"
  | unknownCommand name => "unrecognized subcommand '" ++ name ++ "'"
  | unknownArgument text => "unexpected argument '" ++ text ++ "' found"
  | repeated option => "the argument '" ++ option ++ "' cannot be used multiple times"
  | missingValue option => "a value is required for '" ++ option ++ "' but none was supplied"
  | badValue option value => "invalid value '" ++ value ++ "' for '" ++ option ++ "'"
  | unexpectedValue option => "no value is expected for '" ++ option ++ "'"
  | missingOperand => "the required argument PATH was not provided"

/-! ## Options given so far -/

/-- Options with their values, and the last one as long as its value is not looked at. -/
structure Gathered where
  settled : List (String × String)
  pending : Option (String × Option String)
deriving DecidableEq, Repr

/-- The name under which the operand of a command is kept. -/
def operandName : String := "PATH"

/-- The options whose values are paths, which are never empty. -/
def pathOptions : List String := ["home-dir", "cwd", "db", "catalog", operandName]

/-- The option whose value is a number. -/
def seedOption : String := "seed"

/-- The fault of a value of an option. -/
def valueFault? (option value : String) : Option UsageError :=
  if pathOptions.contains option && value == "" then some (.missingValue option)
  else if option = seedOption && (readWord? value).isNone then some (.badValue option value)
  else none

namespace Gathered

/-- Nothing given. -/
def none : Gathered := ⟨[], Option.none⟩

/-- The value of an option. -/
def value? (g : Gathered) (option : String) : Option String :=
  (g.settled.find? (·.1 == option)).map (·.2)

/-- Whether an option stands without its value. -/
def isWaiting (g : Gathered) : Bool := g.pending.any (·.2.isNone)

/-- Whether an option is given. -/
def has (g : Gathered) (option : String) : Bool :=
  g.settled.any (·.1 == option) || g.pending.any (·.1 == option)

/-- An option that is added, if it is given once and its value is as it should be. -/
def add (g : Gathered) (option value : String) : Except UsageError Gathered :=
  if g.settled.any (·.1 == option) then .error (.repeated option)
  else match valueFault? option value with
    | some fault => .error fault
    | Option.none => .ok ⟨g.settled ++ [(option, value)], Option.none⟩

/-- What is given, with the last value looked at. -/
def settle (g : Gathered) : Except UsageError Gathered :=
  match g.pending with
  | Option.none => .ok g
  | some (option, Option.none) => .error (.missingValue option)
  | some (option, some value) => g.add option value

/-- What is given, with an option whose value is not looked at. -/
def expect (g : Gathered) (option : String) (value : Option String) : Gathered :=
  ⟨g.settled, some (option, value)⟩

/-- What is given, with a word as the value that is waited for. -/
def give (g : Gathered) (word : String) : Gathered :=
  ⟨g.settled, g.pending.map fun (option, _) => (option, some word)⟩

/-- An option that is given twice is a fault, whatever its values. -/
theorem settle_repeated {g : Gathered} {option value : String}
    (h : g.pending = some (option, some value)) (h' : g.settled.any (·.1 == option) = true) :
    g.settle = .error (.repeated option) := by
  simp only [settle, h, add, h', if_true]

end Gathered

/-! ## Words -/

/-- The name of a long option and the value behind an equals sign. -/
def longOption? (word : String) : Option (String × Option String) :=
  match word.toList with
  | '-' :: '-' :: c :: cs =>
    match splitFirst '=' (c :: cs) with
    | some (name, value) => some (String.ofList name, some (String.ofList value))
    | none => some (String.ofList (c :: cs), none)
  | _ => none

/-- The letters of short options. -/
def shortOptions? (word : String) : Option (List Char) :=
  match word.toList with
  | '-' :: c :: cs => if c = '-' then none else some (c :: cs)
  | _ => none

/-! ## Levels -/

/-- What a command takes besides options: nothing, one word, or all words from the first one on. -/
inductive Operands
  | none
  | one
  | rest
deriving DecidableEq, Repr

/-- What may be given in front of the command, or behind it. -/
structure Level where
  valued : List String
  flags : List String
  operands : Operands
  commands : List String
deriving DecidableEq, Repr

/-- The options that every command takes. -/
def commonOptions : List String := ["home-dir", "cwd", "db", "catalog", "nick"]

/-- The names of the commands. -/
def commandNames : List String := ["lg", "lm", "catalog", "init", "load", "help"]

/-- What may be given in front of the command. -/
def outerLevel : Level := ⟨commonOptions, ["help", "version"], .none, commandNames⟩

/-- What may be given behind a command that asks queries. -/
def queryLevel : Level := ⟨seedOption :: commonOptions, ["help"], .rest, []⟩

/-- What may be given behind the command that shows the catalog. -/
def catalogLevel : Level := ⟨commonOptions, ["schema", "help"], .none, []⟩

/-- What may be given behind the command that declares the tables. -/
def initLevel : Level := ⟨commonOptions, ["help"], .none, []⟩

/-- What may be given behind the command that loads records. -/
def loadLevel : Level := ⟨"game" :: commonOptions, ["milestones", "help"], .one, []⟩

/-- What was read on a level: the options and the terms, or the options in front of a command and
the words behind it. -/
inductive Reading
  | done (given : Gathered) (terms : List String)
  | command (given : Gathered) (name : String) (rest : List String)
deriving DecidableEq, Repr

namespace Level

/-- The letter of the flag that is given by a letter too. -/
def flagOf? (l : Level) (letter : Char) : Option String :=
  if letter = 'h' then some "help"
  else if letter = 'V' && l.flags.contains "version" then some "version"
  else none

/-- A flag that is given: two of them end the reading. -/
def addFlag (g : Gathered) (flag : String) : Except UsageError Gathered := do
  let g ← g.settle
  if flag = "help" then throw .help
  if flag = "version" then throw .version
  g.add flag ""

/-- The fault of a word that a level has no use for. -/
def refusal (l : Level) (word : String) : UsageError :=
  if l.commands.isEmpty then .unknownArgument word else .unknownCommand word

/-- The words behind `--`. -/
def readOperands (l : Level) (g : Gathered) : List String → Except UsageError Reading
  | [] => .ok (.done g [])
  | word :: rest =>
    match l.operands with
    | .rest => do return .done (← g.settle) (word :: rest)
    | .one =>
      if g.has operandName then .error (.unknownArgument word)
      else do
        let g ← g.settle
        if let next :: _ := rest then throw (.unknownArgument next)
        return .done (g.expect operandName (some word)) []
    | .none => .error (if l.commands.contains word then .unknownArgument word else l.refusal word)

/-- The words of a level. -/
def read (l : Level) (g : Gathered) : List String → Except UsageError Reading
  | [] => .ok (.done g [])
  | word :: rest =>
    let plain : Except UsageError Reading :=
      if g.isWaiting then l.read (g.give word) rest
      else match l.operands with
        | .rest => do return .done (← g.settle) (word :: rest)
        | .one =>
          if g.has operandName then .error (.unknownArgument word)
          else do l.read ((← g.settle).expect operandName (some word)) rest
        | .none => .error (l.refusal word)
    if !g.isWaiting && l.commands.contains word then .ok (.command g word rest)
    else if word = "--" then l.readOperands g rest
    else match longOption? word with
    | some (name, value) =>
      if l.valued.contains name then
        match value with
        | some value => do l.read (← (← g.settle).add name value) rest
        | none => do l.read ((← g.settle).expect name none) rest
      else if l.flags.contains name then
        if value.isSome then .error (.unexpectedValue name)
        else do l.read (← addFlag g name) rest
      else if l.operands = .rest then plain
      else .error (.unknownArgument word)
    | none =>
      match shortOptions? word with
      | none => plain
      | some letters =>
        if l.operands = .rest && letters.any (l.flagOf? · |>.isNone) then plain
        else match letters.head?.bind l.flagOf? with
          | some flag => do l.read (← addFlag g flag) rest
          | none => .error (.unknownArgument word)

/-- Behind `--` a query takes every word as a term. -/
theorem readOperands_rest {g : Gathered} (h : g.pending = none) (word : String)
    (rest : List String) :
    queryLevel.readOperands g (word :: rest) = .ok (.done g (word :: rest)) := by
  have hg : g.settle = .ok g := by simp [Gathered.settle, h]
  simp only [readOperands, queryLevel, hg]
  rfl

/-- The options and terms of the level of a command. -/
def readAll (l : Level) (words : List String) : Except UsageError (Gathered × List String) := do
  match ← l.read .none words with
  | .done g terms => return (← g.settle, terms)
  | .command _ name _ => throw (.unknownArgument name)

end Level

/-! ## Reading -/

/-- The request of a command and its options. -/
def readCommand (name : String) (words : List String) : Except UsageError (Request × Gathered) := do
  if name = "lg" || name = "lm" then
    let (g, terms) ← queryLevel.readAll words
    let context := if name = "lg" then Context.game else .milestone
    return (.query context ((g.value? seedOption).bind readWord?) terms, g)
  else if name = "catalog" then
    let (g, _) ← catalogLevel.readAll words
    return (.catalog (g.has "schema"), g)
  else if name = "init" then
    let (g, _) ← initLevel.readAll words
    return (.init, g)
  else
    let (g, _) ← loadLevel.readAll words
    let some input := g.value? operandName | throw .missingOperand
    return (.load input (g.has "milestones") (g.value? "game"), g)

/-- What asking for help on words comes to. -/
def helpOn : List String → UsageError
  | [] => .help
  | [name] => if commandNames.contains name then .help else .unknownCommand name
  | name :: next :: _ => .unknownCommand (if commandNames.contains name then next else name)

/-- The options behind a command, or else those in front of it. -/
def overridesOf (inner outer : Gathered) : Overrides :=
  let value? (option : String) := (inner.value? option).or (outer.value? option)
  ⟨value? "home-dir", value? "cwd", value? "db", value? "catalog", value? "nick"⟩

/-- The command line of words. -/
def CommandLine.read (words : List String) : Except UsageError CommandLine := do
  match ← outerLevel.read .none words with
  | .done g _ =>
    let g ← g.settle
    throw (if g.settled.isEmpty then .nothingGiven else .missingCommand)
  | .command g name rest =>
    if name = "help" then throw (helpOn rest)
    let (request, inner) ← readCommand name rest
    return ⟨request, overridesOf inner (← g.settle)⟩

end GameLog
