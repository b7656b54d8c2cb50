import GameLog.Store.Lexeme

/-!
# Phrases of declarations

A declaration is a row of pieces: single parts, and groups of parts in brackets. A phrase says which
pieces follow one another. What is declared about a column or a table beyond names and types is
written in phrases, one behind another. Expressions in brackets are not looked into.

Main statements:
* `pieces_of_forall`: parts without brackets are pieces by themselves;
* `piecesIn_group`: what stands in brackets is one piece;
* `items_intercalate`: lists with commas between them are the items.
-/

namespace GameLog.Store

open GameLog.Text

/-! ## Parts as names -/

namespace Lexeme

/-- The word of a part in lower case, if it is one. -/
def key? : Lexeme → Option String
  | word text => some (lower text)
  | _ => none

/-- Whether a part is one of some words. -/
def isKey (words : List String) (l : Lexeme) : Bool := l.key?.any words.contains

/-- The name that a part is where a name is expected. -/
def name? : Lexeme → Option String
  | word text => if reservedWords.contains (lower text) then none else some text
  | quoted name => some name
  | literal text => some text
  | _ => none

/-- The name of a column that a part is where a value is expected. -/
def columnName? : Lexeme → Option String
  | literal _ => none
  | l => if l.isKey valueWords then none else l.name?

/-- Whether a part may stand in a type. -/
def isTyping (l : Lexeme) : Bool := l.name?.isSome && !l.isKey untypedWords

/-- The text of a part of a type, in lower case. -/
def typeText : Lexeme → String
  | word text => lower text
  | quoted text => lower text
  | literal text => lower text
  | _ => ""

/-- Whether a part is a value by itself. -/
def isConstant : Lexeme → Bool
  | word text => constantWords.contains (lower text)
  | literal _ => true
  | number => true
  | bytes => true
  | _ => false

/-- Whether a part is a name that may stand for a value. -/
def isTitle : Lexeme → Bool
  | word text => !(reservedWords ++ joinWords).contains (lower text)
  | quoted _ => true
  | _ => false

end Lexeme

/-! ## Pieces -/

/-- A piece of a declaration: a part, or the parts in brackets. -/
inductive Piece
  | one (l : Lexeme)
  | group (inside : List Lexeme)
deriving DecidableEq, Repr

namespace Piece

/-- Whether a piece is one of some words. -/
def isKey (words : List String) : Piece → Bool
  | one l => l.isKey words
  | group _ => false

/-- Whether a piece may stand in a type. -/
def isTyping : Piece → Bool
  | one l => l.isTyping
  | group _ => false

/-- The text of a piece of a type, in lower case. -/
def typeText : Piece → String
  | one l => l.typeText
  | group _ => ""

end Piece

/-- The pieces of parts behind those done, at a depth of open brackets with what is inside so far,
last first. -/
def piecesIn (done : List Piece) (inside : List Lexeme) (depth : Nat) :
    List Lexeme → Option (List Piece)
  | [] => if depth = 0 then some done.reverse else none
  | l :: rest =>
    if l = .broken then none
    else if depth = 0 then
      if l = .mark '(' then piecesIn done [] 1 rest
      else if l = .mark ')' then none
      else piecesIn (.one l :: done) [] 0 rest
    else if l = .mark '(' then piecesIn done (l :: inside) (depth + 1) rest
    else if l = .mark ')' then
      if depth = 1 then piecesIn (.group inside.reverse :: done) [] 0 rest
      else piecesIn done (l :: inside) (depth - 1) rest
    else piecesIn done (l :: inside) depth rest

/-- The pieces of parts, if all brackets are closed and no part is broken. -/
def pieces (parts : List Lexeme) : Option (List Piece) := piecesIn [] [] 0 parts

/-- The items of a list in brackets: what stands between its commas. -/
def items (inside : List Lexeme) : Option (List (List Piece)) :=
  (pieces inside).map (·.splitOnP (· == .one (.mark ',')))

/-! ## Phrases -/

/-- A place in a phrase, and what may stand there. -/
inductive Slot
  | key (words : List String)
  | name
  | title
  | sign
  | constant
  | group
deriving DecidableEq, Repr

/-- Whether a piece may stand in a place. -/
def Slot.fits : Slot → Piece → Bool
  | key words, .one l => l.isKey words
  | name, .one l => l.name?.isSome
  | title, .one l => l.isTitle
  | sign, .one l => l == .mark '+' || l == .mark '-'
  | constant, .one l => l.isConstant
  | group, .group inside => !inside.isEmpty
  | _, _ => false

/-- The places of a phrase in their order. -/
abbrev Phrase := List Slot

/-- What stands behind a phrase, if the pieces start with it. -/
def behind : Phrase → List Piece → Option (List Piece)
  | [], ps => some ps
  | _ :: _, [] => none
  | s :: ss, p :: ps => if s.fits p then behind ss ps else none

/-- Whether pieces are phrases of a list, at most so many. -/
def inPhrases (phrases : List Phrase) : Nat → List Piece → Bool
  | _, [] => true
  | 0, _ :: _ => false
  | n + 1, ps => phrases.any fun phrase => (behind phrase ps).any (inPhrases phrases n)

/-- Whether pieces are phrases of a list, one behind another. -/
def madeOf (phrases : List Phrase) (ps : List Piece) : Bool := inPhrases phrases ps.length ps

/-- Each of some phrases followed by each of others. -/
def followedBy (heads tails : List Phrase) : List Phrase :=
  heads.flatMap fun head => tails.map (head ++ ·)

/-- Each of some phrases, or nothing. -/
def orNothing (phrases : List Phrase) : List Phrase := [] :: phrases

/-! ## What is declared of columns and tables -/

/-- A name for what follows. -/
def namingPhrase : Phrase := [.key ["constraint"], .name]

/-- What is done if a row breaks a rule. -/
def conflictPhrases : List Phrase :=
  orNothing [[.key ["on"], .key ["conflict"],
    .key ["abort", "fail", "ignore", "replace", "rollback"]]]

/-- When a rule is checked. -/
def deferralPhrases : List Phrase :=
  followedBy [[.key ["deferrable"]], [.key ["not"], .key ["deferrable"]]]
    (orNothing [[.key ["initially"], .key ["deferred", "immediate"]]])

/-- What is done if a row that is referred to changes. -/
def actionPhrases : List Phrase :=
  [.key ["match"], .name] ::
  followedBy [[.key ["on"], .key ["delete", "insert", "update"]]]
    [[.key ["cascade", "restrict"]], [.key ["no"], .key ["action"]],
      [.key ["set"], .key ["default", "null"]]]

/-- Which rows of other tables are referred to. -/
def referencePhrases : List Phrase :=
  followedBy (followedBy (followedBy [[.key ["references"], .name]] (orNothing [[.group]]))
    (orNothing actionPhrases)) (orNothing actionPhrases)

/-- What may be declared of a column. -/
def columnPhrases : List Phrase :=
  [namingPhrase, [.key ["default"], .group], [.key ["default"], .title],
    [.key ["default"], .constant], [.key ["default"], .sign, .constant], [.key ["check"], .group],
    [.key ["collate"], .key ["binary", "nocase", "rtrim"]]] ++
  followedBy [[.key ["null"]], [.key ["not"], .key ["null"]], [.key ["unique"]]] conflictPhrases ++
  followedBy (followedBy (followedBy [[.key ["primary"], .key ["key"]]]
    (orNothing [[.key ["asc", "desc"]]])) conflictPhrases) (orNothing [[.key ["autoincrement"]]]) ++
  referencePhrases ++ deferralPhrases ++
  followedBy (followedBy [[], [.key ["generated"], .key ["always"]]] [[.key ["as"], .group]])
    (orNothing [[.key ["stored", "virtual"]]])

/-- What may be declared of a table. -/
def tablePhrases : List Phrase :=
  namingPhrase ::
  followedBy [[.key ["primary"], .key ["key"], .group], [.key ["unique"], .group],
    [.key ["check"], .group]] conflictPhrases ++
  followedBy (followedBy [[.key ["foreign"], .key ["key"], .group]] referencePhrases)
    (orNothing deferralPhrases)

/-! ## Sizes -/

/-- Whether parts are a number with or without a sign. -/
def isSigned : List Lexeme → Bool
  | [.number] => true
  | [.mark c, .number] => c == '+' || c == '-'
  | _ => false

/-- Whether parts are the size of a type: one number or two. -/
def isSize (inside : List Lexeme) : Bool :=
  let numbers := inside.splitOnP (· == .mark ',')
  numbers.length ≤ 2 && numbers.all isSigned

/-- What stands behind the words of a type, where a size may follow. -/
def behindSize : List Piece → Option (List Piece)
  | .group inside :: rest => if isSize inside then some rest else none
  | rest => some rest

/-! ## Laws -/

/-- Whether a part is no bracket and can be read. -/
def Lexeme.isFlat : Lexeme → Bool
  | mark c => c != '(' && c != ')'
  | broken => false
  | _ => true

theorem Lexeme.ne_of_isFlat {l : Lexeme} (h : l.isFlat = true) :
    l ≠ broken ∧ l ≠ mark '(' ∧ l ≠ mark ')' := by
  refine ⟨?_, ?_, ?_⟩ <;>
  · rintro rfl
    cases h

theorem piecesIn_cons {l : Lexeme} (h : l.isFlat = true) (done : List Piece) (rest : List Lexeme) :
    piecesIn done [] 0 (l :: rest) = piecesIn (.one l :: done) [] 0 rest := by
  obtain ⟨hb, ho, hc⟩ := Lexeme.ne_of_isFlat h
  rw [piecesIn, if_neg hb, if_pos rfl, if_neg ho, if_neg hc]

theorem piecesIn_inside {l : Lexeme} (h : l.isFlat = true) (done : List Piece)
    (inside rest : List Lexeme) :
    piecesIn done inside 1 (l :: rest) = piecesIn done (l :: inside) 1 rest := by
  obtain ⟨hb, ho, hc⟩ := Lexeme.ne_of_isFlat h
  rw [piecesIn, if_neg hb, if_neg Nat.one_ne_zero, if_neg ho, if_neg hc]

theorem piecesIn_append {parts : List Lexeme} (h : ∀ l ∈ parts, l.isFlat = true)
    (done : List Piece) (rest : List Lexeme) :
    piecesIn done [] 0 (parts ++ rest) =
      piecesIn ((parts.map Piece.one).reverse ++ done) [] 0 rest := by
  induction parts generalizing done with
  | nil => rfl
  | cons l parts ih =>
    rw [List.cons_append, piecesIn_cons (h l (by simp)), ih fun l hl => h l (by simp [hl])]
    simp

/-- What stands in brackets is a piece. -/
theorem piecesIn_group {inside : List Lexeme} (h : ∀ l ∈ inside, l.isFlat = true)
    (done : List Piece) (rest : List Lexeme) :
    piecesIn done [] 0 (.mark '(' :: inside ++ .mark ')' :: rest) =
      piecesIn (.group inside :: done) [] 0 rest := by
  have opened : ∀ before, piecesIn done before 1 (inside ++ .mark ')' :: rest) =
      piecesIn (.group (before.reverse ++ inside) :: done) [] 0 rest := by
    induction inside with
    | nil =>
      intro before
      rw [List.nil_append, List.append_nil]
      rfl
    | cons l inside ih =>
      intro before
      rw [List.cons_append, piecesIn_inside (h l (by simp)), ih fun l hl => h l (by simp [hl])]
      simp
  exact opened []

/-- Parts without brackets are pieces by themselves. -/
theorem pieces_of_forall {parts : List Lexeme} (h : ∀ l ∈ parts, l.isFlat = true) :
    pieces parts = some (parts.map .one) := by
  have := piecesIn_append h [] []
  rw [List.append_nil] at this
  rw [pieces, this, piecesIn, if_pos rfl, List.append_nil, List.reverse_reverse]

theorem isFlat_intercalate {lists : List (List Lexeme)}
    (h : ∀ list ∈ lists, ∀ l ∈ list, l.isFlat = true ∧ l ≠ .mark ',') :
    ∀ l ∈ List.intercalate [.mark ','] lists, l.isFlat = true :=
  forall_intercalate (fun _ hl => List.mem_singleton.1 hl ▸ rfl)
    fun list hlist l hl => (h list hlist l hl).1

/-- Lists of parts without brackets and commas are the items between commas. -/
theorem items_intercalate {lists : List (List Lexeme)} (hn : lists ≠ [])
    (h : ∀ list ∈ lists, ∀ l ∈ list, l.isFlat = true ∧ l ≠ .mark ',') :
    items (List.intercalate [.mark ','] lists) = some (lists.map (·.map .one)) := by
  have commas : (List.intercalate [Lexeme.mark ','] lists).map Piece.one =
      List.intercalate [.one (.mark ',')] (lists.map (·.map .one)) := by
    clear h hn
    induction lists with
    | nil => rfl
    | cons a lists ih =>
      cases lists with
      | nil => simp
      | cons b lists =>
        rw [List.intercalate_cons_cons, List.map_cons, List.map_cons, List.intercalate_cons_cons,
          List.map_append, List.map_append, ih]
        rfl
  rw [items, pieces_of_forall (isFlat_intercalate h), commas, Option.map_some,
    ← List.splitOn_eq_splitOnP, List.splitOn_intercalate]
  · simp only [List.mem_map, forall_exists_index, and_imp, forall_apply_eq_imp_iff₂, not_exists,
      not_and]
    intro list hlist l hl e
    exact (h list hlist l hl).2 (Piece.one.inj e)
  · simpa using hn

end GameLog.Store
