import GameLog.Catalog.Builtin
import GameLog.Proofs.Query.ExtraColumns
import GameLog.Query.Basic

/-!
# Aliases through a request

The clauses of a request are read one behind the other, and one count of aliases goes through all of
them. A clause that is refused half-way keeps the numbers that it took. Behind its last underscore an
alias has its number, whatever underscores and digits its stem has, so that aliases of different numbers
differ (`number_eq_of_alias_eq`).

Main statements:
* `CountsUp`: the count of aliases is never turned back, also not by a failure;
* `Numbered.append`: aliases numbered behind others differ from them;
* `numbered_parseInTurn`: so they are numbered through any list of clauses;
* `aliases_distinct`: no two aliases of a request are alike.
-/

namespace GameLog

open GameLog.Text

/-! ## The number of an alias -/

/-- What stands behind the last one of a character is the same for lists that are. -/
theorem eq_of_append_cons_eq {α : Type} {c : α} {as bs cs ds : List α} (hcs : c ∉ cs) (hds : c ∉ ds)
    (h : as ++ c :: cs = bs ++ c :: ds) : cs = ds := by
  rcases List.append_eq_append_iff.mp h with ⟨rest, -, hrest⟩ | ⟨rest, -, hrest⟩
  · cases rest with
    | nil => exact (List.cons.inj hrest).2
    | cons first rest =>
      obtain ⟨-, hmore⟩ := List.cons.inj hrest
      exact absurd (by simp [hmore]) hcs
  · cases rest with
    | nil => exact (List.cons.inj hrest).2.symm
    | cons first rest =>
      obtain ⟨-, hmore⟩ := List.cons.inj hrest
      exact absurd (by simp [hmore]) hds

/-- **An alias has one number**, whatever its stem is. -/
theorem number_eq_of_alias_eq {stem stem' : String} {n m : Nat}
    (h : stem ++ "_" ++ natText n = stem' ++ "_" ++ natText m) : n = m := by
  have hlists : stem.toList ++ '_' :: (natText n).toList =
      stem'.toList ++ '_' :: (natText m).toList := by
    simpa [String.toList_append] using congrArg String.toList h
  have hdigits := eq_of_append_cons_eq (not_mem_natText rfl n) (not_mem_natText rfl m) hlists
  have hread := congrArg readDigits? hdigits
  rw [readDigits?_natText, readDigits?_natText] at hread
  exact Option.some.inj hread

/-- **Aliases are numbered between two counts**: each is a stem with a number behind the first count, up
to the second one, and no two are alike. -/
structure Numbered (n m : Nat) (names : List String) : Prop where
  le : n ≤ m
  numbered : ∀ name ∈ names, ∃ stem k, name = stem ++ "_" ++ natText k ∧ n < k ∧ k ≤ m
  nodup : names.Nodup

namespace Numbered

variable {n k m : Nat} {names names' : List String}

theorem nil (h : n ≤ m) : Numbered n m [] := ⟨h, by nofun, .nil⟩

theorem next (stem : String) (n : Nat) : Numbered n (n + 1) [stem ++ "_" ++ natText (n + 1)] where
  le := by omega
  numbered := by
    intro name hname
    obtain rfl := List.mem_singleton.mp hname
    exact ⟨stem, n + 1, rfl, by omega, by omega⟩
  nodup := by simp

/-- Aliases numbered behind others differ from them. -/
theorem append (h : Numbered n k names) (h' : Numbered k m names') :
    Numbered n m (names ++ names') where
  le := Nat.le_trans h.le h'.le
  numbered := by
    intro name hname
    rcases List.mem_append.mp hname with hname | hname
    · obtain ⟨stem, number, rfl, hlow, hhigh⟩ := h.numbered name hname
      exact ⟨stem, number, rfl, hlow, Nat.le_trans hhigh h'.le⟩
    · obtain ⟨stem, number, rfl, hlow, hhigh⟩ := h'.numbered name hname
      exact ⟨stem, number, rfl, Nat.lt_of_le_of_lt h.le hlow, hhigh⟩
  nodup := by
    refine List.nodup_append.mpr ⟨h.nodup, h'.nodup, fun name hname name' hname' heq => ?_⟩
    obtain ⟨stem, number, rfl, -, hhigh⟩ := h.numbered name hname
    obtain ⟨stem', number', rfl, hlow, -⟩ := h'.numbered name' hname'
    have hsame := number_eq_of_alias_eq heq
    omega

theorem countAlias_not_mem (h : Numbered n m names) : Query.countAlias ∉ names := by
  intro hname
  obtain ⟨stem, number, hcount, -⟩ := h.numbered _ hname
  have hunderscore : '_' ∈ Query.countAlias.toList := by
    rw [hcount]
    simp [String.toList_append]
  exact absurd hunderscore (by decide)

end Numbered

/-! ## The count of aliases -/

/-- **A computation counts up**: behind it no fewer aliases are counted than before, also if it fails. -/
def Naming.CountsUp {α : Type} (x : Naming α) : Prop := ∀ n, n ≤ (x.run n).2

namespace Naming.CountsUp

variable {α β : Type}

theorem pure (a : α) : CountsUp (Pure.pure a) := fun _ => Nat.le_refl _

theorem throw (e : QueryError) : CountsUp (MonadExcept.throw e : Naming α) := fun _ => Nat.le_refl _

theorem throw_bind (e : QueryError) (f : α → Naming β) :
    CountsUp ((MonadExcept.throw e : Naming α) >>= f) := fun _ => Nat.le_refl _

theorem liftM (x : Except QueryError α) : CountsUp (MonadLiftT.monadLift x : Naming α) := by
  intro n
  cases x <;> exact Nat.le_refl n

theorem bind {x : Naming α} {f : α → Naming β} (hx : x.CountsUp) (hf : ∀ a, (f a).CountsUp) :
    (x >>= f).CountsUp := by
  intro n
  have hfirst := hx n
  rw [Naming.run_bind]
  rcases hrun : x.run n with ⟨_ | a, k⟩
  · rw [hrun] at hfirst
    exact hfirst
  · rw [hrun] at hfirst
    exact Nat.le_trans hfirst (hf a k)

theorem mapM {f : α → Naming β} (hf : ∀ a, (f a).CountsUp) (as : List α) : (as.mapM f).CountsUp := by
  induction as with
  | nil => exact .pure []
  | cons a as ih =>
    rw [List.mapM_cons]
    exact (hf a).bind fun b => ih.bind fun bs => .pure (b :: bs)

end Naming.CountsUp

section Clauses

variable {s : Scope} {clause : String}

theorem countsUp_freshAlias (stem : String) : (freshAlias stem).CountsUp := by
  intro n
  rw [freshAlias_run]
  exact Nat.le_succ n

theorem countsUp_aggregateField (s : Scope) (clause : String) (direction : Direction)
    (function field : String) : (aggregateField s clause direction function field).CountsUp := by
  unfold aggregateField
  refine (Naming.CountsUp.liftM _).bind fun name => ?_
  dsimp only
  split
  · split
    · exact (Naming.CountsUp.liftM _).bind fun column =>
        (countsUp_freshAlias _).bind fun given => .pure _
    · exact .throw_bind _ _
  · exact .throw _

theorem countsUp_extraField (s : Scope) (clause : String) (item : ClauseItem) :
    (extraField s clause item).CountsUp := by
  unfold extraField
  split
  · exact countsUp_aggregateField s clause _ _ _
  · split
    · exact (countsUp_freshAlias "count").bind fun given => .pure _
    · exact (Naming.CountsUp.liftM _).bind fun name =>
        (Naming.CountsUp.liftM _).bind fun column => .pure _

theorem ExtraList.countsUp_parse (s : Scope) (clause : String) :
    (ExtraList.parse s clause).CountsUp := by
  unfold ExtraList.parse
  split
  · refine (Naming.CountsUp.mapM (countsUp_extraField s clause) _).bind fun fields => ?_
    dsimp only
    split
    · exact .pure _
    · exact .throw_bind _ _
  · exact .throw _

theorem countsUp_groupField (s : Scope) (clause : String) (before : List String) (item : ClauseItem) :
    (groupField s clause before item).CountsUp := by
  unfold groupField
  split
  · exact (countsUp_aggregateField s clause _ _ _).bind fun refused => .throw _
  · refine (Naming.CountsUp.liftM _).bind fun name => ?_
    dsimp only
    split
    · exact .throw_bind _ _
    · split
      · exact .pure _
      · exact .throw_bind _ _

theorem GroupList.countsUp_parse (s : Scope) (clause : String) :
    (GroupList.parse s clause).CountsUp := by
  unfold GroupList.parse
  split
  · exact (countsUp_groupField s clause _ _).bind fun first => .pure _
  · exact (countsUp_groupField s clause _ _).bind fun first =>
      (countsUp_groupField s clause _ _).bind fun second => .pure _
  · exact .throw _

/-! ## The aliases of a clause -/

/-- The aliases that columns are selected under. -/
def aliasesOf (fields : List ExtraField) : List String := fields.filterMap fun f => f.selected.asName

/-- The column of an item takes the next number, or none. -/
theorem numbered_extraField {item : ClauseItem} {n m : Nat} {f : ExtraField}
    (h : (extraField s clause item).run n = (.ok f, m)) : Numbered n m (aliasesOf [f]) := by
  unfold extraField at h
  split at h
  · obtain ⟨name, accepted, column, -, -, -, -, rfl, rfl⟩ := run_aggregateField_eq_ok.mp h
    exact .next _ n
  · split at h
    · rw [run_countField] at h
      cases h
      exact .next _ n
    · obtain ⟨name, column, -, -, rfl, rfl⟩ := run_plainField_eq_ok.mp h
      exact .nil (Nat.le_refl _)

/-- The columns of items are numbered in turn. -/
theorem numbered_mapM_extraField {items : List ClauseItem} {n m : Nat} {fields : List ExtraField}
    (h : (items.mapM (extraField s clause)).run n = (.ok fields, m)) :
    Numbered n m (aliasesOf fields) := by
  induction items generalizing n fields with
  | nil =>
    cases h
    exact .nil (Nat.le_refl _)
  | cons item items ih =>
    rw [List.mapM_cons] at h
    obtain ⟨first, k, hfirst, h⟩ := Naming.of_run_bind h
    obtain ⟨rest, k', hrest, h⟩ := Naming.of_run_bind h
    obtain ⟨rfl, rfl⟩ := Naming.run_pure_eq_ok.mp h
    have hnames : aliasesOf (first :: rest) = aliasesOf [first] ++ aliasesOf rest :=
      List.filterMap_append (l := [first])
    rw [hnames]
    exact (numbered_extraField hfirst).append (ih hrest)

theorem ExtraList.numbered_of_parse {n m : Nat} {l : ExtraList}
    (h : (ExtraList.parse s clause).run n = (.ok l, m)) : Numbered n m (aliasesOf l.fields) := by
  obtain ⟨items, -, hfields, -, -⟩ := ExtraList.run_parse_eq_ok.mp h
  exact numbered_mapM_extraField hfields

end Clauses

/-! ## The clauses of a request -/

/-- A clause of a request: for extra columns, or for groups. -/
inductive FieldClause
  | extra (text : String)
  | group (text : String)

/-- What a clause comes to. -/
inductive FieldAnswer
  | extra (list : ExtraList)
  | group (list : GroupList)

/-- What a clause comes to in a scope. -/
def FieldClause.parse (s : Scope) : FieldClause → Naming FieldAnswer
  | extra text => FieldAnswer.extra <$> ExtraList.parse s text
  | group text => FieldAnswer.group <$> GroupList.parse s text

/-- What clauses come to that are read one behind the other, each accepted or refused. -/
def parseInTurn (s : Scope) (clauses : List FieldClause) :
    StateM Nat (List (Except QueryError FieldAnswer)) :=
  clauses.mapM fun clause => (clause.parse s).run

/-- The aliases among what a clause came to. Groups have none, nor has a clause that was refused. -/
def answerAliases : Except QueryError FieldAnswer → List String
  | .ok (.extra list) => aliasesOf list.fields
  | .ok (.group _) => []
  | .error _ => []

theorem Naming.run_map {α β : Type} (f : α → β) (x : Naming α) (n : Nat) :
    (f <$> x).run n = match x.run n with
      | (.ok a, k) => (.ok (f a), k)
      | (.error e, k) => (.error e, k) := by
  rw [map_eq_pure_bind, Naming.run_bind]
  rcases x.run n with ⟨_ | a, k⟩ <;> rfl

theorem Naming.CountsUp.numbered_map {α : Type} {x : Naming α} (hx : x.CountsUp) (f : α → FieldAnswer)
    (h : ∀ n m a, x.run n = (.ok a, m) → Numbered n m (answerAliases (.ok (f a)))) (n : Nat) :
    Numbered n ((f <$> x).run n).2 (answerAliases ((f <$> x).run n).1) := by
  have hcounts := hx n
  rw [Naming.run_map]
  rcases hrun : x.run n with ⟨_ | a, m⟩
  · rw [hrun] at hcounts
    exact .nil hcounts
  · exact h n m a hrun

/-- **A clause numbers its aliases** from the count before it to that behind it, accepted or refused. -/
theorem FieldClause.numbered_parse (s : Scope) (clause : FieldClause) (n : Nat) :
    Numbered n ((clause.parse s).run n).2 (answerAliases ((clause.parse s).run n).1) := by
  cases clause with
  | extra text =>
    exact (ExtraList.countsUp_parse s text).numbered_map .extra
      (fun _ _ list hrun => ExtraList.numbered_of_parse hrun) n
  | group text =>
    have hcounts := GroupList.countsUp_parse s text
    refine hcounts.numbered_map .group (fun n m list hrun => ?_) n
    have hle := hcounts n
    rw [hrun] at hle
    exact .nil hle

theorem run_parseInTurn_cons (s : Scope) (clause : FieldClause) (clauses : List FieldClause) (n : Nat) :
    (parseInTurn s (clause :: clauses)).run n =
      (((clause.parse s).run n).1 :: ((parseInTurn s clauses).run ((clause.parse s).run n).2).1,
        ((parseInTurn s clauses).run ((clause.parse s).run n).2).2) := by
  unfold parseInTurn
  rw [List.mapM_cons]
  rfl

/-- **Clauses read in turn number their aliases in turn.** -/
theorem numbered_parseInTurn (s : Scope) (clauses : List FieldClause) (n : Nat) :
    Numbered n ((parseInTurn s clauses).run n).2
      (((parseInTurn s clauses).run n).1.flatMap answerAliases) := by
  induction clauses generalizing n with
  | nil => exact .nil (Nat.le_refl _)
  | cons clause clauses ih =>
    have hfirst := clause.numbered_parse s n
    have hrest := ih ((clause.parse s).run n).2
    rw [run_parseInTurn_cons, List.flatMap_cons]
    exact hfirst.append hrest

/-- **No two aliases of a request are alike**, and none is the name of the count: for every scope, and all
clauses that are read one behind the other, accepted or refused. Each is a stem with a number up to the
count of aliases, which 32 bits hold unless there are more. -/
theorem aliases_distinct (s : Scope) (clauses : List FieldClause) :
    let (answers, count) := (parseInTurn s clauses).run 0
    let names := answers.flatMap answerAliases
    names.Nodup ∧ Query.countAlias ∉ names ∧
      ∀ name ∈ names, ∃ stem number, name = stem ++ "_" ++ natText number ∧ 0 < number ∧
        number ≤ count := by
  have h := numbered_parseInTurn s clauses 0
  exact ⟨h.nodup, h.countAlias_not_mem, h.numbered⟩

/-- A clause that is refused half-way keeps the number that it took. -/
example : (((parseInTurn (defaultScope .builtin .game)
    [.extra "x=n", .extra "x=max(xl),god", .extra "x=avg(xl),n"]).run 0).1.flatMap answerAliases) =
      ["count_1", "avg_xl_3", "count_4"] := by
  decide +kernel

end GameLog
