import GameLog.Proofs.Query.Command

/-!
# Why commands are refused

A command is read before any store is asked. What is wrong with it then is a fault of its words: no
failure of a store, and no index beyond the rows, which are not counted yet. Each step of reading keeps
to this (`RefusedOnly`), and so does the whole (`refusedOnly_parse`).
-/

namespace GameLog

/-- **A failure is a refusal** if it is a fault of the input that shows without any row. -/
def QueryError.Refuses (e : QueryError) : Prop := e.isInput = true ∧ ∀ index, e ≠ .indexOutOfRange index

/-- A step that fails only by a refusal. -/
def RefusedOnly {α : Type} (x : Except QueryError α) : Prop := ∀ e, x = .error e → e.Refuses

/-- A step that gives out aliases and fails only by a refusal. -/
def Naming.RefusedOnly {α : Type} (x : Naming α) : Prop := ∀ n, GameLog.RefusedOnly (x.run n).1

/-! ## Steps put together -/

section

variable {α β : Type}

theorem refusedOnly_ok (a : α) : RefusedOnly (.ok a : Except QueryError α) := fun _ h => by cases h

theorem refusedOnly_error {e : QueryError} (h : e.Refuses) :
    RefusedOnly (.error e : Except QueryError α) := by
  rintro _ ⟨⟩
  exact h

theorem RefusedOnly.bind {x : Except QueryError α} {f : α → Except QueryError β}
    (hx : RefusedOnly x) (hf : ∀ a, RefusedOnly (f a)) : RefusedOnly (x >>= f) := by
  cases x with
  | error e => exact refusedOnly_error (hx e rfl)
  | ok a => exact hf a

theorem RefusedOnly.mapM {f : α → Except QueryError β} (hf : ∀ a, RefusedOnly (f a))
    (as : List α) : RefusedOnly (as.mapM f) := by
  induction as with
  | nil => exact refusedOnly_ok []
  | cons a as ih =>
    rw [List.mapM_cons]
    exact (hf a).bind fun b => ih.bind fun bs => refusedOnly_ok _

namespace Naming

theorem refusedOnly_pure (a : α) : RefusedOnly (pure a : Naming α) := fun _ => refusedOnly_ok a

theorem refusedOnly_throw {e : QueryError} (h : e.Refuses) :
    RefusedOnly (throw e : Naming α) := fun _ => refusedOnly_error h

theorem refusedOnly_throw_bind {e : QueryError} (h : e.Refuses) (f : α → Naming β) :
    RefusedOnly ((throw e : Naming α) >>= f) := fun _ => refusedOnly_error h

theorem refusedOnly_lift {x : Except QueryError α} (h : GameLog.RefusedOnly x) :
    RefusedOnly (liftM x : Naming α) := fun _ => by
  cases x with
  | error e => exact h
  | ok a => exact h

theorem RefusedOnly.bind {x : Naming α} {f : α → Naming β} (hx : x.RefusedOnly)
    (hf : ∀ a, (f a).RefusedOnly) : (x >>= f).RefusedOnly := by
  intro n
  rw [run_bind]
  rcases hrun : x.run n with ⟨_ | a, k⟩
  · exact refusedOnly_error (hx n _ (congrArg Prod.fst hrun))
  · exact hf a k

theorem RefusedOnly.mapM {f : α → Naming β} (hf : ∀ a, (f a).RefusedOnly) (as : List α) :
    RefusedOnly (as.mapM f) := by
  induction as with
  | nil => exact refusedOnly_pure []
  | cons a as ih =>
    rw [List.mapM_cons]
    exact (hf a).bind fun b => ih.bind fun bs => refusedOnly_pure _

end Naming

end

/-! ## Names -/

theorem refusedOnly_canonical (s : Scope) (raw : String) : RefusedOnly (s.canonical raw) := by
  unfold Scope.canonical
  split
  · exact refusedOnly_ok _
  · exact refusedOnly_error ⟨rfl, nofun⟩

theorem refusedOnly_column (s : Scope) (name : String) : RefusedOnly (s.column name) := by
  unfold Scope.column
  split
  · exact refusedOnly_ok _
  · exact refusedOnly_error ⟨rfl, nofun⟩

/-! ## Clauses -/

theorem refusedOnly_aggregateField (s : Scope) (clause : String) (direction : Direction)
    (function field : String) :
    (aggregateField s clause direction function field).RefusedOnly := by
  unfold aggregateField
  refine (Naming.refusedOnly_lift (refusedOnly_canonical s field)).bind fun field => ?_
  dsimp only
  split
  · rename_i accepted _
    split
    · refine (Naming.refusedOnly_lift (refusedOnly_column s field)).bind fun column => ?_
      exact Naming.RefusedOnly.bind (fun n => refusedOnly_ok _) fun name =>
        Naming.refusedOnly_pure _
    · exact Naming.refusedOnly_throw ⟨rfl, nofun⟩
  · exact Naming.refusedOnly_throw ⟨rfl, nofun⟩

theorem refusedOnly_extraField (s : Scope) (clause : String) (item : ClauseItem) :
    (extraField s clause item).RefusedOnly := by
  unfold extraField
  split
  · exact refusedOnly_aggregateField _ _ _ _ _
  · split
    · exact Naming.RefusedOnly.bind (fun n => refusedOnly_ok _) fun name =>
        Naming.refusedOnly_pure _
    · refine (Naming.refusedOnly_lift (refusedOnly_canonical s _)).bind fun field => ?_
      exact (Naming.refusedOnly_lift (refusedOnly_column s field)).bind fun column =>
        Naming.refusedOnly_pure _

theorem refusedOnly_parseExtra (s : Scope) (clause : String) :
    (ExtraList.parse s clause).RefusedOnly := by
  unfold ExtraList.parse
  split
  · refine (Naming.RefusedOnly.mapM (refusedOnly_extraField s clause) _).bind fun fields => ?_
    dsimp only
    split
    · exact Naming.refusedOnly_pure _
    · exact Naming.refusedOnly_throw ⟨rfl, nofun⟩
  · exact Naming.refusedOnly_throw ⟨rfl, nofun⟩

theorem refusedOnly_groupField (s : Scope) (clause : String) (before : List String)
    (item : ClauseItem) : (groupField s clause before item).RefusedOnly := by
  unfold groupField
  split
  · refine (refusedOnly_aggregateField _ _ _ _ _).bind fun refused => ?_
    refine Naming.refusedOnly_throw_bind ?_ _
    exact ⟨rfl, nofun⟩
  · refine (Naming.refusedOnly_lift (refusedOnly_canonical s _)).bind fun field => ?_
    dsimp only
    split
    · refine Naming.refusedOnly_throw_bind ?_ _
      exact ⟨rfl, nofun⟩
    · split
      · exact Naming.refusedOnly_pure _
      · refine Naming.refusedOnly_throw_bind ?_ _
        exact ⟨rfl, nofun⟩

theorem refusedOnly_parseGroups (s : Scope) (clause : String) :
    (GroupList.parse s clause).RefusedOnly := by
  unfold GroupList.parse
  split
  · exact (refusedOnly_groupField s clause _ _).bind fun first => Naming.refusedOnly_pure _
  · refine (refusedOnly_groupField s clause _ _).bind fun first => ?_
    exact (refusedOnly_groupField s clause _ _).bind fun second => Naming.refusedOnly_pure _
  · exact Naming.refusedOnly_throw ⟨rfl, nofun⟩

theorem refusedOnly_sortField (extra : ExtraList) (raw : String) :
    RefusedOnly (SortField.parse extra raw) := by
  unfold SortField.parse
  dsimp only
  split
  · exact refusedOnly_ok _
  · split
    · exact refusedOnly_ok _
    · exact refusedOnly_error ⟨rfl, nofun⟩

theorem refusedOnly_parseSorts (extra : ExtraList) (clause : String) :
    RefusedOnly (parseSorts extra clause) := by
  unfold parseSorts
  split
  · split
    · exact refusedOnly_error ⟨rfl, nofun⟩
    · exact RefusedOnly.mapM (fun item => (refusedOnly_sortField _ _).bind fun field =>
        refusedOnly_ok _) _
  · exact refusedOnly_error ⟨rfl, nofun⟩

theorem refusedOnly_onlyClause (clauses : List String) : RefusedOnly (onlyClause clauses) := by
  unfold onlyClause
  split
  · exact refusedOnly_ok _
  · exact refusedOnly_ok _
  · exact refusedOnly_error ⟨rfl, nofun⟩

theorem refusedOnly_readExtra (s : Scope) (clauses : List String) :
    RefusedOnly (readExtra s clauses) := by
  refine (refusedOnly_onlyClause _).bind fun clause => ?_
  cases clause with
  | none => exact refusedOnly_ok _
  | some clause => exact refusedOnly_parseExtra s clause 0

theorem refusedOnly_readCommand (s : Scope) (tokens : List String) :
    RefusedOnly (CommandWords.read s tokens) := by
  rw [CommandWords.read_eq]
  exact (refusedOnly_readExtra s _).bind fun extra =>
    (RefusedOnly.mapM (refusedOnly_parseSorts extra) _).bind fun sorts => refusedOnly_ok _

/-! ## Words of a query -/

theorem refusedOnly_readActor (default : String) (token : Option String) :
    RefusedOnly (Actor.read default token) := by
  unfold Actor.read
  split
  · exact refusedOnly_ok _
  · split
    · exact refusedOnly_ok _
    · dsimp only
      split
      · exact refusedOnly_error ⟨rfl, nofun⟩
      · exact refusedOnly_ok _

theorem refusedOnly_readIndex (token : String) : RefusedOnly (readIndex token) := by
  unfold readIndex
  dsimp only
  split
  · exact refusedOnly_ok _
  · exact refusedOnly_error ⟨rfl, nofun⟩

theorem refusedOnly_readQuery (c : Catalog) (context : Context) (defaultName : String)
    (tokens : List String) : RefusedOnly (QueryWords.read c context defaultName tokens) := by
  refine (refusedOnly_onlyClause _).bind fun clause => ?_
  refine RefusedOnly.bind ?_ fun group => ?_
  · cases clause with
    | none => exact refusedOnly_ok _
    | some clause => exact (refusedOnly_parseGroups _ clause 0).bind fun list => refusedOnly_ok _
  · refine (refusedOnly_readActor _ _).bind fun actor => ?_
    dsimp only
    split
    · exact (refusedOnly_readIndex _).bind fun index => refusedOnly_ok _
    · exact refusedOnly_ok _

/-! ## Building -/

theorem refusedOnly_start (s : Scope) (actor : Actor) (index : Int) (source : String) :
    RefusedOnly (Query.start s actor index source) := by
  refine (refusedOnly_column s _).bind fun column => ?_
  cases actor with
  | anyone => exact refusedOnly_ok _
  | named name => exact (refusedOnly_column s _).bind fun column => refusedOnly_ok _

theorem refusedOnly_readTerm (s : Scope) (token : String) : RefusedOnly (readTerm s token) := by
  unfold readTerm
  split
  · refine (refusedOnly_canonical s _).bind fun field => ?_
    refine (refusedOnly_column s field).bind fun column => ?_
    intro e he
    rw [Comparison.bind_error he]
    exact ⟨rfl, nofun⟩
  · exact refusedOnly_error ⟨rfl, nofun⟩

theorem refusedOnly_close (level : TermLevel) : RefusedOnly level.close := by
  unfold TermLevel.close
  split
  · exact refusedOnly_ok _
  · dsimp only
    split
    · exact refusedOnly_error ⟨rfl, nofun⟩
    · exact refusedOnly_ok _

/-- Reading terms is refused or goes on, token by token. -/
theorem refusedOnly_readTermsIn (s : Scope) (tokens : List String) :
    ∀ (level : TermLevel) (outer : List TermLevel),
      RefusedOnly (readTermsIn s level outer tokens) := by
  induction tokens with
  | nil =>
    intro level outer
    refine (refusedOnly_close level).bind fun condition => ?_
    split
    · exact refusedOnly_ok _
    · exact refusedOnly_error ⟨rfl, nofun⟩
  | cons token rest ih =>
    intro level outer
    rw [readTermsIn]
    split
    · exact ih _ _
    split
    · exact ih _ _
    split
    · refine (refusedOnly_close level).bind fun condition => ?_
      cases outer with
      | nil => exact refusedOnly_error ⟨rfl, nofun⟩
      | cons level outer => exact ih _ _
    · exact (refusedOnly_readTerm s token).bind fun comparison => ih _ _

theorem refusedOnly_addRowSorts (q : Query) (tokens : List String) :
    RefusedOnly (addRowSorts q tokens) := by
  unfold addRowSorts
  induction tokens.filterMap rowSort? generalizing q with
  | nil => exact refusedOnly_ok _
  | cons sort sorts ih =>
    rw [List.foldlM_cons]
    refine RefusedOnly.bind ?_ fun q => ih q
    refine (refusedOnly_canonical q.scope _).bind fun field => ?_
    exact (refusedOnly_column q.scope field).bind fun column => refusedOnly_ok _

theorem refusedOnly_addGroup (q : Query) (extra : ExtraList) (group : Option GroupList) :
    RefusedOnly (addGroup q extra group) := by
  unfold addGroup
  split
  · exact refusedOnly_ok _
  · split
    · exact refusedOnly_error ⟨rfl, nofun⟩
    · exact refusedOnly_ok _

theorem refusedOnly_buildQuery (c : Catalog) (context : Context) (defaultName : String)
    (extra : ExtraList) (tokens : List String) :
    RefusedOnly (buildQuery c context defaultName extra tokens) := by
  refine (refusedOnly_readQuery _ _ _ _).bind fun words => ?_
  refine (refusedOnly_start _ _ _ _).bind fun q => ?_
  refine (refusedOnly_readTermsIn _ _ _ _).bind fun condition => ?_
  refine (refusedOnly_addRowSorts _ _).bind fun q => ?_
  exact (refusedOnly_addGroup _ _ _).bind fun q => refusedOnly_ok _

/-! ## Whole commands -/

theorem refusedOnly_sharedSorts (w : CommandWords) : RefusedOnly w.sharedSorts := by
  unfold CommandWords.sharedSorts ratioSorts
  split
  · exact refusedOnly_ok _
  · split
    · exact refusedOnly_parseSorts _ _
    · exact refusedOnly_ok _

theorem refusedOnly_sharedExtra (w : CommandWords) (s : Scope) :
    RefusedOnly (w.sharedExtra s) := by
  unfold CommandWords.sharedExtra ratioExtra
  split
  · exact refusedOnly_ok _
  · split
    · exact refusedOnly_parseExtra s _ 0
    · exact refusedOnly_ok _

theorem refusedOnly_build (c : Catalog) (context : Context) (defaultName : String)
    (tokens : List String) (w : CommandWords) (sorts : List SortCondition) (extra : ExtraList) :
    RefusedOnly (QueryGroup.build c context defaultName tokens w sorts extra) := by
  refine (refusedOnly_buildQuery _ _ _ _ _).bind fun primary => ?_
  refine (RefusedOnly.mapM (fun fragment => refusedOnly_buildQuery _ _ _ _ _) _).bind
    fun queries => ?_
  dsimp only
  split
  · exact refusedOnly_error ⟨rfl, nofun⟩
  · exact refusedOnly_ok _

/-- **A command that is not read is refused.** -/
theorem refusedOnly_parse (c : Catalog) (context : Context) (defaultName : String)
    (tokens : List String) : RefusedOnly (QueryGroup.parse c context defaultName tokens) := by
  rw [QueryGroup.parse_eq]
  refine (refusedOnly_readCommand _ tokens).bind fun words => ?_
  refine (refusedOnly_sharedSorts words).bind fun sorts => ?_
  exact (refusedOnly_sharedExtra words _).bind fun extra => refusedOnly_build _ _ _ _ _ _ _

end GameLog
