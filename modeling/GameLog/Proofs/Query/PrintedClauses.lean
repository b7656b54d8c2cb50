import GameLog.Proofs.Query.CanonicalNames
import GameLog.Proofs.Report.FilterParts
import GameLog.Query.Clause.Printer

/-!
# Clauses in print

The columns and the groups of a clause are printed by their labels and names. What is printed is a clause
again, and has the same columns and groups: names are canonical in print, and a canonical name is its own
canonical form. Only the aliases of computed columns depend on what was read before them, as they are
numbered through a request.

Main statements:
* `run_item`: the item that asks for a column by its label has that column again;
* `exists_run_extraField`: columns read behind different numbers differ in nothing but their aliases;
* `run_parse_printed`, `run_parse_printedGroups`: printed clauses have their columns and groups again;
* `printed_clauses_read_back`: so it is with the built-in catalog.
-/

namespace GameLog

open GameLog.Text

/-! ## Printing -/

/-- The minus sign in front of what is ordered the other way around. -/
def Direction.sign (direction : Direction) : String := if direction = .ascending then "-" else ""

/-- An extra column in print: its sign and its label. -/
def ExtraField.printed (f : ExtraField) : String := f.direction.sign ++ f.label

/-- Extra columns in print. -/
def ExtraList.printed (l : ExtraList) : String :=
  "x=" ++ joinWith "," (l.fields.map ExtraField.printed)

/-- A group in print: its sign, its name, and a percent sign if it is marked. -/
def GroupField.printed (f : GroupField) : String :=
  f.direction.sign ++ f.field ++ if f.percent then "%" else ""

/-- Groups in print. -/
def GroupList.printed (l : GroupList) : String :=
  "s=" ++ joinWith "," (l.fields.map GroupField.printed)

theorem Direction.toList_sign (direction : Direction) :
    direction.sign.toList = if direction = .ascending then ['-'] else [] := by
  cases direction <;> rfl

theorem ofList_itemsText {items : List ClauseItem} {texts : List String}
    (h : items.map ClauseItem.text = texts.map String.toList) :
    String.ofList (itemsText items) = joinWith "," texts := by
  apply String.ext
  rw [String.toList_ofList, itemsText, h, joinWith, String.toList_intercalate]
  rfl

/-- **The items of groups make the clause of them.** -/
theorem GroupList.clause_eq (l : GroupList) : l.clause = l.printed := by
  have htexts : (l.fields.map GroupField.item).map ClauseItem.text =
      (l.fields.map GroupField.printed).map String.toList := by
    rw [List.map_map, List.map_map]
    refine List.map_congr_left fun f _ => ?_
    simp only [Function.comp_apply, ClauseItem.text, GroupField.item, GroupField.printed,
      ClauseItem.subject, String.toList_append, Direction.toList_sign, apply_ite String.toList]
    rfl
  rw [clause, groupClause, printed, ← ofList_itemsText htexts]
  apply String.ext
  simp

/-- The item of a column that is read has its label for a text. -/
theorem ExtraField.ReadFrom.text_item {s : Scope} {item : ClauseItem} {f : ExtraField}
    (h : f.ReadFrom s item) : f.item.text = f.printed.toList := by
  have hmark : f.item.percent = false := by
    cases hshown : f.projection <;> rw [ExtraField.item, hshown] <;> rfl
  have hdirection : f.item.direction = f.direction := by
    cases hshown : f.projection <;> rw [ExtraField.item, hshown] <;> rfl
  have hsubject : f.item.subject = f.label.toList := by
    cases h with
    | count n hshown hselected hlabel =>
      rw [ExtraField.item, hshown, hlabel]
      rfl
    | field name column hcolumn hshown hselected hlabel =>
      rw [ExtraField.item, hshown, hlabel]
      rfl
    | aggregate function name column n hfunction hcolumn hshown hselected hknown hlabel =>
      rw [ExtraField.item, hshown, hlabel]
      simp [Projection.item, ClauseItem.subject]
  rw [ClauseItem.text, hmark, hsubject, hdirection, ExtraField.printed, String.toList_append,
    Direction.toList_sign]
  simp

/-! ## Columns of printed items -/

section Columns

variable {s : Scope} {clause : String} {item : ClauseItem} {n m : Nat} {f : ExtraField}

/-- **The item that asks for a column by its label has that column again**, behind the same number. -/
theorem run_item (hsettled : s.catalog.Settled) (h : (extraField s clause item).run n = (.ok f, m))
    (printed : String) : (extraField s printed f.item).run n = (.ok f, m) := by
  unfold extraField at h
  split at h
  · rename_i function hfunction
    obtain ⟨name, accepted, column, hname, hknown, haccepts, hcolumn, rfl, rfl⟩ :=
      run_aggregateField_eq_ok.mp h
    have hitem : extraField s printed
        (aggregateColumn s item.direction (lower function) name column (n + 1)).item =
          aggregateField s printed item.direction (lower function) name := rfl
    rw [hitem]
    refine run_aggregateField_eq_ok.mpr ⟨name, accepted, column,
      Scope.canonical_canonical hsettled hname, ?_, haccepts, hcolumn, ?_, rfl⟩
    · rw [lower_lower, hknown]
    · rw [lower_lower]
  · split at h
    · rw [run_countField] at h
      cases h
      have hcapital : lower "N" = "n" := by decide
      have hitem : extraField s printed ⟨item.direction, none, "N", false⟩ =
          countField item.direction := if_pos hcapital
      exact hitem ▸ run_countField item.direction n
    · obtain ⟨name, column, hname, hcolumn, rfl, rfl⟩ := run_plainField_eq_ok.mp h
      have hplain := (Scope.Owned.of_canonical hsettled.folded hname).ne_count hsettled
      have hitem : extraField s printed ⟨item.direction, none, name, false⟩ =
          plainField s item.direction name := if_neg hplain
      exact hitem ▸ run_plainField_eq_ok.mpr ⟨name, column,
        Scope.canonical_canonical hsettled hname, hcolumn, rfl, rfl⟩

/-- The item of a column that is read has the form of items. -/
theorem wellFormed_item (hsettled : s.catalog.Settled)
    (hword : ∀ function, item.function = some function →
      function.toList ≠ [] ∧ ∀ c ∈ function.toList, isWord c = true)
    (h : (extraField s clause item).run n = (.ok f, m)) : f.item.wellFormed false = true := by
  have hform : ∀ {raw name}, s.canonical raw = .ok name → isName name.toList = true :=
    fun hname => (Scope.Owned.of_canonical hsettled.folded hname).isName hsettled
  unfold extraField at h
  split at h
  · rename_i function hfunction
    obtain ⟨name, accepted, column, hname, -, -, -, rfl, -⟩ := run_aggregateField_eq_ok.mp h
    obtain ⟨hne, hchars⟩ := word_lower (hword function hfunction)
    have hne' : (lower function).isEmpty = false := by
      rw [String.isEmpty_eq_false_iff]
      exact fun hempty => hne (String.toList_eq_nil_iff.mpr hempty)
    have hall : (lower function).toList.all isWord = true := List.all_eq_true.mpr hchars
    simp [ExtraField.item, aggregateColumn, Projection.item, ClauseItem.wellFormed, hform hname, hne',
      hall]
  · split at h
    · rw [run_countField] at h
      cases h
      have hcount : isName "N".toList = true := by decide
      simp only [ExtraField.item, Projection.item, ClauseItem.wellFormed, hcount]
      rfl
    · obtain ⟨name, column, hname, -, rfl, -⟩ := run_plainField_eq_ok.mp h
      simp [ExtraField.item, Projection.item, ClauseItem.wellFormed, hform hname]

/-- A column without its alias. -/
def ExtraField.unnamed (f : ExtraField) : ExtraField :=
  { f with selected := ⟨f.selected.expression, none⟩ }

theorem unnamed_aggregateColumn (s : Scope) (direction : Direction) (function name : String)
    (column : Column) (n k : Nat) :
    (aggregateColumn s direction function name column n).unnamed =
      (aggregateColumn s direction function name column k).unnamed := by
  simp only [aggregateColumn, ExtraField.unnamed]

/-- **Columns read behind different numbers differ in nothing but their aliases.** -/
theorem exists_run_extraField (h : (extraField s clause item).run n = (.ok f, m)) (k : Nat) :
    ∃ g k', (extraField s clause item).run k = (.ok g, k') ∧ g.unnamed = f.unnamed := by
  unfold extraField at h ⊢
  split at h
  · obtain ⟨name, accepted, column, hname, hknown, haccepts, hcolumn, rfl, -⟩ :=
      run_aggregateField_eq_ok.mp h
    exact ⟨_, _, run_aggregateField_eq_ok.mpr
      ⟨name, accepted, column, hname, hknown, haccepts, hcolumn, rfl, rfl⟩,
      unnamed_aggregateColumn ..⟩
  · split at h
    · rename_i hcount
      rw [run_countField] at h
      cases h
      rw [if_pos hcount, run_countField]
      exact ⟨_, _, rfl, rfl⟩
    · rename_i hplain
      rw [if_neg hplain]
      obtain ⟨name, column, hname, hcolumn, rfl, -⟩ := run_plainField_eq_ok.mp h
      exact ⟨_, _, run_plainField_eq_ok.mpr ⟨name, column, hname, hcolumn, rfl, rfl⟩, rfl⟩

end Columns

/-! ## Lists of columns -/

/-- Steps are taken again, one for each of their results, if each of them is. -/
theorem Naming.run_mapM_map {α β γ : Type} {f : α → Naming β} {g : γ → Naming β} {e : β → γ}
    (hstep : ∀ a b n m, (f a).run n = (.ok b, m) → (g (e b)).run n = (.ok b, m)) {as : List α}
    {bs : List β} {n m : Nat} (h : (as.mapM f).run n = (.ok bs, m)) :
    ((bs.map e).mapM g).run n = (.ok bs, m) := by
  induction as generalizing bs n with
  | nil =>
    cases h
    rfl
  | cons a as ih =>
    rw [List.mapM_cons] at h
    obtain ⟨first, k, hfirst, h⟩ := Naming.of_run_bind h
    obtain ⟨rest, k', hrest, h⟩ := Naming.of_run_bind h
    obtain ⟨rfl, rfl⟩ := Naming.run_pure_eq_ok.mp h
    rw [List.map_cons, List.mapM_cons, Naming.run_bind, hstep a first n k hfirst]
    dsimp only
    rw [Naming.run_bind, ih hrest]
    exact Naming.run_pure_eq_ok.mpr ⟨rfl, rfl⟩

/-- Steps that are taken behind any number are so one after another. -/
theorem Naming.exists_run_mapM {α β γ : Type} {f : α → Naming β} {e : β → γ}
    (hstep : ∀ a b n m, (f a).run n = (.ok b, m) →
      ∀ k, ∃ b' k', (f a).run k = (.ok b', k') ∧ e b' = e b) {as : List α} {bs : List β} {n m : Nat}
    (h : (as.mapM f).run n = (.ok bs, m)) (k : Nat) :
    ∃ bs' k', (as.mapM f).run k = (.ok bs', k') ∧ bs'.map e = bs.map e := by
  induction as generalizing bs n k with
  | nil =>
    cases h
    exact ⟨[], k, rfl, rfl⟩
  | cons a as ih =>
    rw [List.mapM_cons] at h
    obtain ⟨first, j, hfirst, h⟩ := Naming.of_run_bind h
    obtain ⟨rest, j', hrest, h⟩ := Naming.of_run_bind h
    obtain ⟨rfl, rfl⟩ := Naming.run_pure_eq_ok.mp h
    obtain ⟨first', k', hfirst', hsame⟩ := hstep a first n j hfirst k
    obtain ⟨rest', k'', hrest', hsames⟩ := ih hrest k'
    refine ⟨first' :: rest', k'', ?_, by rw [List.map_cons, List.map_cons, hsame, hsames]⟩
    rw [List.mapM_cons, Naming.run_bind, hfirst']
    dsimp only
    rw [Naming.run_bind, hrest']
    exact Naming.run_pure_eq_ok.mpr ⟨rfl, rfl⟩

section Lists

variable {s : Scope} {clause : String} {n m : Nat} {l : ExtraList}

/-- **The printed clause of columns has them again**, behind the same number. -/
theorem run_parse_printed (hsettled : s.catalog.Settled)
    (h : (ExtraList.parse s clause).run n = (.ok l, m)) :
    (ExtraList.parse s l.printed).run n = (.ok ⟨l.fields, l.printed⟩, m) := by
  obtain ⟨items, hitems, hfields, hkind, -⟩ := ExtraList.run_parse_eq_ok.mp h
  have hmade := Naming.forall₂_of_mapM hfields
  have hread : ∀ f ∈ l.fields, f.item.text = f.printed.toList ∧ f.item.wellFormed false = true := by
    intro f hf
    obtain ⟨item, hitem, k, k', hrun⟩ := exists_mem_of_forall₂ hmade hf
    exact ⟨(readFrom_extraField hrun).text_item,
      wellFormed_item hsettled (fun function => word_of_function hitems hitem) hrun⟩
  have hclause : l.clause = l.printed := by
    have htexts : (l.fields.map ExtraField.item).map ClauseItem.text =
        (l.fields.map ExtraField.printed).map String.toList := by
      rw [List.map_map, List.map_map]
      exact List.map_congr_left fun f hf => (hread f hf).1
    rw [ExtraList.clause, extraClause, ExtraList.printed, ← ofList_itemsText htexts]
    apply String.ext
    simp
  have hagain : extraItems? l.printed = some (l.fields.map ExtraField.item) := by
    rw [← hclause]
    refine extraItems?_extraClause (mt List.map_eq_nil_iff.mp (ExtraList.fields_ne_nil h)) ?_
    intro item hitem
    obtain ⟨f, hf, rfl⟩ := List.mem_map.mp hitem
    exact (hread f hf).2
  have hrun : ((l.fields.map ExtraField.item).mapM (extraField s l.printed)).run n =
      (.ok l.fields, m) :=
    Naming.run_mapM_map (fun item f k k' hitem => run_item hsettled hitem l.printed) hfields
  exact ExtraList.run_parse_eq_ok.mpr ⟨_, hagain, hrun, hkind, rfl⟩

/-- The columns of a clause that is read behind different numbers differ in nothing but their aliases. -/
theorem exists_run_parse (h : (ExtraList.parse s clause).run n = (.ok l, m)) (k : Nat) :
    ∃ l' k', (ExtraList.parse s clause).run k = (.ok l', k') ∧
      l'.fields.map ExtraField.unnamed = l.fields.map ExtraField.unnamed ∧
      l'.isAggregate = l.isAggregate := by
  obtain ⟨items, hitems, hfields, hkind, -⟩ := ExtraList.run_parse_eq_ok.mp h
  obtain ⟨fields, k', hrun, hsame⟩ := Naming.exists_run_mapM
    (fun item f n m hitem k => exists_run_extraField hitem k) hfields k
  have haggregate : ∀ fields : List ExtraField, fields.map ExtraField.isAggregate =
      (fields.map ExtraField.unnamed).map ExtraField.isAggregate := fun fields => by
    rw [List.map_map]
    rfl
  have hkinds : fields.map ExtraField.isAggregate = l.fields.map ExtraField.isAggregate := by
    rw [haggregate, hsame, ← haggregate]
  have hlist : ExtraList.isAggregate ⟨fields, clause⟩ = l.isAggregate := by
    have hfirst : ∀ l : ExtraList, l.isAggregate = (l.fields.map ExtraField.isAggregate).head?.any id :=
      fun l => by rw [List.head?_map, Option.any_map]; rfl
    rw [hfirst, hfirst, ← hkinds]
  refine ⟨⟨fields, clause⟩, k', ExtraList.run_parse_eq_ok.mpr ⟨items, hitems, hrun, ?_, rfl⟩, hsame,
    hlist⟩
  intro f hf
  have hmem : f.isAggregate ∈ fields.map ExtraField.isAggregate := List.mem_map_of_mem hf
  rw [hkinds] at hmem
  obtain ⟨g, hg, hkinds⟩ := List.mem_map.mp hmem
  rw [hlist, ← hkinds, hkind g hg]

end Lists

/-! ## Groups -/

section Groups

variable {s : Scope} {clause : String} {n m : Nat} {list : GroupList}

/-- **The item that asks for a group by its name has that group again.** -/
theorem run_groupItem (hsettled : s.catalog.Settled) {before : List String} {item : ClauseItem}
    {f : GroupField} (h : (groupField s clause before item).run n = (.ok f, m)) (printed : String)
    (k : Nat) : (groupField s printed before f.item).run k = (.ok f, k) := by
  obtain ⟨hname, hbefore⟩ := names_of_groupField h
  have hagain : f.item.Names s f.field :=
    ⟨rfl, Scope.canonical_canonical hsettled hname.canonical, hname.summarisable⟩
  rw [hname.groupField_eq, if_neg hbefore] at h
  have hkind : s.kind? f.field = f.kind :=
    congrArg GroupField.kind (Except.ok.inj (Prod.mk.inj h).1)
  rw [hagain.groupField_eq, if_neg hbefore, hkind]
  rfl

/-- **The printed clause of groups has them again.** -/
theorem run_parse_printedGroups (hsettled : s.catalog.Settled)
    (h : (GroupList.parse s clause).run n = (.ok list, m)) (k : Nat) :
    (GroupList.parse s list.printed).run k = (.ok ⟨list.first, list.second, list.printed⟩, k) := by
  have hnames : ∀ f ∈ list.fields, isName f.field.toList = true := by
    obtain ⟨items, -, hnames, -⟩ := names_of_parse h
    exact forall_mem_of_forall₂ hnames fun item f hname =>
      (Scope.Owned.of_canonical hsettled.folded hname.canonical).isName hsettled
  have hagain := groupItems?_clause hnames
  rw [list.clause_eq] at hagain
  unfold GroupList.parse at h ⊢
  rw [hagain]
  split at h
  · obtain ⟨first, j, hfirst, h⟩ := Naming.of_run_bind h
    obtain ⟨rfl, -⟩ := Naming.run_pure_eq_ok.mp h
    dsimp only [GroupList.fields, Option.toList, List.map]
    rw [Naming.run_bind, run_groupItem hsettled hfirst]
    exact Naming.run_pure_eq_ok.mpr ⟨rfl, rfl⟩
  · obtain ⟨first, j, hfirst, h⟩ := Naming.of_run_bind h
    obtain ⟨second, j', hsecond, h⟩ := Naming.of_run_bind h
    obtain ⟨rfl, -⟩ := Naming.run_pure_eq_ok.mp h
    dsimp only [GroupList.fields, Option.toList, List.map]
    rw [Naming.run_bind, run_groupItem hsettled hfirst]
    dsimp only
    rw [Naming.run_bind, run_groupItem hsettled hsecond]
    exact Naming.run_pure_eq_ok.mpr ⟨rfl, rfl⟩
  · cases h

end Groups

/-! ## The built-in catalog -/

/-- **Clauses that are read print to clauses that are read alike**, with the built-in catalog in either
context. The columns of a printed clause are those of the list it was printed of, but for the aliases if
the list was read behind others; the groups of a printed clause are those of its list. -/
theorem printed_clauses_read_back (context : Context) (game : String) (clause : String) (n m : Nat) :
    let s : Scope := ⟨.builtin, context, game⟩
    (∀ l, (ExtraList.parse s clause).run n = (.ok l, m) →
      (∃ l', (ExtraList.parse s l.printed).fresh = .ok l' ∧
        l'.fields.map ExtraField.unnamed = l.fields.map ExtraField.unnamed ∧
        l'.isAggregate = l.isAggregate) ∧
      (n = 0 → (ExtraList.parse s l.printed).fresh = .ok ⟨l.fields, l.printed⟩)) ∧
    ∀ list, (GroupList.parse s clause).run n = (.ok list, m) →
      (GroupList.parse s list.printed).fresh = .ok ⟨list.first, list.second, list.printed⟩ := by
  intro s
  have hsettled : s.catalog.Settled := Catalog.settled_builtin
  refine ⟨fun l h => ?_, fun list h => ?_⟩
  · have hagain := run_parse_printed hsettled h
    refine ⟨?_, ?_⟩
    · obtain ⟨l', k, hfresh, hsame, hkind⟩ := exists_run_parse hagain 0
      exact ⟨l', congrArg Prod.fst hfresh, hsame, hkind⟩
    · rintro rfl
      exact congrArg Prod.fst hagain
  · exact congrArg Prod.fst (run_parse_printedGroups hsettled h 0)

/-- Clauses with blanks, capitals, aliases and the short names of tables. -/
theorem loose_clauses_read_back :
    (∃ l, (ExtraList.parse ⟨.builtin, .game, "crawl"⟩ " X = n, -Max( lg:Score ) ,CDIST(Role)").fresh =
        .ok l ∧ l.printed = "x=N,-max(lg:sc),cdist(cls)" ∧
      (ExtraList.parse ⟨.builtin, .game, "crawl"⟩ "x=N,-max(lg:sc),cdist(cls)").fresh =
        .ok ⟨l.fields, "x=N,-max(lg:sc),cdist(cls)"⟩) ∧
    ∃ list, (GroupList.parse ⟨.builtin, .milestone, "crawl"⟩ "-s = Rune% , -LG:Ki").fresh = .ok list ∧
      list.printed = "s=rune%,-lg:killer" ∧
      (GroupList.parse ⟨.builtin, .milestone, "crawl"⟩ "s=rune%,-lg:killer").fresh =
        .ok ⟨list.first, list.second, "s=rune%,-lg:killer"⟩ := by
  constructor
  · have hparse : (ExtraList.parse ⟨.builtin, .game, "crawl"⟩
        " X = n, -Max( lg:Score ) ,CDIST(Role)").fresh.toOption.map ExtraList.printed =
          some "x=N,-max(lg:sc),cdist(cls)" := by
      decide +kernel
    obtain ⟨l, hl, hprinted⟩ := exists_ok_of_map hparse
    have hrun := Naming.run_of_fresh hl
    have hagain := ((printed_clauses_read_back .game "crawl" _ 0 _).1 l hrun).2 rfl
    rw [hprinted] at hagain
    exact ⟨l, hl, hprinted, hagain⟩
  · have hparse : (GroupList.parse ⟨.builtin, .milestone, "crawl"⟩
        "-s = Rune% , -LG:Ki").fresh.toOption.map GroupList.printed =
          some "s=rune%,-lg:killer" := by
      decide +kernel
    obtain ⟨list, hlist, hprinted⟩ := exists_ok_of_map hparse
    have hrun := Naming.run_of_fresh hlist
    have hagain := (printed_clauses_read_back .milestone "crawl" _ 0 _).2 list hrun
    rw [hprinted] at hagain
    exact ⟨list, hlist, hprinted, hagain⟩

end GameLog
