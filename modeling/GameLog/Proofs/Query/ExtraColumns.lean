import GameLog.Proofs.Query.Command
import GameLog.Proofs.Query.GroupColumns

/-!
# What extra columns select

The extra columns of a command are read before its queries, in the scope of the default game type, one
for each item of a clause. Each of them is selected for what it shows: the count of rows, a field, or a
function of a field. Functions are words and aliases are made of words, digits and underscores, so that
no point stands in either.

Main statements:
* `run_aggregateField_eq_ok`, `run_plainField_eq_ok`: which columns are made, and of what;
* `ExtraList.run_parse_eq_ok`: which lists of columns are accepted;
* `exists_clause_of_parse`: the extra columns of a command are those of one clause;
* `readIn_of_parse`: each of them is read from an item of the clause;
* `ExtraField.ReadFrom.showsSelected`: the column of an item selects what it shows;
* `ExtraField.ReadFrom.pointless`: its function and its alias have no point.
-/

namespace GameLog

open GameLog.Text

/-- Each result of steps that give out aliases is the result of the step at its place. -/
theorem Naming.forall₂_of_mapM {α β : Type} {f : α → Naming β} {as : List α} {bs : List β}
    {n m : Nat} (h : (as.mapM f).run n = (.ok bs, m)) :
    List.Forall₂ (fun a b => ∃ k k', (f a).run k = (.ok b, k')) as bs := by
  induction as generalizing bs n with
  | nil =>
    cases h
    exact .nil
  | cons a as ih =>
    rw [List.mapM_cons] at h
    obtain ⟨first, k, hfirst, h⟩ := Naming.of_run_bind h
    obtain ⟨rest, k', hrest, h⟩ := Naming.of_run_bind h
    cases h
    exact .cons ⟨n, k, hfirst⟩ (ih hrest)

/-- Each result of readings that may fail is that of the reading at its place. -/
theorem forall₂_of_mapM_eq_some {α β : Type} {f : α → Option β} {as : List α} {bs : List β}
    (h : as.mapM f = some bs) : List.Forall₂ (fun a b => f a = some b) as bs := by
  induction as generalizing bs with
  | nil =>
    cases h
    exact .nil
  | cons a as ih =>
    rw [List.mapM_cons] at h
    obtain ⟨first, hfirst, h⟩ := Option.bind_eq_some_iff.mp h
    obtain ⟨rest, hrest, h⟩ := Option.bind_eq_some_iff.mp h
    cases h
    exact .cons hfirst (ih hrest)

theorem exists_mem_of_forall₂ {α β : Type} {r : α → β → Prop} {as : List α} {bs : List β}
    (h : List.Forall₂ r as bs) {b : β} (hb : b ∈ bs) : ∃ a ∈ as, r a b := by
  induction h with
  | nil => cases hb
  | cons hab _ ih =>
    rcases List.mem_cons.mp hb with rfl | hb
    · exact ⟨_, by simp, hab⟩
    · obtain ⟨a, ha, hr⟩ := ih hb
      exact ⟨a, by simp [ha], hr⟩

/-! ## The column of an item -/

theorem Naming.run_liftM_eq_ok {α : Type} {x : Except QueryError α} {n m : Nat} {a : α} :
    (liftM x : Naming α).run n = (.ok a, m) ↔ x = .ok a ∧ m = n := by
  constructor
  · intro h
    obtain rfl := Naming.of_run_liftM h
    cases h
    exact ⟨rfl, rfl⟩
  · rintro ⟨rfl, rfl⟩
    rfl

theorem Naming.run_pure_eq_ok {α : Type} {a b : α} {n m : Nat} :
    (pure a : Naming α).run n = (.ok b, m) ↔ b = a ∧ m = n := by
  constructor
  · intro h
    cases h
    exact ⟨rfl, rfl⟩
  · rintro ⟨rfl, rfl⟩
    rfl

theorem Naming.run_of_fresh {α : Type} {x : Naming α} {a : α} (h : x.fresh = .ok a) :
    x.run 0 = (.ok a, (x.run 0).2) := Prod.ext h rfl

/-- The column of a function of a field, under the alias of a number. -/
def aggregateColumn (s : Scope) (direction : Direction) (function name : String) (column : Column)
    (n : Nat) : ExtraField :=
  ⟨.aggregate function name, direction,
    ⟨applied function column, some (function ++ "_" ++ aliasStem name ++ "_" ++ natText n)⟩,
    function ++ "(" ++ name ++ ")", appliedKind function (s.kind? name)⟩

/-- **The column of a function** is for a function of the catalog that accepts the field. -/
theorem run_aggregateField_eq_ok {s : Scope} {clause function field : String} {direction : Direction}
    {n m : Nat} {f : ExtraField} :
    (aggregateField s clause direction function field).run n = (.ok f, m) ↔
      ∃ name accepted column, s.canonical field = .ok name ∧
        s.catalog.functions.find? (lower function) = some accepted ∧
        accepted.accepts (s.kind? name) = true ∧ s.column name = .ok column ∧
        f = aggregateColumn s direction (lower function) name column (n + 1) ∧ m = n + 1 := by
  constructor
  · intro h
    unfold aggregateField at h
    obtain ⟨name, k, hname, h⟩ := Naming.of_run_bind h
    dsimp only at h
    split at h
    · rename_i accepted hknown
      split at h
      · rename_i haccepts
        obtain ⟨column, k', hcolumn, h⟩ := Naming.of_run_bind h
        obtain ⟨given, k'', hgiven, h⟩ := Naming.of_run_bind h
        obtain ⟨hname, hk⟩ := Naming.run_liftM_eq_ok.mp hname
        obtain ⟨hcolumn, hk'⟩ := Naming.run_liftM_eq_ok.mp hcolumn
        obtain ⟨hf, hm⟩ := Naming.run_pure_eq_ok.mp h
        rw [freshAlias_run, hk', hk] at hgiven
        cases hgiven
        exact ⟨name, accepted, column, hname, hknown, haccepts, hcolumn, hf, hm⟩
      · rw [Naming.run_throw_bind] at h
        cases h
    · cases h
  · rintro ⟨name, accepted, column, hname, hknown, haccepts, hcolumn, rfl, rfl⟩
    unfold aggregateField
    rw [Naming.run_bind, Naming.run_liftM_eq_ok.mpr ⟨hname, rfl⟩]
    dsimp only
    rw [hknown]
    dsimp only
    rw [if_pos haccepts, Naming.run_bind, Naming.run_liftM_eq_ok.mpr ⟨hcolumn, rfl⟩]
    dsimp only
    rw [Naming.run_bind, freshAlias_run]
    exact Naming.run_pure_eq_ok.mpr ⟨rfl, rfl⟩

/-- **The column that counts rows** is made from any number on. -/
theorem run_countField (direction : Direction) (n : Nat) :
    (countField direction).run n = (.ok ⟨.count, direction,
      ⟨.countRows, some ("count" ++ "_" ++ natText (n + 1))⟩, "N", some .integer⟩, n + 1) := rfl

/-- **The column of a field** is for a name that has a column. -/
theorem run_plainField_eq_ok {s : Scope} {field : String} {direction : Direction} {n m : Nat}
    {f : ExtraField} :
    (plainField s direction field).run n = (.ok f, m) ↔
      ∃ name column, s.canonical field = .ok name ∧ s.column name = .ok column ∧
        f = ⟨.field name, direction, ⟨.column column, none⟩, name, s.kind? name⟩ ∧ m = n := by
  constructor
  · intro h
    unfold plainField at h
    obtain ⟨name, k, hname, h⟩ := Naming.of_run_bind h
    obtain ⟨column, k', hcolumn, h⟩ := Naming.of_run_bind h
    obtain ⟨hname, hk⟩ := Naming.run_liftM_eq_ok.mp hname
    obtain ⟨hcolumn, hk'⟩ := Naming.run_liftM_eq_ok.mp hcolumn
    obtain ⟨hf, hm⟩ := Naming.run_pure_eq_ok.mp h
    exact ⟨name, column, hname, hcolumn, hf, by rw [hm, hk', hk]⟩
  · rintro ⟨name, column, hname, hcolumn, rfl, rfl⟩
    unfold plainField
    rw [Naming.run_bind, Naming.run_liftM_eq_ok.mpr ⟨hname, rfl⟩]
    dsimp only
    rw [Naming.run_bind, Naming.run_liftM_eq_ok.mpr ⟨hcolumn, rfl⟩]
    exact Naming.run_pure_eq_ok.mpr ⟨rfl, rfl⟩

/-- **An extra column is read from an item**: it counts rows under an alias, shows a field under its name,
or shows a function of the catalog, of a field, under an alias. Its label says which of them it is. -/
inductive ExtraField.ReadFrom (s : Scope) (item : ClauseItem) (f : ExtraField) : Prop
  | count (n : Nat) (hshown : f.projection = .count)
      (hselected : f.selected = ⟨.countRows, some ("count" ++ "_" ++ natText n)⟩)
      (hlabel : f.label = "N")
  | field (name : String) (column : Column) (hcolumn : s.column name = .ok column)
      (hshown : f.projection = .field name) (hselected : f.selected = ⟨.column column, none⟩)
      (hlabel : f.label = name) (hkind : f.kind = s.kind? name)
  | aggregate (function name : String) (column : Column) (n : Nat)
      (hfunction : item.function = some function) (hcolumn : s.column name = .ok column)
      (hshown : f.projection = .aggregate (lower function) name)
      (hselected : f.selected = ⟨applied (lower function) column,
        some (lower function ++ "_" ++ aliasStem name ++ "_" ++ natText n)⟩)
      (hknown : s.catalog.functions.contains (lower function) = true)
      (hlabel : f.label = lower function ++ "(" ++ name ++ ")")

/-- The column that an item asks for is read from it. -/
theorem readFrom_extraField {clause : String} {item : ClauseItem} {n m : Nat} {f : ExtraField}
    (h : (extraField s clause item).run n = (.ok f, m)) : f.ReadFrom s item := by
  unfold extraField at h
  split at h
  · rename_i function hfunction
    obtain ⟨name, accepted, column, -, hknown, -, hcolumn, rfl, -⟩ := run_aggregateField_eq_ok.mp h
    exact .aggregate function name column _ hfunction hcolumn rfl rfl
      (by rw [Dictionary.contains, hknown, Option.isSome_some]) rfl
  · split at h
    · rw [run_countField] at h
      cases h
      exact .count _ rfl rfl rfl
    · obtain ⟨name, column, -, hcolumn, rfl, -⟩ := run_plainField_eq_ok.mp h
      exact .field name column hcolumn rfl rfl rfl rfl

/-- **An extra column selects what it shows**: the count of rows, the column of a field, or a function
of one. -/
def ExtraField.ShowsSelected (s : Scope) (f : ExtraField) : Prop :=
  match f.projection with
  | .count => f.selected.expression = .countRows
  | .field name => ∃ column, s.column name = .ok column ∧ f.selected.expression = .column column
  | .aggregate function name =>
    ∃ column, s.column name = .ok column ∧ f.selected.expression = applied function column

/-- The column of an item selects what it shows. -/
theorem ExtraField.ReadFrom.showsSelected {item : ClauseItem} {f : ExtraField}
    (h : f.ReadFrom s item) : f.ShowsSelected s := by
  unfold ExtraField.ShowsSelected
  cases h with
  | count n hshown hselected => rw [hshown, hselected]
  | field name column hcolumn hshown hselected =>
    rw [hshown, hselected]
    exact ⟨column, hcolumn, rfl⟩
  | aggregate function name column n hfunction hcolumn hshown hselected =>
    rw [hshown, hselected]
    exact ⟨column, hcolumn, rfl⟩

/-! ## Names without a point -/

/-- **An extra column adds no point to a statement**: neither its function nor its alias has one. -/
structure ExtraField.Pointless (f : ExtraField) : Prop where
  function : ∀ function c, f.selected.expression = .apply function c → '.' ∉ function.toList
  asName : ∀ name, f.selected.asName = some name → '.' ∉ name.toList

theorem point_mem_of_lower {s : String} (h : '.' ∈ (lower s).toList) : '.' ∈ s.toList := by
  rw [lower, String.toList_ofList] at h
  obtain ⟨c, hc, hfolded⟩ := List.mem_map.mp h
  rcases eq_or_of_toLower hfolded with rfl | ⟨hfirst, -, hcode⟩
  · exact hc
  · have hpoint : ('.' : Char).toNat = 46 := rfl
    omega

theorem not_mem_natText {c : Char} (h : c.isDigit = false) (n : Nat) : c ∉ (natText n).toList := by
  rw [natText, String.toList_ofList]
  intro hc
  have hdigit : c.isDigit = true := Nat.isDigit_of_mem_toDigits (by decide) (by decide) hc
  rw [h] at hdigit
  cases hdigit

theorem point_not_mem_aliasStem (name : String) : '.' ∉ (aliasStem name).toList := by
  rw [aliasStem, String.toList_ofList, List.mem_map]
  rintro ⟨c, -, hc⟩
  split at hc
  · rename_i hkept
    rw [hc] at hkept
    exact absurd hkept (by decide)
  · exact absurd hc (by decide)

theorem point_not_mem_alias {stem : String} (h : '.' ∉ stem.toList) (n : Nat) :
    '.' ∉ (stem ++ "_" ++ natText n).toList := by
  simp only [String.toList_append, List.mem_append, not_or]
  exact ⟨⟨h, by decide⟩, not_mem_natText rfl n⟩

/-- The function of a call is a word. -/
theorem word_of_call? {cs function field : List Char} (h : call? cs = some (function, field)) :
    function ≠ [] ∧ ∀ c ∈ function, isWord c = true := by
  unfold call? at h
  split at h
  · dsimp only at h
    split at h
    · rename_i hcall
      obtain ⟨rfl, -⟩ := Prod.mk.inj (Option.some.inj h)
      simp only [Bool.and_eq_true, Bool.not_eq_true', List.isEmpty_eq_false_iff] at hcall
      exact ⟨hcall.1.1, fun c hc => List.all_eq_true.mp List.all_takeWhile c hc⟩
    · cases h
  · cases h

theorem exists_part_of_mem {percents : Bool} {body : List Char} {items : List ClauseItem}
    (h : readItems? percents body = some items) {item : ClauseItem} (hitem : item ∈ items) :
    ∃ part, readItem? percents part = some item := by
  obtain ⟨part, -, hread⟩ := exists_mem_of_forall₂ (forall₂_of_mapM_eq_some h) hitem
  exact ⟨trimmed part, hread⟩

/-- The function of an item is a word. -/
theorem word_of_function {clause function : String} {items : List ClauseItem} {item : ClauseItem}
    (hitems : extraItems? clause = some items) (hitem : item ∈ items)
    (hfunction : item.function = some function) :
    function.toList ≠ [] ∧ ∀ c ∈ function.toList, isWord c = true := by
  obtain ⟨body, -, hitems⟩ := Option.bind_eq_some_iff.mp hitems
  obtain ⟨part, hread⟩ := exists_part_of_mem hitems hitem
  unfold readItem? at hread
  dsimp only at hread
  split at hread
  · rename_i word field hcall
    obtain rfl := Option.some.inj hread
    obtain rfl : String.ofList word = function := Option.some.inj hfunction
    rw [String.toList_ofList]
    exact word_of_call? hcall
  · split at hread
    · obtain rfl := Option.some.inj hread
      cases hfunction
    · cases hread

theorem point_not_mem_function {clause function : String} {items : List ClauseItem}
    {item : ClauseItem} (hitems : extraItems? clause = some items) (hitem : item ∈ items)
    (hfunction : item.function = some function) : '.' ∉ function.toList :=
  fun hpoint => absurd ((word_of_function hitems hitem hfunction).2 '.' hpoint) (by decide)

/-- The column of an item whose function is a word adds no point. -/
theorem ExtraField.ReadFrom.pointless {item : ClauseItem} {f : ExtraField} (h : f.ReadFrom s item)
    (hword : ∀ function, item.function = some function → '.' ∉ function.toList) : f.Pointless := by
  cases h with
  | count n hshown hselected =>
    constructor <;> rw [hselected]
    · nofun
    · rintro name ⟨⟩
      exact point_not_mem_alias (by decide) n
  | field name column hcolumn hshown hselected =>
    constructor <;> rw [hselected] <;> nofun
  | aggregate function name column n hfunction hcolumn hshown hselected =>
    have hfolded : '.' ∉ (lower function).toList :=
      fun hpoint => hword function hfunction (point_mem_of_lower hpoint)
    constructor <;> rw [hselected]
    · intro given c happly
      dsimp only [applied] at happly
      split at happly
      · cases happly
      · cases happly
        exact hfolded
    · rintro given ⟨⟩
      refine point_not_mem_alias ?_ n
      simp only [String.toList_append, List.mem_append, not_or]
      exact ⟨⟨hfolded, by decide⟩, point_not_mem_aliasStem name⟩

/-! ## The columns of a command -/

/-- An extra column is read from an item of some clause. -/
def ExtraField.ReadIn (s : Scope) (f : ExtraField) : Prop :=
  ∃ clause items, extraItems? clause = some items ∧ ∃ item ∈ items, f.ReadFrom s item

/-- **A list of extra columns is accepted** if its items are read, and all columns are aggregate or none
is. -/
theorem ExtraList.run_parse_eq_ok {clause : String} {n m : Nat} {l : ExtraList} :
    (ExtraList.parse s clause).run n = (.ok l, m) ↔
      ∃ items, extraItems? clause = some items ∧
        (items.mapM (extraField s clause)).run n = (.ok l.fields, m) ∧
        (∀ f ∈ l.fields, f.isAggregate = l.isAggregate) ∧ l.source = clause := by
  constructor
  · intro h
    have hkind := ExtraList.isAggregate_of_parse h
    unfold ExtraList.parse at h
    split at h
    · rename_i items hitems
      obtain ⟨fields, k, hfields, h⟩ := Naming.of_run_bind h
      dsimp only at h
      split at h
      · obtain ⟨rfl, rfl⟩ := Naming.run_pure_eq_ok.mp h
        exact ⟨items, hitems, hfields, hkind, rfl⟩
      · rw [Naming.run_throw_bind] at h
        cases h
    · cases h
  · rintro ⟨items, hitems, hfields, hkind, rfl⟩
    have hall : (l.fields.all fun f => f.isAggregate == ExtraList.isAggregate ⟨l.fields, l.source⟩) =
        true := by
      simpa using hkind
    unfold ExtraList.parse
    rw [hitems]
    dsimp only
    rw [Naming.run_bind, hfields]
    dsimp only
    rw [if_pos hall]
    exact Naming.run_pure_eq_ok.mpr ⟨rfl, rfl⟩

/-- A clause that is read asks for some column: a list with commas has a part, and each part that is read
gives an item. -/
theorem ExtraList.fields_ne_nil {clause : String} {n m : Nat} {l : ExtraList}
    (h : (ExtraList.parse s clause).run n = (.ok l, m)) : l.fields ≠ [] := by
  obtain ⟨items, hitems, hfields, -, -⟩ := ExtraList.run_parse_eq_ok.mp h
  obtain ⟨body, -, hitems⟩ := Option.bind_eq_some_iff.mp hitems
  intro hnil
  have hcount := (Naming.forall₂_of_mapM hfields).length_eq
  have hparts := (forall₂_of_mapM_eq_some hitems).length_eq
  rw [hcount, hnil] at hparts
  exact List.splitOn_ne_nil _ _ (List.length_eq_zero_iff.mp hparts)

theorem readIn_of_mem {clause : String} {l : ExtraList}
    (h : (ExtraList.parse s clause).fresh = .ok l) : ∀ f ∈ l.fields, f.ReadIn s := by
  intro f hf
  obtain ⟨items, hitems, hfields, -, -⟩ := ExtraList.run_parse_eq_ok.mp (Naming.run_of_fresh h)
  obtain ⟨item, hitem, k, k', hread⟩ := exists_mem_of_forall₂ (Naming.forall₂_of_mapM hfields) hf
  exact ⟨clause, items, hitems, item, hitem, readFrom_extraField hread⟩

/-- **The extra columns of a command are those of a clause**, or there are none. -/
theorem exists_clause_of_parse {c : Catalog} {context : Context} {defaultName : String}
    {tokens : List String} {g : QueryGroup}
    (h : QueryGroup.parse c context defaultName tokens = .ok g) :
    g.extra = .none ∨
      ∃ clause, (ExtraList.parse (defaultScope c context) clause).fresh = .ok g.extra := by
  obtain ⟨words, hwords, hparsed⟩ := parse_eq_ok h
  have hasked : words.extra = .none ∨
      ∃ clause, (ExtraList.parse (defaultScope c context) clause).fresh = .ok words.extra := by
    obtain ⟨clause, -, hread⟩ := bind_eq_ok.mp (CommandWords.readFrom hwords).extra
    cases clause with
    | none => exact .inl (Except.ok.inj hread).symm
    | some clause => exact .inr ⟨clause, hread⟩
  have hextra := hparsed.extra
  unfold CommandWords.sharedExtra ratioExtra at hextra
  split at hextra
  · rwa [← Except.ok.inj hextra]
  · split at hextra
    · exact .inr ⟨_, hextra⟩
    · rwa [← Except.ok.inj hextra]

/-- **All extra columns of a command are read from items**, also those that stand for none beside
several fragments. -/
theorem readIn_of_parse {c : Catalog} {context : Context} {defaultName : String}
    {tokens : List String} {g : QueryGroup}
    (h : QueryGroup.parse c context defaultName tokens = .ok g) :
    ∀ f ∈ g.extra.fields, f.ReadIn (defaultScope c context) := by
  rcases exists_clause_of_parse h with hnone | ⟨clause, hclause⟩
  · rw [hnone]
    exact fun f hf => absurd hf List.not_mem_nil
  · exact readIn_of_mem hclause

/-- **All extra columns of a command are aggregate as the list is.** -/
theorem isAggregate_eq_of_parse {c : Catalog} {context : Context} {defaultName : String}
    {tokens : List String} {g : QueryGroup}
    (h : QueryGroup.parse c context defaultName tokens = .ok g) :
    ∀ f ∈ g.extra.fields, f.isAggregate = g.extra.isAggregate := by
  rcases exists_clause_of_parse h with hnone | ⟨clause, hclause⟩
  · rw [hnone]
    exact fun f hf => absurd hf List.not_mem_nil
  · exact ExtraList.isAggregate_of_parse (Prod.ext hclause rfl)

variable {f : ExtraField}

theorem ExtraField.ReadIn.showsSelected (h : f.ReadIn s) : f.ShowsSelected s := by
  obtain ⟨_, _, _, _, _, hread⟩ := h
  exact hread.showsSelected

theorem ExtraField.ReadIn.pointless (h : f.ReadIn s) : f.Pointless := by
  obtain ⟨clause, items, hitems, item, hitem, hread⟩ := h
  exact hread.pointless fun function => point_not_mem_function hitems hitem

end GameLog
