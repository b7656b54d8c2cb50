import GameLog.Proofs.Query.GroupColumns
import Mathlib.Data.List.Nodup

/-!
# Which groups are told apart

A clause may not ask for one field twice, and the fields of a clause are told apart by their canonical
names. These do not depend on letter case (`canonical_lower`) and have aliases resolved. But a field
has more than one canonical name: its own, and that name behind the short name of its table. So a
clause may group by one column under two names. It may also do so where two fields of a table are kept
in one column, and where two groups meet on the object of a milestone, which rows are really grouped
by if the group is a milestone type.

Main statements:
* `parse_pair`: a clause with two fields is rejected for a repeated one exactly if their canonical
  names are the same;
* `sameColumn_iff`: how two names may be of one column;
* `groups_told_apart_by_name`: which clauses are rejected, and which of the others group by one column
  twice.
-/

namespace GameLog

open GameLog.Text

/-! ## Letter case -/

theorem toLower_congr {p : Char → Bool}
    (h : ∀ n < 26, p (Char.ofNat (n + 65)) = p (Char.ofNat (n + 97))) (c : Char) :
    p c.toLower = p c := by
  rcases eq_or_of_toLower (rfl : c.toLower = c.toLower) with hsame | ⟨hfirst, hlast, hcode⟩
  · rw [← hsame]
  · have hletter := h (c.toNat - 65) (by omega)
    have hcapital : c.toNat - 65 + 65 = c.toNat := by omega
    have hsmall : c.toNat - 65 + 97 = c.toLower.toNat := by omega
    rw [hcapital, hsmall, Char.ofNat_toNat, Char.ofNat_toNat] at hletter
    exact hletter.symm

theorem isBlank_toLower (c : Char) : isBlank c.toLower = isBlank c :=
  toLower_congr (by decide) c

theorem trim_lower (text : String) : trim (lower text) = lower (trim text) := by
  have hblank : isBlank ∘ Char.toLower = isBlank := funext isBlank_toLower
  rw [trim, trim, lower, lower, String.toList_ofList, String.toList_ofList, trimmed, trimmed,
    trimStart, trimStart, List.dropWhile_map, hblank, trimEnd, trimEnd, ← List.map_reverse,
    List.dropWhile_map, hblank, List.map_reverse]

theorem splitFirst_map_toLower (cs : List Char) :
    splitFirst ':' (cs.map Char.toLower) =
      (splitFirst ':' cs).map fun (a, b) => (a.map Char.toLower, b.map Char.toLower) := by
  induction cs with
  | nil => rfl
  | cons c cs ih =>
    have hpoint : c.toLower = ':' ↔ c = ':' := by
      have hsame := toLower_congr (p := fun c => c == ':') (by decide) c
      simpa using congrArg (· = true) hsame
    by_cases hc : c = ':'
    · simp [splitFirst, hc]
    · rw [List.map_cons, splitFirst, splitFirst, if_neg hc, if_neg (mt hpoint.mp hc), ih]
      cases splitFirst ':' cs <;> rfl

theorem Catalog.canonicalName_lower (c : Catalog) (name : String) :
    c.canonicalName (lower name) = c.canonicalName name := by
  rw [canonicalName, canonicalName, trim_lower, lower_lower]

namespace Scope

theorem isTableChar_toLower (c : Char) : isTableChar c.toLower = isTableChar c :=
  toLower_congr (by decide) c

theorem splitName_lower (name : String) :
    splitName (lower name) = ((splitName name).1.map lower, lower (splitName name).2) := by
  have htable : isTableChar ∘ Char.toLower = isTableChar := funext isTableChar_toLower
  rw [splitName, splitName, lower, String.toList_ofList, splitFirst_map_toLower]
  cases splitFirst ':' name.toList with
  | none => rfl
  | some parts =>
    simp only [Option.map_some, List.isEmpty_map, List.all_map, htable]
    split
    · simp [lower]
    · rfl

/-- **The canonical form of a name does not depend on its letter case.** -/
theorem canonical_lower (s : Scope) (raw : String) : s.canonical (lower raw) = s.canonical raw := by
  have hspell : s.spell (lower raw) = s.spell raw := by
    rw [spell, spell, trim_lower, splitName_lower]
    rcases splitName (trim raw) with ⟨_ | table, field⟩
    · exact Catalog.canonicalName_lower s.catalog field
    · simp only [Option.map_some, lower_lower, Catalog.canonicalName_lower]
  rw [canonical, canonical, hspell]

/-! ## Names of one column -/

theorem eq_of_splitName (name : String) :
    name = ((splitName name).1.map fun table => table ++ ":").getD "" ++ (splitName name).2 := by
  unfold splitName
  split
  · rename_i table field hsplit
    split
    · apply String.ext
      simpa using (splitFirst_eq hsplit).1
    · simp
  · simp

theorem splitName_inj {a b : String} (h : splitName a = splitName b) : a = b := by
  rw [eq_of_splitName a, h, ← eq_of_splitName b]

/-- What owns a name has it in its context, behind the short name of a table. -/
theorem ownerIn?_of_resolve? {s : Scope} {name : String} {owner : Owner}
    (h : s.resolve? name = some owner) :
    ownerIn? s.catalog owner.context (splitName name).2 = some owner := by
  unfold resolve? at h
  split at h
  · rename_i table field hsplit
    obtain ⟨context, -, howner⟩ := Option.bind_eq_some_iff.mp h
    rw [hsplit, context_of_ownerIn? howner]
    exact howner
  · rename_i field hsplit
    obtain ⟨context, -, howner⟩ := List.exists_of_findSome?_eq_some h
    rw [hsplit, context_of_ownerIn? howner]
    exact howner

theorem fieldIn?_of_resolve? {s : Scope} {name : String} {context : Context} {spec : FieldSpec}
    (h : s.resolve? name = some (.field context spec)) :
    s.catalog.fieldIn? context (splitName name).2 = some spec ∧ spec.name = (splitName name).2 := by
  have howner := ownerIn?_of_resolve? h
  rw [Owner.context, ownerIn?] at howner
  split at howner
  · rename_i found hfound
    obtain rfl : found = spec := by simpa using howner
    exact ⟨hfound, by simpa using List.find?_some hfound⟩
  · split at howner <;> cases howner

/-- The column of a name is that of the field that owns it. -/
theorem column_eq_ok {s : Scope} {name : String} {column : Column} :
    s.column name = .ok column ↔
      ∃ context spec, s.resolve? name = some (.field context spec) ∧
        columnOf context spec = column := by
  unfold Scope.column
  constructor
  · intro h
    split at h
    · rename_i context spec hresolve
      exact ⟨context, spec, hresolve, Except.ok.inj h⟩
    · cases h
  · rintro ⟨context, spec, hresolve, rfl⟩
    rw [hresolve]

theorem columnOf_eq_iff {context context' : Context} {spec spec' : FieldSpec} :
    columnOf context spec = columnOf context' spec' ↔
      context = context' ∧ spec.column = spec'.column := by
  have hshort : context.short = context'.short ↔ context = context' := by
    cases context <;> cases context' <;> decide
  simp [columnOf, hshort]

/-- **Two names are of one column.** -/
def SameColumn (s : Scope) (a b : String) : Prop :=
  ∃ column, s.column a = .ok column ∧ s.column b = .ok column

/-- **Two names are of one field**: they differ in the short names of tables that lead them. -/
structure SameField (s : Scope) (a b : String) : Prop where
  name : (splitName a).2 = (splitName b).2
  table : (splitName a).1 ≠ (splitName b).1
  owner : ∃ context spec, s.resolve? a = some (.field context spec) ∧
    s.resolve? b = some (.field context spec)

/-- **Two names are of two fields of one table** that are kept in the same column of it. -/
structure SharedColumn (s : Scope) (a b : String) : Prop where
  name : (splitName a).2 ≠ (splitName b).2
  owner : ∃ context spec spec', s.resolve? a = some (.field context spec) ∧
    s.resolve? b = some (.field context spec') ∧ spec.column = spec'.column

/-- **Two names are of one column if they are of one field, or of two in one column.** -/
theorem sameColumn_iff {s : Scope} {a b : String} (hne : a ≠ b) :
    s.SameColumn a b ↔ s.SameField a b ∨ s.SharedColumn a b := by
  constructor
  · rintro ⟨column, ha, hb⟩
    obtain ⟨context, spec, hspec, rfl⟩ := column_eq_ok.mp ha
    obtain ⟨context', spec', hspec', hcolumn⟩ := column_eq_ok.mp hb
    obtain ⟨rfl, hkept⟩ := columnOf_eq_iff.mp hcolumn
    by_cases hname : (splitName a).2 = (splitName b).2
    · have htable : (splitName a).1 ≠ (splitName b).1 :=
        fun htable => hne (splitName_inj (Prod.ext htable hname))
      have hfound := (fieldIn?_of_resolve? hspec).1
      rw [hname, (fieldIn?_of_resolve? hspec').1] at hfound
      obtain rfl := Option.some.inj hfound
      exact .inl ⟨hname, htable, context', spec', hspec, hspec'⟩
    · exact .inr ⟨hname, context', spec, spec', hspec, hspec', hkept.symm⟩
  · rintro (⟨-, -, context, spec, ha, hb⟩ | ⟨-, context, spec, spec', ha, hb, hcolumn⟩)
    · exact ⟨columnOf context spec, column_eq_ok.mpr ⟨context, spec, ha, rfl⟩,
        column_eq_ok.mpr ⟨context, spec, hb, rfl⟩⟩
    · exact ⟨columnOf context spec, column_eq_ok.mpr ⟨context, spec, ha, rfl⟩,
        column_eq_ok.mpr ⟨context, spec', hb, columnOf_eq_iff.mpr ⟨rfl, hcolumn.symm⟩⟩⟩

end Scope

/-! ## Clauses with two fields -/

/-- An item that names a field is refused only if that name was given before. -/
theorem ClauseItem.Names.groupField_eq {s : Scope} {item : ClauseItem} {name : String}
    (h : item.Names s name) (clause : String) (before : List String) (n : Nat) :
    (groupField s clause before item).run n =
      (if name ∈ before then .error (.repeatedGroup name clause)
        else .ok ⟨item.direction, name, item.percent, s.kind? name⟩, n) := by
  have hname : (liftM (s.canonical item.field) : Naming String).run n = (.ok name, n) := by
    rw [h.canonical]
    rfl
  unfold groupField
  rw [h.plain]
  dsimp only
  rw [Naming.run_bind, hname]
  dsimp only
  by_cases hbefore : name ∈ before
  · rw [if_pos hbefore, if_pos hbefore]
    rfl
  · rw [if_neg hbefore, if_neg hbefore, if_pos h.summarisable]
    rfl

/-- **A clause with two fields is rejected for a repeated one** exactly if their canonical names are
the same. -/
theorem parse_pair {s : Scope} {clause : String} {item item' : ClauseItem} {a b : String}
    (hitems : groupItems? clause = some [item, item']) (ha : item.Names s a)
    (hb : item'.Names s b) (n : Nat) :
    (GroupList.parse s clause).run n =
      (if a = b then .error (.repeatedGroup b clause)
        else .ok ⟨⟨item.direction, a, item.percent, s.kind? a⟩,
          some ⟨item'.direction, b, item'.percent, s.kind? b⟩, clause⟩, n) := by
  have hfirst := ha.groupField_eq clause [] n
  rw [if_neg List.not_mem_nil] at hfirst
  have hsecond := hb.groupField_eq clause [a] n
  unfold GroupList.parse
  rw [hitems]
  dsimp only
  rw [Naming.run_bind, hfirst]
  dsimp only
  rw [Naming.run_bind, hsecond]
  by_cases hsame : a = b
  · rw [if_pos (List.mem_singleton.mpr hsame.symm), if_pos hsame]
  · rw [if_neg (fun hmem => hsame (List.mem_singleton.mp hmem).symm), if_neg hsame]
    rfl

theorem ne_of_parse {s : Scope} {clause : String} {n m : Nat} {list : GroupList} {f g : GroupField}
    (h : (GroupList.parse s clause).run n = (.ok list, m)) (hfields : list.fields = [f, g]) :
    f.field ≠ g.field := by
  obtain ⟨items, -, -, hnodup⟩ := names_of_parse h
  rw [hfields] at hnodup
  simpa using hnodup

/-! ## What rows are really grouped by -/

namespace Scope

/-- The name that rows are really grouped by for a name of a clause. -/
def groupedBy (s : Scope) (name : String) : String := if s.isPivot name then nounField else name

/-- **Two names meet on the object of a milestone**: both are milestone types, or one is and the
other is of the column for the object. -/
def MeetOnNoun (s : Scope) (a b : String) : Prop :=
  s.isPivot a = true ∧ s.isPivot b = true ∨
  s.isPivot a = true ∧ s.SameColumn nounField b ∨
  s.isPivot b = true ∧ s.SameColumn nounField a

theorem column_of_isPivot {s : Scope} {name : String} (h : s.isPivot name = true) :
    s.column name = .error (.unknownField name) := by
  unfold isPivot at h
  split at h
  · rename_i context hresolve
    rw [Scope.column, hresolve]
  · cases h

/-- Where a column is found for what rows are really grouped by, it is that of the object for milestone
types. -/
theorem onNoun_eq {s : Scope} {f : GroupField} {column : Column}
    (h : s.column (Query.onNoun s f).field = .ok column) :
    (Query.onNoun s f).field = s.groupedBy f.field := by
  unfold Query.onNoun Query.pivotCondition? at *
  unfold groupedBy
  by_cases hpivot : s.isPivot f.field = true
  · rw [if_pos hpivot] at h ⊢
    rw [if_pos hpivot]
    cases hverb : s.column verbField with
    | ok verb => rfl
    | error e =>
      rw [hverb] at h
      have hnone : s.column f.field = .ok column := h
      rw [column_of_isPivot hpivot] at hnone
      cases hnone
  · rw [if_neg hpivot, if_neg hpivot]
    rfl

/-- Two names are grouped by one column if they are of one, or meet on the object of a milestone. -/
theorem sameColumn_groupedBy {s : Scope} {a b : String} {column : Column}
    (ha : s.column (s.groupedBy a) = .ok column) :
    s.SameColumn (s.groupedBy a) (s.groupedBy b) ↔ s.SameColumn a b ∨ s.MeetOnNoun a b := by
  have hnone : ∀ {x y : String}, s.isPivot x = true → ¬ s.SameColumn x y := by
    rintro x y hpivot ⟨c, hx, -⟩
    rw [column_of_isPivot hpivot] at hx
    cases hx
  have hcomm : ∀ {x y : String}, s.SameColumn x y ↔ s.SameColumn y x := by
    intro x y
    exact ⟨fun ⟨c, hx, hy⟩ => ⟨c, hy, hx⟩, fun ⟨c, hx, hy⟩ => ⟨c, hy, hx⟩⟩
  unfold MeetOnNoun groupedBy at *
  cases hpivot : s.isPivot a with
  | true =>
    have hnoun : s.column nounField = .ok column := by simpa [hpivot] using ha
    cases hpivot' : s.isPivot b with
    | true => simpa [hnone hpivot] using ⟨column, hnoun, hnoun⟩
    | false => simp [hnone hpivot]
  | false =>
    cases hpivot' : s.isPivot b with
    | true => simp [hcomm.not.mpr (hnone hpivot'), hcomm (x := a)]
    | false => simp

end Scope

theorem groupFields_setGroup (q : Query) (list : GroupList) :
    (q.setGroup list).groupFields = list.fields.map (Query.onNoun q.scope) := by
  rw [Query.groupFields, (q.alike_setGroup list).group, Option.map_some, Option.getD_some,
    GroupList.fields_map]

/-- What a query with two groups groups by. -/
theorem groupBy_pair {q : Query} {list : GroupList} {f g : GroupField} {st : Statement}
    (hfields : list.fields = [f, g]) (h : (q.setGroup list).selectGroups = .ok st) :
    ∃ c c', st.groupBy = [c, c'] ∧ q.scope.column (q.scope.groupedBy f.field) = .ok c ∧
      q.scope.column (q.scope.groupedBy g.field) = .ok c' := by
  obtain ⟨hcolumns, -⟩ := selectGroups_eq_ok h
  rw [groupFields_setGroup, hfields, (q.alike_setGroup list).scope] at hcolumns
  have hall := mapM_eq_ok.mp hcolumns
  obtain ⟨c, cs, hc, hrest, hboth⟩ := List.forall₂_cons_left_iff.mp hall
  obtain ⟨c', cs', hc', hnil, rfl⟩ := List.forall₂_cons_left_iff.mp hrest
  obtain rfl := List.forall₂_nil_left_iff.mp hnil
  refine ⟨c, c', hboth, ?_, ?_⟩
  · rw [← Scope.onNoun_eq hc]
    exact hc
  · rw [← Scope.onNoun_eq hc']
    exact hc'

/-- **A query groups by two columns** unless the names of its groups are of one, or meet on the object
of a milestone. -/
theorem nodup_groupBy_iff {q : Query} {list : GroupList} {f g : GroupField} {st : Statement}
    (hfields : list.fields = [f, g]) (h : (q.setGroup list).selectGroups = .ok st) :
    st.groupBy.Nodup ↔
      ¬ (q.scope.SameColumn f.field g.field ∨ q.scope.MeetOnNoun f.field g.field) := by
  obtain ⟨c, c', hgroupBy, hc, hc'⟩ := groupBy_pair hfields h
  have hsame : q.scope.SameColumn (q.scope.groupedBy f.field) (q.scope.groupedBy g.field) ↔
      c = c' := by
    constructor
    · rintro ⟨column, hf, hg⟩
      exact (Except.ok.inj (hc.symm.trans hf)).trans (Except.ok.inj (hg.symm.trans hc'))
    · rintro rfl
      exact ⟨c, hc, hc'⟩
  rw [← Scope.sameColumn_groupedBy hc, hsame, hgroupBy]
  simp

/-- A query is given the groups of a clause that is read, if the catalog has the fields for the type
and the object of milestones. -/
theorem exists_groups {s : Scope} {clause : String} {n m : Nat} {list : GroupList}
    (h : (GroupList.parse s clause).run n = (.ok list, m)) {verb noun : FieldSpec}
    (hverb : s.catalog.fieldIn? .milestone verbField = some verb)
    (hnoun : s.catalog.fieldIn? .milestone nounField = some noun) {q : Query} (hq : q.scope = s) :
    ∃ st, (q.setGroup list).selectGroups = .ok st := by
  have hscope : (q.setGroup list).scope = s := (q.alike_setGroup list).scope.trans hq
  have hfields : (q.setGroup list).groupFields = list.fields.map (Query.onNoun s) := by
    rw [groupFields_setGroup, hq]
  refine exists_statement_onNoun hverb hnoun hfields (fun name => ?_) (summarisable_of_parse h)
  rw [hscope]

/-! ## Names that are told apart -/

/-- **A catalog keeps its fields apart** if no two fields of a context are kept in one column. -/
def Catalog.KeepsApart (c : Catalog) : Prop :=
  ∀ context, ((c.fields context).map FieldSpec.column).Nodup

theorem Catalog.KeepsApart.not_sharedColumn {s : Scope} (h : s.catalog.KeepsApart) (a b : String) :
    ¬ s.SharedColumn a b := by
  rintro ⟨hname, context, spec, spec', ha, hb, hcolumn⟩
  obtain ⟨hfound, hspec⟩ := Scope.fieldIn?_of_resolve? ha
  obtain ⟨hfound', hspec'⟩ := Scope.fieldIn?_of_resolve? hb
  obtain rfl := List.inj_on_of_nodup_map (h context) (List.mem_of_find?_eq_some hfound)
    (List.mem_of_find?_eq_some hfound') hcolumn
  exact hname (hspec.symm.trans hspec')

/-- **Names without short names of tables are told apart** where fields are kept apart and no milestone
type is asked for. -/
theorem nodup_groupBy_of_plain {q : Query} (hcolumns : q.scope.catalog.KeepsApart) {clause : String}
    {n m : Nat} {list : GroupList} {f g : GroupField}
    (h : (GroupList.parse q.scope clause).run n = (.ok list, m)) (hfields : list.fields = [f, g])
    (htable : (Scope.splitName f.field).1 = (Scope.splitName g.field).1)
    (hf : q.scope.isPivot f.field = false) (hg : q.scope.isPivot g.field = false) {st : Statement}
    (hst : (q.setGroup list).selectGroups = .ok st) : st.groupBy.Nodup := by
  rw [nodup_groupBy_iff hfields hst, Scope.sameColumn_iff (ne_of_parse h hfields)]
  rintro ((hsame | hshared) | hnoun)
  · exact hsame.table htable
  · exact hcolumns.not_sharedColumn _ _ hshared
  · simp [Scope.MeetOnNoun, hf, hg] at hnoun

/-- **Groups are told apart by their canonical names**, which do not depend on letter case. A clause with
two fields is rejected for a repeated one exactly if both have one canonical name. A clause that is read
names two columns, unless its names are of one field behind other short names of its table, or of two
fields that are kept in one column. A query then groups by two columns, unless this is so or the names
meet on the object of a milestone; it has its groups wherever the catalog has the fields for the type and
the object of milestones. -/
theorem groups_told_apart_by_name (s : Scope) (clause : String) (n : Nat) :
    (∀ raw, s.canonical (lower raw) = s.canonical raw) ∧
    (∀ item item' a b, groupItems? clause = some [item, item'] → item.Names s a → item'.Names s b →
      (((GroupList.parse s clause).run n).1 = .error (.repeatedGroup b clause) ↔ a = b)) ∧
    ∀ list m f g, (GroupList.parse s clause).run n = (.ok list, m) → list.fields = [f, g] →
      f.field ≠ g.field ∧
      (s.SameColumn f.field g.field ↔
        s.SameField f.field g.field ∨ s.SharedColumn f.field g.field) ∧
      ∀ q : Query, q.scope = s →
        ((s.catalog.fieldIn? .milestone verbField).isSome = true →
          (s.catalog.fieldIn? .milestone nounField).isSome = true →
          ∃ st, (q.setGroup list).selectGroups = .ok st) ∧
        ∀ st, (q.setGroup list).selectGroups = .ok st →
          (st.groupBy.Nodup ↔ ¬ (s.SameField f.field g.field ∨ s.SharedColumn f.field g.field ∨
            s.MeetOnNoun f.field g.field)) := by
  refine ⟨s.canonical_lower, ?_, ?_⟩
  · intro item item' a b hitems ha hb
    rw [parse_pair hitems ha hb]
    by_cases hsame : a = b <;> simp [hsame]
  · intro list m f g hparse hfields
    have hne := ne_of_parse hparse hfields
    refine ⟨hne, Scope.sameColumn_iff hne, ?_⟩
    rintro q rfl
    constructor
    · intro hverb hnoun
      obtain ⟨verb, hverb⟩ := Option.isSome_iff_exists.mp hverb
      obtain ⟨noun, hnoun⟩ := Option.isSome_iff_exists.mp hnoun
      exact exists_groups hparse hverb hnoun rfl
    · intro st hst
      rw [nodup_groupBy_iff hfields hst, Scope.sameColumn_iff hne, or_assoc]

/-- A repeated field in another letter case, and a milestone type beside a field of games. -/
theorem builtin_groups_told_apart :
    let s := defaultScope .builtin .milestone
    (GroupList.parse s "s=god,-GOD").fresh = .error (.repeatedGroup "god" "s=god,-GOD") ∧
    ∃ list q st, (GroupList.parse s "s=rune,killer").fresh = .ok list ∧
      Query.start s .anyone (-1) "*" = .ok q ∧ (q.setGroup list).selectGroups = .ok st ∧
      st.groupBy.Nodup := by
  intro s
  constructor
  · have hitems : groupItems? "s=god,-GOD" =
        some [⟨.descending, none, "god", false⟩, ⟨.ascending, none, "GOD", false⟩] := by
      decide
    have hname : s.canonical "god" = .ok "god" ∧ s.canonical "GOD" = .ok "god" ∧
        s.summarisable "god" = true := by decide +kernel
    obtain ⟨-, hrepeated, -⟩ := groups_told_apart_by_name s "s=god,-GOD" 0
    exact (hrepeated _ _ "god" "god" hitems ⟨rfl, hname.1, hname.2.2⟩
      ⟨rfl, hname.2.1, hname.2.2⟩).mpr rfl
  · let first : GroupField := ⟨.descending, "rune", false, some .text⟩
    let second : GroupField := ⟨.descending, "killer", false, some .text⟩
    let list : GroupList := ⟨first, some second, "s=rune,killer"⟩
    have hparse : (GroupList.parse s "s=rune,killer").fresh = .ok list := by decide +kernel
    have hstart : (Query.start s .anyone (-1) "*").toOption.map Query.joined = some false := by
      decide +kernel
    obtain ⟨q, hq, -⟩ := exists_ok_of_map hstart
    obtain ⟨-, hscope, -⟩ := Query.start_eq_ok hq
    obtain ⟨-, -, hnames⟩ := groups_told_apart_by_name s "s=rune,killer" 0
    obtain ⟨-, -, hgroups⟩ := hnames list _ first second (Prod.ext hparse rfl) rfl
    obtain ⟨hexists, hnodup⟩ := hgroups q hscope
    have hfields : (s.catalog.fieldIn? .milestone verbField).isSome = true ∧
        (s.catalog.fieldIn? .milestone nounField).isSome = true := by decide +kernel
    obtain ⟨st, hst⟩ := hexists hfields.1 hfields.2
    refine ⟨list, q, st, hparse, hq, hst, (hnodup st hst).mpr ?_⟩
    obtain ⟨hrune, hkiller, hnoun, hcolumn⟩ : s.resolve? "rune" = some (.pivot .milestone) ∧
        s.isPivot "killer" = false ∧ s.column nounField = .ok ⟨some "mst", "noun"⟩ ∧
        s.column "killer" = .ok ⟨some "lg", "killer"⟩ := by decide +kernel
    rintro (hsame | ⟨-, context, spec, spec', howner, -⟩ | hmeet)
    · exact absurd hsame.name (by decide)
    · rw [hrune] at howner
      cases howner
    · rcases hmeet with ⟨-, hpivot⟩ | ⟨-, column, hleft, hright⟩ | ⟨hpivot, -⟩
      · rw [hkiller] at hpivot
        cases hpivot
      · rw [hnoun] at hleft
        rw [hcolumn] at hright
        exact absurd (Except.ok.inj (hleft.trans hright.symm)) (by decide)
      · rw [hkiller] at hpivot
        cases hpivot

/-- **One column may be asked for twice**: by its name, and by that name behind the short name of its
table. -/
theorem god_grouped_twice :
    let s := defaultScope .builtin .game
    ∃ list g, (GroupList.parse s "s=god,lg:god").fresh = .ok list ∧
      s.SameColumn "god" "lg:god" ∧ list.fields.map (·.field) = ["god", "lg:god"] ∧
      QueryGroup.parse .builtin .game "*" ["s=god,lg:god"] = .ok g ∧
      g.primary.selectGroups.toOption.map Statement.groupBy =
        some [⟨some "lg", "god"⟩, ⟨some "lg", "god"⟩] := by
  intro s
  have hparse : (GroupList.parse s "s=god,lg:god").fresh.toOption.map (fun list =>
      list.fields.map (·.field)) = some ["god", "lg:god"] := by decide +kernel
  have hgroup : (QueryGroup.parse .builtin .game "*" ["s=god,lg:god"]).toOption.map (fun g =>
      g.primary.selectGroups.toOption.map Statement.groupBy) =
        some (some [⟨some "lg", "god"⟩, ⟨some "lg", "god"⟩]) := by decide +kernel
  have hcolumn : s.column "god" = .ok ⟨some "lg", "god"⟩ ∧
      s.column "lg:god" = .ok ⟨some "lg", "god"⟩ := by decide +kernel
  obtain ⟨list, hlist, hfields⟩ := exists_ok_of_map hparse
  obtain ⟨g, hg, hcolumns⟩ := exists_ok_of_map hgroup
  exact ⟨list, g, hlist, ⟨_, hcolumn.1, hcolumn.2⟩, hfields, hg, hcolumns⟩

end GameLog
