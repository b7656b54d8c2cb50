import GameLog.Catalog.Builtin
import GameLog.Execute
import GameLog.Proofs.Query.Command
import GameLog.Proofs.Report.FilterParts

/-!
# Clauses that a single row has no use for

Sorts order the rows of a report and filters keep some of them. They are taken out of a command before
it is known whether it asks for a report. If it asks for a row, they are kept beside its query and
nothing reads them: the command is the same without them but for its description.

Main statements:
* `CommandWords.read_rowTokens`: the words of a command without its clauses for reports;
* `unsplit_of_row`: a command for a row has one fragment;
* `row_leaves_clauses_idle`: what becomes of them where a row is fetched.
-/

namespace GameLog

open GameLog.Text

/-- Whether a token is a clause for reports only: a sort, or a filter beside these extra columns. -/
def isReportClause (extra : ExtraList) (token : String) : Bool :=
  !isExtraClause token && (isSortClause token || (RowFilter.parse? extra token).isSome)

/-- The tokens of a command without its clauses for reports. -/
def rowTokens (extra : ExtraList) (tokens : List String) : List String :=
  tokens.filter fun token => !isReportClause extra token

section Tokens

variable (extra : ExtraList) (tokens : List String)

theorem extraClauses_rowTokens :
    (rowTokens extra tokens).filter isExtraClause = tokens.filter isExtraClause := by
  rw [rowTokens, List.filter_filter]
  refine List.filter_congr fun token _ => ?_
  cases hextra : isExtraClause token <;> simp [isReportClause, hextra]

theorem sortClauses_rowTokens : sortClauses (rowTokens extra tokens) = [] := by
  simp only [sortClauses, takeAll, rowTokens, List.filter_filter, List.filter_eq_nil_iff]
  intro token _
  cases hextra : isExtraClause token <;> cases hsort : isSortClause token <;>
    simp [isReportClause, hextra, hsort]

theorem unsorted_rowTokens : unsorted (rowTokens extra tokens) =
    (unsorted tokens).filter fun token => !(RowFilter.parse? extra token).isSome := by
  simp only [unsorted, takeAll, rowTokens, List.filter_filter]
  refine List.filter_congr fun token _ => ?_
  cases hextra : isExtraClause token <;> cases hsort : isSortClause token <;>
    simp [isReportClause, hextra, hsort]

end Tokens

/-- **The words of a command without its clauses for reports** are those of the command, without sorts
and filters. -/
theorem CommandWords.read_rowTokens {s : Scope} {tokens : List String} {w : CommandWords}
    (h : CommandWords.read s tokens = .ok w) :
    CommandWords.read s (rowTokens w.extra tokens) = .ok { w with sorts := [], filters := [] } := by
  have hw := CommandWords.readFrom h
  have hleft : unsorted (rowTokens w.extra tokens) = w.tokens := by
    rw [hw.tokens, unsorted_rowTokens]
  have hnone : ∀ token ∈ w.tokens, RowFilter.parse? w.extra token = none := by
    intro token htoken
    rw [hw.tokens, List.mem_filter] at htoken
    simpa using htoken.2
  have hfilters : w.tokens.filterMap (RowFilter.parse? w.extra) = [] :=
    List.filterMap_eq_nil_iff.mpr hnone
  have htokens : (w.tokens.filter fun token => !(RowFilter.parse? w.extra token).isSome) =
      w.tokens := List.filter_eq_self.mpr fun token htoken => by simp [hnone token htoken]
  rw [CommandWords.read_eq, extraClauses_rowTokens, sortClauses_rowTokens, hw.extra]
  change Except.ok _ = _
  rw [hleft, hfilters, htokens]
  rfl

/-- Beside extra columns that are not aggregate, filters are on the count. -/
theorem RowFilter.target_of_plain {extra : ExtraList} {token : String} {f : RowFilter}
    (hplain : extra.isAggregate = false) (h : RowFilter.parse? extra token = some f) :
    f.field.target = .count := by
  obtain ⟨-, -, -, -, hreadable, -⟩ := RowFilter.exists_split_of_parse? h
  cases htarget : f.field.target with
  | count => rfl
  | key =>
    rw [htarget] at hreadable
    cases hreadable
  | extra index =>
    rw [htarget, RowFilter.readable, hplain] at hreadable
    cases hreadable

section Rows

variable {c : Catalog} {context : Context} {defaultName : String}

theorem plain_of_build {extra : ExtraList} {tokens : List String} {q : Query}
    (h : buildQuery c context defaultName extra tokens = .ok q) (hrow : q.isAggregate = false) :
    q.group = none ∧ extra.isAggregate = false := by
  obtain ⟨words, tree, -, hbuilt⟩ := buildQuery_eq_ok h
  rw [Query.isAggregate, hbuilt.extra, Bool.or_eq_false_iff] at hrow
  obtain ⟨hgroup, hplain⟩ := hrow
  exact ⟨by simpa using hgroup, hplain⟩

/-- **A command for a row has one fragment**, because beside several all queries are aggregate. -/
theorem unsplit_of_row {tokens : List String} {g : QueryGroup}
    (h : QueryGroup.parse c context defaultName tokens = .ok g)
    (hrow : g.primary.isAggregate = false) :
    ∃ w q, CommandWords.read (defaultScope c context) tokens = .ok w ∧ fragmentToken ∉ w.tokens ∧
      buildQuery c context defaultName w.extra w.tokens = .ok q ∧
      g = QueryGroup.unsplit tokens w q := by
  obtain ⟨w, hread, hparsed⟩ := parse_eq_ok h
  have hsingle : g.others = [] := by
    by_contra hothers
    have haggregate := hparsed.aggregate hothers g.primary (List.mem_cons_self ..)
    rw [hrow] at haggregate
    cases haggregate
  have hothers : w.others = [] := by
    have hlength := hparsed.others.length_eq
    rw [hsingle] at hlength
    exact List.length_eq_zero_iff.mp hlength
  have hslash : fragmentToken ∉ w.tokens := others_eq_nil_iff.mp hothers
  rw [QueryGroup.parse_unsplit hread hslash] at h
  cases hbuild : buildQuery c context defaultName w.extra w.tokens with
  | error e =>
    rw [hbuild] at h
    cases h
  | ok q =>
    rw [hbuild] at h
    exact ⟨w, q, hread, hslash, hbuild, (Except.ok.inj h).symm⟩

/-- A group without sorts and filters, under the description of these tokens. -/
def QueryGroup.forRow (g : QueryGroup) (tokens : List String) : QueryGroup :=
  { g with sorts := [], filters := [], description := describe g.primary.actor (joinWith " " tokens) }

/-- **A command leaves its clauses for reports idle**: it has one query; its sorts and filters are those
that were typed, the filters all on the count; without them it is the same command, but for its
description; and the reply is the row of its query. -/
structure QueryGroup.LeavesIdle (c : Catalog) (context : Context) (defaultName : String)
    (tokens : List String) (g : QueryGroup) : Prop where
  single : g.others = []
  sorts : ((sortClauses tokens).mapM (parseSorts g.extra)).map List.flatten = .ok g.sorts
  filters : g.filters = (unsorted tokens).filterMap (RowFilter.parse? g.extra)
  onCount : ∀ f ∈ g.filters, f.field.target = .count
  untyped : (∀ token ∈ tokens, isReportClause g.extra token = false) → g.sorts = [] ∧ g.filters = []
  without : QueryGroup.parse c context defaultName (rowTokens g.extra tokens) =
    .ok (g.forRow (rowTokens g.extra tokens))
  reply : ∀ d pick, g.reply d pick = do
    return ((← fetchRow d pick g.primary).map FoundRow.text).getD g.nothingText

/-- **Sorts and filters are kept but not used where a row is fetched**, for every command that asks for no
report. -/
theorem row_leaves_clauses_idle {tokens : List String} {g : QueryGroup}
    (h : QueryGroup.parse c context defaultName tokens = .ok g)
    (hrow : g.primary.isAggregate = false) : g.LeavesIdle c context defaultName tokens := by
  obtain ⟨w, q, hread, hslash, hbuild, rfl⟩ := unsplit_of_row h hrow
  obtain ⟨hgroup, hplain⟩ := plain_of_build hbuild hrow
  have hw := CommandWords.readFrom hread
  have hsorts : ∀ sorts, reportSorts w.extra q.group sorts = sorts := by
    intro sorts
    rw [hgroup]
    cases sorts <;> rfl
  have hwithout : QueryGroup.parse c context defaultName (rowTokens w.extra tokens) =
      .ok ((QueryGroup.unsplit tokens w q).forRow (rowTokens w.extra tokens)) := by
    refine (QueryGroup.parse_unsplit (CommandWords.read_rowTokens hread) hslash).trans ?_
    change (buildQuery c context defaultName w.extra w.tokens).map _ = _
    rw [hbuild]
    simp only [Except.map, QueryGroup.unsplit, QueryGroup.forRow, hsorts]
  constructor
  · rfl
  · exact hw.sorts.trans (congrArg Except.ok (hsorts w.sorts).symm)
  · exact hw.filters
  · intro f hf
    have hasked : f ∈ w.filters := hf
    rw [hw.filters] at hasked
    obtain ⟨token, -, htoken⟩ := List.mem_filterMap.mp hasked
    exact RowFilter.target_of_plain hplain htoken
  · intro hnone
    have hall : rowTokens w.extra tokens = tokens := List.filter_eq_self.mpr fun token htoken => by
      have htyped : isReportClause w.extra token = false := hnone token htoken
      rw [htyped]
      rfl
    rw [hall, h] at hwithout
    have hsame := Except.ok.inj hwithout
    exact ⟨congrArg QueryGroup.sorts hsame, congrArg QueryGroup.filters hsame⟩
  · exact hwithout
  · intro d pick
    rw [QueryGroup.reply, hrow]
    rfl

/-- Over the built-in catalog, a sort and a filter on the count are kept beside a query for a row, and
nothing reads them. -/
theorem last_game_leaves_clauses_idle : ∃ g,
    QueryGroup.parse .builtin .game "*" ["*", "n>5", "xl>20", "o=n"] = .ok g ∧
      g.primary.isAggregate = false ∧ g.sorts.length = 1 ∧ g.filters.length = 1 ∧
      rowTokens g.extra ["*", "n>5", "xl>20", "o=n"] = ["*", "xl>20"] ∧
      g.LeavesIdle .builtin .game "*" ["*", "n>5", "xl>20", "o=n"] := by
  have hgroup : (QueryGroup.parse .builtin .game "*" ["*", "n>5", "xl>20", "o=n"]).toOption.map
      (fun g => (g.primary.isAggregate, g.sorts.length, g.filters.length,
        rowTokens g.extra ["*", "n>5", "xl>20", "o=n"])) =
      some (false, 1, 1, ["*", "xl>20"]) := by
    decide +kernel
  obtain ⟨g, hparse, hseen⟩ := exists_ok_of_map hgroup
  obtain ⟨hrow, hsorts, hfilters, htokens⟩ := by simpa only [Prod.mk.injEq] using hseen
  exact ⟨g, hparse, hrow, hsorts, hfilters, htokens, row_leaves_clauses_idle hparse hrow⟩

/-- A query for a row may have a filter beside it. -/
theorem filter_left_beside_row : ¬ ∀ (c : Catalog) (context : Context) (defaultName : String)
    (tokens : List String) (g : QueryGroup),
    QueryGroup.parse c context defaultName tokens = .ok g → g.primary.isAggregate = false →
      g.sorts = [] ∧ g.filters = [] := by
  intro hempty
  have hgroup : (QueryGroup.parse .builtin .game "*" ["n>5"]).toOption.map
      (fun g => (g.primary.isAggregate, g.filters.isEmpty)) = some (false, false) := by
    decide +kernel
  obtain ⟨g, hparse, hseen⟩ := exists_ok_of_map hgroup
  obtain ⟨hrow, hfilters⟩ := Prod.mk.inj hseen
  obtain ⟨-, hnone⟩ := hempty .builtin .game "*" ["n>5"] g hparse hrow
  rw [hnone] at hfilters
  cases hfilters

end Rows

end GameLog
