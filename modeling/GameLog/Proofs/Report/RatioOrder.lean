import GameLog.Proofs.Query.Pieces
import GameLog.Proofs.Report.Comparing
import GameLog.Proofs.Report.Siblings

/-!
# The order of split commands

A command of several fragments that asks for no sorts is sorted by ratio. Its rows have a count for each
fragment, and what is read of them is always the second one over the first. With two fragments these are
the last two counts as well; with more they are not, and the counts behind the second one have no say in
the order of the rows.

Main statements:
* `sorts_of_split`: the sort of a split command that asks for none;
* `descending_of_stablySorted`: under that sort, rows descend by the second count over the first;
* `split_report_order`: so do the rows at the top of the report of every split command;
* `split_report_not_by_last_counts`: with three fragments they may ascend by the last count over the one
  before it.
-/

namespace GameLog

open ReportRow

/-! ## Ratios of counts -/

/-- The count behind a place over the count at that place; zero if that one is zero. -/
def countRatio (place : Nat) (counts : List Int) : Binary64 :=
  SortField.ratio (.ofInt ((counts[place]?).getD 0)) (.ofInt ((counts[place + 1]?).getD 0))

/-- The count of the last query over that of the query before it. -/
def lastRatio (counts : List Int) : Binary64 := countRatio (counts.length - 2) counts

/-- **Rows of counts descend** by a number made of them. -/
def Descending (ratio : List Int → Binary64) (rows : List (List Int)) : Prop :=
  rows.Pairwise fun a b => (ratio b).rank ≤ (ratio a).rank

instance (ratio : List Int → Binary64) (rows : List (List Int)) : Decidable (Descending ratio rows) :=
  inferInstanceAs (Decidable (rows.Pairwise _))

/-- The sort by the ratio of counts. -/
def ratioSort : SortCondition := ⟨⟨.count, .ratio, "%"⟩, false⟩

theorem value_ratioSort {counts : List Int} (hcounts : 2 ≤ counts.length) (key : Option Cell)
    (extras : List (List Cell)) :
    ratioSort.field.value (valuesOf key counts extras) = .number (countRatio 0 counts) := by
  match counts, hcounts with
  | den :: num :: rest, _ => rfl

/-! ## Sorted rows -/

section

variable {α : Type} {values : α → RowValues} {count : α → Int} {emitted rows : List α}

/-- Rows that are in the order of the sort by ratio descend by the ratio that it reads. -/
theorem rank_le_of_siblingOrder {a b : α} {x y : Binary64}
    (h : siblingOrder [ratioSort] values count a b ≠ .gt)
    (ha : ratioSort.field.value (values a) = .number x)
    (hb : ratioSort.field.value (values b) = .number y) : y.rank ≤ x.rank := by
  have hcompare : siblingOrder [ratioSort] values count a b = compare y.rank x.rank := by
    have hfirst : siblingOrder [ratioSort] values count a b =
        ((ratioSort.field.value (values b)).compare (ratioSort.field.value (values a))).then .eq :=
      rfl
    rw [hfirst, ha, hb, Ordering.then_eq]
    rfl
  rw [hcompare] at h
  exact Int.compare_ne_gt.mp h

/-- **Rows under the sort by ratio descend by the second count over the first.** -/
theorem descending_of_stablySorted {counts : α → List Int}
    (hvalues : ∀ a, ∃ key extras, values a = valuesOf key (counts a) extras)
    (hcounts : ∀ a ∈ rows, 2 ≤ (counts a).length)
    (h : StablySorted (siblingOrder [ratioSort] values count) emitted rows) :
    Descending (countRatio 0) (rows.map counts) := by
  have hreads : ∀ a ∈ rows, ratioSort.field.value (values a) =
      .number (countRatio 0 (counts a)) := by
    intro a ha
    obtain ⟨key, extras, heq⟩ := hvalues a
    rw [heq, value_ratioSort (hcounts a ha)]
  refine List.pairwise_map.mpr (h.ordered.imp_of_mem fun ha hb hle => ?_)
  exact rank_le_of_siblingOrder hle (hreads _ ha) (hreads _ hb)

end

/-- The rows at the top of a body that is sorted by ratio descend by the second count over the first. -/
theorem ReportBody.SiblingsSorted.descending {emitted : List ReportRow} {body : ReportBody}
    (h : body.SiblingsSorted [ratioSort] emitted)
    (hcounts : ∀ counts ∈ body.topCounts, 2 ≤ counts.length) :
    Descending (countRatio 0) body.topCounts := by
  cases body with
  | flat percent rows =>
    exact descending_of_stablySorted (fun r => ⟨r.key?, r.extras, rfl⟩)
      (fun r hr => hcounts _ (List.mem_map_of_mem hr)) h
  | nested percent childPercent buckets =>
    obtain ⟨⟨seen, -, hsorted⟩, -⟩ := h
    exact descending_of_stablySorted (fun b => ⟨b.key, b.extras, rfl⟩)
      (fun b hb => hcounts _ (List.mem_map_of_mem hb)) hsorted

theorem ReportBody.HasSlots.length_topCounts {width : Nat} {body : ReportBody}
    (h : body.HasSlots width) : ∀ counts ∈ body.topCounts, counts.length = width := by
  cases body with
  | flat percent rows =>
    intro counts hmem
    obtain ⟨r, hr, rfl⟩ := List.mem_map.mp hmem
    exact (h.leaves r hr).counts
  | nested percent childPercent buckets =>
    intro counts hmem
    obtain ⟨b, hb, rfl⟩ := List.mem_map.mp hmem
    exact (h.buckets b hb).counts

/-! ## Split commands -/

theorem length_fragments (tokens : List String) :
    (fragments tokens).2.length = tokens.count fragmentToken := by
  induction tokens with
  | nil => rfl
  | cons token rest ih =>
    rw [fragments_cons]
    by_cases htoken : token = fragmentToken
    · rw [if_pos htoken, htoken, List.count_cons_self, List.length_cons, ih]
    · rw [if_neg htoken, List.count_cons_of_ne htoken, ih]

theorem count_fragmentTokens (s : Scope) (tokens : List String) :
    (fragmentTokens s tokens).count fragmentToken = tokens.count fragmentToken :=
  List.count_filter (by rw [isShared_fragmentToken]; rfl)

section

variable {c : Catalog} {context : Context} {defaultName : String} {tokens : List String}
  {g : QueryGroup}

theorem length_queries (h : QueryGroup.parse c context defaultName tokens = .ok g) :
    g.queries.length = tokens.count fragmentToken + 1 := by
  obtain ⟨words, hwords, hparsed⟩ := parse_eq_ok h
  rw [QueryGroup.queries, List.length_cons, ← hparsed.others.length_eq, CommandWords.others,
    length_fragments, tokens_of_read hwords, count_fragmentTokens]

/-- **A split command that asks for no sorts is sorted by ratio**, whatever its groups and columns. -/
theorem sorts_of_split (h : QueryGroup.parse c context defaultName tokens = .ok g)
    (hsplit : fragmentToken ∈ tokens) (hplain : ∀ token ∈ tokens, isSortClause token = false) :
    g.sorts = [ratioSort] := by
  obtain ⟨words, sorts, hwords, hshared, -, -, hsorts⟩ := sorts_of_parse h
  have hnone : words.sorts = [] := by
    have hclauses : sortClauses tokens = [] := by
      refine List.filter_eq_nil_iff.mpr fun token htoken => ?_
      rw [hplain token (List.mem_of_mem_filter htoken)]
      decide
    obtain ⟨conditions, hread, hflat⟩ := map_eq_ok.mp (CommandWords.readFrom hwords).sorts
    rw [hclauses] at hread
    obtain rfl := Except.ok.inj hread
    exact hflat.symm
  have hothers : words.others ≠ [] := by
    rw [CommandWords.others, tokens_of_read hwords]
    exact others_eq_nil_iff.not.mpr (not_not.mpr (fragmentToken_mem hsplit))
  rw [CommandWords.sharedSorts, List.isEmpty_eq_false_iff.mpr hothers, if_neg Bool.false_ne_true,
    ratioSorts, hnone, List.isEmpty_nil, if_pos rfl, parseSorts_ratio] at hshared
  obtain rfl := Except.ok.inj hshared
  exact hsorts

end

/-- **The rows of a split command that asks for no sorts descend by the second count over the first**,
whatever a driver answers: at the top of each report every row has a count for each fragment, and none has
a smaller ratio of the first two counts than one behind it. So with two fragments, and only one slash among
the tokens, the rows descend by the last count over the one before it. -/
theorem split_report_order {c : Catalog} {context : Context} {defaultName : String}
    {tokens : List String} {g : QueryGroup}
    (hparse : QueryGroup.parse c context defaultName tokens = .ok g)
    (hsplit : fragmentToken ∈ tokens) (hplain : ∀ token ∈ tokens, isSortClause token = false)
    {d : Driver} {before calls : List Call} {report : Report}
    (hrun : (askReport d g).run before = (.ok (some report), calls)) :
    (∀ counts ∈ report.body.topCounts, counts.length = tokens.count fragmentToken + 1) ∧
      Descending (countRatio 0) report.body.topCounts ∧
      (tokens.count fragmentToken = 1 → Descending lastRatio report.body.topCounts) := by
  obtain ⟨hslots, -⟩ := report_slots_exist hrun
  have hlength := hslots.length_topCounts
  rw [length_queries hparse] at hlength
  have hslash : 0 < tokens.count fragmentToken := List.count_pos_iff.mpr hsplit
  obtain ⟨first, rest, -, -, hsorted⟩ := report_rows_sorted hrun
  rw [sorts_of_split hparse hsplit hplain] at hsorted
  have hdescending : Descending (countRatio 0) report.body.topCounts :=
    hsorted.descending fun counts hcounts => by
      rw [hlength counts hcounts]
      omega
  refine ⟨hlength, hdescending, fun hone => hdescending.imp_of_mem fun {a b} ha hb hle => ?_⟩
  have htwo : ∀ counts ∈ report.body.topCounts, lastRatio counts = countRatio 0 counts := by
    intro counts hcounts
    rw [lastRatio, hlength counts hcounts, hone]
  rw [htwo a ha, htwo b hb]
  exact hle

/-! ### Gods of three queries -/

/-- Gods of all games, and of those that came far and farther: half of the games of the first god came
far, but hardly any of them farther. -/
def ratioGods : List (List Row) :=
  [[[.integer 10, .text "Trog"], [.integer 10, .text "Xom"]],
    [[.integer 5, .text "Trog"], [.integer 2, .text "Xom"]],
    [[.integer 1, .text "Trog"], [.integer 2, .text "Xom"]]]

/-- A driver that counts twenty games each time, and answers with these gods in turn. -/
def ratioGodsDriver : Driver where
  count _ _ := .ok 20
  rows before _ _ _ := .ok ((ratioGods[(before.filter Call.isRows).length]?).getD [])

/-- Over the built-in catalog, gods of two queries descend by the last count over the one before it. -/
theorem two_queries_report_order : ∃ g report calls,
    QueryGroup.parse .builtin .game "*" ["s=god", "/", "xl>5"] = .ok g ∧
      fragmentToken ∈ ["s=god", "/", "xl>5"] ∧
      (∀ token ∈ ["s=god", "/", "xl>5"], isSortClause token = false) ∧
      (askReport ratioGodsDriver g).run [] = (.ok (some report), calls) ∧
      Descending lastRatio report.body.topCounts := by
  have hgroup : (QueryGroup.parse .builtin .game "*" ["s=god", "/", "xl>5"]).toOption.map
      (fun g => ((askReport ratioGodsDriver g).run []).1.toOption.map Option.isSome) =
        some (some true) := by decide +kernel
  obtain ⟨g, hparse, hsome⟩ := exists_ok_of_map hgroup
  obtain ⟨report, hrun⟩ := exists_some_of_isSome hsome
  have hsplit : fragmentToken ∈ ["s=god", "/", "xl>5"] := by decide
  have hplain : ∀ token ∈ ["s=god", "/", "xl>5"], isSortClause token = false := by decide +kernel
  obtain ⟨-, -, hlast⟩ := split_report_order hparse hsplit hplain hrun
  exact ⟨g, report, _, hparse, hsplit, hplain, hrun, hlast (by decide)⟩

/-- **With three fragments the rows may ascend by the last count over the one before it**: the first god
has one of five games there, and the second one two of two. -/
theorem split_report_not_by_last_counts : ∃ g report calls,
    QueryGroup.parse .builtin .game "*" ["s=god", "/", "xl>5", "/", "xl>9"] = .ok g ∧
      fragmentToken ∈ ["s=god", "/", "xl>5", "/", "xl>9"] ∧
      (∀ token ∈ ["s=god", "/", "xl>5", "/", "xl>9"], isSortClause token = false) ∧
      (askReport ratioGodsDriver g).run [] = (.ok (some report), calls) ∧
      report.body.topCounts = [[10, 5, 1], [10, 2, 2]] ∧
      ¬ Descending lastRatio report.body.topCounts := by
  have hgroup : (QueryGroup.parse .builtin .game "*" ["s=god", "/", "xl>5", "/", "xl>9"]).toOption.map
      (fun g => (((askReport ratioGodsDriver g).run []).1.toOption.map Option.isSome,
        ((askGroups ratioGodsDriver g.queries).run ([] ++ g.queries.map fun q =>
          .count q.selectCount)).1.toOption.map fun answers => decide (answers = ratioGods),
        g.primary.groupFields.map (·.field), g.filters.isEmpty)) =
      some (some true, some true, ["god"], true) := by decide +kernel
  obtain ⟨g, hparse, hall⟩ := exists_ok_of_map hgroup
  simp only [Prod.mk.injEq] at hall
  obtain ⟨hsome, hanswers, hfields, hfilters⟩ := hall
  obtain ⟨report, hrun⟩ := exists_some_of_isSome hsome
  obtain ⟨answers, hasked, hsame⟩ := exists_ok_of_map hanswers
  obtain rfl := of_decide_eq_true hsame
  have hsplit : fragmentToken ∈ ["s=god", "/", "xl>5", "/", "xl>9"] := by decide
  have hplain : ∀ token ∈ ["s=god", "/", "xl>5", "/", "xl>9"], isSortClause token = false := by
    decide +kernel
  obtain ⟨field, hfield, -⟩ := List.map_eq_singleton_iff.mp hfields
  have hsorted : sortRows [ratioSort] ReportRow.values ReportRow.count (mergedRows 1 ratioGods) =
      [⟨[.text "Trog"], [10, 5, 1], []⟩, ⟨[.text "Xom"], [10, 2, 2], []⟩] :=
    sortRows_eq_of_strict (by decide +kernel) (by decide +kernel)
  have htop : report.body.topCounts = [[10, 5, 1], [10, 2, 2]] := by
    obtain ⟨counts, answers, -, hgroups, hreport⟩ := askReport_eq_some hrun
    obtain rfl := hgroups.unique (groupsAre_of_run (Prod.ext hasked rfl))
    obtain ⟨hbody, -⟩ := report_eq_some hreport
    have hkept : ∀ rows, keptRows g.filters rows = rows := fun rows => by
      rw [List.isEmpty_iff.mp hfilters]
      exact List.filter_eq_self.mpr fun _ _ => rfl
    rw [hbody, hkept, sorts_of_split hparse hsplit hplain, hfield]
    simp only [reportBody, List.length_singleton, hsorted]
    rfl
  refine ⟨g, report, _, hparse, hsplit, hplain, hrun, htop, ?_⟩
  rw [htop]
  decide +kernel

end GameLog
