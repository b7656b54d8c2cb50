import GameLog.Proofs.Report.RatioMerge

/-!
# Keys of groups

The rows of several answers are brought into one row of a report if they have the same key: the texts of
their group cells in lower case, with a separator between them. A text may contain the separator or end
in half of it, and then two groups can have one key: it is cut into two texts at two places.

Main statements:
* `joinWith_eq_iff`: two keys are the same exactly if their texts are, or the texts of one straddle the
  separator of the other;
* `groups_merge_iff`: which rows of the answers are brought into one row of a report;
* `straddling_groups_merge`: there are groups of different texts that are.
-/

namespace GameLog

open GameLog.Text ReportRow

/-! ## Texts that straddle the separator -/

/-- **The texts of one group straddle the separator of another one**: its second text, with the
separator in front of it, is a piece that belongs to the first text of the other group, and then the
separator and the second text of that. -/
def Straddle : List String → List String → Prop
  | [first, second], [first', second'] =>
    ∃ piece, piece ≠ "" ∧ first' = first ++ piece ∧
      keySeparator ++ second = piece ++ keySeparator ++ second'
  | _, _ => False

section Pairs

variable {first second first' second' : String}

theorem Straddle.append_eq (h : Straddle [first, second] [first', second']) :
    first ++ keySeparator ++ second = first' ++ keySeparator ++ second' := by
  obtain ⟨piece, -, rfl, hsecond⟩ := h
  rw [String.append_assoc, hsecond]
  simp only [String.append_assoc]

theorem eq_or_straddle {piece : List Char} (hfirst : first'.toList = first.toList ++ piece)
    (hsecond : (keySeparator ++ second).toList = piece ++ (keySeparator ++ second').toList) :
    [first, second] = [first', second'] ∨ Straddle [first, second] [first', second'] := by
  cases piece with
  | nil =>
    rw [List.append_nil, String.toList_inj] at hfirst
    rw [List.nil_append, String.toList_inj, String.append_right_inj] at hsecond
    exact .inl (by rw [hfirst, hsecond])
  | cons c cs =>
    refine .inr ⟨String.ofList (c :: cs), by simp [← String.toList_inj], ?_, ?_⟩
    · exact String.toList_inj.mp (by simpa using hfirst)
    · exact String.toList_inj.mp (by simpa using hsecond)

/-- Two pairs of texts give one key exactly if they are the same, or one straddles the other. -/
theorem append_separator_eq_iff :
    first ++ keySeparator ++ second = first' ++ keySeparator ++ second' ↔
      [first, second] = [first', second'] ∨ Straddle [first, second] [first', second'] ∨
        Straddle [first', second'] [first, second] := by
  constructor
  · intro h
    have hchars : first.toList ++ (keySeparator ++ second).toList =
        first'.toList ++ (keySeparator ++ second').toList := by
      simpa using congrArg String.toList h
    rcases List.append_eq_append_iff.mp hchars with
      ⟨piece, hfirst, hsecond⟩ | ⟨piece, hfirst, hsecond⟩
    · exact (eq_or_straddle hfirst hsecond).imp_right .inl
    · exact (eq_or_straddle hfirst hsecond).imp Eq.symm .inr
  · rintro (h | h | h)
    · rw [List.cons_eq_cons, List.cons_eq_cons] at h
      rw [h.1, h.2.1]
    · exact h.append_eq
    · exact h.append_eq.symm

end Pairs

/-- **Two keys of groups with at most two texts are the same exactly if the texts are, or one group
straddles the separator of the other.** -/
theorem joinWith_eq_iff {texts texts' : List String} (hlength : texts.length = texts'.length)
    (htwo : texts.length ≤ 2) :
    joinWith keySeparator texts = joinWith keySeparator texts' ↔
      texts = texts' ∨ Straddle texts texts' ∨ Straddle texts' texts := by
  match texts, texts', hlength with
  | [], [], _ => simp [Straddle]
  | [text], [text'], _ => simp [Straddle, joinWith]
  | [first, second], [first', second'], _ =>
    have hjoin : ∀ a b : String, joinWith keySeparator [a, b] = a ++ keySeparator ++ b :=
      fun a b => by simp [joinWith, String.intercalate_cons_cons]
    rw [hjoin, hjoin]
    exact append_separator_eq_iff

/-- **A text is free of the separator**: it does not contain it, nor end in half of it. -/
def SeparatorFree (text : String) : Prop :=
  occurs keySeparator.toList (text.toList ++ ['@']) = false

instance (text : String) : Decidable (SeparatorFree text) := inferInstanceAs (Decidable (_ = _))

/-- A group whose first text is free of the separator is straddled by no other one. -/
theorem not_straddle_of_separatorFree {texts texts' : List String}
    (h : ∀ text ∈ texts'.dropLast, SeparatorFree text) : ¬Straddle texts texts' := by
  intro hstraddle
  match texts, texts', hstraddle with
  | [first, second], [_, second'], ⟨piece, hpiece, rfl, hsecond⟩ =>
    refine Bool.eq_false_iff.mp (h (first ++ piece) (by simp)) ?_
    have hsep : keySeparator.toList = ['@', '@'] := rfl
    have hne : piece.toList ≠ [] := fun hnil => hpiece (String.toList_inj.mp hnil)
    have hchars := congrArg String.toList hsecond
    rw [String.toList_append, String.toList_append, String.toList_append, hsep] at hchars
    rw [occurs_iff, String.toList_append, hsep]
    -- the piece is half of the separator, or begins with all of it
    match hpiece' : piece.toList, hne with
    | [c], _ =>
      rw [hpiece'] at hchars
      obtain ⟨hc, -⟩ := List.cons.inj hchars
      exact ⟨first.toList, [], by rw [← hc]; simp⟩
    | c :: c' :: rest, _ =>
      rw [hpiece'] at hchars
      obtain ⟨hc, hchars⟩ := List.cons.inj hchars
      obtain ⟨hc', -⟩ := List.cons.inj hchars
      exact ⟨first.toList, rest ++ ['@'], by rw [← hc, ← hc']; simp⟩

/-! ## Rows of one key -/

/-- A row with a text for each group field. -/
def HasGroupTexts (groups : Nat) (row : Row) : Prop :=
  ∃ texts : List String, texts.length = groups ∧ row.tail.take groups = texts.map .text

/-- The groups of two rows agree: they have the same texts, without regard to letter case. -/
def GroupsAgree (groups : Nat) (row row' : Row) : Prop :=
  groupTexts groups row = groupTexts groups row'

/-- The groups of two rows straddle the separator, one way or the other. -/
def GroupsStraddle (groups : Nat) (row row' : Row) : Prop :=
  Straddle (groupTexts groups row) (groupTexts groups row') ∨
    Straddle (groupTexts groups row') (groupTexts groups row)

/-- All texts of the group of a row that a separator stands behind are free of it. -/
def SeparatorFreeGroup (groups : Nat) (row : Row) : Prop :=
  ∀ text ∈ (groupTexts groups row).dropLast, SeparatorFree text

variable {groups : Nat} {row row' : Row}

theorem rowKey_eq (row : Row) : rowKey groups row = joinWith keySeparator (groupTexts groups row) :=
  rowKey_eq_keyText row

theorem HasGroupTexts.length_groupTexts (h : HasGroupTexts groups row) :
    (groupTexts groups row).length = groups := by
  obtain ⟨texts, hlength, hcells⟩ := h
  rw [groupTexts, hcells, List.length_map, List.length_map, hlength]

/-- **Two rows have one key exactly if their groups agree or straddle.** -/
theorem rowKey_eq_iff (htwo : groups ≤ 2) (h : HasGroupTexts groups row)
    (h' : HasGroupTexts groups row') :
    rowKey groups row = rowKey groups row' ↔
      GroupsAgree groups row row' ∨ GroupsStraddle groups row row' := by
  rw [rowKey_eq, rowKey_eq]
  exact joinWith_eq_iff (h.length_groupTexts.trans h'.length_groupTexts.symm)
    (h.length_groupTexts.trans_le htwo)

theorem not_groupsStraddle (h : SeparatorFreeGroup groups row) (h' : SeparatorFreeGroup groups row') :
    ¬GroupsStraddle groups row row' := by
  rintro (hstraddle | hstraddle)
  · exact not_straddle_of_separatorFree h' hstraddle
  · exact not_straddle_of_separatorFree h hstraddle

/-! ## Reports -/

theorem Query.length_groupFields_le (q : Query) : q.groupFields.length ≤ 2 := by
  unfold Query.groupFields
  cases q.group with
  | none => exact Nat.zero_le 2
  | some list =>
    have hlength := list.length_fields
    simp only [Option.map_some, Option.getD_some]
    omega

/-- The counts of a leaf of a report on several queries are those of the rows of its key. -/
theorem counts_of_mem_leaves {d : Driver} {g : QueryGroup} {before calls : List Call}
    {report : Report} (hrun : (askReport d g).run before = (.ok (some report), calls))
    (hratio : g.others ≠ []) {answers : List (List Row)}
    (hgroups : GroupsAre d (before ++ g.queries.map fun q => .count q.selectCount) g.queries answers)
    {r : ReportRow} (hr : r ∈ report.body.leaves) :
    r.counts = answers.map (keyCount g.primary.groupFields.length r.mergeKey) := by
  have hmerged := mem_mergedRows_of_mem_leaves hrun hgroups hr
  have hlength : answers.length = g.others.length + 1 := hgroups.length_eq
  match answers, hlength with
  | [only], hlength =>
    exact absurd (List.length_eq_zero_iff.mp (Nat.succ.inj hlength).symm) hratio
  | first :: second :: rest, _ =>
    rw [mergedRows_eq] at hmerged
    obtain ⟨seed, -, rfl⟩ := List.mem_map.mp hmerged
    rfl

/-- **Which rows are brought into one row of a report on several queries**, if each has a text for each
group field. The count of a leaf at each place is the sum of the counts of the rows of its key in the
answer there. Two rows of the answers have one key exactly if their groups agree without regard to
letter case, or straddle the separator. So the groups of all rows in one leaf agree, if no text with a
separator behind it contains one or ends in half of one. -/
theorem groups_merge_iff {d : Driver} {g : QueryGroup} {before calls : List Call} {report : Report}
    (hrun : (askReport d g).run before = (.ok (some report), calls)) (hratio : g.others ≠ [])
    {answers : List (List Row)}
    (hgroups : GroupsAre d (before ++ g.queries.map fun q => .count q.selectCount) g.queries answers)
    (htexts : ∀ row ∈ answers.flatten, HasGroupTexts g.primary.groupFields.length row) :
    (∀ r ∈ report.body.leaves,
      r.counts = answers.map (keyCount g.primary.groupFields.length r.mergeKey)) ∧
    (∀ row ∈ answers.flatten, ∀ row' ∈ answers.flatten,
      rowKey g.primary.groupFields.length row = rowKey g.primary.groupFields.length row' ↔
        GroupsAgree g.primary.groupFields.length row row' ∨
        GroupsStraddle g.primary.groupFields.length row row') ∧
    ((∀ row ∈ answers.flatten, SeparatorFreeGroup g.primary.groupFields.length row) →
      ∀ r ∈ report.body.leaves, ∀ row ∈ answers.flatten, ∀ row' ∈ answers.flatten,
        rowKey g.primary.groupFields.length row = r.mergeKey →
        rowKey g.primary.groupFields.length row' = r.mergeKey →
        GroupsAgree g.primary.groupFields.length row row') := by
  have hkeys : ∀ row ∈ answers.flatten, ∀ row' ∈ answers.flatten,
      rowKey g.primary.groupFields.length row = rowKey g.primary.groupFields.length row' ↔
        GroupsAgree g.primary.groupFields.length row row' ∨
        GroupsStraddle g.primary.groupFields.length row row' :=
    fun row hrow row' hrow' =>
      rowKey_eq_iff g.primary.length_groupFields_le (htexts row hrow) (htexts row' hrow')
  refine ⟨fun r hr => counts_of_mem_leaves hrun hratio hgroups hr, hkeys,
    fun hfree r _ row hrow row' hrow' hkey hkey' => ?_⟩
  have hsame := (hkeys row hrow row' hrow').mp (hkey.trans hkey'.symm)
  exact hsame.resolve_right (not_groupsStraddle (hfree row hrow) (hfree row' hrow'))

/-- Two groups of games whose texts straddle. -/
def straddlingAnswer : List Row :=
  [[.integer 1, .text "Kobold@@Ice", .text "Mage"], [.integer 2, .text "Kobold", .text "Ice@@Mage"]]

/-- One of the two groups, written in other letters. -/
def furtherStraddlingAnswer : List Row := [[.integer 1, .text "KOBOLD@@ICE", .text "mage"]]

/-- A driver that counts three rows each time, and answers with these groups in turn. -/
def straddlingDriver : Driver where
  count _ _ := .ok 3
  rows before _ _ _ :=
    if before.any Call.isRows then .ok furtherStraddlingAnswer else .ok straddlingAnswer

/-- The report on these groups, over the built-in catalog. -/
theorem exists_straddling_report : ∃ g report calls,
    QueryGroup.parse .builtin .game "*" ["s=race,cls", "/", "xl>5"] = .ok g ∧ g.others ≠ [] ∧
      (askReport straddlingDriver g).run [] = (.ok (some report), calls) ∧
      GroupsAre straddlingDriver ([] ++ g.queries.map fun q => .count q.selectCount) g.queries
        [straddlingAnswer, furtherStraddlingAnswer] ∧
      g.primary.groupFields.length = 2 ∧ g.filters = [] := by
  have hgroup : (QueryGroup.parse .builtin .game "*" ["s=race,cls", "/", "xl>5"]).toOption.map
      (fun g => (g.others.isEmpty,
        ((askReport straddlingDriver g).run []).1.toOption.map Option.isSome,
        ((askGroups straddlingDriver g.queries).run ([] ++ g.queries.map fun q =>
          .count q.selectCount)).1.toOption.map fun answers =>
            decide (answers = [straddlingAnswer, furtherStraddlingAnswer]),
        g.primary.groupFields.length, g.filters.isEmpty)) =
      some (false, some true, some true, 2, true) := by decide +kernel
  obtain ⟨g, hparse, hall⟩ := exists_ok_of_map hgroup
  simp only [Prod.mk.injEq] at hall
  obtain ⟨hothers, hsome, hanswers, hlength, hfilters⟩ := hall
  obtain ⟨report, hrun⟩ := exists_some_of_isSome hsome
  obtain ⟨answers, hasked, hsame⟩ := exists_ok_of_map hanswers
  obtain rfl := of_decide_eq_true hsame
  exact ⟨g, report, _, hparse, List.isEmpty_eq_false_iff.mp hothers, hrun,
    groupsAre_of_run (Prod.ext hasked rfl), hlength, List.isEmpty_iff.mp hfilters⟩

theorem hasGroupTexts_straddling :
    ∀ row ∈ [straddlingAnswer, furtherStraddlingAnswer].flatten, HasGroupTexts 2 row := by
  simp only [straddlingAnswer, furtherStraddlingAnswer, List.flatten_cons, List.flatten_nil,
    List.cons_append, List.nil_append, List.forall_mem_cons, List.not_mem_nil, false_imp_iff,
    implies_true, and_true]
  exact ⟨⟨["Kobold@@Ice", "Mage"], rfl, rfl⟩, ⟨["Kobold", "Ice@@Mage"], rfl, rfl⟩,
    ⟨["KOBOLD@@ICE", "mage"], rfl, rfl⟩⟩

/-- On these groups, rows have one key exactly if their groups agree or straddle. -/
theorem straddling_groups_merge_iff : ∃ g report calls,
    QueryGroup.parse .builtin .game "*" ["s=race,cls", "/", "xl>5"] = .ok g ∧ g.others ≠ [] ∧
      (askReport straddlingDriver g).run [] = (.ok (some report), calls) ∧
      GroupsAre straddlingDriver ([] ++ g.queries.map fun q => .count q.selectCount) g.queries
        [straddlingAnswer, furtherStraddlingAnswer] ∧
      (∀ row ∈ [straddlingAnswer, furtherStraddlingAnswer].flatten,
        HasGroupTexts g.primary.groupFields.length row) ∧
      (∀ r ∈ report.body.leaves, r.counts = [straddlingAnswer, furtherStraddlingAnswer].map
        (keyCount g.primary.groupFields.length r.mergeKey)) ∧
      ∀ row ∈ [straddlingAnswer, furtherStraddlingAnswer].flatten,
        ∀ row' ∈ [straddlingAnswer, furtherStraddlingAnswer].flatten,
        rowKey g.primary.groupFields.length row = rowKey g.primary.groupFields.length row' ↔
          GroupsAgree g.primary.groupFields.length row row' ∨
          GroupsStraddle g.primary.groupFields.length row row' := by
  obtain ⟨g, report, calls, hparse, hratio, hrun, hgroups, hlength, -⟩ := exists_straddling_report
  have htexts := hasGroupTexts_straddling
  rw [← hlength] at htexts
  obtain ⟨hcounts, hkeys, -⟩ := groups_merge_iff hrun hratio hgroups htexts
  exact ⟨g, report, calls, hparse, hratio, hrun, hgroups, htexts, hcounts, hkeys⟩

/-- **There are groups of different texts that are brought into one row of a report.** -/
theorem straddling_groups_merge : ∃ g report calls,
    QueryGroup.parse .builtin .game "*" ["s=race,cls", "/", "xl>5"] = .ok g ∧ g.others ≠ [] ∧
      (askReport straddlingDriver g).run [] = (.ok (some report), calls) ∧
      GroupsAre straddlingDriver ([] ++ g.queries.map fun q => .count q.selectCount) g.queries
        [straddlingAnswer, furtherStraddlingAnswer] ∧
      (∀ row ∈ [straddlingAnswer, furtherStraddlingAnswer].flatten,
        HasGroupTexts g.primary.groupFields.length row) ∧
      ∃ r ∈ report.body.leaves, r.counts = [3, 1] ∧
        ∃ row ∈ straddlingAnswer, ∃ row' ∈ straddlingAnswer,
          rowKey g.primary.groupFields.length row = r.mergeKey ∧
          rowKey g.primary.groupFields.length row' = r.mergeKey ∧
          ¬GroupsAgree g.primary.groupFields.length row row' := by
  obtain ⟨g, report, calls, hparse, hratio, hrun, hgroups, hlength, hfilters⟩ :=
    exists_straddling_report
  have htexts := hasGroupTexts_straddling
  rw [← hlength] at htexts
  obtain ⟨counts, answers, -, hgroups', hreport⟩ := askReport_eq_some hrun
  obtain rfl := hgroups.unique hgroups'
  obtain ⟨hbody, -⟩ := report_eq_some hreport
  have hmerged : (⟨[.text "Kobold@@Ice", .text "Mage"], [3, 1], []⟩ : ReportRow) ∈
      mergedRows 2 [straddlingAnswer, furtherStraddlingAnswer] := by decide +kernel
  rw [hlength, hfilters] at hbody
  refine ⟨g, report, calls, hparse, hratio, hrun, hgroups, htexts,
    ⟨[.text "Kobold@@Ice", .text "Mage"], [3, 1], []⟩, ?_, rfl,
    [.integer 1, .text "Kobold@@Ice", .text "Mage"], by decide,
    [.integer 2, .text "Kobold", .text "Ice@@Mage"], by decide, ?_⟩
  · rw [hbody, (leaves_reportBody _ _ _).mem_iff]
    exact List.mem_filter.mpr ⟨hmerged, rfl⟩
  · rw [hlength]
    unfold GroupsAgree
    decide +kernel

end GameLog
