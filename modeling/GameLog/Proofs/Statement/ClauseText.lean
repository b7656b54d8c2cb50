import GameLog.Proofs.Statement.WhereText

/-!
# Names in the text of clauses

A store finds the columns of a statement by the names in its text. The words of a text that have a
point in them are its qualified names. Where a mark or a blank stands between two texts no word goes
on from the first one into the second one, so the qualified names of both are those of each
(`qualifiedNames_append`), and clauses are read part by part.

Main statements:
* `sublist_wordsBehind`: the characters of words are those of their text;
* `Statement.Legible.exists_column`: the qualified names in the clauses of a statement are its columns.
-/

namespace GameLog

open GameLog.Text

/-! ## Characters of words -/

theorem flatMap_wordOf (cs : List Char) : (wordOf cs).flatMap String.toList = cs := by
  cases cs <;> simp [wordOf]

/-- The characters of words are those of their text, in its order. -/
theorem sublist_wordsBehind (front text : List Char) :
    ((wordsBehind front text).flatMap String.toList).Sublist (front ++ text) := by
  induction text generalizing front with
  | nil => rw [wordsBehind, flatMap_wordOf, List.append_nil]
  | cons c cs ih =>
    have hrest : ((wordsBehind [] cs).flatMap String.toList).Sublist cs := ih []
    rw [wordsBehind]
    split
    · simpa using ih (front ++ [c])
    · split
      · rw [List.flatMap_append, flatMap_wordOf]
        exact (ih [c]).append_left front
      · split
        · rw [List.flatMap_append, flatMap_wordOf]
          exact (hrest.cons c).append_left front
        · rw [List.flatMap_append, flatMap_wordOf, List.flatMap_cons, String.toList_ofList]
          exact (hrest.cons_cons c).append_left front

/-! ## Qualified names -/

/-- **The qualified names of a text**: its words with a point in them. -/
def qualifiedNames (text : List Char) : List String :=
  (wordsOf text).filter fun word => word.toList.contains '.'

theorem qualifiedNames_append (a : List Char) {rest : List Char} (h : Breaks rest) :
    qualifiedNames (a ++ rest) = qualifiedNames a ++ qualifiedNames rest := by
  have hwords : wordsOf (a ++ rest) = wordsOf a ++ wordsOf rest := wordsBehind_append_breaks [] a h
  rw [qualifiedNames, hwords, List.filter_append]
  rfl

theorem qualifiedNames_eq_nil {text : List Char} (h : '.' ∉ text) : qualifiedNames text = [] := by
  refine List.filter_eq_nil_iff.mpr fun word hword hpoint => h ?_
  have hmem : '.' ∈ (wordsOf text).flatMap String.toList :=
    List.mem_flatMap.mpr ⟨word, hword, by simpa using hpoint⟩
  exact (sublist_wordsBehind [] text).mem hmem

/-- A mark in front of a text is no part of its names. -/
theorem qualifiedNames_mark {c : Char} (h : isMark c = true) (rest : List Char) :
    qualifiedNames (c :: rest) = qualifiedNames rest := by
  have hparts : ¬ (isNamePart c || isOperatorPart c) = true := by simpa [isMark] using h
  have hgoes : ¬ goesOn [] c = true := goesOn_of_break (by simpa using hparts) []
  have hpoint : (String.ofList [c]).toList.contains '.' = false := by
    simp only [String.toList_ofList, List.contains_cons, List.contains_nil, Bool.or_false,
      beq_eq_false_iff_ne]
    rintro rfl
    exact absurd h (by decide)
  rw [qualifiedNames, wordsOf, wordsBehind, if_neg hgoes, if_neg hparts]
  split
  · rfl
  · have hneg : ¬ (String.ofList [c]).toList.contains '.' = true := by rw [hpoint]; decide
    exact List.filter_cons_of_neg hneg

/-- **Names are read on both sides of a mark.** -/
theorem qualifiedNames_around {c : Char} (h : isMark c = true) (a rest : List Char) :
    qualifiedNames (a ++ c :: rest) = qualifiedNames a ++ qualifiedNames rest := by
  rw [qualifiedNames_append a (breaks_mark h rest), qualifiedNames_mark h]

theorem Column.Legible.qualifiedNames_text {c : Column} (h : c.Legible) :
    qualifiedNames c.text.toList = [c.text] := by
  have hpoint : c.text.toList.contains '.' = true := by simpa using h.point_mem
  rw [qualifiedNames, h.wordsOf_self]
  exact List.filter_cons_of_pos hpoint

theorem qualifiedNames_before {c : Char} (h : isMark c = true) (a : List Char) {rest : List Char}
    (hrest : '.' ∉ rest) : qualifiedNames (a ++ c :: rest) = qualifiedNames a := by
  rw [qualifiedNames_around h, qualifiedNames_eq_nil hrest, List.append_nil]

theorem qualifiedNames_behind {c : Char} (h : isMark c = true) {a : List Char} (ha : '.' ∉ a)
    (rest : List Char) : qualifiedNames (a ++ c :: rest) = qualifiedNames rest := by
  rw [qualifiedNames_around h, qualifiedNames_eq_nil ha, List.nil_append]

/-! ## Parts of clauses -/

/-- An expression names the column that it reads, if its function has no point. -/
theorem qualifiedNames_expression {e : Expression} (hcolumn : ∀ c, e.column? = some c → c.Legible)
    (hfunction : ∀ function c, e = .apply function c → '.' ∉ function.toList) :
    qualifiedNames e.text.toList = (e.column?.map Column.text).toList := by
  -- a call has its column between two marks
  have hcall : ∀ (front : List Char) (mark : Char) {c : Column}, '.' ∉ front → isMark mark = true →
      c.Legible → qualifiedNames (front ++ mark :: (c.text.toList ++ [')'])) = [c.text] := by
    intro front mark c hfront hmark hc
    rw [qualifiedNames_behind hmark hfront,
      qualifiedNames_before (by decide) _ List.not_mem_nil, hc.qualifiedNames_text]
  cases e with
  | column c => exact (hcolumn c rfl).qualifiedNames_text
  | countRows => exact qualifiedNames_eq_nil (by decide)
  | countDistinct c =>
    have hdistinct := hcall "COUNT(DISTINCT".toList ' ' (by decide) (by decide) (hcolumn c rfl)
    simpa [Expression.column?] using hdistinct
  | apply function c =>
    have happly := hcall function.toList '(' (hfunction function c rfl) (by decide) (hcolumn c rfl)
    simpa [Expression.column?] using happly

theorem qualifiedNames_selected {item : Selected}
    (hname : ∀ name, item.asName = some name → '.' ∉ name.toList) :
    qualifiedNames item.text.toList = qualifiedNames item.expression.text.toList := by
  unfold Selected.text
  cases hgiven : item.asName with
  | none => rfl
  | some name =>
    have hpoint : '.' ∉ "AS ".toList ++ name.toList := by
      rw [List.mem_append, not_or]
      exact ⟨by decide, hname name hgiven⟩
    have hbefore := qualifiedNames_before (c := ' ') (by decide) item.expression.text.toList hpoint
    simpa using hbefore

theorem qualifiedNames_orderTerm (t : OrderTerm) :
    qualifiedNames t.text.toList = qualifiedNames t.key.text.toList := by
  have hdirection : '.' ∉ t.direction.text.toList := by cases t.direction <;> decide
  have hbefore := qualifiedNames_before (c := ' ') (by decide) t.key.text.toList hdirection
  simpa [OrderTerm.text] using hbefore

/-- The names of a list with commas are those of its items. -/
theorem qualifiedNames_joinWith (items : List String) :
    qualifiedNames (joinWith ", " items).toList =
      items.flatMap fun item => qualifiedNames item.toList := by
  rw [joinWith, String.toList_intercalate]
  induction items with
  | nil => rfl
  | cons item items ih =>
    cases items with
    | nil => simp
    | cons next items =>
      have hcomma : qualifiedNames (", ".toList ++ List.intercalate ", ".toList
          ((next :: items).map String.toList)) =
          (next :: items).flatMap fun item => qualifiedNames item.toList := by
        rw [← ih]
        exact (qualifiedNames_mark (by decide) _).trans (qualifiedNames_mark (by decide) _)
      have hbreaks : Breaks (", ".toList ++ List.intercalate ", ".toList
          ((next :: items).map String.toList)) := breaks_mark (by decide) _
      rw [List.flatMap_cons, ← hcomma, ← qualifiedNames_append _ hbreaks]
      simp [List.intercalate_cons_cons]

theorem exists_of_mem_clause {keyword : String} (front : List Char)
    (hkeyword : keyword.toList = front ++ [' ']) (hfront : '.' ∉ front) {α : Type} {f : α → String}
    {items : List α} {name : String}
    (h : name ∈ qualifiedNames (Statement.clause keyword (items.map f)).toList) :
    ∃ item ∈ items, name ∈ qualifiedNames (f item).toList := by
  unfold Statement.clause at h
  split at h
  · cases h
  · rw [String.toList_append, hkeyword, List.append_assoc, List.singleton_append,
      qualifiedNames_behind (by decide) hfront, qualifiedNames_joinWith, List.flatMap_map] at h
    exact List.mem_flatMap.mp h

/-! ## Conditions -/

/-- What holds of the columns of the comparisons of a legible condition and of the names in its fixed
texts holds of all qualified names in its text. -/
theorem Condition.Legible.forall_qualifiedNames {p : String → Prop} {c : Condition} (h : c.Legible)
    (hcolumns : ∀ comparison ∈ c.comparisons, p comparison.column.text)
    (htexts : ∀ text ∈ c.fixedTexts, ∀ name ∈ qualifiedNames text.toList, p name) :
    ∀ name ∈ qualifiedNames c.text.toList, p name := by
  intro name hname
  rw [qualifiedNames, h.wordsOf_text, List.mem_filter] at hname
  obtain ⟨hword, hpoint⟩ := hname
  obtain ⟨t, ht, hword⟩ := List.mem_flatMap.mp hword
  have hall : t.All (fun column => p column.text)
      (fun text => ∀ name ∈ qualifiedNames text.toList, p name) :=
    Condition.all_tokens c hcolumns htexts t ht
  -- the words that are no columns have no point
  have hplain : ∀ {words : List String}, (words.all fun word => !word.toList.contains '.') = true →
      name ∈ words → p name := by
    intro words hwords hmem
    have hnone := List.all_eq_true.mp hwords name hmem
    rw [hpoint] at hnone
    cases hnone
  cases t with
  | comparison column op =>
    rw [Condition.Token.words, List.cons_append] at hword
    rcases List.mem_cons.mp hword with rfl | hword
    · exact hall
    · exact hplain (by cases op <;> decide) hword
  | fixed text => exact hall name (List.mem_filter.mpr ⟨hword, hpoint⟩)
  | joint j => exact hplain (by cases j <;> decide) hword
  | opening => exact hplain (by decide) hword
  | closing => exact hplain (by decide) hword

/-! ## Statements -/

namespace Statement

/-- The clauses of a statement in which columns are named: what is selected, the condition, the groups
and the order. -/
def namingClauses (st : Statement) : List String :=
  [clause "SELECT " (st.selected.map Selected.text), st.whereClause,
    clause " GROUP BY " (st.groupBy.map Column.text), st.orderClause]

/-- **The qualified names of a statement**: those in the text of its clauses. -/
def columnNames (st : Statement) : List String :=
  st.namingClauses.flatMap fun text => qualifiedNames text.toList

/-- **A statement is legible** if its columns are, the names that it gives to what it selects and
orders by have no point, nor have its functions, and its fixed texts are equalities of columns. -/
structure Legible (st : Statement) : Prop where
  columns : ∀ c ∈ st.columns, c.Legible
  functions : ∀ function ∈ st.functions, '.' ∉ function.toList
  names : ∀ item ∈ st.selected, ∀ name, item.asName = some name → '.' ∉ name.toList
  orders : ∀ term ∈ st.orderBy, ∀ name, term.key = .named name → '.' ∉ name.toList
  texts : ∀ text ∈ st.condition.fixedTexts, ∃ a b : Column, text = a.text ++ " = " ++ b.text ∧
    readEquality? text = some (a, b)

variable {st : Statement}

theorem mem_columns_of_selected {item : Selected} (hitem : item ∈ st.selected) {c : Column}
    (hc : item.expression.column? = some c) : c ∈ st.columns := by
  simp only [columns, List.mem_append]
  exact .inl (.inl (.inl (.inl (List.mem_filterMap.mpr ⟨item, hitem, hc⟩))))

theorem mem_columns_of_comparison {comparison : Comparison}
    (h : comparison ∈ st.condition.comparisons) : comparison.column ∈ st.columns := by
  simp only [columns, List.mem_append]
  exact .inl (.inl (.inl (.inr (List.mem_map.mpr ⟨comparison, h, rfl⟩))))

theorem mem_columns_of_equality {text : String} (h : text ∈ st.condition.fixedTexts) {a b : Column}
    (hread : readEquality? text = some (a, b)) : a ∈ st.columns ∧ b ∈ st.columns := by
  have hpair : ∀ c ∈ [a, b], c ∈ st.columns := by
    intro c hc
    simp only [columns, List.mem_append]
    refine .inl (.inl (.inr (List.mem_flatMap.mpr ⟨(a, b), ?_, hc⟩)))
    exact List.mem_filterMap.mpr ⟨text, h, hread⟩
  exact ⟨hpair a (by simp), hpair b (by simp)⟩

theorem mem_columns_of_group {c : Column} (h : c ∈ st.groupBy) : c ∈ st.columns := by
  simp only [columns, List.mem_append]
  exact .inl (.inr h)

theorem mem_columns_of_order {term : OrderTerm} (h : term ∈ st.orderBy) {c : Column}
    (hc : term.key = .column c) : c ∈ st.columns := by
  simp only [columns, List.mem_append]
  refine .inr (List.mem_filterMap.mpr ⟨term, h, ?_⟩)
  rw [hc]

namespace Legible

variable (h : st.Legible)

include h

theorem condition : st.condition.Legible := by
  refine ⟨fun comparison hmem => h.columns _ (mem_columns_of_comparison hmem), fun text htext => ?_⟩
  obtain ⟨a, b, rfl, hread⟩ := h.texts text htext
  obtain ⟨ha, hb⟩ := mem_columns_of_equality htext hread
  exact ⟨a, b, h.columns a ha, h.columns b hb, rfl⟩

theorem exists_selected {item : Selected} (hitem : item ∈ st.selected) {name : String}
    (hname : name ∈ qualifiedNames item.text.toList) : ∃ c ∈ st.columns, name = c.text := by
  have hexpression := qualifiedNames_expression
    (fun c hc => h.columns c (mem_columns_of_selected hitem hc)) fun function c hc =>
      h.functions function (List.mem_filterMap.mpr ⟨item, hitem, by rw [hc]⟩)
  rw [qualifiedNames_selected (h.names item hitem), hexpression, Option.mem_toList] at hname
  obtain ⟨c, hc, rfl⟩ := Option.map_eq_some_iff.mp hname
  exact ⟨c, mem_columns_of_selected hitem hc, rfl⟩

theorem exists_equated {text : String} (htext : text ∈ st.condition.fixedTexts) {name : String}
    (hname : name ∈ qualifiedNames text.toList) : ∃ c ∈ st.columns, name = c.text := by
  obtain ⟨a, b, rfl, hread⟩ := h.texts text htext
  obtain ⟨ha, hb⟩ := mem_columns_of_equality htext hread
  have hwords : wordsOf (a.text ++ " = " ++ b.text).toList = [a.text, "=", b.text] :=
    Condition.words_equality (h.columns a ha) (h.columns b hb)
  rw [qualifiedNames, hwords, List.mem_filter] at hname
  obtain ⟨hword, hpoint⟩ := hname
  simp only [List.mem_cons, List.not_mem_nil, or_false] at hword
  rcases hword with rfl | rfl | rfl
  · exact ⟨a, ha, rfl⟩
  · exact absurd hpoint (by decide)
  · exact ⟨b, hb, rfl⟩

theorem exists_compared {name : String} (hname : name ∈ qualifiedNames st.whereClause.toList) :
    ∃ c ∈ st.columns, name = c.text := by
  have hcondition : ∀ name ∈ qualifiedNames st.condition.text.toList,
      ∃ c ∈ st.columns, name = c.text :=
    h.condition.forall_qualifiedNames
      (fun comparison hmem => ⟨_, mem_columns_of_comparison hmem, rfl⟩)
      fun text htext name hname => h.exists_equated htext hname
  unfold whereClause at hname
  split at hname
  · cases hname
  · have hbehind := qualifiedNames_behind (c := ' ') (by decide) (a := " WHERE".toList) (by decide)
      st.condition.text.toList
    refine hcondition name ?_
    rw [← hbehind]
    simpa using hname

theorem exists_ordered {term : OrderTerm} (hterm : term ∈ st.orderBy) {name : String}
    (hname : name ∈ qualifiedNames term.text.toList) : ∃ c ∈ st.columns, name = c.text := by
  rw [qualifiedNames_orderTerm] at hname
  cases hkey : term.key with
  | column c =>
    have hc := mem_columns_of_order hterm hkey
    rw [hkey, OrderKey.text, (h.columns c hc).qualifiedNames_text] at hname
    exact ⟨c, hc, List.mem_singleton.mp hname⟩
  | named given =>
    rw [hkey, OrderKey.text, qualifiedNames_eq_nil (h.orders term hterm given hkey)] at hname
    cases hname

/-- **The qualified names in the clauses of a legible statement are its columns.** -/
theorem exists_column {name : String} (hname : name ∈ st.columnNames) :
    ∃ c ∈ st.columns, name = c.text := by
  obtain ⟨text, htext, hname⟩ := List.mem_flatMap.mp hname
  simp only [namingClauses, List.mem_cons, List.not_mem_nil, or_false] at htext
  rcases htext with rfl | rfl | rfl | rfl
  · obtain ⟨item, hitem, hname⟩ := exists_of_mem_clause "SELECT".toList (by decide)
      (by decide) hname
    exact h.exists_selected hitem hname
  · exact h.exists_compared hname
  · obtain ⟨c, hgroup, hname⟩ := exists_of_mem_clause " GROUP BY".toList (by decide)
      (by decide) hname
    have hc := mem_columns_of_group hgroup
    rw [(h.columns c hc).qualifiedNames_text] at hname
    exact ⟨c, hc, List.mem_singleton.mp hname⟩
  · obtain ⟨term, hterm, hname⟩ := exists_of_mem_clause " ORDER BY".toList (by decide)
      (by decide) hname
    exact h.exists_ordered hterm hname

end Legible

end Statement

end GameLog
