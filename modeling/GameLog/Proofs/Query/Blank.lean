import GameLog.Proofs.Query.Grammar
import GameLog.Proofs.Query.View

/-!
# Queries with their values left out

The text of a statement has a question mark for each value of its condition. A query with its values
left out (`Query.blank`) therefore has the same texts, and no step by which queries are built looks at a
value: queries that are the same but for their values stay so.

Main statements:
* `text_blank`: the text of a condition is that of the condition without its values;
* `blank_readTermsIn`: terms that are the same but for their values are read as such conditions;
* `faithful_blank`: no step of building looks at a value;
* `text_eq_of_blank_eq`: queries that are the same but for their values have the same texts.
-/

namespace GameLog

/-! ## Conditions -/

/-- A comparison with nothing. -/
def Comparison.blank (c : Comparison) : Comparison := { c with value := .null }

namespace Condition

mutual

/-- A condition with its values left out. -/
def blank : Condition → Condition
  | joined joint parts => joined joint (blankAll parts)
  | compare c => compare c.blank
  | fixed text => fixed text

/-- Conditions with their values left out. -/
def blankAll : List Condition → List Condition
  | [] => []
  | part :: parts => part.blank :: blankAll parts

end

theorem blankAll_eq_map (parts : List Condition) : blankAll parts = parts.map blank := by
  induction parts with
  | nil => rfl
  | cons part parts ih => rw [blankAll, ih, List.map_cons]

theorem blankAll_append (a b : List Condition) : blankAll (a ++ b) = blankAll a ++ blankAll b := by
  rw [blankAll_eq_map, blankAll_eq_map, blankAll_eq_map, List.map_append]

mutual

@[simp] theorem isEmpty_blank : (c : Condition) → c.blank.isEmpty = c.isEmpty
  | joined _ parts => by rw [blank, isEmpty, isEmpty, areEmpty_blankAll parts]
  | compare _ => rfl
  | fixed _ => rfl

@[simp] theorem areEmpty_blankAll : (parts : List Condition) →
    areEmpty (blankAll parts) = areEmpty parts
  | [] => rfl
  | part :: parts => by
    rw [blankAll, areEmpty, areEmpty, isEmpty_blank part, areEmpty_blankAll parts]

end

@[simp] theorem joint?_blank (c : Condition) : c.blank.joint? = c.joint? := by
  cases c <;> rfl

mutual

@[simp] theorem tokens_blank : (c : Condition) → c.blank.tokens = c.tokens
  | joined _ parts => by rw [blank, tokens, tokens, partTokens_blankAll parts]
  | compare _ => rfl
  | fixed _ => rfl

@[simp] theorem partTokens_blankAll : (parts : List Condition) →
    partTokens (blankAll parts) = partTokens parts
  | [] => rfl
  | part :: parts => by
    rw [blankAll, partTokens, partTokens, isEmpty_blank part, joint?_blank part, tokens_blank part,
      partTokens_blankAll parts]

end

/-- **The text of a condition is that of the condition without its values.** -/
@[simp] theorem text_blank (c : Condition) : c.blank.text = c.text := by
  rw [text, text, tokens_blank]

mutual

theorem comparisons_blank : (c : Condition) →
    c.blank.comparisons = c.comparisons.map Comparison.blank
  | joined _ parts => by rw [blank, comparisons, comparisons, comparisonsIn_blankAll parts]
  | compare _ => rfl
  | fixed _ => rfl

theorem comparisonsIn_blankAll : (parts : List Condition) →
    comparisonsIn (blankAll parts) = (comparisonsIn parts).map Comparison.blank
  | [] => rfl
  | part :: parts => by
    rw [blankAll, comparisonsIn, comparisonsIn, comparisons_blank part, comparisonsIn_blankAll parts,
      List.map_append]

end

@[simp] theorem references_blank (table : String) (c : Condition) :
    c.blank.references table = c.references table := by
  rw [references, references, comparisons_blank, List.any_map]
  rfl

/-- Extending a condition and leaving its values out may be done in either order. -/
theorem blank_add (c : Condition) (joint : Joint) (node : Condition) :
    (c.add joint node).blank = c.blank.add joint node.blank := by
  cases c with
  | joined root parts =>
    rw [add, blank, add]
    by_cases hroot : root = joint
    · rw [if_pos hroot, if_pos hroot, blank, blankAll_append]
      rfl
    · rw [if_neg hroot, if_neg hroot, areEmpty_blankAll]
      by_cases hempty : areEmpty parts = true
      · rw [if_pos hempty, if_pos hempty]
        rfl
      · rw [if_neg hempty, if_neg hempty]
        rfl
  | compare c => rfl
  | fixed text => rfl

end Condition

/-! ## Terms -/

namespace TermLevel

/-- A level of terms with their values left out. -/
def blank (l : TermLevel) : TermLevel := ⟨l.done.map Condition.blank, l.parts.map Condition.blank⟩

theorem blank_together (parts : List Condition) :
    (together parts).blank = together (parts.map Condition.blank) := by
  rcases parts with _ | ⟨part, _ | ⟨next, rest⟩⟩
  · rfl
  · rfl
  · exact congrArg (Condition.joined .and) (Condition.blankAll_eq_map (part :: next :: rest))

theorem blank_push (l : TermLevel) (part : Condition) :
    (l.push part).blank = l.blank.push part.blank := by
  rw [push, push, blank, List.map_append]
  rfl

theorem blank_next (l : TermLevel) : l.next.blank = l.blank.next := by
  rw [next, next, blank, List.map_append, List.map_singleton, blank_together]
  rfl

/-- Closing a level looks at no value. -/
theorem blank_close (l : TermLevel) : l.close.map Condition.blank = l.blank.close := by
  obtain ⟨_ | ⟨first, done⟩, parts⟩ := l
  · exact congrArg Except.ok (blank_together parts)
  · have hbranches : (first :: done ++ [together parts]).map Condition.blank =
        first.blank :: done.map Condition.blank ++ [together (parts.map Condition.blank)] := by
      rw [List.map_append, List.map_cons, List.map_singleton, blank_together]
    have hany : (first.blank :: done.map Condition.blank ++
        [together (parts.map Condition.blank)]).any Condition.isEmpty =
          (first :: done ++ [together parts]).any Condition.isEmpty := by
      rw [← hbranches, List.any_map]
      exact congrArg (List.any _) (funext Condition.isEmpty_blank)
    change (if (first :: done ++ [together parts]).any Condition.isEmpty then Except.error _
        else Except.ok (Condition.joined .or (first :: done ++ [together parts]))).map
          Condition.blank =
      if (first.blank :: done.map Condition.blank ++
          [together (parts.map Condition.blank)]).any Condition.isEmpty then Except.error _
        else Except.ok (Condition.joined .or
          (first.blank :: done.map Condition.blank ++ [together (parts.map Condition.blank)]))
    rw [hany]
    split
    · rfl
    · rw [← hbranches, ← Condition.blankAll_eq_map]
      rfl

end TermLevel

/-- What two terms mean is the same but for the values. -/
def SameTerm (s : Scope) (token token' : String) : Prop :=
  (∀ word ∈ [orToken, openToken, closeToken], token = word ↔ token' = word) ∧
    ∀ c c', readTerm s token = .ok c → readTerm s token' = .ok c' → c.blank = c'.blank

/-- **Terms that are the same but for their values are read as such conditions.** The induction is on the
tokens that are left of both; the levels read so far are the same but for their values. -/
theorem blank_readTermsIn {s : Scope} {tokens tokens' : List String}
    (h : List.Forall₂ (SameTerm s) tokens tokens') :
    ∀ {level level' : TermLevel} {outer outer' : List TermLevel} {c c' : Condition},
      level.blank = level'.blank → outer.map TermLevel.blank = outer'.map TermLevel.blank →
      readTermsIn s level outer tokens = .ok c → readTermsIn s level' outer' tokens' = .ok c' →
      c.blank = c'.blank := by
  have hclosed : ∀ {level level' : TermLevel} {c c' : Condition}, level.blank = level'.blank →
      level.close = .ok c → level'.close = .ok c' → c.blank = c'.blank := by
    intro level level' c c' hlevel hc hc'
    have hsame := (TermLevel.blank_close level).trans
      ((congrArg TermLevel.close hlevel).trans (TermLevel.blank_close level').symm)
    rw [hc, hc'] at hsame
    exact Except.ok.inj hsame
  induction h with
  | nil =>
    intro level level' outer outer' c c' hlevel _ hread hread'
    exact hclosed hlevel (readTermsIn_nil_eq_ok hread).2 (readTermsIn_nil_eq_ok hread').2
  | @cons token token' rest rest' hterm _ ih =>
    intro level level' outer outer' c c' hlevel houter hread hread'
    obtain ⟨hwords, hmeans⟩ := hterm
    simp only [List.forall_mem_cons, List.not_mem_nil, false_imp_iff, implies_true, and_true]
      at hwords
    obtain ⟨hor, hopen, hclose⟩ := hwords
    rw [readTermsIn] at hread hread'
    by_cases h₁ : token = orToken
    · rw [if_pos h₁] at hread
      rw [if_pos (hor.mp h₁)] at hread'
      exact ih (by rw [TermLevel.blank_next, TermLevel.blank_next, hlevel]) houter hread hread'
    rw [if_neg h₁] at hread
    rw [if_neg (hor.not.mp h₁)] at hread'
    by_cases h₂ : token = openToken
    · rw [if_pos h₂] at hread
      rw [if_pos (hopen.mp h₂)] at hread'
      exact ih rfl (by rw [List.map_cons, List.map_cons, hlevel, houter]) hread hread'
    rw [if_neg h₂] at hread
    rw [if_neg (hopen.not.mp h₂)] at hread'
    by_cases h₃ : token = closeToken
    · rw [if_pos h₃] at hread
      rw [if_pos (hclose.mp h₃)] at hread'
      obtain ⟨closed, hc, hread⟩ := bind_eq_ok.mp hread
      obtain ⟨closed', hc', hread'⟩ := bind_eq_ok.mp hread'
      cases outer with
      | nil => cases hread
      | cons around outer =>
        cases outer' with
        | nil => cases hread'
        | cons around' outer' =>
          obtain ⟨haround, houter⟩ := List.cons.inj houter
          refine ih ?_ houter hread hread'
          rw [TermLevel.blank_push, TermLevel.blank_push, haround, hclosed hlevel hc hc']
    · rw [if_neg h₃] at hread
      rw [if_neg (hclose.not.mp h₃)] at hread'
      obtain ⟨comparison, hterm, hread⟩ := bind_eq_ok.mp hread
      obtain ⟨comparison', hterm', hread'⟩ := bind_eq_ok.mp hread'
      refine ih ?_ houter hread hread'
      rw [TermLevel.blank_push, TermLevel.blank_push, hlevel, Condition.blank, Condition.blank,
        hmeans _ _ hterm hterm']

/-! ## Queries -/

namespace Query

/-- A query with its values left out, and with them all that is no part of its statements: its words, its
actor, its index and whether its row is picked at random. -/
def blank (q : Query) : Query :=
  { q with
    source := "", actor := .anyone, index := 0, random := false, condition := q.condition.blank }

/-- The view of queries that leaves their values out. -/
def blankView : QueryView where
  condition := Condition.blank
  source _ := ""
  actor _ := .anyone
  index _ := 0
  random _ := false

/-- **No step of building looks at a value.** -/
theorem faithful_blank : blankView.Faithful where
  add := Condition.blank_add
  joined joint parts := congrArg (Condition.joined joint) (Condition.blankAll_eq_map parts)
  compare c := ⟨c.blank, rfl⟩
  fixed _ := rfl
  references c table := Condition.references_blank table c

end Query

/-! ## Statements -/

namespace Statement

theorem text_congr {st st' : Statement} (hselected : st.selected = st'.selected)
    (htables : st.tables = st'.tables) (hcondition : st.condition.text = st'.condition.text)
    (hgroupBy : st.groupBy = st'.groupBy) (horderBy : st.orderBy = st'.orderBy) :
    st.text = st'.text := by
  rw [text, text, whereClause, whereClause, orderClause, orderClause, hselected, htables, hcondition,
    hgroupBy, horderBy]

end Statement

namespace Query

theorem text_selectCount_blank (q : Query) : q.blank.selectCount.text = q.selectCount.text :=
  Statement.text_congr rfl rfl (Condition.text_blank _) rfl rfl

theorem text_selectRows_blank (q : Query) : q.blank.selectRows.text = q.selectRows.text :=
  Statement.text_congr rfl rfl (Condition.text_blank _) rfl rfl

theorem text_selectGroups_blank (q : Query) :
    q.blank.selectGroups.map Statement.text = q.selectGroups.map Statement.text := by
  have hfields : q.blank.groupFields = q.groupFields := rfl
  have hscope : q.blank.scope = q.scope := rfl
  rw [selectGroups, selectGroups, hfields, hscope]
  cases q.groupFields.mapM fun f => q.scope.column f.field with
  | error e => rfl
  | ok columns =>
    exact congrArg Except.ok (Statement.text_congr rfl rfl (Condition.text_blank _) rfl rfl)

variable {q q' : Query}

/-- **Queries that are the same but for their values have the same texts.** -/
theorem text_eq_of_blank_eq (h : q.blank = q'.blank) :
    q.selectCount.text = q'.selectCount.text ∧ q.selectRows.text = q'.selectRows.text ∧
      q.selectGroups.map Statement.text = q'.selectGroups.map Statement.text := by
  refine ⟨?_, ?_, ?_⟩
  · rw [← text_selectCount_blank, h, text_selectCount_blank]
  · rw [← text_selectRows_blank, h, text_selectRows_blank]
  · rw [← text_selectGroups_blank, h, text_selectGroups_blank]

end Query

end GameLog
