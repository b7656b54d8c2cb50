import GameLog.Proofs.Query.Building

/-!
# What building a query does not look at

No step of building a query looks at the values of its condition, at the words it came from, at its actor, at
its index or at whether its row is picked at random. A view of queries changes these parts only and leaves
the shape of conditions (`QueryView.Faithful`). Each step then does to what is seen of a query what it does
to the query, so that queries that look alike stay alike.

Main statements:
* `see_checkJoins`: joining looks at nothing that a view changes;
* `see_addTerms`, `see_addRowSorts`, `see_addGroup`: neither does a step of building;
* `see_complete`: queries that look alike are completed alike.
-/

namespace GameLog

open GameLog.Text

/-- **A view of queries**: what it leaves of their conditions, and what it makes of their words, their actor,
their index and whether their row is picked at random. -/
structure QueryView where
  condition : Condition → Condition
  source : String → String
  actor : Actor → Actor
  index : Int → Int
  random : Bool → Bool

namespace QueryView

/-- What is seen of a query. -/
def see (v : QueryView) (q : Query) : Query :=
  { q with
    source := v.source q.source
    actor := v.actor q.actor
    index := v.index q.index
    random := v.random q.random
    condition := v.condition q.condition }

/-- **A view is faithful** if it leaves the shape of conditions and the tables that they read. -/
structure Faithful (v : QueryView) : Prop where
  add : ∀ c joint node, v.condition (c.add joint node) = (v.condition c).add joint (v.condition node)
  joined : ∀ joint parts, v.condition (.joined joint parts) = .joined joint (parts.map v.condition)
  compare : ∀ c, ∃ c', v.condition (.compare c) = .compare c'
  fixed : ∀ text, v.condition (.fixed text) = .fixed text
  references : ∀ c table, (v.condition c).references table = c.references table

end QueryView

/-! ## Joining -/

namespace Query

theorem fixupJoin_of_fallback {q : Query} {far : Context} (hjoined : q.joined = false)
    (hfar : q.scope.context.fallback? = some far) :
    q.fixupJoin = { q with
      joined := true
      condition := q.condition.add .and (.fixed (joinText q.scope.context far)) } := by
  unfold fixupJoin
  rw [hjoined, hfar]

theorem fixupJoin_of_none {q : Query} (hfar : q.scope.context.fallback? = none) :
    q.fixupJoin = q := by
  unfold fixupJoin
  rw [hfar]
  cases q.joined <;> rfl

/-- A query with groups before it is joined for them. -/
def grouped (q : Query) (list : GroupList) : Query :=
  { q with
    condition := (list.fields.filterMap (pivotCondition? q.scope)).foldl
      (fun c node => c.add .and node) q.condition
    group := some (list.map (onNoun q.scope)) }

theorem setGroup_eq (q : Query) (list : GroupList) :
    q.setGroup list =
      (if (list.map (onNoun q.scope)).fields.any fun f => !q.scope.directlySummarisable f.field then
        (q.grouped list).fixupJoin else q.grouped list).checkJoins := rfl

end Query

namespace QueryView.Faithful

variable {v : QueryView} {q q' : Query}

theorem scope_eq (hq : v.see q = v.see q') : q.scope = q'.scope := by
  have hseen : (v.see q).scope = (v.see q').scope := by rw [hq]
  exact hseen

theorem see_fixupJoin (h : v.Faithful) (q : Query) : v.see q.fixupJoin = (v.see q).fixupJoin := by
  cases hjoined : q.joined with
  | true =>
    have hseen : (v.see q).joined = true := hjoined
    rw [Query.fixupJoin_joined hjoined, Query.fixupJoin_joined hseen]
  | false =>
    have hseen : (v.see q).joined = false := hjoined
    cases hfar : q.scope.context.fallback? with
    | none =>
      have hnone : (v.see q).scope.context.fallback? = none := hfar
      rw [Query.fixupJoin_of_none hfar, Query.fixupJoin_of_none hnone]
    | some far =>
      have hsome : (v.see q).scope.context.fallback? = some far := hfar
      rw [Query.fixupJoin_of_fallback hjoined hfar, Query.fixupJoin_of_fallback hseen hsome, see,
        h.add, h.fixed]
      rfl

/-- **Joining looks at nothing that a view changes.** -/
theorem see_checkJoins (h : v.Faithful) (q : Query) :
    v.see q.checkJoins = (v.see q).checkJoins := by
  have hjoined : (v.see q).joined = q.joined := rfl
  have hscope : (v.see q).scope = q.scope := rfl
  have hreads : (v.see q).readsGames = q.readsGames := by
    simp only [Query.readsGames, see, h.references]
  rw [Query.checkJoins, Query.checkJoins, hreads, hjoined, hscope, ← h.see_fixupJoin]
  split
  · rfl
  · split <;> rfl

/-! ## Steps -/

theorem see_addCondition (h : v.Faithful) (q : Query) (joint : Joint) (node : Condition) :
    v.see (q.addCondition joint node) = (v.see q).addCondition joint (v.condition node) := by
  rw [Query.addCondition, Query.addCondition, h.see_checkJoins]
  refine congrArg Query.checkJoins ?_
  rw [see, h.add]
  rfl

theorem see_setExtra (h : v.Faithful) (q : Query) (extra : ExtraList) :
    v.see (q.setExtra extra) = (v.see q).setExtra extra :=
  h.see_checkJoins _

theorem see_setRowSort (h : v.Faithful) (q : Query) (field : String) (largest : Bool) :
    (q.setRowSort field largest).map v.see = (v.see q).setRowSort field largest := by
  have hscope : (v.see q).scope = q.scope := rfl
  rw [Query.setRowSort, Query.setRowSort, hscope]
  cases q.scope.canonical field with
  | error e => rfl
  | ok field =>
    dsimp only [bind, Except.bind]
    cases q.scope.column field with
    | error e => rfl
    | ok column => exact congrArg Except.ok (h.see_checkJoins _)

theorem see_foldl_add (h : v.Faithful) {c c' : Condition} (hc : v.condition c = v.condition c')
    (nodes : List Condition) :
    v.condition (nodes.foldl (fun c node => c.add .and node) c) =
      v.condition (nodes.foldl (fun c node => c.add .and node) c') := by
  induction nodes generalizing c c' with
  | nil => exact hc
  | cons node nodes ih => exact ih (by rw [h.add, h.add, hc])

theorem see_grouped (h : v.Faithful) (hq : v.see q = v.see q') (list : GroupList) :
    v.see (q.grouped list) = v.see (q'.grouped list) := by
  have hscope := scope_eq hq
  have hcondition : v.condition (q.grouped list).condition =
      v.condition (q'.grouped list).condition := by
    unfold Query.grouped
    rw [hscope]
    exact h.see_foldl_add (congrArg Query.condition hq) _
  have hgroup : (q.grouped list).group = (q'.grouped list).group := by
    unfold Query.grouped
    rw [hscope]
  calc v.see (q.grouped list)
      = { v.see q with
          condition := v.condition (q.grouped list).condition
          group := (q.grouped list).group } := rfl
    _ = { v.see q' with
          condition := v.condition (q'.grouped list).condition
          group := (q'.grouped list).group } := by rw [hq, hcondition, hgroup]
    _ = v.see (q'.grouped list) := rfl

/-- **Groups are added alike**: milestone types become comparisons of their own. -/
theorem see_setGroup (h : v.Faithful) (hq : v.see q = v.see q') (list : GroupList) :
    v.see (q.setGroup list) = v.see (q'.setGroup list) := by
  have hgrouped := h.see_grouped hq list
  rw [Query.setGroup_eq, Query.setGroup_eq, h.see_checkJoins, h.see_checkJoins, scope_eq hq]
  refine congrArg Query.checkJoins ?_
  split
  · rw [h.see_fixupJoin, h.see_fixupJoin, hgrouped]
  · exact hgrouped

/-! ## Building -/

/-- **Terms are added as they are seen.** -/
theorem see_addTerms (h : v.Faithful) (q : Query) (condition : Condition) :
    v.see (addTerms q condition) = addTerms (v.see q) (v.condition condition) := by
  have hone := h.see_addCondition q .and condition
  cases condition with
  | joined joint parts =>
    cases joint with
    | and =>
      rw [h.joined, addTerms, addTerms, List.foldl_map]
      exact (List.foldl_hom v.see fun q part => (h.see_addCondition q .and part).symm).symm
    | or =>
      rw [h.joined] at hone ⊢
      exact hone
  | compare c =>
    obtain ⟨c', hc⟩ := h.compare c
    rw [hc] at hone ⊢
    exact hone
  | fixed text =>
    rw [h.fixed] at hone ⊢
    exact hone

theorem see_addRowSorts (h : v.Faithful) (q : Query) (tokens : List String) :
    (addRowSorts q tokens).map v.see = addRowSorts (v.see q) tokens := by
  unfold addRowSorts
  induction tokens.filterMap rowSort? generalizing q with
  | nil => rfl
  | cons sort sorts ih =>
    rw [List.foldlM_cons, List.foldlM_cons]
    dsimp only
    rw [← h.see_setRowSort]
    cases q.setRowSort sort.2 sort.1 with
    | error e => rfl
    | ok q => exact ih q

theorem see_addGroup (h : v.Faithful) (hq : v.see q = v.see q') (extra : ExtraList)
    (group : Option GroupList) :
    (addGroup q extra group).map v.see = (addGroup q' extra group).map v.see := by
  unfold addGroup
  cases group with
  | none => exact congrArg Except.ok hq
  | some list =>
    dsimp only
    split
    · rfl
    · exact congrArg Except.ok (h.see_setGroup hq list)

end QueryView.Faithful

/-! ## Whole queries -/

/-- A query that was started with all else that its words ask for, under the condition of their terms. -/
def QueryWords.complete (w : QueryWords) (extra : ExtraList) (condition : Condition) (q : Query) :
    Except QueryError Query := do
  let q ← addRowSorts (addTerms (q.setRandom w.random) condition) w.rowSorts
  let q ← addGroup q extra w.group
  return q.setExtra extra

theorem buildQuery_eq (c : Catalog) (context : Context) (defaultName : String) (extra : ExtraList)
    (tokens : List String) :
    buildQuery c context defaultName extra tokens =
      QueryWords.read c context defaultName tokens >>= fun w =>
        Query.start (w.scope c context) w.actor w.index (describe w.actor (joinWith " " tokens))
          >>= fun q => readTerms (w.scope c context) w.terms >>= fun condition =>
            w.complete extra condition q := rfl

/-- A query that is built was started and completed. -/
theorem exists_start_of_build {c : Catalog} {context : Context} {defaultName : String}
    {extra : ExtraList} {tokens : List String} {w : QueryWords} {q : Query}
    (hw : QueryWords.read c context defaultName tokens = .ok w)
    (h : buildQuery c context defaultName extra tokens = .ok q) :
    ∃ source start condition,
      Query.start (w.scope c context) w.actor w.index source = .ok start ∧
      readTerms (w.scope c context) w.terms = .ok condition ∧
      w.complete extra condition start = .ok q := by
  rw [buildQuery_eq] at h
  obtain ⟨found, hfound, h⟩ := bind_eq_ok.mp h
  obtain rfl := Except.ok.inj (hfound.symm.trans hw)
  obtain ⟨start, hstart, h⟩ := bind_eq_ok.mp h
  obtain ⟨condition, hterms, h⟩ := bind_eq_ok.mp h
  exact ⟨_, start, condition, hstart, hterms, h⟩

/-- **Queries that look alike are completed alike**, under conditions that look alike. -/
theorem QueryView.Faithful.see_complete {v : QueryView} (h : v.Faithful) {q q' : Query}
    {w w' : QueryWords} {condition condition' : Condition} (extra : ExtraList)
    (hq : v.see q = v.see q') (hcondition : v.condition condition = v.condition condition')
    (hrandom : v.random w.random = v.random w'.random) (hrowSorts : w.rowSorts = w'.rowSorts)
    (hgroup : w.group = w'.group) :
    (w.complete extra condition q).map v.see = (w'.complete extra condition' q').map v.see := by
  have hstarted : v.see (q.setRandom w.random) = v.see (q'.setRandom w'.random) := by
    change { v.see q with random := v.random w.random } =
      { v.see q' with random := v.random w'.random }
    rw [hq, hrandom]
  have hsorted : (addRowSorts (addTerms (q.setRandom w.random) condition) w.rowSorts).map v.see =
      (addRowSorts (addTerms (q'.setRandom w'.random) condition') w'.rowSorts).map v.see := by
    rw [h.see_addRowSorts, h.see_addRowSorts, h.see_addTerms, h.see_addTerms, hstarted, hcondition,
      hrowSorts]
  unfold QueryWords.complete
  rw [← hgroup]
  refine map_bind_congr hsorted fun q q' hq => ?_
  refine map_bind_congr (h.see_addGroup hq extra w.group) fun q q' hq => ?_
  have hextra : v.see (q.setExtra extra) = v.see (q'.setExtra extra) := by
    rw [h.see_setExtra, h.see_setExtra, hq]
  exact congrArg Except.ok hextra

end GameLog
