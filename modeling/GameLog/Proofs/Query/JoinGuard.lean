import GameLog.Proofs.Query.Joining
import GameLog.Proofs.Query.MilestoneTypes

/-!
# When the join guards a condition

A query about milestones that reads games puts the equality of the join into its condition, once, beside
what was asked before. From then on only milestones and games that belong together pass (`Guarded`), and
what is added by "and" leaves it so. An alternative that is added by "or" however stands beside all that
was there, the equality with it, so that milestones and games pass which have nothing to do with each
other (`Assignment.strangers`). Nothing that is added later takes them out again.

Main statements:
* `exists_fixupJoin_of_step`: what a step does that joins games, and `condition_step_of_joined`: what a
  step does once they are joined;
* `guarded_step`, `holds_strangers_run`: what one step keeps guarded, and what all steps leave open;
* `join_guards_iff`: the equality guards a joined query iff no alternative was added behind the join;
* `join_left_open`: there are steps that add one.
-/

namespace GameLog

/-! ## Guarded conditions -/

namespace Condition

/-- **A condition is guarded by a fixed text**: where it holds, the text is true. -/
def Guarded (text : String) (c : Condition) : Prop := ∀ a, c.holds a = true → a.fixed text = true

end Condition

/-- Rows that pass every comparison and do not belong together. -/
def Assignment.strangers : Assignment := ⟨fun _ => true, fun _ => false⟩

namespace Condition

theorem Guarded.holds_strangers {text : String} {c : Condition} (h : c.Guarded text) :
    c.holds .strangers = false := by
  by_contra hholds
  have hfixed := h .strangers ((Bool.not_eq_false _).mp hholds)
  cases hfixed

theorem Guarded.isEmpty_eq_false {text : String} {c : Condition} (h : c.Guarded text) :
    c.isEmpty = false := by
  by_contra hempty
  have hholds := holds_of_isEmpty .strangers ((Bool.not_eq_false _).mp hempty)
  rw [h.holds_strangers] at hholds
  cases hholds

theorem Guarded.add_and {text : String} {c : Condition} (h : c.Guarded text) (node : Condition) :
    (c.add .and node).Guarded text := by
  intro a ha
  rw [holds_add_and, Bool.and_eq_true] at ha
  exact h a ha.1

mutual

theorem holds_strangers_of_fixedTexts : (c : Condition) → c.fixedTexts = [] →
    c.holds .strangers = true
  | joined .and parts, h => by
    rw [holds]
    exact (parts_strangers_of_fixedTexts parts h).1
  | joined .or parts, h => by
    rw [holds]
    exact (parts_strangers_of_fixedTexts parts h).2
  | compare _, _ => rfl
  | fixed _, h => by cases h

/-- Strangers pass all parts made of comparisons, and one of them if any says something. -/
theorem parts_strangers_of_fixedTexts : (parts : List Condition) → fixedTextsIn parts = [] →
    allHold .strangers parts = true ∧ (areEmpty parts || anyHolds .strangers parts) = true
  | [], _ => ⟨rfl, rfl⟩
  | part :: parts, h => by
    obtain ⟨hpart, hparts⟩ := List.append_eq_nil_iff.mp h
    have hfirst := holds_strangers_of_fixedTexts part hpart
    obtain ⟨hall, hany⟩ := parts_strangers_of_fixedTexts parts hparts
    constructor
    · rw [allHold, hfirst, hall, Bool.or_true, Bool.and_true]
    · rw [areEmpty, anyHolds, hfirst]
      cases part.isEmpty with
      | true => exact hany
      | false => rfl

end

theorem holds_strangers_add {c node : Condition} (h : c.holds .strangers = true)
    (hnode : node.fixedTexts = []) (joint : Joint) : (c.add joint node).holds .strangers = true := by
  have hsecond := holds_strangers_of_fixedTexts node hnode
  rw [holds_add, h, hsecond]
  cases node.isEmpty <;> cases c.isEmpty <;> cases joint <;> rfl

/-- **An alternative lets strangers pass**, if it says something and the condition does. -/
theorem holds_strangers_add_or {c node : Condition} (hc : c.isEmpty = false)
    (hcompares : node.isEmpty = false) (hnode : node.fixedTexts = []) :
    (c.add .or node).holds .strangers = true := by
  rw [holds_add, hc, hcompares, holds_strangers_of_fixedTexts node hnode]
  exact Bool.or_true _

end Condition

/-! ## What a step does -/

namespace Query

variable {q : Query}

/-- The condition of a query is guarded by the equality that joins milestones with games. -/
def Guarded (q : Query) : Prop := q.condition.Guarded (joinText .milestone .game)

theorem checkJoins_of_joined (h : q.joined = true) : q.checkJoins = q := by
  rw [checkJoins, h]
  rfl

theorem checkJoins_eq_fixupJoin (h : q.joined = false) (hafter : q.checkJoins.joined = true) :
    q.checkJoins = q.fixupJoin := by
  refine (checkJoins_eq_or q).resolve_left fun hsame => ?_
  rw [hsame, h] at hafter
  cases hafter

/-- **A step that joins games joins a query of the same scope that was not joined.** -/
theorem exists_fixupJoin_of_step (h : q.joined = false) {s : QueryStep}
    (hafter : (q.step s).joined = true) :
    ∃ q' : Query, q'.joined = false ∧ q'.scope = q.scope ∧ q.step s = q'.fixupJoin := by
  cases s with
  | condition joint node =>
    refine ⟨{ q with condition := q.condition.add joint node }, h, rfl, ?_⟩
    exact checkJoins_eq_fixupJoin h hafter
  | extra list =>
    exact ⟨{ q with extra := list }, h, rfl, checkJoins_eq_fixupJoin h hafter⟩
  | group list =>
    refine ⟨q.grouped list, h, rfl, (setGroup_eq_or q list).resolve_left fun hsame => ?_⟩
    rw [step, hsame] at hafter
    exact Bool.false_ne_true (h.symm.trans hafter)
  | rowSort field largest =>
    rw [step] at hafter ⊢
    cases hsort : q.setRowSort field largest with
    | error e =>
      rw [hsort] at hafter
      exact absurd (h.symm.trans hafter) Bool.false_ne_true
    | ok sorted =>
      obtain ⟨column, direction, rfl⟩ := setRowSort_eq_ok hsort
      rw [hsort] at hafter
      exact ⟨{ q with sortColumn := column, sortDirection := direction }, h, rfl,
        checkJoins_eq_fixupJoin h hafter⟩
  | checkJoins => exact ⟨q, h, rfl, checkJoins_eq_fixupJoin h hafter⟩
  | join => exact ⟨q, h, rfl, rfl⟩
  | reverse => exact absurd (h.symm.trans hafter) Bool.false_ne_true

/-- The condition of a query with what a step adds to it besides a join. -/
def nextCondition (q : Query) : QueryStep → Condition
  | .condition joint node => q.condition.add joint node
  | .group list => (q.grouped list).condition
  | _ => q.condition

/-- **Once games are joined they stay so, and steps add nothing but their own**: a node, or the milestone
types among groups. -/
theorem condition_step_of_joined (h : q.joined = true) (s : QueryStep) :
    (q.step s).joined = true ∧ (q.step s).condition = q.nextCondition s := by
  have hkept : ∀ q' : Query, q'.joined = true → q'.checkJoins.joined = true ∧
      q'.checkJoins.condition = q'.condition := fun q' hq' => by
    rw [checkJoins_of_joined hq']
    exact ⟨hq', rfl⟩
  cases s with
  | condition joint node => exact hkept { q with condition := q.condition.add joint node } h
  | extra list => exact hkept { q with extra := list } h
  | group list =>
    have hgrouped : (q.grouped list).joined = true := h
    have hsame : q.setGroup list = q.grouped list := by
      rcases setGroup_eq_or q list with hsame | hsame
      · exact hsame
      · rw [hsame, fixupJoin_joined hgrouped]
    rw [step, hsame]
    exact ⟨hgrouped, rfl⟩
  | rowSort field largest =>
    rw [step]
    cases hsort : q.setRowSort field largest with
    | error e => exact ⟨h, rfl⟩
    | ok sorted =>
      obtain ⟨column, direction, rfl⟩ := setRowSort_eq_ok hsort
      exact hkept { q with sortColumn := column, sortDirection := direction } h
  | checkJoins => exact hkept q h
  | join =>
    rw [step, fixupJoin_joined h]
    exact ⟨h, rfl⟩
  | reverse => exact ⟨h, rfl⟩

/-! ## What a step keeps -/

/-- **Joining guards a query.** -/
theorem guarded_fixupJoin (hcontext : q.scope.context = .milestone) (h : q.joined = false) :
    q.fixupJoin.Guarded := by
  intro a ha
  have hfar : q.scope.context.fallback? = some .game := by
    rw [hcontext]
    rfl
  rw [fixupJoin_of_fallback h hfar, Condition.holds_add_and, Bool.and_eq_true, hcontext] at ha
  exact ha.2

/-- **A step that adds no alternative leaves a joined query guarded.** -/
theorem Guarded.step (h : q.Guarded) (hjoined : q.joined = true) {s : QueryStep}
    (hs : ∀ node, s ≠ .condition .or node) : (q.step s).Guarded := by
  have hcondition := (condition_step_of_joined hjoined s).2
  unfold Guarded
  rw [hcondition]
  cases s with
  | condition joint node =>
    cases joint with
    | and => exact h.add_and node
    | or => exact absurd rfl (hs node)
  | group list =>
    intro a ha
    rw [nextCondition, condition_grouped, Condition.holds_foldl, Bool.and_eq_true] at ha
    exact h a ha.1
  | extra list | rowSort field largest | checkJoins | join | reverse => exact h

/-- **A step leaves a query guarded that is joined behind it**, unless it adds an alternative to one that
was joined before. -/
theorem guarded_step (hcontext : q.scope.context = .milestone) (h : q.joined = true → q.Guarded)
    {s : QueryStep} (hs : ∀ node, s = .condition .or node → q.joined = false)
    (hafter : (q.step s).joined = true) : (q.step s).Guarded := by
  cases hjoined : q.joined with
  | true =>
    refine (h hjoined).step hjoined fun node hor => ?_
    exact Bool.false_ne_true ((hs node hor).symm.trans hjoined)
  | false =>
    obtain ⟨q', hapart, hscope, hstep⟩ := exists_fixupJoin_of_step hjoined hafter
    rw [hstep]
    exact guarded_fixupJoin (hscope ▸ hcontext) hapart

theorem holds_strangers_step (hjoined : q.joined = true)
    (h : q.condition.holds .strangers = true) {s : QueryStep} (hs : s.ComparesOnly) :
    (q.step s).condition.holds .strangers = true := by
  rw [(condition_step_of_joined hjoined s).2]
  cases s with
  | condition joint node => exact Condition.holds_strangers_add h hs joint
  | group list =>
    rw [nextCondition, condition_grouped, Condition.holds_foldl, h]
    exact List.all_eq_true.mpr fun _ _ => rfl
  | extra list | rowSort field largest | checkJoins | join | reverse => exact h

/-- **Strangers that pass a joined query pass it after any steps.** -/
theorem holds_strangers_run (hjoined : q.joined = true) (h : q.condition.holds .strangers = true)
    {steps : List QueryStep} (hs : ∀ s ∈ steps, s.ComparesOnly) :
    (q.run steps).condition.holds .strangers = true := by
  induction steps generalizing q with
  | nil => exact h
  | cons s steps ih =>
    obtain ⟨hfirst, hrest⟩ := List.forall_mem_cons.mp hs
    exact ih (condition_step_of_joined hjoined s).1 (holds_strangers_step hjoined h hfirst) hrest

/-! ## Every run -/

end Query

/-- **A step adds what says something**: a node that is made of comparisons and has some. -/
def QueryStep.Says : QueryStep → Prop
  | .condition _ node => node.fixedTexts = [] ∧ node.isEmpty = false
  | _ => True

theorem QueryStep.Says.comparesOnly {s : QueryStep} (h : s.Says) : s.ComparesOnly := by
  cases s with
  | condition joint node => exact h.1
  | extra _ | group _ | rowSort _ _ | checkJoins | join | reverse => trivial

namespace Query

variable {q : Query}

/-- **Alternatives come before the join**: where a step adds one, the query is not yet joined. -/
def AlternativesFirst (q : Query) (steps : List QueryStep) : Prop :=
  ∀ n node, steps[n]? = some (.condition .or node) → (q.run (steps.take n)).joined = false

theorem alternativesFirst_nil (q : Query) : q.AlternativesFirst [] := fun _ _ h => by simp at h

theorem alternativesFirst_cons {s : QueryStep} {steps : List QueryStep} :
    q.AlternativesFirst (s :: steps) ↔
      (∀ node, s = .condition .or node → q.joined = false) ∧ (q.step s).AlternativesFirst steps := by
  constructor
  · exact fun h => ⟨fun node hs => h 0 node (congrArg some hs), fun n node hn => h (n + 1) node hn⟩
  · rintro ⟨hfirst, hrest⟩ (_ | n) node hn
    · exact hfirst node (Option.some.inj hn)
    · exact hrest n node hn

/-- **A query about milestones is guarded behind steps that join it iff alternatives come before the
join**, if it is guarded in front of them or not joined there. -/
theorem guarded_run_iff (hcontext : q.scope.context = .milestone) (h : q.joined = true → q.Guarded)
    {steps : List QueryStep} (hs : ∀ s ∈ steps, s.Says) (hafter : (q.run steps).joined = true) :
    (q.run steps).Guarded ↔ q.AlternativesFirst steps := by
  induction steps generalizing q with
  | nil => exact iff_of_true (h hafter) q.alternativesFirst_nil
  | cons s steps ih =>
    obtain ⟨hfirst, hrest⟩ := List.forall_mem_cons.mp hs
    rw [alternativesFirst_cons]
    by_cases hor : ∀ node, s = .condition .or node → q.joined = false
    · rw [and_iff_right hor]
      exact ih ((congrArg Scope.context (scope_step q s)).trans hcontext)
        (guarded_step hcontext h hor) hrest hafter
    · -- the alternative lets strangers pass, and no later step keeps them out
      refine iff_of_false (fun hguarded => ?_) fun hall => hor hall.1
      obtain ⟨node, hnode⟩ := not_forall.mp hor
      obtain ⟨rfl, hjoined⟩ := Classical.not_imp.mp hnode
      rw [Bool.not_eq_false] at hjoined
      obtain ⟨htexts, hcompares⟩ := hfirst
      obtain ⟨hstays, hcondition⟩ := condition_step_of_joined hjoined (.condition .or node)
      have hpass : (q.step (.condition .or node)).condition.holds .strangers = true := by
        rw [hcondition]
        exact Condition.holds_strangers_add_or (h hjoined).isEmpty_eq_false hcompares htexts
      have hopen := holds_strangers_run hstays hpass fun s hs => (hrest s hs).comparesOnly
      exact Bool.false_ne_true (hguarded.holds_strangers.symm.trans hopen)

theorem guarded_start {s : Scope} {actor : Actor} {index : Int} {source : String}
    (hs : s.context = .milestone) (h : start s actor index source = .ok q) (hjoined : q.joined = true) :
    q.Guarded := by
  obtain ⟨column, -, -, rfl⟩ := exists_unjoined_of_start h
  rw [checkJoins_eq_fixupJoin rfl hjoined]
  exact guarded_fixupJoin hs rfl

/-- **The equality of the join guards a query about milestones iff no alternative is added behind the
join.** Let a query be started and built by any steps, of which those that add to its condition add
comparisons; and let it be joined in the end. Then its condition, which is that of its statements, holds of
milestones and games only that belong together, exactly if at each step that adds an alternative by "or"
the query was not yet joined. -/
theorem join_guards_iff {s : Scope} {actor : Actor} {index : Int} {source : String}
    (hcontext : s.context = .milestone) (hstart : start s actor index source = .ok q)
    {steps : List QueryStep} (hsteps : ∀ step ∈ steps, step.Says)
    (hjoined : (q.run steps).joined = true) :
    (∀ a, (q.run steps).condition.holds a = true →
        a.fixed (joinText .milestone .game) = true) ↔
      ∀ n node, steps[n]? = some (.condition .or node) → (q.run (steps.take n)).joined = false := by
  obtain ⟨-, rfl⟩ := joins_start hstart
  exact guarded_run_iff hcontext (guarded_start hcontext hstart) hsteps hjoined

/-! ### Winners among milestones -/

/-- A step that asks for a high level, beside what was asked or instead of it. -/
def highLevel (joint : Joint) : QueryStep :=
  .condition joint (.compare ⟨⟨some "mst", "xl"⟩, .gt, .integer 5⟩)

/-- A step that asks for a game that was won, beside what was asked or instead of it. -/
def wonGame (joint : Joint) : QueryStep :=
  .condition joint (.compare ⟨⟨some "lg", "ktyp"⟩, .eq, .text "winning"⟩)

theorem says_highLevel (joint : Joint) : (highLevel joint).Says := ⟨rfl, rfl⟩

theorem says_wonGame (joint : Joint) : (wonGame joint).Says := ⟨rfl, rfl⟩

/-- Over the built-in catalog, milestones of a high level or of a game that was won are those that belong
to their games: the alternative is what joins them. -/
theorem high_or_won_guarded : ∃ q,
    start ⟨.builtin, .milestone, "crawl"⟩ .anyone 0 "*" = .ok q ∧
      (∀ step ∈ [highLevel .and, wonGame .or, .join], step.Says) ∧
      (q.run [highLevel .and, wonGame .or, .join]).joined = true ∧
      ∀ a, (q.run [highLevel .and, wonGame .or, .join]).condition.holds a = true →
        a.fixed (joinText .milestone .game) = true := by
  have hstates : (start ⟨.builtin, .milestone, "crawl"⟩ .anyone 0 "*").toOption.map (fun q =>
      ((q.step (highLevel .and)).joined,
        (q.run [highLevel .and, wonGame .or, .join]).joined)) = some (false, true) := by
    decide +kernel
  obtain ⟨q, hstart, hboth⟩ := exists_ok_of_map hstates
  obtain ⟨hbefore, hafter⟩ := Prod.mk.inj hboth
  have hsteps : ∀ step ∈ [highLevel .and, wonGame .or, .join], step.Says := by
    simp only [List.forall_mem_cons, List.not_mem_nil, false_imp_iff, implies_true, and_true]
    exact ⟨says_highLevel .and, says_wonGame .or, trivial⟩
  have hfirst : q.AlternativesFirst [highLevel .and, wonGame .or, .join] := by
    refine alternativesFirst_cons.mpr ⟨fun node h => (by cases h), ?_⟩
    refine alternativesFirst_cons.mpr ⟨fun node h => hbefore, ?_⟩
    exact alternativesFirst_cons.mpr ⟨fun node h => (by cases h), alternativesFirst_nil _⟩
  exact ⟨q, hstart, hsteps, hafter, (join_guards_iff rfl hstart hsteps hafter).mpr hfirst⟩

/-- **An alternative behind the join leaves it open**: over the built-in catalog, any milestone passes
with any game that was won. -/
theorem join_left_open : ∃ q,
    start ⟨.builtin, .milestone, "crawl"⟩ .anyone 0 "*" = .ok q ∧
      (∀ step ∈ [highLevel .and, .join, wonGame .or], step.Says) ∧
      (q.run [highLevel .and, .join, wonGame .or]).joined = true ∧
      ∃ a, (q.run [highLevel .and, .join, wonGame .or]).condition.holds a = true ∧
        a.fixed (joinText .milestone .game) = false := by
  have hstates : (start ⟨.builtin, .milestone, "crawl"⟩ .anyone 0 "*").toOption.map (fun q =>
      ((q.run [highLevel .and, .join, wonGame .or]).joined,
        (q.run [highLevel .and, .join, wonGame .or]).condition.holds .strangers)) =
      some (true, true) := by
    decide +kernel
  obtain ⟨q, hstart, hboth⟩ := exists_ok_of_map hstates
  obtain ⟨hjoined, hholds⟩ := Prod.mk.inj hboth
  have hsteps : ∀ step ∈ [highLevel .and, .join, wonGame .or], step.Says := by
    simp only [List.forall_mem_cons, List.not_mem_nil, false_imp_iff, implies_true, and_true]
    exact ⟨says_highLevel .and, trivial, says_wonGame .or⟩
  exact ⟨q, hstart, hsteps, hjoined, .strangers, hholds, rfl⟩

end Query

end GameLog
