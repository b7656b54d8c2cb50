import GameLog.Proofs.Query.Command
import GameLog.Proofs.Query.View

/-!
# Queries and groups without their wording

A query keeps the words that it came from, and a group the description of its command. No step of building
looks at them, so tokens that are read as the same words ask for the same query, however they are worded.

Main statements:
* `faithful_unworded`: no step of building looks at the words of a query;
* `unworded_buildQuery`: tokens with the same words ask for queries that differ in their source only;
* `unworded_ofWords`: words that ask for the same queries one by one ask for the same group;
* `unworded_unsplit`: what the group of a command with one fragment depends on.
-/

namespace GameLog

/-! ## Queries -/

namespace Query

/-- A query without the words it came from. -/
def unworded (q : Query) : Query := { q with source := "" }

/-- The view of queries that leaves their words out. -/
def unwordedView : QueryView := ⟨id, fun _ => "", id, id, id⟩

/-- **No step of building looks at the words of a query.** -/
theorem faithful_unworded : unwordedView.Faithful where
  add _ _ _ := rfl
  joined joint parts := congrArg (Condition.joined joint) parts.map_id.symm
  compare c := ⟨c, rfl⟩
  fixed _ := rfl
  references _ _ := rfl

/-- A query is started alike from all words. -/
theorem unworded_start (s : Scope) (actor : Actor) (index : Int) (source source' : String) :
    (start s actor index source).map unworded = (start s actor index source').map unworded := by
  have hjoined : ∀ q q' : Query, q.unworded = q'.unworded →
      q.checkJoins.unworded = q'.checkJoins.unworded := fun q q' hq =>
    (faithful_unworded.see_checkJoins q).trans
      ((congrArg checkJoins hq).trans (faithful_unworded.see_checkJoins q').symm)
  unfold start
  cases s.column s.context.defaultSort with
  | error e => rfl
  | ok column =>
    cases actor with
    | anyone => exact congrArg Except.ok (hjoined _ _ rfl)
    | named name =>
      dsimp only [bind, Except.bind]
      cases s.column actorField with
      | error e => rfl
      | ok column => exact congrArg Except.ok (hjoined _ _ rfl)

end Query

/-- **Tokens with the same words ask for queries that differ in their source only.** -/
theorem unworded_buildQuery {c : Catalog} {context : Context} {defaultName : String}
    (extra : ExtraList) {tokens tokens' : List String}
    (h : QueryWords.read c context defaultName tokens =
      QueryWords.read c context defaultName tokens') :
    (buildQuery c context defaultName extra tokens).map Query.unworded =
      (buildQuery c context defaultName extra tokens').map Query.unworded := by
  rw [buildQuery_eq, buildQuery_eq, h]
  cases QueryWords.read c context defaultName tokens' with
  | error e => rfl
  | ok w =>
    change (Query.start _ w.actor w.index _ >>= _).map Query.unworded =
      (Query.start _ w.actor w.index _ >>= _).map Query.unworded
    refine map_bind_congr (Query.unworded_start _ _ _ _ _) fun q q' hq => ?_
    cases readTerms (w.scope c context) w.terms with
    | error e => rfl
    | ok condition => exact Query.faithful_unworded.see_complete extra hq rfl rfl rfl rfl

/-! ## Groups -/

/-- A group without its description and the words of its queries. -/
def QueryGroup.unworded (g : QueryGroup) : QueryGroup :=
  { g with primary := g.primary.unworded, others := g.others.map Query.unworded, description := "" }

/-- **Queries with the same words ask for the same group** but for its wording, under the same filters. -/
theorem QueryGroup.unworded_build {c : Catalog} {context : Context} {defaultName : String}
    (tokens : List String) {w w' : CommandWords} (sorts : List SortCondition) (extra : ExtraList)
    (hfilters : w.filters = w'.filters)
    (hfirst : QueryWords.read c context defaultName w.first =
      QueryWords.read c context defaultName w'.first)
    (hothers : List.Forall₂ (fun fragment fragment' =>
      QueryWords.read c context defaultName (w.first ++ fragment) =
        QueryWords.read c context defaultName (w'.first ++ fragment')) w.others w'.others) :
    (QueryGroup.build c context defaultName tokens w sorts extra).map QueryGroup.unworded =
      (QueryGroup.build c context defaultName tokens w' sorts extra).map QueryGroup.unworded := by
  have haggregate : ∀ {qs qs' : List Query}, qs.map Query.unworded = qs'.map Query.unworded →
      qs.all Query.isAggregate = qs'.all Query.isAggregate := by
    intro qs qs' hqs
    have hall := congrArg (List.all · Query.isAggregate) hqs
    rwa [List.all_map, List.all_map] at hall
  refine map_bind_congr (unworded_buildQuery extra hfirst) fun primary primary' hprimary => ?_
  refine map_bind_congr (map_mapM_congr (hothers.imp fun _ _ => unworded_buildQuery extra))
    fun queries queries' hqueries => ?_
  have hempty : queries.isEmpty = queries'.isEmpty := by
    have hsame := congrArg List.isEmpty hqueries
    rwa [List.isEmpty_map, List.isEmpty_map] at hsame
  have hall : (primary :: queries).all Query.isAggregate =
      (primary' :: queries').all Query.isAggregate :=
    haggregate (by rw [List.map_cons, List.map_cons, hprimary, hqueries])
  have hgroup : primary.group = primary'.group := by
    have hsame := congrArg Query.group hprimary
    exact hsame
  rw [hempty, hall]
  split
  · rfl
  · refine congrArg Except.ok ?_
    simp only [QueryGroup.unworded, hprimary, hqueries, hgroup, hfilters]

/-- **Words that ask for the same queries one by one ask for the same group** but for its wording. -/
theorem QueryGroup.unworded_ofWords {c : Catalog} {context : Context} {defaultName : String}
    (tokens : List String) {w w' : CommandWords} (hextra : w.extra = w'.extra)
    (hsorts : w.sorts = w'.sorts) (hfilters : w.filters = w'.filters)
    (hgroup : w.first.any isGroupClause = w'.first.any isGroupClause)
    (hfirst : QueryWords.read c context defaultName w.first =
      QueryWords.read c context defaultName w'.first)
    (hothers : List.Forall₂ (fun fragment fragment' =>
      QueryWords.read c context defaultName (w.first ++ fragment) =
        QueryWords.read c context defaultName (w'.first ++ fragment')) w.others w'.others) :
    (QueryGroup.ofWords c context defaultName tokens w).map QueryGroup.unworded =
      (QueryGroup.ofWords c context defaultName tokens w').map QueryGroup.unworded := by
  have hempty : w.others.isEmpty = w'.others.isEmpty := by
    rw [Bool.eq_iff_iff, List.isEmpty_iff_length_eq_zero, List.isEmpty_iff_length_eq_zero,
      hothers.length_eq]
  have hshared : w.sharedSorts = w'.sharedSorts := by
    rw [CommandWords.sharedSorts, CommandWords.sharedSorts, hempty, hextra, hsorts]
  have hshown : w.sharedExtra (defaultScope c context) = w'.sharedExtra (defaultScope c context) := by
    unfold CommandWords.sharedExtra ratioExtra
    rw [hempty, hextra, hgroup]
  unfold QueryGroup.ofWords
  rw [hshared, hshown]
  cases w'.sharedSorts with
  | error e => rfl
  | ok sorts =>
    cases w'.sharedExtra (defaultScope c context) with
    | error e => rfl
    | ok extra => exact QueryGroup.unworded_build tokens sorts extra hfilters hfirst hothers

/-- But for its wording the group of a command with one fragment depends on its query, its sorts, its filters
and its extra columns. -/
theorem QueryGroup.unworded_unsplit (tokens : List String) (w : CommandWords)
    (q : Except QueryError Query) :
    (q.map (QueryGroup.unsplit tokens w)).map QueryGroup.unworded =
      (q.map Query.unworded).map fun q =>
        (QueryGroup.unsplit [] { w with tokens := [] } q).unworded := by
  cases q <;> rfl

end GameLog
