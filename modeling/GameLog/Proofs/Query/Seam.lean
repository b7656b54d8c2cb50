import GameLog.Proofs.Query.Building

/-!
# Tokens across a slash

The query of a further fragment is built from the tokens of the first fragment with its own behind
them. Where the further fragment names no actor, index or game type and has no group clause
(`PlainFragment`), and no operator is put back across the slash (`MeetCleanly`), its terms stand
behind those of the first fragment and nothing else of the query changes.

Main statement: `ReadFrom.beside`, the words of both fragments are those of the first with more terms.
-/

namespace GameLog

/-! ## Putting operators back -/

theorem rejoinBehind_last {token : String} (h : isOperator token = false) (done : List String) :
    rejoinBehind done [token] = (token :: done).reverse := by
  rw [rejoinBehind]
  simp [h]

theorem isOperator_of_forall {token : String} {done : List String} (hne : done ≠ [])
    (h : ∀ last before, isOperator token = true → done = last :: before → False) :
    isOperator token = false := by
  obtain ⟨last, before, rfl⟩ := List.exists_cons_of_ne_nil hne
  exact Bool.eq_false_iff.mpr fun hop => h last before hop rfl

theorem rejoinBehind_step {token : String} {done : List String}
    (h : ∀ last before, isOperator token = true → done = last :: before → False) (next : String)
    (rest : List String) :
    rejoinBehind done (token :: next :: rest) =
      if endsWithOperator token then rejoinBehind ((token ++ next) :: done) rest
      else rejoinBehind (token :: done) (next :: rest) := by
  cases done with
  | nil => rw [rejoinBehind]; simp
  | cons last before =>
    exact rejoinBehind_word (isOperator_of_forall (by simp) h) (last :: before) next rest

/-! ## The words of two fragments -/

/-- The tokens of a query without markers and clauses. -/
def unclaused (tokens : List String) : List String :=
  (takeAll isGroupClause (takeAll isRandomMarker tokens).2).2

theorem unclaused_append (a b : List String) : unclaused (a ++ b) = unclaused a ++ unclaused b := by
  simp [unclaused, takeAll]

/-- The tokens of a query without markers and clauses, with operators put back. -/
def bareTokens (tokens : List String) : List String := rejoin (unclaused tokens)

/-- The terms among the tokens of a fragment that names no actor, index or game type. -/
def fragmentTerms (fragment : List String) : List String :=
  (takeAll (fun token => (rowSort? token).isSome) (bareTokens fragment)).2

/-- **A fragment is plain** if it has no group clause and names no actor, index or game type. -/
structure PlainFragment (c : Catalog) (fragment : List String) : Prop where
  group : ∀ token ∈ fragment, isGroupClause token = false
  actor : ∀ token ∈ bareTokens fragment, isActorToken token = false
  index : ∀ token ∈ bareTokens fragment, isIndex token = false
  game : ∀ token ∈ bareTokens fragment, c.gameType? token = none

/-- **Two fragments meet cleanly** if no operator is put back to operands across the slash. -/
def MeetCleanly (first fragment : List String) : Prop :=
  bareTokens (first ++ fragment) = bareTokens first ++ bareTokens fragment

/-- What the words of a query are, one after another. -/
structure QueryWords.ReadFrom (c : Catalog) (context : Context) (defaultName : String)
    (tokens : List String) (w : QueryWords) : Prop where
  group : (do
    (← onlyClause (takeAll isGroupClause (takeAll isRandomMarker tokens).2).1).mapM fun clause =>
      (GroupList.parse (defaultScope c context) clause).fresh) = .ok w.group
  actor : Actor.read defaultName ((bareTokens tokens).find? isActorToken) = .ok w.actor
  game : w.game = (((((bareTokens tokens).eraseP isActorToken).eraseP isIndex).find? fun token =>
    (c.gameType? token).isSome).bind c.gameType?).getD c.defaultGame
  terms : w.terms = (((((bareTokens tokens).eraseP isActorToken).eraseP isIndex).eraseP fun token =>
    (c.gameType? token).isSome).filter fun token => !(rowSort? token).isSome)

theorem QueryWords.readFrom {c : Catalog} {context : Context} {defaultName : String}
    {tokens : List String} {w : QueryWords}
    (h : QueryWords.read c context defaultName tokens = .ok w) :
    w.ReadFrom c context defaultName tokens := by
  obtain ⟨clause, hclause, h⟩ := bind_eq_ok.mp h
  obtain ⟨group, hgroup, h⟩ := bind_eq_ok.mp h
  obtain ⟨actor, hactor, h⟩ := bind_eq_ok.mp h
  have hgroups := bind_eq_ok.mpr ⟨clause, hclause, hgroup⟩
  simp only [takeFirst] at h
  split at h
  · obtain ⟨index, -, h⟩ := bind_eq_ok.mp h
    obtain rfl := Except.ok.inj h
    exact ⟨hgroups, hactor, rfl, rfl⟩
  · obtain rfl := Except.ok.inj h
    exact ⟨hgroups, hactor, rfl, rfl⟩

theorem eraseP_append_of_forall {sort : String → Bool} {b : List String}
    (h : ∀ token ∈ b, sort token = false) (a : List String) :
    (a ++ b).eraseP sort = a.eraseP sort ++ b := by
  induction a with
  | nil =>
    rw [List.nil_append, List.eraseP_nil, List.nil_append]
    exact List.eraseP_of_forall_not fun token hmem => by simp [h token hmem]
  | cons token a ih =>
    rw [List.cons_append, List.eraseP_cons, List.eraseP_cons, ih]
    cases sort token <;> rfl

theorem find?_append_of_forall {sort : String → Bool} {b : List String}
    (h : ∀ token ∈ b, sort token = false) (a : List String) :
    (a ++ b).find? sort = a.find? sort := by
  have hnone : b.find? sort = none :=
    List.find?_eq_none.mpr fun token hmem => by simp [h token hmem]
  rw [List.find?_append, hnone, Option.or_none]

theorem groupClauses_append {c : Catalog} {fragment : List String} (h : PlainFragment c fragment)
    (first : List String) :
    (takeAll isGroupClause (takeAll isRandomMarker (first ++ fragment)).2).1 =
      (takeAll isGroupClause (takeAll isRandomMarker first).2).1 := by
  have hnone : (fragment.filter fun token => !isRandomMarker token).filter isGroupClause = [] :=
    List.filter_eq_nil_iff.mpr fun token hmem => by simp [h.group token (List.mem_of_mem_filter hmem)]
  simp only [takeAll, List.filter_append, hnone, List.append_nil]

/-- **The words of both fragments are those of the first with the terms of the other behind its
own**, if the other is plain and meets it cleanly. -/
theorem QueryWords.ReadFrom.beside {c : Catalog} {context : Context} {defaultName : String}
    {first fragment : List String} {w w' : QueryWords}
    (h : w.ReadFrom c context defaultName first)
    (h' : w'.ReadFrom c context defaultName (first ++ fragment)) (hplain : PlainFragment c fragment)
    (hclean : MeetCleanly first fragment) :
    w'.group = w.group ∧ w'.actor = w.actor ∧ w'.game = w.game ∧
      w'.terms = w.terms ++ fragmentTerms fragment := by
  have hgame : ∀ token ∈ bareTokens fragment, (c.gameType? token).isSome = false := by
    intro token hmem
    rw [hplain.game token hmem]
    rfl
  have hgroup' := h'.group
  have hactor' := h'.actor
  have hgame' := h'.game
  have hterms' := h'.terms
  rw [groupClauses_append hplain, h.group] at hgroup'
  rw [hclean, find?_append_of_forall hplain.actor, h.actor] at hactor'
  rw [hclean, eraseP_append_of_forall hplain.actor, eraseP_append_of_forall hplain.index,
    find?_append_of_forall hgame, ← h.game] at hgame'
  rw [hclean, eraseP_append_of_forall hplain.actor, eraseP_append_of_forall hplain.index,
    eraseP_append_of_forall hgame, List.filter_append, ← h.terms] at hterms'
  exact ⟨(Except.ok.inj hgroup').symm, (Except.ok.inj hactor').symm, hgame', hterms'⟩

end GameLog
