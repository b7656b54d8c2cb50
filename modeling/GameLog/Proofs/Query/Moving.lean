import GameLog.Catalog.Builtin
import GameLog.Proofs.Query.Variation
import GameLog.Proofs.Query.Wording

/-!
# Where option tokens stand

Clauses, filters, markers, actors, indexes, game types and row sorts are options of a command. They are taken
out of its tokens one kind after another, and what is left are its terms. An option that is the only token of
its kind, and of no other kind, may stand anywhere: until it is taken out two commands differ in its place
only (`Moved`), and from then on they do not differ.

Main statements:
* `Moved.takeAll`, `Moved.takeFirst`: the same tokens of a kind are taken out of both;
* `QueryWords.read_eq_of_moved`: both queries have the same words;
* `option_stands_anywhere`: both commands are refused alike, or ask for the same.
-/

namespace GameLog

open GameLog.Text

/-! ## Kinds of options -/

/-- The kinds of option tokens, in the order in which they are taken out of a command. -/
inductive OptionKind
  | extra
  | sort
  | filter
  | random
  | group
  | actor
  | index
  | game
  | rowSort
deriving DecidableEq, Repr

/-- Whether a token has the pattern of a kind, beside the extra columns that a command asks for. -/
def OptionKind.holds (c : Catalog) (asked : ExtraList) : OptionKind → String → Bool
  | extra => isExtraClause
  | sort => isSortClause
  | filter => fun token => (RowFilter.parse? asked token).isSome
  | random => isRandomMarker
  | group => isGroupClause
  | actor => isActorToken
  | index => isIndex
  | game => fun token => (c.gameType? token).isSome
  | rowSort => fun token => (rowSort? token).isSome

/-- **A token is the sole option of a kind** beside others: it has the pattern of this kind and of no other
one, and no other token has it. -/
structure SoleOption (c : Catalog) (asked : ExtraList) (kind : OptionKind) (token : String)
    (others : List String) : Prop where
  holds : kind.holds c asked token = true
  only : ∀ kind' : OptionKind, kind'.holds c asked token = true → kind' = kind
  sole : ∀ other ∈ others, kind.holds c asked other = false

/-! ## A token among others -/

/-- **Tokens are others with one token put in** somewhere. -/
def PutInto (token : String) (others tokens : List String) : Prop :=
  ∃ before after, others = before ++ after ∧ tokens = before ++ token :: after

namespace PutInto

variable {token : String} {others tokens : List String} {kind : String → Bool}

theorem perm (h : PutInto token others tokens) : tokens.Perm (token :: others) := by
  obtain ⟨before, after, rfl, rfl⟩ := h
  exact List.perm_middle

theorem filter_of_pos (h : PutInto token others tokens) (htoken : kind token = true) :
    PutInto token (others.filter kind) (tokens.filter kind) := by
  obtain ⟨before, after, rfl, rfl⟩ := h
  refine ⟨before.filter kind, after.filter kind, List.filter_append .., ?_⟩
  rw [List.filter_append, List.filter_cons_of_pos htoken]

theorem filter_of_neg (h : PutInto token others tokens) (htoken : kind token = false) :
    tokens.filter kind = others.filter kind := by
  obtain ⟨before, after, rfl, rfl⟩ := h
  rw [List.filter_append, List.filter_append, List.filter_cons_of_neg (by simp [htoken])]

theorem filter_of_sole (h : PutInto token others tokens) (htoken : kind token = true)
    (hsole : ∀ other ∈ others, kind other = false) : tokens.filter kind = [token] := by
  obtain ⟨before, after, hnone, htokens⟩ := h.filter_of_pos htoken
  rw [List.filter_eq_nil_iff.mpr fun other hother => by simp [hsole other hother]] at hnone
  obtain ⟨rfl, rfl⟩ := List.append_eq_nil_iff.mp hnone.symm
  exact htokens

theorem takeFirst_of_neg (h : PutInto token others tokens) (htoken : kind token = false) :
    tokens.find? kind = others.find? kind ∧
      PutInto token (others.eraseP kind) (tokens.eraseP kind) := by
  obtain ⟨before, after, rfl, rfl⟩ := h
  have hneg : ¬kind token = true := by simp [htoken]
  refine ⟨?_, ?_⟩
  · rw [List.find?_append, List.find?_append, List.find?_cons_of_neg hneg]
  · rw [List.eraseP_append, List.eraseP_append, List.eraseP_cons_of_neg hneg]
    split
    · exact ⟨_, _, rfl, rfl⟩
    · exact ⟨_, _, rfl, rfl⟩

theorem takeFirst_of_sole (h : PutInto token others tokens) (htoken : kind token = true)
    (hsole : ∀ other ∈ others, kind other = false) :
    tokens.find? kind = some token ∧ tokens.eraseP kind = others := by
  obtain ⟨before, after, rfl, rfl⟩ := h
  have hbefore : ∀ other ∈ before, ¬kind other = true :=
    fun other hother => by simp [hsole other (List.mem_append_left _ hother)]
  refine ⟨?_, ?_⟩
  · rw [List.find?_append, List.find?_eq_none.mpr hbefore, List.find?_cons_of_pos htoken,
      Option.none_or]
  · rw [List.eraseP_append_right _ hbefore, List.eraseP_cons_of_pos htoken]

end PutInto

/-- **Two lists of tokens differ at most in where one token stands**, which is the only one of each kind that
it is of. If it is gone already they do not differ. -/
inductive Moved (holds : OptionKind → String → Bool) (token : String) :
    Bool → List String → List String → Prop
  | gone (tokens : List String) : Moved holds token true tokens tokens
  | there {others tokens tokens' : List String}
      (hsole : ∀ kind, holds kind token = true → ∀ other ∈ others, holds kind other = false)
      (h : PutInto token others tokens) (h' : PutInto token others tokens') :
      Moved holds token false tokens tokens'

namespace Moved

variable {holds : OptionKind → String → Bool} {token : String} {gone : Bool}
  {tokens tokens' : List String}

theorem perm (h : Moved holds token gone tokens tokens') : tokens.Perm tokens' := by
  cases h with
  | gone => exact .refl _
  | there _ h h' => exact h.perm.trans h'.perm.symm

theorem eq_of_gone (h : Moved holds token gone tokens tokens') (hgone : gone = true) :
    tokens = tokens' := by
  cases h with
  | gone => rfl
  | there => cases hgone

/-- **The same tokens of a kind are taken out of both**, and with them the token if it is one of them. -/
theorem takeAll (h : Moved holds token gone tokens tokens') (kind : OptionKind) :
    tokens.filter (holds kind) = tokens'.filter (holds kind) ∧
      Moved holds token (gone || holds kind token) (tokens.filter fun t => !holds kind t)
        (tokens'.filter fun t => !holds kind t) := by
  cases h with
  | gone => exact ⟨rfl, .gone _⟩
  | there hsole h h' =>
    cases htoken : holds kind token with
    | true =>
      have hneg : (!holds kind token) = false := by rw [htoken]; rfl
      rw [h.filter_of_sole htoken (hsole kind htoken), h'.filter_of_sole htoken (hsole kind htoken),
        h.filter_of_neg hneg, h'.filter_of_neg hneg]
      exact ⟨rfl, .gone _⟩
    | false =>
      have hpos : (!holds kind token) = true := by rw [htoken]; rfl
      rw [h.filter_of_neg htoken, h'.filter_of_neg htoken]
      exact ⟨rfl, .there (fun kind' hkind other hother =>
        hsole kind' hkind other (List.mem_of_mem_filter hother)) (h.filter_of_pos hpos)
          (h'.filter_of_pos hpos)⟩

/-- **The same first token of a kind is taken out of both.** -/
theorem takeFirst (h : Moved holds token gone tokens tokens') (kind : OptionKind) :
    tokens.find? (holds kind) = tokens'.find? (holds kind) ∧
      Moved holds token (gone || holds kind token) (tokens.eraseP (holds kind))
        (tokens'.eraseP (holds kind)) := by
  cases h with
  | gone => exact ⟨rfl, .gone _⟩
  | there hsole h h' =>
    cases htoken : holds kind token with
    | true =>
      obtain ⟨hfind, herase⟩ := h.takeFirst_of_sole htoken (hsole kind htoken)
      obtain ⟨hfind', herase'⟩ := h'.takeFirst_of_sole htoken (hsole kind htoken)
      rw [hfind, hfind', herase, herase']
      exact ⟨rfl, .gone _⟩
    | false =>
      obtain ⟨hfind, hput⟩ := h.takeFirst_of_neg htoken
      obtain ⟨hfind', hput'⟩ := h'.takeFirst_of_neg htoken
      rw [hfind, hfind']
      exact ⟨rfl, .there (fun kind' hkind other hother =>
        hsole kind' hkind other (List.mem_of_mem_eraseP hother)) hput hput'⟩

end Moved

/-! ## The words of a query -/

/-- The words of a query from what is taken out of its tokens. -/
def QueryWords.ofParts (c : Catalog) (context : Context) (defaultName : String)
    (markers clauses : List String) (actor index game : Option String) (rowSorts terms : List String) :
    Except QueryError QueryWords := do
  let group ← (← onlyClause clauses).mapM fun clause =>
    (GroupList.parse (defaultScope c context) clause).fresh
  let actor ← Actor.read defaultName actor
  let index ← match index with
    | some token => readIndex token
    | none => pure 0
  return ⟨!markers.isEmpty, group, actor, index, (game.bind c.gameType?).getD c.defaultGame, rowSorts,
    terms⟩

theorem QueryWords.read_eq (c : Catalog) (context : Context) (defaultName : String)
    (tokens : List String) :
    QueryWords.read c context defaultName tokens =
      QueryWords.ofParts c context defaultName (tokens.filter isRandomMarker)
        (takeAll isGroupClause (takeAll isRandomMarker tokens).2).1
        ((bareTokens tokens).find? isActorToken)
        (((bareTokens tokens).eraseP isActorToken).find? isIndex)
        ((gameTokens tokens).find? fun token => (c.gameType? token).isSome)
        ((rowSortTokens c tokens).filter fun token => (rowSort? token).isSome)
        ((rowSortTokens c tokens).filter fun token => !(rowSort? token).isSome) := rfl

/-- **Both queries have the same words**, if the token is of some kind that is taken out of them. -/
theorem QueryWords.read_eq_of_moved {c : Catalog} {context : Context} {defaultName : String}
    {asked : ExtraList} {token : String} {gone : Bool} {tokens tokens' : List String}
    (h : Moved (OptionKind.holds c asked) token gone tokens tokens')
    (halone : ∀ t ∈ tokens, StandsAlone t)
    (hgone : gone = true ∨ ∃ kind ∈ [OptionKind.random, .group, .actor, .index, .game, .rowSort],
      kind.holds c asked token = true) :
    QueryWords.read c context defaultName tokens = QueryWords.read c context defaultName tokens' := by
  have halone' : ∀ t ∈ tokens', StandsAlone t := fun t ht => halone t (h.perm.mem_iff.mpr ht)
  obtain ⟨hmarkers, h⟩ := h.takeAll .random
  obtain ⟨hclauses, h⟩ := h.takeAll .group
  obtain ⟨hactor, h⟩ := h.takeFirst .actor
  obtain ⟨hindex, h⟩ := h.takeFirst .index
  obtain ⟨hgame, h⟩ := h.takeFirst .game
  obtain ⟨hrowSorts, h⟩ := h.takeAll .rowSort
  have hterms := h.eq_of_gone (by simpa [or_assoc] using hgone)
  rw [QueryWords.read_eq, QueryWords.read_eq]
  unfold rowSortTokens gameTokens
  rw [bareTokens_eq halone, bareTokens_eq halone']
  unfold unclaused takeAll
  dsimp only [OptionKind.holds] at hmarkers hclauses hactor hindex hgame hrowSorts hterms ⊢
  rw [hmarkers, hclauses, hactor, hindex, hgame, hrowSorts, hterms]

/-! ## Whole commands -/

/-- **The words of both commands are refused alike, or they are the same** but for the place of the token
among those that are left. -/
theorem CommandWords.read_of_moved {c : Catalog} {s : Scope} {asked : ExtraList} {token : String}
    {gone : Bool} {tokens tokens' : List String}
    (h : Moved (OptionKind.holds c asked) token gone tokens tokens')
    (hasked : askedExtra s tokens = asked) :
    (∃ e, CommandWords.read s tokens = .error e ∧ CommandWords.read s tokens' = .error e) ∨
      ∃ extra sorts filters left left',
        CommandWords.read s tokens = .ok ⟨extra, sorts, filters, left⟩ ∧
        CommandWords.read s tokens' = .ok ⟨extra, sorts, filters, left'⟩ ∧
        Moved (OptionKind.holds c asked) token
          (gone || OptionKind.extra.holds c asked token || OptionKind.sort.holds c asked token ||
            OptionKind.filter.holds c asked token) left left' := by
  obtain ⟨hextra, h⟩ := h.takeAll .extra
  obtain ⟨hsorts, h⟩ := h.takeAll .sort
  obtain ⟨hfilters, h⟩ := h.takeAll .filter
  dsimp only [OptionKind.holds] at hextra hsorts hfilters
  rw [CommandWords.read_eq, CommandWords.read_eq]
  unfold sortClauses unsorted takeAll
  dsimp only
  rw [← hextra, ← hsorts]
  cases hread : readExtra s (tokens.filter isExtraClause) with
  | error e => exact .inl ⟨e, rfl, rfl⟩
  | ok extra =>
    obtain rfl : extra = asked := (askedExtra_of_read hread).symm.trans hasked
    dsimp only [bind, Except.bind]
    cases (List.filter isSortClause _).mapM (parseSorts extra) with
    | error e => exact .inl ⟨e, rfl, rfl⟩
    | ok sorts =>
      refine .inr ⟨extra, sorts.flatten, _, _, _, rfl, ?_, h⟩
      dsimp only
      rw [← filterMap_filter_isSome (RowFilter.parse? extra), ← hfilters,
        filterMap_filter_isSome (RowFilter.parse? extra)]
      rfl

/-- **An option may stand anywhere.** Where no token of a command is a slash, and each stands by itself,
moving the sole option of a kind makes no difference: the command is refused alike, or it asks for the same
queries under the same sorts and filters, and only how it is worded may differ. -/
theorem option_stands_anywhere {c : Catalog} {context : Context} {defaultName token : String}
    {others tokens tokens' : List String} {kind : OptionKind} (hput : PutInto token others tokens)
    (hput' : PutInto token others tokens') (hslash : fragmentToken ∉ tokens)
    (halone : ∀ t ∈ tokens, StandsAlone t)
    (hoption : SoleOption c (askedExtra (defaultScope c context) tokens) kind token others) :
    (QueryGroup.parse c context defaultName tokens).map QueryGroup.unworded =
      (QueryGroup.parse c context defaultName tokens').map QueryGroup.unworded := by
  have hmoved : Moved (OptionKind.holds c (askedExtra (defaultScope c context) tokens)) token false
      tokens tokens' :=
    .there (fun kind' hkind => hoption.only kind' hkind ▸ hoption.sole) hput hput'
  rcases CommandWords.read_of_moved hmoved rfl with
    ⟨e, hread, hread'⟩ | ⟨extra, sorts, filters, left, left', hread, hread', hleft⟩
  · rw [QueryGroup.parse_eq, QueryGroup.parse_eq, hread, hread']
    rfl
  · have hmem : ∀ t ∈ left, t ∈ tokens := by
      intro t ht
      have hfrom := (CommandWords.readFrom hread).tokens
      dsimp only at hfrom
      rw [hfrom] at ht
      exact List.mem_of_mem_filter (List.mem_of_mem_filter (List.mem_of_mem_filter ht))
    have hfree : fragmentToken ∉ left := fun ht => hslash (hmem _ ht)
    have hfree' : fragmentToken ∉ left' := fun ht => hfree (hleft.perm.mem_iff.mpr ht)
    have hwords : QueryWords.read c context defaultName left =
        QueryWords.read c context defaultName left' := by
      refine QueryWords.read_eq_of_moved hleft (fun t ht => halone t (hmem t ht)) ?_
      have hkind := hoption.holds
      cases kind <;> simp [hkind]
    rw [QueryGroup.parse_unsplit hread hfree, QueryGroup.parse_unsplit hread' hfree',
      QueryGroup.unworded_unsplit, QueryGroup.unworded_unsplit, unworded_buildQuery extra hwords]

/-- Over the built-in catalog: a group clause that stands inside brackets, between a filter and a term, groups
as it does in front. -/
theorem builtin_group_stands_anywhere :
    ∃ g, QueryGroup.parse .builtin .game "*" ["s=god", "((", "n>5", "xl>5", "))"] = .ok g ∧
      (QueryGroup.parse .builtin .game "*" ["((", "n>5", "s=god", "xl>5", "))"]).map
        QueryGroup.unworded = .ok g.unworded := by
  have hput : PutInto "s=god" ["((", "n>5", "xl>5", "))"] ["s=god", "((", "n>5", "xl>5", "))"] :=
    ⟨[], ["((", "n>5", "xl>5", "))"], rfl, rfl⟩
  have hput' : PutInto "s=god" ["((", "n>5", "xl>5", "))"] ["((", "n>5", "s=god", "xl>5", "))"] :=
    ⟨["((", "n>5"], ["xl>5", "))"], rfl, rfl⟩
  have hslash : fragmentToken ∉ ["s=god", "((", "n>5", "xl>5", "))"] := by decide
  have halone : ∀ t ∈ ["s=god", "((", "n>5", "xl>5", "))"], StandsAlone t := by
    unfold StandsAlone
    decide +kernel
  have hoption : SoleOption .builtin (askedExtra (defaultScope .builtin .game)
      ["s=god", "((", "n>5", "xl>5", "))"]) .group "s=god" ["((", "n>5", "xl>5", "))"] := by
    refine ⟨by decide +kernel, fun kind' => ?_, by decide +kernel⟩
    cases kind' <;> decide +kernel
  have hparse : (QueryGroup.parse .builtin .game "*"
      ["s=god", "((", "n>5", "xl>5", "))"]).toOption.map (fun g => g.primary.group.isSome) =
      some true := by decide +kernel
  obtain ⟨g, hg, -⟩ := exists_ok_of_map hparse
  have hsame : (QueryGroup.parse .builtin .game "*" ["s=god", "((", "n>5", "xl>5", "))"]).map
      QueryGroup.unworded =
        (QueryGroup.parse .builtin .game "*" ["((", "n>5", "s=god", "xl>5", "))"]).map
          QueryGroup.unworded := option_stands_anywhere hput hput' hslash halone hoption
  rw [hg] at hsame
  exact ⟨g, hg, hsame.symm⟩

end GameLog
