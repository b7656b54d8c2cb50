import GameLog.Proofs.Query.Building

/-!
# The words of a whole command

The clauses for extra columns and sorts and the filters are taken out of a command before its queries
are read, one kind after another: sorts and filters name slots of the extra columns.

Main statements:
* `CommandWords.readFrom`: each kind of words is read from the tokens that the kinds before it leave;
* `mem_of_mem_fragments`: fragments have the tokens of the command but for its slashes;
* `exists_fragments_append`: what stands behind tokens belongs to the last fragment of them;
* `QueryGroup.parse_unsplit`: a command without a slash is parsed by building its query;
* `sorts_of_parse`: where the sorts of a group come from.
-/

namespace GameLog

open GameLog.Text

/-- The extra columns that the clauses of a command ask for. -/
def readExtra (s : Scope) (clauses : List String) : Except QueryError ExtraList := do
  match ← onlyClause clauses with
  | some clause => (ExtraList.parse s clause).fresh
  | none => pure .none

/-- The extra columns that the clauses of a command ask for, or none if they cannot be read. -/
def askedExtra (s : Scope) (tokens : List String) : ExtraList :=
  ((readExtra s (tokens.filter isExtraClause)).toOption).getD .none

theorem askedExtra_of_read {s : Scope} {tokens : List String} {extra : ExtraList}
    (h : readExtra s (tokens.filter isExtraClause) = .ok extra) : askedExtra s tokens = extra := by
  rw [askedExtra, h]
  rfl

/-- The tokens of a command without clauses for extra columns and sorts. -/
def unsorted (tokens : List String) : List String :=
  (takeAll isSortClause (takeAll isExtraClause tokens).2).2

/-- The clauses for sorts of a command. -/
def sortClauses (tokens : List String) : List String :=
  (takeAll isSortClause (takeAll isExtraClause tokens).2).1

/-- **Words are read from the tokens of a command.** -/
structure CommandWords.ReadFrom (s : Scope) (tokens : List String) (w : CommandWords) : Prop where
  extra : readExtra s (tokens.filter isExtraClause) = .ok w.extra
  sorts : ((sortClauses tokens).mapM (parseSorts w.extra)).map List.flatten = .ok w.sorts
  filters : w.filters = (unsorted tokens).filterMap (RowFilter.parse? w.extra)
  tokens : w.tokens =
    (unsorted tokens).filter fun token => !(RowFilter.parse? w.extra token).isSome

theorem filterMap_filter_isSome {α β : Type} (f : α → Option β) (as : List α) :
    (as.filter fun a => (f a).isSome).filterMap f = as.filterMap f := by
  rw [List.filterMap_filter]
  refine List.filterMap_congr fun a _ => ?_
  cases f a <;> rfl

/-- The words of a command are read from its clauses for extra columns, its clauses for sorts, and the tokens
without them. -/
theorem CommandWords.read_eq (s : Scope) (tokens : List String) :
    CommandWords.read s tokens = readExtra s (tokens.filter isExtraClause) >>= fun extra =>
      (sortClauses tokens).mapM (parseSorts extra) >>= fun sorts =>
        .ok ⟨extra, sorts.flatten, (unsorted tokens).filterMap (RowFilter.parse? extra),
          (unsorted tokens).filter fun token => !(RowFilter.parse? extra token).isSome⟩ := by
  unfold CommandWords.read readExtra
  simp only [takeAll, filterMap_filter_isSome]
  rcases onlyClause (tokens.filter isExtraClause) with e | _ | clause <;> rfl

theorem CommandWords.readFrom {s : Scope} {tokens : List String} {w : CommandWords}
    (h : CommandWords.read s tokens = .ok w) : w.ReadFrom s tokens := by
  rw [CommandWords.read_eq] at h
  obtain ⟨extra, hextra, h⟩ := bind_eq_ok.mp h
  obtain ⟨sorts, hsorts, h⟩ := bind_eq_ok.mp h
  obtain rfl := Except.ok.inj h
  constructor
  · exact hextra
  · exact congrArg (Except.map List.flatten) hsorts
  · rfl
  · rfl

theorem CommandWords.ReadFrom.askedExtra_eq {s : Scope} {tokens : List String} {w : CommandWords}
    (h : w.ReadFrom s tokens) : askedExtra s tokens = w.extra :=
  askedExtra_of_read h.extra

/-- The sorts of a group are those that its command has beside its fragments, or else those of its extra
columns and groups. -/
theorem sorts_of_parse {c : Catalog} {context : Context} {defaultName : String}
    {tokens : List String} {g : QueryGroup}
    (h : QueryGroup.parse c context defaultName tokens = .ok g) :
    ∃ words sorts, CommandWords.read (defaultScope c context) tokens = .ok words ∧
      words.sharedSorts = .ok sorts ∧ words.sharedExtra (defaultScope c context) = .ok g.extra ∧
      g.filters = words.filters ∧ g.sorts = reportSorts g.extra g.primary.group sorts := by
  rw [QueryGroup.parse_eq] at h
  obtain ⟨words, hwords, h⟩ := bind_eq_ok.mp h
  obtain ⟨sorts, hsorts, h⟩ := bind_eq_ok.mp h
  obtain ⟨extra, hextra, h⟩ := bind_eq_ok.mp h
  obtain ⟨primary, -, h⟩ := bind_eq_ok.mp h
  obtain ⟨queries, -, h⟩ := bind_eq_ok.mp h
  split at h
  · cases h
  · obtain rfl := Except.ok.inj h
    exact ⟨words, sorts, hwords, hsorts, hextra, rfl, rfl⟩

/-! ## Fragments -/

theorem fragments_cons (token : String) (rest : List String) :
    fragments (token :: rest) =
      if token = fragmentToken then ([], (fragments rest).1 :: (fragments rest).2)
      else (token :: (fragments rest).1, (fragments rest).2) := rfl

theorem fragments_append_of_not_mem {tokens : List String} (h : fragmentToken ∉ tokens)
    (rest : List String) :
    fragments (tokens ++ rest) = (tokens ++ (fragments rest).1, (fragments rest).2) := by
  induction tokens with
  | nil => rfl
  | cons token tokens ih =>
    obtain ⟨htoken, htokens⟩ := not_or.mp (List.mem_cons.not.mp h)
    rw [List.cons_append, fragments_cons, if_neg (Ne.symm htoken), ih htokens]
    rfl

theorem fragments_eq_of_not_mem {tokens : List String} (h : fragmentToken ∉ tokens) :
    fragments tokens = (tokens, []) := by
  simpa [fragments] using fragments_append_of_not_mem h []

/-- **What is put behind tokens stands in their last fragment**, whatever it is: the first one if there is no
slash among them. -/
theorem exists_fragments_append (tokens : List String) :
    (∀ rest, fragments (tokens ++ rest) = (tokens ++ (fragments rest).1, (fragments rest).2)) ∨
      ∃ first others last, (∀ rest, fragments (tokens ++ rest) =
          (first, others ++ (last ++ (fragments rest).1) :: (fragments rest).2)) ∧
        ∀ token ∈ first ++ last, token ∈ tokens := by
  induction tokens with
  | nil => exact .inl fun rest => rfl
  | cons head tokens ih =>
    by_cases hslash : head = fragmentToken
    · right
      rcases ih with hfirst | ⟨first, others, last, hrest, hmem⟩
      · refine ⟨[], [], tokens, fun rest => ?_, fun token htoken => List.mem_cons_of_mem _ htoken⟩
        rw [List.cons_append, fragments_cons, if_pos hslash, hfirst]
        rfl
      · refine ⟨[], first :: others, last, fun rest => ?_, fun token htoken =>
          List.mem_cons_of_mem _ (hmem token (List.mem_append_right _ htoken))⟩
        rw [List.cons_append, fragments_cons, if_pos hslash, hrest]
        rfl
    · rcases ih with hfirst | ⟨first, others, last, hrest, hmem⟩
      · left
        intro rest
        rw [List.cons_append, fragments_cons, if_neg hslash, hfirst]
        rfl
      · refine .inr ⟨head :: first, others, last, fun rest => ?_, fun token htoken => ?_⟩
        · rw [List.cons_append, fragments_cons, if_neg hslash, hrest]
        · rcases List.mem_cons.mp htoken with rfl | htoken
          · exact List.mem_cons_self
          · exact List.mem_cons_of_mem _ (hmem token htoken)

/-- There is a further fragment exactly if there is a slash. -/
theorem others_eq_nil_iff {tokens : List String} :
    (fragments tokens).2 = [] ↔ fragmentToken ∉ tokens := by
  refine ⟨fun h => ?_, fun h => by rw [fragments_eq_of_not_mem h]⟩
  induction tokens with
  | nil => simp
  | cons token rest ih =>
    rw [fragments_cons] at h
    by_cases htoken : token = fragmentToken
    · rw [if_pos htoken] at h
      cases h
    · rw [if_neg htoken] at h
      exact List.mem_cons.not.mpr (not_or.mpr ⟨Ne.symm htoken, ih h⟩)

/-- The tokens of fragments are tokens other than a slash. -/
theorem mem_of_mem_fragments (tokens : List String) :
    (∀ token ∈ (fragments tokens).1, token ∈ tokens ∧ token ≠ fragmentToken) ∧
      ∀ fragment ∈ (fragments tokens).2, ∀ token ∈ fragment,
        token ∈ tokens ∧ token ≠ fragmentToken := by
  induction tokens with
  | nil => simp [fragments]
  | cons head rest ih =>
    obtain ⟨hfirst, hothers⟩ := ih
    have hfirst' : ∀ token ∈ (fragments rest).1, token ∈ head :: rest ∧ token ≠ fragmentToken :=
      fun token htoken => ⟨List.mem_cons_of_mem _ (hfirst token htoken).1, (hfirst token htoken).2⟩
    have hothers' : ∀ fragment ∈ (fragments rest).2, ∀ token ∈ fragment,
        token ∈ head :: rest ∧ token ≠ fragmentToken := fun fragment hfragment token htoken =>
      ⟨List.mem_cons_of_mem _ (hothers fragment hfragment token htoken).1,
        (hothers fragment hfragment token htoken).2⟩
    rw [fragments_cons]
    by_cases hhead : head = fragmentToken
    · rw [if_pos hhead]
      exact ⟨fun token htoken => absurd htoken List.not_mem_nil,
        List.forall_mem_cons.mpr ⟨hfirst', hothers'⟩⟩
    · rw [if_neg hhead]
      exact ⟨List.forall_mem_cons.mpr ⟨⟨List.mem_cons_self, hhead⟩, hfirst'⟩, hothers'⟩

/-! ## Groups -/

/-- The group that the words of a command ask for. -/
def QueryGroup.ofWords (c : Catalog) (context : Context) (defaultName : String)
    (tokens : List String) (w : CommandWords) : Except QueryError QueryGroup :=
  w.sharedSorts >>= fun sorts => w.sharedExtra (defaultScope c context) >>= fun extra =>
    QueryGroup.build c context defaultName tokens w sorts extra

theorem QueryGroup.parse_eq_ofWords (c : Catalog) (context : Context) (defaultName : String)
    (tokens : List String) :
    QueryGroup.parse c context defaultName tokens =
      CommandWords.read (defaultScope c context) tokens >>=
        QueryGroup.ofWords c context defaultName tokens :=
  QueryGroup.parse_eq c context defaultName tokens

/-- The group of a command with one fragment: its query, under the sorts that are asked for. -/
def QueryGroup.unsplit (tokens : List String) (w : CommandWords) (q : Query) : QueryGroup :=
  ⟨q, [], reportSorts w.extra q.group w.sorts, w.filters, w.extra,
    describe q.actor (joinWith " " tokens)⟩

/-- **A command with one fragment is parsed by building its query.** -/
theorem QueryGroup.parse_unsplit {c : Catalog} {context : Context} {defaultName : String}
    {tokens : List String} {w : CommandWords}
    (hread : CommandWords.read (defaultScope c context) tokens = .ok w)
    (hslash : fragmentToken ∉ w.tokens) :
    QueryGroup.parse c context defaultName tokens =
      (buildQuery c context defaultName w.extra w.tokens).map (QueryGroup.unsplit tokens w) := by
  have hfirst : w.first = w.tokens := by rw [CommandWords.first, fragments_eq_of_not_mem hslash]
  have hothers : w.others = [] := by rw [CommandWords.others, fragments_eq_of_not_mem hslash]
  have hsorts : w.sharedSorts = .ok w.sorts := by simp [CommandWords.sharedSorts, hothers]
  have hextra : w.sharedExtra (defaultScope c context) = .ok w.extra := by
    simp [CommandWords.sharedExtra, hothers]
  rw [QueryGroup.parse_eq_build defaultName hread hsorts hextra, QueryGroup.build, hfirst, hothers]
  cases buildQuery c context defaultName w.extra w.tokens <;> rfl

end GameLog
