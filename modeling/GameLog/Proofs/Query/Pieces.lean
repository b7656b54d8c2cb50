import GameLog.Catalog.Builtin
import GameLog.Proofs.Query.ExtraColumns
import GameLog.Proofs.Query.Shape

/-!
# A split command and its pieces

Clauses for extra columns and sorts and filters on report rows belong to a whole command, wherever they
stand among its fragments. With all of them in front, the first fragment alone, and with each further one
behind it, is a command of its own (`pieces`). A split command asks for what its pieces ask for one by one.
Where it names no extra columns and no groups it shows the count of rows, so its pieces ask for that column.

Main statements:
* `readsAlike_countExtra`: sorts and filters see no difference between the count as a column and no columns;
* `read_piece`: the words of a piece are those of the command, with the tokens of one query;
* `split_command_is_its_pieces`: a command is parsed exactly if its pieces are, and gives their queries.
-/

namespace GameLog

open GameLog.Text

/-! ## The count as a column -/

/-- The count of rows as the only extra column. -/
def countExtra : ExtraList :=
  ⟨[⟨.count, .descending, ⟨.countRows, some "count_1"⟩, "N", some .integer⟩], "x=n"⟩

theorem parse_countExtra (s : Scope) : (ExtraList.parse s "x=n").fresh = .ok countExtra := by
  have hitems : extraItems? "x=n" = some [⟨.descending, none, "n", false⟩] := by decide +kernel
  unfold ExtraList.parse
  rw [hitems]
  rfl

theorem isEmpty_of_parse {s : Scope} {clause : String} {l : ExtraList}
    (h : (ExtraList.parse s clause).fresh = .ok l) : l.isEmpty = false := by
  exact List.isEmpty_eq_false_iff.mpr (ExtraList.fields_ne_nil (Prod.ext h rfl))

/-- **Sorts and filters read two lists of extra columns alike**: they name the same slots by the same
words. -/
structure ReadsAlike (extra extra' : ExtraList) : Prop where
  sorts : parseSorts extra' = parseSorts extra
  filters : RowFilter.parse? extra' = RowFilter.parse? extra

theorem ReadsAlike.refl (extra : ExtraList) : ReadsAlike extra extra := ⟨rfl, rfl⟩

theorem target?_countExtra (word : String) :
    SortField.target? countExtra (lower word) = SortField.target? .none (lower word) := by
  unfold SortField.target?
  by_cases hcount : lower word = "n"
  · rw [if_pos hcount, if_pos hcount]
  · have hlabel : sameLetters "N" (lower word) = false := by
      have hn : lower "N" = "n" := by decide
      rw [sameLetters, lower_lower, hn, beq_eq_false_iff_ne]
      exact Ne.symm hcount
    rw [if_neg hcount, if_neg hcount]
    simp [ExtraList.place?, countExtra, ExtraList.none, hlabel]

theorem parse_sortField_countExtra (raw : String) :
    SortField.parse countExtra raw = SortField.parse .none raw := by
  unfold SortField.parse
  simp only [target?_countExtra]

theorem eq_count_of_target? {word : String} {target : SortTarget}
    (h : SortField.target? .none word = some target) : target = .count := by
  unfold SortField.target? at h
  split at h
  · exact (Option.some.inj h).symm
  · cases h

/-- Filters may read the same slots beside the count as a column. -/
theorem readable_countExtra {raw : String} {f : SortField} (h : SortField.parse .none raw = .ok f) :
    RowFilter.readable countExtra f.target = RowFilter.readable .none f.target := by
  unfold SortField.parse at h
  dsimp only at h
  by_cases hkey : trim raw = "."
  · rw [if_pos hkey] at h
    obtain rfl := Except.ok.inj h
    rfl
  · rw [if_neg hkey] at h
    split at h
    · rename_i target htarget
      obtain rfl := Except.ok.inj h
      obtain rfl := eq_count_of_target? htarget
      rfl
    · cases h

/-- **Sorts and filters see no difference between the count as a column and no columns.** -/
theorem readsAlike_countExtra : ReadsAlike .none countExtra := by
  constructor
  · funext clause
    unfold parseSorts SortCondition.parse
    simp only [parse_sortField_countExtra]
  · funext token
    unfold RowFilter.parse?
    simp only [parse_sortField_countExtra, Option.bind_eq_bind]
    refine Option.bind_congr fun parts _ => Option.bind_congr fun field hfield => ?_
    rw [readable_countExtra (ok_of_toOption hfield)]

theorem parseSorts_ratio (extra : ExtraList) :
    parseSorts extra "o=%" = .ok [⟨⟨.count, .ratio, "%"⟩, false⟩] := by
  have hbody : sortBody? "o=%" = some ['%'] := by decide +kernel
  have hitems : ((commaParts ['%']).map trimmed).filter (!·.isEmpty) = [['%']] := by decide +kernel
  rw [parseSorts, hbody]
  dsimp only
  rw [hitems]
  rfl

/-! ## Pieces -/

/-- Whether a token stands for the whole of a command: a clause for extra columns or sorts, or a filter. -/
def isShared (extra : ExtraList) (token : String) : Bool :=
  isExtraClause token || isSortClause token || (RowFilter.parse? extra token).isSome

/-- The tokens that stand for the whole of a command, in order. -/
def sharedTokens (s : Scope) (tokens : List String) : List String :=
  tokens.filter (isShared (askedExtra s tokens))

/-- The tokens of the fragments of a command, with the slashes between them. -/
def fragmentTokens (s : Scope) (tokens : List String) : List String :=
  tokens.filter fun token => !isShared (askedExtra s tokens) token

/-- The tokens of the first fragment of a command. -/
def firstFragment (s : Scope) (tokens : List String) : List String :=
  (fragments (fragmentTokens s tokens)).1

/-- The clause for the count of rows, which a piece has in front if its command names no extra columns and the
first fragment no groups. -/
def countClause (s : Scope) (tokens : List String) : List String :=
  if tokens.any isExtraClause || (firstFragment s tokens).any isGroupClause then [] else ["x=n"]

/-- The tokens of the command that one fragment stands for behind the first one. -/
def piece (s : Scope) (tokens fragment : List String) : List String :=
  sharedTokens s tokens ++ countClause s tokens ++ (firstFragment s tokens ++ fragment)

/-- The commands that the fragments of a command stand for: the first one alone, and each further one behind
it. -/
def pieces (s : Scope) (tokens : List String) : List (List String) :=
  piece s tokens [] :: (fragments (fragmentTokens s tokens)).2.map (piece s tokens)

/-- The words of a piece: those of its command, with other extra columns and the tokens of one query. -/
def CommandWords.forPiece (w : CommandWords) (extra : ExtraList) (fragment : List String) :
    CommandWords :=
  ⟨extra, w.sorts, w.filters, w.first ++ fragment⟩

section Pieces

variable {s : Scope} {tokens fragment : List String}

/-! ### Telling shared tokens -/

theorem isShared_fragmentToken (extra : ExtraList) : isShared extra fragmentToken = false := by
  have hclauses : (isExtraClause fragmentToken || isSortClause fragmentToken) = false := by
    decide +kernel
  have hsplit : RowFilter.split? (trimmed fragmentToken.toList) = none := by decide +kernel
  have hfilter : RowFilter.parse? extra fragmentToken = none := by
    unfold RowFilter.parse?
    rw [hsplit]
    rfl
  rw [isShared, hclauses, hfilter]
  rfl

theorem fragmentToken_mem (h : fragmentToken ∈ tokens) : fragmentToken ∈ fragmentTokens s tokens :=
  List.mem_filter.mpr ⟨h, by rw [isShared_fragmentToken]; rfl⟩

theorem filter_shared (extra : ExtraList) (tokens : List String) :
    (tokens.filter (isShared extra)).filter isExtraClause = tokens.filter isExtraClause ∧
      sortClauses (tokens.filter (isShared extra)) = sortClauses tokens ∧
      unsorted (tokens.filter (isShared extra)) =
        (unsorted tokens).filter fun token => (RowFilter.parse? extra token).isSome := by
  simp only [sortClauses, unsorted, takeAll, List.filter_filter]
  refine ⟨List.filter_congr fun token _ => ?_, List.filter_congr fun token _ => ?_,
    List.filter_congr fun token _ => ?_⟩ <;>
  · rw [isShared]
    cases isExtraClause token <;> cases isSortClause token <;> simp

theorem filter_unsorted (extra : ExtraList) (tokens : List String) :
    ((unsorted tokens).filter fun token => !(RowFilter.parse? extra token).isSome) =
      tokens.filter fun token => !isShared extra token := by
  simp only [unsorted, takeAll, List.filter_filter]
  refine List.filter_congr fun token _ => ?_
  rw [isShared]
  cases isExtraClause token <;> cases isSortClause token <;> simp

/-- No clause is among tokens that are not shared. -/
theorem clauses_of_forall {extra : ExtraList} {own : List String}
    (h : ∀ token ∈ own, isShared extra token = false) :
    own.filter isExtraClause = [] ∧ sortClauses own = [] ∧ unsorted own = own ∧
      own.filterMap (RowFilter.parse? extra) = [] := by
  have hall : ∀ token ∈ own, isExtraClause token = false ∧ isSortClause token = false ∧
      RowFilter.parse? extra token = none := by
    intro token htoken
    have hshared := h token htoken
    rw [isShared, Bool.or_eq_false_iff, Bool.or_eq_false_iff, Option.isSome_eq_false_iff,
      Option.isNone_iff_eq_none, and_assoc] at hshared
    exact hshared
  have hextra : (takeAll isExtraClause own).2 = own :=
    List.filter_eq_self.mpr fun token htoken => by simp [(hall token htoken).1]
  refine ⟨List.filter_eq_nil_iff.mpr fun token htoken => by simp [(hall token htoken).1], ?_, ?_,
    List.filterMap_eq_nil_iff.mpr fun token htoken => (hall token htoken).2.2⟩
  · rw [sortClauses, hextra]
    exact List.filter_eq_nil_iff.mpr fun token htoken => by simp [(hall token htoken).2.1]
  · rw [unsorted, hextra]
    exact List.filter_eq_self.mpr fun token htoken => by simp [(hall token htoken).2.1]

theorem clauses_append (a b : List String) :
    sortClauses (a ++ b) = sortClauses a ++ sortClauses b ∧
      unsorted (a ++ b) = unsorted a ++ unsorted b := by
  simp [sortClauses, unsorted, takeAll]

theorem clauses_countClause (s : Scope) (tokens : List String) :
    (countClause s tokens).filter isExtraClause = countClause s tokens ∧
      sortClauses (countClause s tokens) = [] ∧ unsorted (countClause s tokens) = [] := by
  unfold countClause
  split
  · exact ⟨rfl, rfl, rfl⟩
  · decide +kernel

/-! ### The words of a piece -/

/-- The clauses of a piece are those of its command, with the one for the count of rows that stands for none;
the other tokens are its filters and the tokens of one query. -/
theorem clauses_piece (hfragment : ∀ token ∈ fragment, token ∈ fragmentTokens s tokens) :
    (piece s tokens fragment).filter isExtraClause =
        tokens.filter isExtraClause ++ countClause s tokens ∧
      sortClauses (piece s tokens fragment) = sortClauses tokens ∧
      unsorted (piece s tokens fragment) =
        ((unsorted tokens).filter fun token =>
          (RowFilter.parse? (askedExtra s tokens) token).isSome) ++
            (firstFragment s tokens ++ fragment) ∧
      (firstFragment s tokens ++ fragment).filterMap
        (RowFilter.parse? (askedExtra s tokens)) = [] := by
  have hown : ∀ token ∈ firstFragment s tokens ++ fragment,
      isShared (askedExtra s tokens) token = false := by
    have hleft : ∀ token ∈ fragmentTokens s tokens, isShared (askedExtra s tokens) token = false :=
      fun token htoken => by simpa using (List.mem_filter.mp htoken).2
    rw [List.forall_mem_append]
    exact ⟨fun token htoken => hleft token ((mem_of_mem_fragments _).1 token htoken).1,
      fun token htoken => hleft token (hfragment token htoken)⟩
  obtain ⟨hextra, hsorts, hrest⟩ := filter_shared (askedExtra s tokens) tokens
  obtain ⟨hextra', hsorts', hrest'⟩ := clauses_countClause s tokens
  obtain ⟨hextra'', hsorts'', hrest'', hfilters⟩ := clauses_of_forall hown
  unfold piece sharedTokens
  refine ⟨?_, ?_, ?_, hfilters⟩
  · rw [List.filter_append, List.filter_append, hextra, hextra', hextra'', List.append_nil]
  · rw [(clauses_append _ _).1, (clauses_append _ _).1, hsorts, hsorts', hsorts'', List.append_nil,
      List.append_nil]
  · rw [(clauses_append _ _).2, (clauses_append _ _).2, hrest, hrest', hrest'', List.append_nil]

/-- The filters of a piece are those of its command, and what is left are the tokens of one query. -/
theorem filters_piece (hfragment : ∀ token ∈ fragment, token ∈ fragmentTokens s tokens) :
    (unsorted (piece s tokens fragment)).filterMap (RowFilter.parse? (askedExtra s tokens)) =
        (unsorted tokens).filterMap (RowFilter.parse? (askedExtra s tokens)) ∧
      ((unsorted (piece s tokens fragment)).filter fun token =>
        !(RowFilter.parse? (askedExtra s tokens) token).isSome) =
          firstFragment s tokens ++ fragment := by
  obtain ⟨-, -, hrest, hfilters⟩ := clauses_piece hfragment
  have hshared : ((unsorted tokens).filter fun token =>
      (RowFilter.parse? (askedExtra s tokens) token).isSome).filter (fun token =>
        !(RowFilter.parse? (askedExtra s tokens) token).isSome) = [] :=
    List.filter_eq_nil_iff.mpr fun token htoken => by simp [(List.mem_filter.mp htoken).2]
  have hown : (firstFragment s tokens ++ fragment).filter (fun token =>
      !(RowFilter.parse? (askedExtra s tokens) token).isSome) = firstFragment s tokens ++ fragment :=
    List.filter_eq_self.mpr fun token htoken => by
      simp [List.filterMap_eq_nil_iff.mp hfilters token htoken]
  rw [hrest]
  constructor
  · rw [List.filterMap_append, filterMap_filter_isSome, hfilters, List.append_nil]
  · rw [List.filter_append, hshared, hown, List.nil_append]

theorem isEmpty_of_readExtra {clauses : List String} {asked : ExtraList} (hne : clauses ≠ [])
    (h : readExtra s clauses = .ok asked) : asked.isEmpty = false := by
  obtain ⟨clause, hclause, h⟩ := bind_eq_ok.mp h
  cases clause with
  | none => exact absurd (onlyClause_eq_ok hclause) hne
  | some clause => exact isEmpty_of_parse h

/-- **The extra columns of a piece are those that its split command shows**, and sorts and filters read them
as they read the ones that are asked for. -/
theorem exists_pieceExtra {asked : ExtraList}
    (h : readExtra s (tokens.filter isExtraClause) = .ok asked) :
    ∃ extra, readExtra s (tokens.filter isExtraClause ++ countClause s tokens) = .ok extra ∧
      ReadsAlike asked extra ∧ ratioExtra s (firstFragment s tokens) asked = .ok extra := by
  unfold countClause ratioExtra
  cases hclause : tokens.any isExtraClause with
  | true =>
    have hne : tokens.filter isExtraClause ≠ [] := by
      rw [Ne, filter_eq_nil_iff_any, hclause]
      decide
    refine ⟨asked, ?_, .refl asked, ?_⟩
    · simpa using h
    · simp [isEmpty_of_readExtra hne h]
  | false =>
    have hnil := filter_eq_nil_iff_any.mpr hclause
    rw [hnil] at h ⊢
    obtain rfl : ExtraList.none = asked := Except.ok.inj h
    cases hgroup : (firstFragment s tokens).any isGroupClause with
    | true => exact ⟨.none, rfl, .refl _, rfl⟩
    | false => exact ⟨countExtra, parse_countExtra s, readsAlike_countExtra, parse_countExtra s⟩

/-- **The words of a piece are those of its command**, with the extra columns that the command shows and the
tokens of one query. A command whose words cannot be read has pieces whose words cannot be read. -/
theorem read_piece (hslash : fragmentToken ∈ tokens)
    (hfragment : ∀ token ∈ fragment, token ∈ fragmentTokens s tokens) :
    CommandWords.read s (piece s tokens fragment) = CommandWords.read s tokens >>= fun w =>
      w.sharedExtra s >>= fun extra => .ok (w.forPiece extra fragment) := by
  obtain ⟨hextra, hsorts, -, -⟩ := clauses_piece hfragment
  obtain ⟨hfilters, hown⟩ := filters_piece hfragment
  rw [CommandWords.read_eq, CommandWords.read_eq, hextra, hsorts]
  cases hread : readExtra s (tokens.filter isExtraClause) with
  | error e =>
    have hclause : tokens.any isExtraClause = true := by
      by_contra hnone
      rw [filter_eq_nil_iff_any.mpr (Bool.eq_false_iff.mpr hnone)] at hread
      cases hread
    rw [countClause, hclause, Bool.true_or, if_pos rfl, List.append_nil, hread]
    rfl
  | ok asked =>
    obtain ⟨extra, hpiece, halike, hratio⟩ := exists_pieceExtra hread
    have hasked : askedExtra s tokens = asked := askedExtra_of_read hread
    have htokens : ((unsorted tokens).filter fun token => !(RowFilter.parse? asked token).isSome) =
        fragmentTokens s tokens := by
      rw [filter_unsorted, fragmentTokens, hasked]
    rw [hasked] at hfilters hown
    rw [hpiece]
    dsimp only [bind, Except.bind]
    rw [halike.sorts, halike.filters, hfilters, hown, htokens]
    cases (sortClauses tokens).mapM (parseSorts asked) with
    | error e => rfl
    | ok sorts =>
      have hothers : (fragments (fragmentTokens s tokens)).2.isEmpty = false := by
        rw [List.isEmpty_eq_false_iff, Ne, others_eq_nil_iff, not_not]
        exact fragmentToken_mem hslash
      have hextra : CommandWords.sharedExtra
          ⟨asked, sorts.flatten, (unsorted tokens).filterMap (RowFilter.parse? asked),
            fragmentTokens s tokens⟩ s = .ok extra := by
        rw [CommandWords.sharedExtra, CommandWords.others, hothers]
        exact hratio
      dsimp only
      rw [hextra]
      rfl

/-! ### The groups of pieces -/

theorem tokens_of_read {w : CommandWords} (h : CommandWords.read s tokens = .ok w) :
    w.tokens = fragmentTokens s tokens := by
  have hread := CommandWords.readFrom h
  rw [hread.tokens, filter_unsorted, fragmentTokens, hread.askedExtra_eq]

theorem exists_sharedSorts (w : CommandWords) : ∃ sorts, w.sharedSorts = .ok sorts := by
  unfold CommandWords.sharedSorts ratioSorts
  split
  · exact ⟨_, rfl⟩
  · split
    · exact ⟨_, parseSorts_ratio w.extra⟩
    · exact ⟨_, rfl⟩

/-- **A piece is parsed by building its query** with the extra columns that its command shows. -/
theorem parse_piece {c : Catalog} {context : Context} (defaultName : String)
    (hslash : fragmentToken ∈ tokens)
    (hfragment : fragment ∈ [] :: (fragments (fragmentTokens (defaultScope c context) tokens)).2) :
    QueryGroup.parse c context defaultName (piece (defaultScope c context) tokens fragment) =
      CommandWords.read (defaultScope c context) tokens >>= fun w =>
        w.sharedExtra (defaultScope c context) >>= fun extra =>
          (buildQuery c context defaultName extra (w.first ++ fragment)).map
            (QueryGroup.unsplit (piece (defaultScope c context) tokens fragment)
              (w.forPiece extra fragment)) := by
  have hmem : ∀ token ∈ fragment,
      token ∈ fragmentTokens (defaultScope c context) tokens ∧ token ≠ fragmentToken := by
    rcases List.mem_cons.mp hfragment with rfl | hother
    · simp
    · exact (mem_of_mem_fragments _).2 fragment hother
  have hread := read_piece hslash fun token htoken => (hmem token htoken).1
  cases hw : CommandWords.read (defaultScope c context) tokens with
  | error e =>
    rw [hw] at hread
    rw [QueryGroup.parse_eq, hread]
    rfl
  | ok w =>
    rw [hw] at hread
    dsimp only [bind, Except.bind] at hread ⊢
    cases hextra : w.sharedExtra (defaultScope c context) with
    | error e =>
      rw [hextra] at hread
      rw [QueryGroup.parse_eq, hread]
      rfl
    | ok extra =>
      rw [hextra] at hread
      have hfree : fragmentToken ∉ w.first ++ fragment := by
        rw [List.mem_append, not_or]
        exact ⟨fun hfirst => ((mem_of_mem_fragments w.tokens).1 _ hfirst).2 rfl,
          fun hother => (hmem _ hother).2 rfl⟩
      exact QueryGroup.parse_unsplit hread hfree

/-- A piece of a command whose words are read is parsed exactly if its query is built. -/
theorem parse_piece_of_read {c : Catalog} {context : Context} (defaultName : String)
    {w : CommandWords} {extra : ExtraList} (hslash : fragmentToken ∈ tokens)
    (hread : CommandWords.read (defaultScope c context) tokens = .ok w)
    (hextra : w.sharedExtra (defaultScope c context) = .ok extra)
    (hfragment : fragment ∈ [] :: w.others) :
    QueryGroup.parse c context defaultName (piece (defaultScope c context) tokens fragment) =
      (buildQuery c context defaultName extra (w.first ++ fragment)).map
        (QueryGroup.unsplit (piece (defaultScope c context) tokens fragment)
          (w.forPiece extra fragment)) := by
  rw [CommandWords.others, tokens_of_read hread] at hfragment
  rw [parse_piece defaultName hslash hfragment, hread]
  change w.sharedExtra (defaultScope c context) >>= _ = _
  rw [hextra]
  rfl

theorem pieces_of_read {w : CommandWords} (h : CommandWords.read s tokens = .ok w) :
    pieces s tokens = ([] :: w.others).map (piece s tokens) := by
  rw [pieces, CommandWords.others, tokens_of_read h, List.map_cons]

/-- **A split command is parsed if each of its pieces is**, with an aggregate query. -/
theorem exists_parse_of_pieces {c : Catalog} {context : Context} {defaultName : String}
    (hslash : fragmentToken ∈ tokens)
    (h : ∀ tokens' ∈ pieces (defaultScope c context) tokens, ∃ g,
      QueryGroup.parse c context defaultName tokens' = .ok g ∧ g.primary.isAggregate = true) :
    ∃ g, QueryGroup.parse c context defaultName tokens = .ok g := by
  obtain ⟨g₀, hfirst, -⟩ := h (piece (defaultScope c context) tokens []) List.mem_cons_self
  rw [parse_piece defaultName hslash List.mem_cons_self] at hfirst
  obtain ⟨w, hread, hfirst⟩ := bind_eq_ok.mp hfirst
  obtain ⟨extra, hextra, -⟩ := bind_eq_ok.mp hfirst
  have hbuilt : ∀ fragment ∈ [] :: w.others, ∃ q,
      buildQuery c context defaultName extra (w.first ++ fragment) = .ok q ∧
        q.isAggregate = true := by
    intro fragment hfragment
    rw [pieces_of_read hread] at h
    obtain ⟨g, hg, haggregate⟩ := h _ (List.mem_map_of_mem hfragment)
    rw [parse_piece_of_read defaultName hslash hread hextra hfragment] at hg
    obtain ⟨q, hq, rfl⟩ := map_eq_ok.mp hg
    exact ⟨q, hq, haggregate⟩
  obtain ⟨⟨primary, hprimary, haggregate⟩, hothers⟩ := List.forall_mem_cons.mp hbuilt
  rw [List.append_nil] at hprimary
  obtain ⟨queries, hqueries, hall⟩ := exists_mapM_eq_ok hothers
  obtain ⟨sorts, hsorts⟩ := exists_sharedSorts w
  exact ⟨_, parse_of_built hread hsorts hextra hprimary hqueries
    (List.forall_mem_cons.mpr ⟨haggregate, hall⟩)⟩

/-- **The pieces of a split command are parsed if it is**: they have its queries, all of them aggregate, its
filters and its extra columns. -/
theorem parse_pieces_of_parse {c : Catalog} {context : Context} {defaultName : String}
    {g : QueryGroup} (hslash : fragmentToken ∈ tokens)
    (h : QueryGroup.parse c context defaultName tokens = .ok g) :
    List.Forall₂ (fun tokens' q => ∃ g', QueryGroup.parse c context defaultName tokens' = .ok g' ∧
        g'.primary = q ∧ g'.primary.isAggregate = true ∧ g'.filters = g.filters ∧ g'.extra = g.extra)
      (pieces (defaultScope c context) tokens) g.queries := by
  obtain ⟨w, hread, hparsed⟩ := parse_eq_ok h
  have haggregate : ∀ q ∈ g.queries, q.isAggregate = true := by
    refine hparsed.aggregate fun hnone => ?_
    have hempty := List.forall₂_nil_right_iff.mp (hnone ▸ hparsed.others)
    rw [CommandWords.others, tokens_of_read hread, others_eq_nil_iff] at hempty
    exact hempty (fragmentToken_mem hslash)
  have hbuilt : List.Forall₂ (fun fragment q =>
      buildQuery c context defaultName g.extra (w.first ++ fragment) = .ok q)
      ([] :: w.others) g.queries :=
    .cons (by rw [List.append_nil]; exact hparsed.primary) hparsed.others
  -- each fragment is one of those of the command, and each query is aggregate
  have hall := (List.forall₂_and_left _ _).mpr ⟨haggregate,
    ((List.forall₂_and_left _ _).mpr ⟨fun _ hfragment => hfragment, hbuilt⟩).flip⟩
  rw [pieces_of_read hread]
  refine List.forall₂_map_left_iff.mpr (List.Forall₂.flip (hall.imp ?_))
  rintro q fragment ⟨haggregate, hfragment, hq⟩
  have hpiece := parse_piece_of_read defaultName hslash hread hparsed.extra hfragment
  rw [hq] at hpiece
  exact ⟨_, hpiece, rfl, haggregate, hparsed.filters.symm, rfl⟩

end Pieces

/-- **A split command is exactly its pieces.** It is parsed if and only if each of its pieces is, with an
aggregate query; and then the primary queries of the pieces are its queries in order, and the filters and the
extra columns of each are its own. -/
theorem split_command_is_its_pieces {c : Catalog} {context : Context} {defaultName : String}
    {tokens : List String} (hsplit : fragmentToken ∈ tokens) :
    ((∃ g, QueryGroup.parse c context defaultName tokens = .ok g) ↔
      ∀ tokens' ∈ pieces (defaultScope c context) tokens, ∃ g',
        QueryGroup.parse c context defaultName tokens' = .ok g' ∧ g'.primary.isAggregate = true) ∧
    ∀ g, QueryGroup.parse c context defaultName tokens = .ok g →
      List.Forall₂ (fun tokens' q => ∃ g',
          QueryGroup.parse c context defaultName tokens' = .ok g' ∧ g'.primary = q ∧
            g'.filters = g.filters ∧ g'.extra = g.extra)
        (pieces (defaultScope c context) tokens) g.queries := by
  refine ⟨⟨?_, exists_parse_of_pieces hsplit⟩, fun g hg => ?_⟩
  · rintro ⟨g, hg⟩
    refine forall_mem_of_forall₂ (parse_pieces_of_parse hsplit hg).flip ?_
    rintro q tokens' ⟨g', hg', -, haggregate, -⟩
    exact ⟨g', hg', haggregate⟩
  · refine (parse_pieces_of_parse hsplit hg).imp ?_
    rintro tokens' q ⟨g', hg', hprimary, -, hshared⟩
    exact ⟨g', hg', hprimary, hshared⟩

/-- Over the built-in catalog: the filter behind the slash stands in both pieces, which show the count of
rows, and the command has their queries. -/
theorem builtin_split_command : fragmentToken ∈ ["god=Trog", "/", "xl>5", "n>2"] ∧
    ∃ g, QueryGroup.parse .builtin .game "*" ["god=Trog", "/", "xl>5", "n>2"] = .ok g ∧
      List.Forall₂ (fun tokens' q => ∃ g',
          QueryGroup.parse .builtin .game "*" tokens' = .ok g' ∧ g'.primary = q ∧
            g'.filters = g.filters ∧ g'.extra = g.extra)
        [["n>2", "x=n", "god=Trog"], ["n>2", "x=n", "god=Trog", "xl>5"]] g.queries := by
  have hsplit : fragmentToken ∈ ["god=Trog", "/", "xl>5", "n>2"] := by decide
  have hpieces : pieces (defaultScope .builtin .game) ["god=Trog", "/", "xl>5", "n>2"] =
      [["n>2", "x=n", "god=Trog"], ["n>2", "x=n", "god=Trog", "xl>5"]] := by decide +kernel
  have htwo : (QueryGroup.parse .builtin .game "*" ["god=Trog", "/", "xl>5", "n>2"]).toOption.map
      (fun g => g.queries.length) = some 2 := by decide +kernel
  obtain ⟨g, hparse, -⟩ := exists_ok_of_map htwo
  have hqueries := (split_command_is_its_pieces hsplit).2 g hparse
  rw [hpieces] at hqueries
  exact ⟨hsplit, g, hparse, hqueries⟩

end GameLog
