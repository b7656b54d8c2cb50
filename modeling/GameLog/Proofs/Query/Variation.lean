import GameLog.Proofs.Query.Blank
import GameLog.Proofs.Query.Command
import GameLog.Proofs.Query.Shape

/-!
# Commands that differ in values

The tokens of two commands are variants of each other if they are the same but for actors and for the
values of terms (`Variants`). Whatever is taken out of the tokens step by step is then taken out of both at
the same places, and is the same in both unless it is an actor; the terms that are left are variants again.

Main statements:
* `Variants.eq_of_sort`: tokens that are no actors and no terms are the same in both;
* `CommandWords.ReadFrom.agree`: both commands have the same extra columns and variants of tokens;
* `wordsAgree_of_read`: the words of two queries agree but for the actor and the terms.
-/

namespace GameLog

open GameLog.Text

/-! ## Lists of related tokens -/

section Lists

variable {R : String → String → Prop} {sort : String → Bool} {l l' : List String}

theorem filter_eq_of_forall₂ (h : List.Forall₂ R l l')
    (hsort : ∀ t t', R t t' → sort t = true ∨ sort t' = true → t = t') :
    l.filter sort = l'.filter sort := by
  induction h with
  | nil => rfl
  | @cons t t' _ _ hR _ ih =>
    rw [List.filter_cons, List.filter_cons, ih]
    by_cases ht : sort t = true ∨ sort t' = true
    · rw [hsort t t' hR ht]
    · obtain ⟨hl, hr⟩ := not_or.mp ht
      rw [if_neg hl, if_neg hr]

theorem sort_eq_of_eq (hsort : ∀ t t', R t t' → sort t = true ∨ sort t' = true → t = t') :
    ∀ t t', R t t' → sort t = sort t' := by
  intro t t' hR
  by_cases ht : sort t = true ∨ sort t' = true
  · rw [hsort t t' hR ht]
  · obtain ⟨hl, hr⟩ := not_or.mp ht
    rw [Bool.eq_false_iff.mpr hl, Bool.eq_false_iff.mpr hr]

theorem forall₂_filter (h : List.Forall₂ R l l') (hsort : ∀ t t', R t t' → sort t = sort t') :
    List.Forall₂ R (l.filter sort) (l'.filter sort) :=
  List.rel_filter (fun t t' hR => Bool.eq_iff_iff.mp (hsort t t' hR)) h

theorem forall₂_filter_not (h : List.Forall₂ R l l')
    (hsort : ∀ t t', R t t' → sort t = sort t') :
    List.Forall₂ R (l.filter fun t => !sort t) (l'.filter fun t => !sort t) :=
  forall₂_filter h fun t t' hR => by rw [hsort t t' hR]

theorem any_eq_of_forall₂ (h : List.Forall₂ R l l') (hsort : ∀ t t', R t t' → sort t = sort t') :
    l.any sort = l'.any sort := by
  induction h with
  | nil => rfl
  | cons hR _ ih => rw [List.any_cons, List.any_cons, ih, hsort _ _ hR]

theorem find?_of_forall₂ (h : List.Forall₂ R l l') (hsort : ∀ t t', R t t' → sort t = sort t') :
    (l.find? sort = none ∧ l'.find? sort = none) ∨
      ∃ t t', l.find? sort = some t ∧ l'.find? sort = some t' ∧ R t t' := by
  induction h with
  | nil => exact .inl ⟨rfl, rfl⟩
  | @cons t t' _ _ hR _ ih =>
    rw [List.find?_cons, List.find?_cons, ← hsort t t' hR]
    cases sort t with
    | true => exact .inr ⟨t, t', rfl, rfl, hR⟩
    | false => exact ih

theorem forall₂_eraseP (h : List.Forall₂ R l l') (hsort : ∀ t t', R t t' → sort t = sort t') :
    List.Forall₂ R (l.eraseP sort) (l'.eraseP sort) := by
  induction h with
  | nil => exact .nil
  | @cons t t' _ _ hR hrest ih =>
    rw [List.eraseP_cons, List.eraseP_cons, ← hsort t t' hR]
    cases sort t with
    | true => exact hrest
    | false => exact .cons hR ih

/-- **The first token of a sort is the same** in two lists: where one of them has it, both have the same
token. -/
def SameFirst (sort : String → Bool) (l l' : List String) : Prop :=
  ∀ i, l.findIdx? sort = some i ∨ l'.findIdx? sort = some i → l[i]? = l'[i]?

theorem sameFirst_of_none (h : l.findIdx? sort = none) (h' : l'.findIdx? sort = none) :
    SameFirst sort l l' := by
  intro i hi
  rw [h, h', or_self] at hi
  cases hi

theorem SameFirst.tail {t t' : String} (h : SameFirst sort (t :: l) (t' :: l'))
    (ht : sort t = false) (ht' : sort t' = false) : SameFirst sort l l' := by
  intro i hi
  have hsame := h (i + 1)
  simp only [List.findIdx?_cons, ht, ht', Bool.false_eq_true, if_false, Option.map_eq_some_iff,
    Nat.add_right_cancel_iff, exists_eq_right, List.getElem?_cons_succ] at hsame
  exact hsame hi

/-- What the first token of a sort is taken out of is related still, and the token is the same. -/
theorem SameFirst.take (h : List.Forall₂ R l l') (hfirst : SameFirst sort l l') :
    l.find? sort = l'.find? sort ∧ List.Forall₂ R (l.eraseP sort) (l'.eraseP sort) := by
  induction h with
  | nil => exact ⟨rfl, .nil⟩
  | @cons t t' l l' hR hrest ih =>
    have hhead : sort t = true ∨ sort t' = true → t = t' := by
      intro ht
      have hzero : (t :: l).findIdx? sort = some 0 ∨ (t' :: l').findIdx? sort = some 0 :=
        ht.imp (fun ht => by rw [List.findIdx?_cons, if_pos ht])
          fun ht' => by rw [List.findIdx?_cons, if_pos ht']
      exact Option.some.inj (hfirst 0 hzero)
    rw [List.find?_cons, List.find?_cons, List.eraseP_cons, List.eraseP_cons]
    by_cases ht : sort t = true ∨ sort t' = true
    · obtain rfl := hhead ht
      rw [or_self] at ht
      rw [ht]
      exact ⟨rfl, hrest⟩
    · obtain ⟨hl, hr⟩ := not_or.mp ht
      have hl := Bool.eq_false_iff.mpr hl
      have hr := Bool.eq_false_iff.mpr hr
      obtain ⟨hfind, herase⟩ := ih (hfirst.tail hl hr)
      rw [hl, hr]
      exact ⟨hfind, .cons hR herase⟩

end Lists

/-! ## Tokens -/

/-- **Two tokens have the same form**: both are actors, or both are terms with the same name and the same
comparator, whatever their values are. -/
inductive SameForm : String → String → Prop
  | actor {t t' : String} (h : startsWith t "@" = true) (h' : startsWith t' "@" = true) :
      SameForm t t'
  | term {t t' name value value' : String} {comparator : Comparator}
      (h : termParts? t = some (name, comparator, value))
      (h' : termParts? t' = some (name, comparator, value')) : SameForm t t'

/-- Whether a token is taken for a clause, a filter or a row sort. -/
def isTaken (extra : ExtraList) (token : String) : Bool :=
  isExtraClause token || isSortClause token || (RowFilter.parse? extra token).isSome ||
    isGroupClause token || (rowSort? token).isSome

/-- **Two tokens are variants** of each other: they are equal, or they have the same form and neither is
taken for a clause, a filter or a row sort. -/
inductive Variants (extra extra' : ExtraList) : String → String → Prop
  | same (t : String) : Variants extra extra' t t
  | changed {t t' : String} (hform : SameForm t t') (h : isTaken extra t = false)
      (h' : isTaken extra' t' = false) : Variants extra extra' t t'

/-- A token starts with a letter, an underscore or the sign of an actor. -/
def StartsAsForm (token : String) : Prop :=
  ∃ c cs, token.toList = c :: cs ∧ 64 ≤ c.toNat ∧ c.toNat ≤ 122

theorem toNat_of_isNameStart {c : Char} (h : isNameStart c = true) :
    65 ≤ c.toNat ∧ c.toNat ≤ 122 := by
  change (decide ('A'.val ≤ c.val ∧ c.val ≤ 'Z'.val) ||
    (decide ('a'.val ≤ c.val) && decide (c.val ≤ 'z'.val)) || c == '_') = true at h
  simp only [Bool.or_eq_true, Bool.and_eq_true, beq_iff_eq, decide_eq_true_eq,
    UInt32.le_iff_toNat_le] at h
  change ((65 ≤ c.toNat ∧ c.toNat ≤ 90) ∨ (97 ≤ c.toNat ∧ c.toNat ≤ 122)) ∨ c = '_' at h
  rcases h with (h | h) | rfl
  · omega
  · omega
  · decide

/-- A term starts with a letter or an underscore. -/
theorem exists_start_of_termParts? {token : String} {parts : String × Comparator × String}
    (h : termParts? token = some parts) :
    ∃ c cs, token.toList = c :: cs ∧ 65 ≤ c.toNat ∧ c.toNat ≤ 122 := by
  unfold termParts? at h
  dsimp only at h
  split at h
  · split at h
    · rename_i hname
      have hname := (Bool.and_eq_true_iff.mp hname).1
      cases htoken : token.toList with
      | nil =>
        rw [htoken] at hname
        cases hname
      | cons c cs =>
        rw [htoken, List.takeWhile_cons] at hname
        split at hname
        · exact ⟨c, cs, rfl, toNat_of_isNameStart (Bool.and_eq_true_iff.mp hname).1⟩
        · cases hname
    · cases h
  · cases h

theorem exists_start_of_actor {token : String} (h : startsWith token "@" = true) :
    ∃ cs, token.toList = '@' :: cs := by
  unfold startsWith at h
  cases htoken : token.toList with
  | nil =>
    rw [htoken] at h
    cases h
  | cons c cs =>
    rw [htoken] at h
    have hc : '@' = c := beq_iff_eq.mp (Bool.and_eq_true_iff.mp h).1
    exact ⟨cs, by rw [hc]⟩

/-- A term is no actor. -/
theorem isActorToken_of_termParts? {token : String} {parts : String × Comparator × String}
    (h : termParts? token = some parts) : isActorToken token = false := by
  obtain ⟨c, cs, htoken, hlow, -⟩ := exists_start_of_termParts? h
  rw [isActorToken, Bool.or_eq_false_iff, beq_eq_false_iff_ne]
  constructor
  · rintro rfl
    obtain ⟨rfl, -⟩ := List.cons.inj (htoken.symm.trans (by decide : "*".toList = ['*']))
    exact absurd hlow (by decide)
  · rw [Bool.eq_false_iff]
    intro hstarts
    obtain ⟨cs', hcs'⟩ := exists_start_of_actor hstarts
    obtain ⟨rfl, -⟩ := List.cons.inj (htoken.symm.trans hcs')
    exact absurd hlow (by decide)

theorem SameForm.starts {t t' : String} (h : SameForm t t') : StartsAsForm t ∧ StartsAsForm t' := by
  cases h with
  | actor h h' =>
    obtain ⟨cs, hcs⟩ := exists_start_of_actor h
    obtain ⟨cs', hcs'⟩ := exists_start_of_actor h'
    exact ⟨⟨'@', cs, hcs, by decide⟩, ⟨'@', cs', hcs', by decide⟩⟩
  | term h h' =>
    obtain ⟨c, cs, hcs, hlow, hhigh⟩ := exists_start_of_termParts? h
    obtain ⟨c', cs', hcs', hlow', hhigh'⟩ := exists_start_of_termParts? h'
    exact ⟨⟨c, cs, hcs, by omega, hhigh⟩, ⟨c', cs', hcs', by omega, hhigh'⟩⟩

namespace StartsAsForm

variable {token : String}

theorem ne {word : String} {c : Char} {cs : List Char} (h : StartsAsForm token)
    (hword : word.toList = c :: cs) (hc : c.toNat < 64 ∨ 122 < c.toNat) : token ≠ word := by
  rintro rfl
  obtain ⟨c', cs', htoken, hlow, hhigh⟩ := h
  rw [hword] at htoken
  obtain ⟨rfl, -⟩ := List.cons.inj htoken
  omega

theorem isIndex_eq_false (h : StartsAsForm token) : isIndex token = false := by
  obtain ⟨c, cs, htoken, hlow, hhigh⟩ := h
  have hdigit : isDigit c = false := by
    refine CharSet.not_mem_of_disjoint (a := [(64, 122)]) (by decide) ?_
    simp [CharSet.mem, hlow, hhigh]
  unfold isIndex
  rw [htoken]
  dsimp only
  split
  · rename_i heq
    obtain ⟨rfl, -⟩ := List.cons.inj heq
    exact absurd hlow (by decide)
  · rename_i heq
    obtain ⟨rfl, -⟩ := List.cons.inj heq
    exact absurd hlow (by decide)
  · simp [hdigit]

theorem isRandomMarker_eq_false (h : StartsAsForm token) : isRandomMarker token = false := by
  obtain ⟨c, cs, htoken, hlow, hhigh⟩ := h
  rw [isRandomMarker, sameLetters, beq_eq_false_iff_ne]
  intro hsame
  have hfolded : token.toList.map Char.toLower = "-random".toList.map Char.toLower := by
    simpa [lower] using congrArg String.toList hsame
  rw [htoken, List.map_cons] at hfolded
  have hdash : c.toLower = '-' := (List.cons.inj hfolded).1
  have hnat : ('-' : Char).toNat = 45 := rfl
  rcases eq_or_of_toLower hdash with rfl | ⟨-, -, hc⟩
  · omega
  · omega

end StartsAsForm

namespace Variants

variable {extra extra' : ExtraList} {t t' : String}

/-- **Tokens of a sort that no actor and no term is of are the same.** -/
theorem eq_of_sort {sort : String → Bool} (h : Variants extra extra' t t')
    (hsort : ∀ token, StartsAsForm token → sort token = false)
    (ht : sort t = true ∨ sort t' = true) : t = t' := by
  cases h with
  | same => rfl
  | changed hform =>
    obtain ⟨hstarts, hstarts'⟩ := hform.starts
    rw [hsort t hstarts, hsort t' hstarts'] at ht
    rcases ht with ht | ht <;> cases ht

theorem eq_word_iff {word : String} {c : Char} {cs : List Char} (h : Variants extra extra' t t')
    (hword : word.toList = c :: cs) (hc : c.toNat < 64 ∨ 122 < c.toNat) : t = word ↔ t' = word := by
  cases h with
  | same => rfl
  | changed hform =>
    obtain ⟨hstarts, hstarts'⟩ := hform.starts
    exact iff_of_false (hstarts.ne hword hc) (hstarts'.ne hword hc)

theorem eq_of_isTaken (h : Variants extra extra' t t')
    (ht : isTaken extra t = true ∨ isTaken extra' t' = true) : t = t' := by
  cases h with
  | same => rfl
  | changed _ hl hr =>
    rw [hl, hr] at ht
    rcases ht with ht | ht <;> cases ht

theorem isActorToken_eq (h : Variants extra extra' t t') : isActorToken t = isActorToken t' := by
  cases h with
  | same => rfl
  | changed hform =>
    cases hform with
    | actor h h' => rw [isActorToken, isActorToken, h, h', Bool.or_true, Bool.or_true]
    | term h h' => rw [isActorToken_of_termParts? h, isActorToken_of_termParts? h']

end Variants

/-! ## Whole commands -/

/-- **A relation of tokens keeps to variants**: related tokens are variants beside these extra columns. -/
def KeepsTo (extra extra' : ExtraList) (R : String → String → Prop) : Prop :=
  ∀ t t', R t t' → Variants extra extra' t t'

section Commands

variable {extra extra' : ExtraList} {R : String → String → Prop} {tokens tokens' : List String}

theorem KeepsTo.eq_of_taken {sort : String → Bool} (hR : KeepsTo extra extra' R)
    (hsort : ∀ token, sort token = true → ∀ extra, isTaken extra token = true) :
    ∀ t t', R t t' → sort t = true ∨ sort t' = true → t = t' :=
  fun t t' h ht => (hR t t' h).eq_of_isTaken (ht.imp (hsort t · extra) (hsort t' · extra'))

theorem isTaken_of_isExtraClause {token : String} (h : isExtraClause token = true)
    (extra : ExtraList) : isTaken extra token = true := by
  simp [isTaken, h]

theorem isTaken_of_isSortClause {token : String} (h : isSortClause token = true)
    (extra : ExtraList) : isTaken extra token = true := by
  simp [isTaken, h]

theorem isTaken_of_isGroupClause {token : String} (h : isGroupClause token = true)
    (extra : ExtraList) : isTaken extra token = true := by
  simp [isTaken, h]

theorem isTaken_of_rowSort? {token : String} (h : (rowSort? token).isSome = true)
    (extra : ExtraList) : isTaken extra token = true := by
  simp [isTaken, h]

theorem forall₂_unsorted (hR : KeepsTo extra extra' R) (h : List.Forall₂ R tokens tokens') :
    List.Forall₂ R (unsorted tokens) (unsorted tokens') :=
  have hextra := hR.eq_of_taken fun _ ht => isTaken_of_isExtraClause ht
  have hsort := hR.eq_of_taken fun _ ht => isTaken_of_isSortClause ht
  forall₂_filter_not (forall₂_filter_not h (sort_eq_of_eq hextra)) (sort_eq_of_eq hsort)

/-- **Both commands have the same extra columns**, and what is left of their tokens is related. -/
theorem CommandWords.ReadFrom.agree {s : Scope} {w w' : CommandWords}
    (hw : w.ReadFrom s tokens) (hw' : w'.ReadFrom s tokens') (hR : KeepsTo w.extra w'.extra R)
    (h : List.Forall₂ R tokens tokens') :
    w.extra = w'.extra ∧ List.Forall₂ R w.tokens w'.tokens := by
  have hextra : w.extra = w'.extra := by
    have hclauses := filter_eq_of_forall₂ h
      (hR.eq_of_taken fun _ ht => isTaken_of_isExtraClause ht)
    exact Except.ok.inj (hw.extra.symm.trans ((congrArg (readExtra s) hclauses).trans hw'.extra))
  refine ⟨hextra, ?_⟩
  rw [hw.tokens, hw'.tokens, ← hextra]
  rw [← hextra] at hR
  refine forall₂_filter_not (forall₂_unsorted hR h) (sort_eq_of_eq fun t t' ht hfilter => ?_)
  refine (hR t t' ht).eq_of_isTaken (hfilter.imp ?_ ?_)
  · intro hsome
    simp [isTaken, hsome]
  · intro hsome
    simp [isTaken, hsome]

/-- Fragments of related tokens are related. -/
theorem forall₂_fragments (hR : KeepsTo extra extra' R) (h : List.Forall₂ R tokens tokens') :
    List.Forall₂ R (fragments tokens).1 (fragments tokens').1 ∧
      List.Forall₂ (List.Forall₂ R) (fragments tokens).2 (fragments tokens').2 := by
  induction h with
  | nil => exact ⟨.nil, .nil⟩
  | @cons t t' rest rest' ht _ ih =>
    obtain ⟨hfirst, hothers⟩ := ih
    have hslash := (hR t t' ht).eq_word_iff (by decide : fragmentToken.toList = ['/']) (by decide)
    unfold fragments
    dsimp only
    by_cases hfragment : t = fragmentToken
    · rw [if_pos hfragment, if_pos (hslash.mp hfragment)]
      exact ⟨.nil, .cons hfirst hothers⟩
    · rw [if_neg hfragment, if_neg (hslash.not.mp hfragment)]
      exact ⟨.cons ht hfirst, hothers⟩

theorem forall₂_queryTokens {w w' : CommandWords} (hR : KeepsTo extra extra' R)
    (h : List.Forall₂ R w.tokens w'.tokens) :
    List.Forall₂ (List.Forall₂ R) w.queryTokens w'.queryTokens := by
  obtain ⟨hfirst, hothers⟩ := forall₂_fragments hR h
  refine .cons hfirst (List.forall₂_map_left_iff.mpr (List.forall₂_map_right_iff.mpr ?_))
  exact hothers.imp fun fragment fragment' hfragment => List.rel_append hfirst hfragment

end Commands

/-! ## Queries -/

/-- The tokens of a query among which its game type is looked for. -/
def gameTokens (tokens : List String) : List String :=
  ((bareTokens tokens).eraseP isActorToken).eraseP isIndex

/-- The tokens of a query among which its row sorts are looked for. -/
def rowSortTokens (c : Catalog) (tokens : List String) : List String :=
  (gameTokens tokens).eraseP fun token => (c.gameType? token).isSome

/-- The row sorts of a query are those of its tokens without actor, index and game type. -/
theorem QueryWords.rowSorts_of_read {c : Catalog} {context : Context} {defaultName : String}
    {tokens : List String} {w : QueryWords}
    (h : QueryWords.read c context defaultName tokens = .ok w) :
    w.rowSorts = (rowSortTokens c tokens).filter fun token => (rowSort? token).isSome := by
  obtain ⟨clause, -, h⟩ := bind_eq_ok.mp h
  obtain ⟨group, -, h⟩ := bind_eq_ok.mp h
  obtain ⟨actor, -, h⟩ := bind_eq_ok.mp h
  simp only [takeFirst] at h
  split at h
  · obtain ⟨index, -, h⟩ := bind_eq_ok.mp h
    obtain rfl := Except.ok.inj h
    rfl
  · obtain rfl := Except.ok.inj h
    rfl

/-- **A token stands by itself**: it is no operator, and it does not end in one. -/
def StandsAlone (token : String) : Prop := isOperator token = false ∧ endsWithOperator token = false

/-- Tokens that stand by themselves stay as they are. -/
theorem rejoin_eq_self {tokens : List String} (h : ∀ token ∈ tokens, StandsAlone token) :
    rejoin tokens = tokens := by
  suffices hdone : ∀ done, rejoinBehind done tokens = done.reverse ++ tokens from hdone []
  induction tokens with
  | nil =>
    intro done
    simp [rejoinBehind]
  | cons token rest ih =>
    intro done
    obtain ⟨⟨hop, hends⟩, hrest⟩ := List.forall_mem_cons.mp h
    cases rest with
    | nil => simp [rejoinBehind_last hop]
    | cons next rest =>
      rw [rejoinBehind_word hop, hends, if_neg Bool.false_ne_true, ih hrest]
      simp

/-- How the actors of two queries may differ: both are named, by the default names or by tokens that are
related. -/
inductive ActorsAgree (R : String → String → Prop) (defaultName defaultName' : String) :
    Actor → Actor → Prop
  | same (actor : Actor) : ActorsAgree R defaultName defaultName' actor actor
  | default : ActorsAgree R defaultName defaultName' (.named defaultName) (.named defaultName')
  | named {t t' name name' : String} (h : R t t')
      (hread : Actor.read defaultName (some t) = .ok (.named name))
      (hread' : Actor.read defaultName' (some t') = .ok (.named name')) :
      ActorsAgree R defaultName defaultName' (.named name) (.named name')

/-- **A name is that of an actor**: it stands for somebody. -/
def NamesActor (name : String) : Prop := name ≠ "" ∧ name ≠ "*"

theorem ofDefault_of_namesActor {name : String} (h : NamesActor name) :
    Actor.ofDefault name = .named name := by
  simp [Actor.ofDefault, h.1, h.2]

/-- A token of an actor that is not anyone names somebody. -/
theorem exists_named_of_read {defaultName token : String} {actor : Actor}
    (hstarts : startsWith token "@" = true)
    (h : Actor.read defaultName (some token) = .ok actor) : ∃ name, actor = .named name := by
  have hne : token ≠ "*" := by
    rintro rfl
    exact absurd hstarts (by decide)
  unfold Actor.read at h
  dsimp only at h
  rw [if_neg hne] at h
  split at h
  · cases h
  · exact ⟨_, (Except.ok.inj h).symm⟩

theorem actorsAgree_of_read {extra extra' : ExtraList} {R : String → String → Prop}
    {defaultName defaultName' : String} {tokens tokens' : List String} {actor actor' : Actor}
    (hR : KeepsTo extra extra' R)
    (hdefault : defaultName = defaultName' ∨ NamesActor defaultName ∧ NamesActor defaultName')
    (h : List.Forall₂ R tokens tokens')
    (hactor : Actor.read defaultName (tokens.find? isActorToken) = .ok actor)
    (hactor' : Actor.read defaultName' (tokens'.find? isActorToken) = .ok actor') :
    ActorsAgree R defaultName defaultName' actor actor' := by
  rcases find?_of_forall₂ h fun t t' ht => (hR t t' ht).isActorToken_eq with
    ⟨hnone, hnone'⟩ | ⟨t, t', hfound, hfound', ht⟩
  · rw [hnone] at hactor
    rw [hnone'] at hactor'
    obtain rfl := Except.ok.inj hactor
    obtain rfl := Except.ok.inj hactor'
    rcases hdefault with rfl | ⟨hname, hname'⟩
    · exact .same _
    · rw [ofDefault_of_namesActor hname, ofDefault_of_namesActor hname']
      exact .default
  · rw [hfound] at hactor
    rw [hfound'] at hactor'
    cases hR t t' ht with
    | same =>
      have hread : Actor.read defaultName (some t) = Actor.read defaultName' (some t) := rfl
      obtain rfl := Except.ok.inj (hactor.symm.trans (hread.trans hactor'))
      exact .same _
    | changed hform =>
      cases hform with
      | actor hstarts hstarts' =>
        obtain ⟨name, rfl⟩ := exists_named_of_read hstarts hactor
        obtain ⟨name', rfl⟩ := exists_named_of_read hstarts' hactor'
        exact .named ht hactor hactor'
      | term hparts =>
        have hsome := List.find?_some hfound
        rw [isActorToken_of_termParts? hparts] at hsome
        cases hsome

/-- **The words of two queries agree** but for the actor and the terms. -/
structure WordsAgree (R : String → String → Prop) (defaultName defaultName' : String)
    (w w' : QueryWords) : Prop where
  group : w.group = w'.group
  game : w.game = w'.game
  rowSorts : w.rowSorts = w'.rowSorts
  actor : ActorsAgree R defaultName defaultName' w.actor w'.actor
  terms : List.Forall₂ R w.terms w'.terms

theorem forall₂_unclaused {extra extra' : ExtraList} {R : String → String → Prop}
    {tokens tokens' : List String} (hR : KeepsTo extra extra' R)
    (h : List.Forall₂ R tokens tokens') :
    List.Forall₂ R (unclaused tokens) (unclaused tokens') := by
  have hmarker : ∀ t t', R t t' → isRandomMarker t = isRandomMarker t' := sort_eq_of_eq
    fun t t' ht => (hR t t' ht).eq_of_sort fun token hstarts => hstarts.isRandomMarker_eq_false
  have hgroup := hR.eq_of_taken fun _ ht => isTaken_of_isGroupClause ht
  exact forall₂_filter_not (forall₂_filter_not h hmarker) (sort_eq_of_eq hgroup)

theorem bareTokens_eq {tokens : List String} (h : ∀ token ∈ tokens, StandsAlone token) :
    bareTokens tokens = unclaused tokens :=
  rejoin_eq_self fun token htoken =>
    h token (List.mem_filter.mp (List.mem_filter.mp htoken).1).1

/-- **The words of queries that are read from related tokens agree**, if their game types are taken from
equal tokens. -/
theorem wordsAgree_of_read {extra extra' : ExtraList} {R : String → String → Prop} {c : Catalog}
    {context : Context} {defaultName defaultName' : String} {tokens tokens' : List String}
    {w w' : QueryWords} (hR : KeepsTo extra extra' R)
    (hdefault : defaultName = defaultName' ∨ NamesActor defaultName ∧ NamesActor defaultName')
    (h : List.Forall₂ R tokens tokens') (halone : ∀ token ∈ tokens, StandsAlone token)
    (halone' : ∀ token ∈ tokens', StandsAlone token)
    (hgame : SameFirst (fun token => (c.gameType? token).isSome) (gameTokens tokens)
      (gameTokens tokens'))
    (hw : QueryWords.read c context defaultName tokens = .ok w)
    (hw' : QueryWords.read c context defaultName' tokens' = .ok w') :
    WordsAgree R defaultName defaultName' w w' := by
  have hread := QueryWords.readFrom hw
  have hread' := QueryWords.readFrom hw'
  have hbare : List.Forall₂ R (bareTokens tokens) (bareTokens tokens') := by
    rw [bareTokens_eq halone, bareTokens_eq halone']
    exact forall₂_unclaused hR h
  have hindex : ∀ t t', R t t' → isIndex t = isIndex t' := sort_eq_of_eq
    fun t t' ht => (hR t t' ht).eq_of_sort fun token hstarts => hstarts.isIndex_eq_false
  have hrest : List.Forall₂ R (gameTokens tokens) (gameTokens tokens') :=
    forall₂_eraseP (forall₂_eraseP hbare fun t t' ht => (hR t t' ht).isActorToken_eq) hindex
  obtain ⟨htype, hterms⟩ := hgame.take hrest
  have hsorts := hR.eq_of_taken fun _ ht => isTaken_of_rowSort? ht
  constructor
  · have hclauses : (takeAll isGroupClause (takeAll isRandomMarker tokens).2).1 =
        (takeAll isGroupClause (takeAll isRandomMarker tokens').2).1 := by
      rw [groupClauses_eq, groupClauses_eq]
      exact filter_eq_of_forall₂ h (hR.eq_of_taken fun _ ht => isTaken_of_isGroupClause ht)
    have hgroup := hread.group
    rw [hclauses] at hgroup
    exact Except.ok.inj (hgroup.symm.trans hread'.group)
  · rw [hread.game, hread'.game]
    exact congrArg (fun found => (found.bind c.gameType?).getD c.defaultGame) htype
  · rw [QueryWords.rowSorts_of_read hw, QueryWords.rowSorts_of_read hw']
    exact filter_eq_of_forall₂ hterms hsorts
  · exact actorsAgree_of_read hR hdefault hbare hread.actor hread'.actor
  · rw [hread.terms, hread'.terms]
    exact forall₂_filter_not hterms (sort_eq_of_eq hsorts)

end GameLog
