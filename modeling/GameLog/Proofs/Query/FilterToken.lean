import GameLog.Proofs.Report.FilterParts

/-!
# Tokens that are filters

A token that is a filter may be split before and behind its operator, as blanks would split it. None of its
parts is a filter then, and none is a clause, a marker or a slash; put back together they are the token
again, which is none of these either.

Main statements:
* `Unclaimed.of_startsSlot`: what starts like a slot is no clause, no marker and no slash;
* `FilterToken.Parts.unclaimed`: and so is no part of a filter, however it is split;
* `FilterToken.Parts.parse?_of_mem`: no part of a filter that is split is a filter.
-/

namespace GameLog

open GameLog.Text

/-! ## What is no clause -/

/-- **A token is left for the queries** of a command, or for its filters: it is no clause, no marker and no
slash. -/
structure Unclaimed (token : String) : Prop where
  extra : isExtraClause token = false
  sort : isSortClause token = false
  group : isGroupClause token = false
  random : isRandomMarker token = false
  slash : token ≠ fragmentToken

theorem equals_mem_of_startsClause {letters cs : List Char} (h : startsClause letters cs = true) :
    '=' ∈ cs := by
  unfold startsClause at h
  split at h
  · cases h
  · rename_i c rest hcs
    have hhead := beq_iff_eq.mp (Bool.and_eq_true_iff.mp h).2
    have hrest := (List.dropWhile_suffix isBlank).mem (List.mem_of_mem_head? hhead)
    have hstart : '=' ∈ trimStart cs := by
      rw [hcs]
      exact List.mem_cons_of_mem _ hrest
    exact (List.dropWhile_suffix isBlank).mem hstart

theorem dropMinus_eq {cs : List Char} (h : cs.head? ≠ some '-') : dropMinus cs = cs := by
  unfold dropMinus
  split
  · exact absurd rfl h
  · rfl

/-- A clause has one of its letters in front and an equals sign behind that. -/
theorem exists_of_clauseBody? {letters cs body : List Char} (h : clauseBody? letters cs = some body) :
    ∃ c rest behind, cs = c :: rest ∧ letters.contains c = true ∧ trimStart rest = '=' :: behind := by
  unfold clauseBody? at h
  split at h
  · cases h
  · rename_i c rest
    split at h
    · rename_i behind hbehind
      split at h
      · rename_i hletter
        exact ⟨c, rest, behind, rfl, hletter, hbehind⟩
      · cases h
    · cases h

theorem map_toLower_of_isRandomMarker {token : String} (h : isRandomMarker token = true) :
    token.toList.map Char.toLower = "-random".toList.map Char.toLower := by
  have hsame := beq_iff_eq.mp h
  simpa [lower] using congrArg String.toList hsame

/-- A sort clause without blanks is one at its start. -/
theorem startsClause_of_isSortClause {token : String}
    (hblank : ∀ c ∈ token.toList, isBlank c = false) (h : isSortClause token = true) :
    startsClause ['o', 'O'] token.toList = true := by
  unfold isSortClause sortBody? at h
  rw [trimmed_of_forall hblank] at h
  obtain ⟨body, hbody⟩ := Option.isSome_iff_exists.mp h
  obtain ⟨c, rest, behind, hcs, hletter, hbehind⟩ :=
    exists_of_clauseBody? (Option.filter_eq_some_iff.mp hbody).1
  have hc : isBlank c = false := hblank c (by simp [hcs])
  have hstart : trimStart token.toList = c :: rest := by simp [trimStart, hcs, hc]
  rw [startsClause, hstart]
  dsimp only
  rw [hletter, hbehind]
  rfl

/-- **A text starts like a slot**: with a word character or a percent sign, and its next character is no
equals sign where it starts with another letter than that of the count. -/
def StartsSlot (cs : List Char) : Prop :=
  ∃ c rest, cs = c :: rest ∧ (isWord c = true ∨ c = '%') ∧
    (c ∈ ['n', 'N', '%'] ∨ ∃ d more, rest = d :: more ∧ isBlank d = false ∧ d ≠ '=')

theorem StartsSlot.append {cs : List Char} (h : StartsSlot cs) (more : List Char) :
    StartsSlot (cs ++ more) := by
  obtain ⟨c, rest, rfl, hc, hnext⟩ := h
  refine ⟨c, rest ++ more, rfl, hc, hnext.imp_right ?_⟩
  rintro ⟨d, behind, rfl, hd⟩
  exact ⟨d, behind ++ more, rfl, hd⟩

theorem StartsSlot.startsClause {cs letters : List Char} (h : StartsSlot cs)
    (hletters : ['n', 'N', '%'].all (fun c => !letters.contains c) = true) :
    startsClause letters cs = false := by
  obtain ⟨c, rest, rfl, hc, hnext⟩ := h
  have hblank : isBlank c = false := by
    rcases hc with hc | rfl
    · exact isBlank_of_isWord hc
    · decide
  have hstart : trimStart (c :: rest) = c :: rest := by simp [trimStart, hblank]
  rw [GameLog.startsClause, hstart]
  dsimp only
  rcases hnext with hcount | ⟨d, more, rfl, hd, hne⟩
  · have hother : letters.contains c = false := by simpa using List.all_eq_true.mp hletters c hcount
    rw [hother, Bool.false_and]
  · have hbehind : trimStart (d :: more) = d :: more := by simp [trimStart, hd]
    rw [hbehind]
    simp [hne]

/-- What starts like a slot is no clause, no marker and no slash. -/
theorem Unclaimed.of_startsSlot {token : String} (hblank : ∀ c ∈ token.toList, isBlank c = false)
    (h : StartsSlot token.toList) : Unclaimed token := by
  obtain ⟨c, rest, htoken, hc, -⟩ := id h
  have hne : ∀ d, isWord d = false → d ≠ '%' → c ≠ d := by
    rintro d hd hpercent rfl
    rw [hd] at hc
    exact hc.elim Bool.noConfusion hpercent
  constructor
  · exact h.startsClause (by decide)
  · have hclause : GameLog.startsClause ['o', 'O'] token.toList = false := h.startsClause (by decide)
    exact Bool.eq_false_iff.mpr fun hsort =>
      Bool.eq_false_iff.mp hclause (startsClause_of_isSortClause hblank hsort)
  · rw [isGroupClause, dropMinus_eq]
    · exact h.startsClause (by decide)
    · rw [htoken]
      exact fun hhead => hne '-' (by decide) (by decide) (Option.some.inj hhead)
  · refine Bool.eq_false_iff.mpr fun hmarker => ?_
    have hfolded := map_toLower_of_isRandomMarker hmarker
    rw [htoken, List.map_cons] at hfolded
    have hdash : c.toLower = '-' := (List.cons.inj hfolded).1
    rcases eq_or_of_toLower hdash with rfl | ⟨hfirst, -, hcode⟩
    · exact hne '-' (by decide) (by decide) rfl
    · have hdash : ('-' : Char).toNat = 45 := rfl
      omega
  · rintro rfl
    have hslash : ['/'] = c :: rest := htoken
    exact hne '/' (by decide) (by decide) (List.cons.inj hslash).1.symm

theorem isNumeralChar_toLower (c : Char) : isNumeralChar c.toLower = isNumeralChar c :=
  toLower_congr (by decide) c

/-- A numeral is no clause, no marker and no slash. -/
theorem Unclaimed.of_allNumeral {token : String} (hblank : ∀ c ∈ token.toList, isBlank c = false)
    (h : AllNumeral token.toList) : Unclaimed token := by
  have hnone : ∀ c ∈ token.toList, isNumeralChar c = false → False := by
    intro c hc hno
    rw [h c hc] at hno
    cases hno
  have hequals : '=' ∉ token.toList := fun hmem => hnone '=' hmem (by decide)
  constructor
  · exact Bool.eq_false_iff.mpr fun hclause => hequals (equals_mem_of_startsClause hclause)
  · exact Bool.eq_false_iff.mpr fun hclause =>
      hequals (equals_mem_of_startsClause (startsClause_of_isSortClause hblank hclause))
  · refine Bool.eq_false_iff.mpr fun hclause => hequals ?_
    have hmem := equals_mem_of_startsClause hclause
    unfold dropMinus at hmem
    split at hmem
    · rename_i cs hcs
      rw [hcs]
      exact List.mem_cons_of_mem _ hmem
    · exact hmem
  · refine Bool.eq_false_iff.mpr fun hmarker => ?_
    have hfolded := map_toLower_of_isRandomMarker hmarker
    have hletter : 'r' ∈ token.toList.map Char.toLower := by
      rw [hfolded]
      decide
    obtain ⟨c, hc, hr⟩ := List.mem_map.mp hletter
    refine hnone c hc ?_
    rw [← isNumeralChar_toLower, hr]
    decide
  · rintro rfl
    exact hnone '/' (by decide) (by decide)

theorem Unclaimed.of_operator {token : String} {op : FilterOp}
    (h : (token.toList, op) ∈ RowFilter.operators) : Unclaimed token := by
  have hall : ∀ entry ∈ RowFilter.operators, isExtraClause (String.ofList entry.1) = false ∧
      isSortClause (String.ofList entry.1) = false ∧
      isGroupClause (String.ofList entry.1) = false ∧
      isRandomMarker (String.ofList entry.1) = false ∧
      String.ofList entry.1 ≠ fragmentToken := by decide +kernel
  have htoken := hall _ h
  rw [String.ofList_toList] at htoken
  obtain ⟨hextra, hsort, hgroup, hrandom, hslash⟩ := htoken
  exact ⟨hextra, hsort, hgroup, hrandom, hslash⟩

/-! ## Tokens that are filters -/

/-- **A token is a filter** with these parts: it is recognised as the filter, and this is how it is
split. -/
structure FilterToken (extra : ExtraList) (t : SpelledTerm) (f : RowFilter) : Prop where
  recognised : RowFilter.parse? extra t.text = some f
  parts : RowFilter.split? t.text.toList = some (t.name.toList, f.op, t.value.toList)

namespace SlotWord

variable {cs : List Char}

theorem startsSlot (h : SlotWord cs) : StartsSlot cs := by
  rcases h with rfl | ⟨selector, hselector, word, rfl, hword⟩
  · exact ⟨'%', [], rfl, .inr rfl, .inl (by decide)⟩
  · have hstart : StartsSlot word := by
      rcases hword with rfl | rfl | ⟨function, inner, hne, hchars, rfl⟩
      · exact ⟨'n', [], rfl, .inl (by decide), .inl (by decide)⟩
      · exact ⟨'N', [], rfl, .inl (by decide), .inl (by decide)⟩
      · obtain ⟨c, more, rfl⟩ := List.exists_cons_of_ne_nil hne
        obtain ⟨hc, hmore⟩ := List.forall_mem_cons.mp hchars
        refine ⟨c, more ++ '(' :: inner ++ [')'], by simp, .inl hc, .inr ?_⟩
        cases more with
        | nil => exact ⟨'(', inner ++ [')'], rfl, by decide, by decide⟩
        | cons d more =>
          have hd := hmore d (by simp)
          refine ⟨d, more ++ '(' :: inner ++ [')'], rfl, isBlank_of_isWord hd, ?_⟩
          rintro rfl
          exact absurd hd (by decide)
    have hselected : ∀ selector ∈ slotSelectors, selector = [] ∨ StartsSlot selector := by
      intro selector hselector
      simp only [slotSelectors, List.mem_cons, List.not_mem_nil, or_false] at hselector
      rcases hselector with rfl | rfl | rfl | rfl
      · exact .inl rfl
      · exact .inr ⟨'d', ['e', 'n', '.'], by decide, by decide, .inr ⟨'e', ['n', '.'], by decide⟩⟩
      · exact .inr ⟨'n', ['u', 'm', '.'], by decide, by decide, .inl (by decide)⟩
      · exact .inr ⟨'%', ['.'], by decide, by decide, .inl (by decide)⟩
    rcases hselected selector hselector with rfl | hselector
    · exact hstart
    · exact hselector.append word

/-- The word of a slot ends in a bracket, or has no character of an operator. -/
theorem getLast?_eq_or (h : SlotWord cs) :
    cs.getLast? = some ')' ∨ ∀ c ∈ cs, c ∉ SpelledTerm.operatorChars := by
  rcases h with rfl | ⟨selector, hselector, word, rfl, hword⟩
  · exact .inr (List.forall_mem_singleton.mpr (by decide))
  · have hall : ∀ selector ∈ slotSelectors, ∀ word ∈ [['n'], ['N']],
        (selector ++ word).all (fun c => !SpelledTerm.operatorChars.contains c) = true := by decide
    have hselected : ∀ selector ∈ slotSelectors, ∀ word ∈ [['n'], ['N']], ∀ c ∈ selector ++ word,
        c ∉ SpelledTerm.operatorChars := fun selector hselector word hword c hc => by
      simpa using List.all_eq_true.mp (hall selector hselector word hword) c hc
    rcases hword with rfl | rfl | ⟨function, inner, -, -, rfl⟩
    · exact .inr (hselected selector hselector _ (by simp))
    · exact .inr (hselected selector hselector _ (by simp))
    · left
      simp [← List.append_assoc]

/-- The word of a slot has no operator at its ends. -/
theorem plainEnds {name : String} (h : SlotWord name.toList) : SpelledTerm.PlainEnds name := by
  obtain ⟨c, rest, hname, hc, -⟩ := h.startsSlot
  have hhead : c ∉ SpelledTerm.operatorChars := by
    intro hmem
    have hall : SpelledTerm.operatorChars.all (fun c => !isWord c && c != '%') = true := by
      decide +kernel
    obtain ⟨hword, hpercent⟩ : isWord c = false ∧ c ≠ '%' := by
      simpa using List.all_eq_true.mp hall c hmem
    rw [hword] at hc
    exact hc.elim Bool.noConfusion hpercent
  refine ⟨⟨c, by rw [hname]; rfl, hhead⟩, ?_⟩
  rcases h.getLast?_eq_or with hlast | hnone
  · exact ⟨')', hlast, by decide⟩
  · have hne : name.toList ≠ [] := by simp [hname]
    exact ⟨_, List.getLast?_eq_some_getLast hne, hnone _ (List.getLast_mem hne)⟩

end SlotWord

namespace FilterToken

variable {extra : ExtraList} {t : SpelledTerm} {f : RowFilter}

/-- What the parts of a filter are: the word of a slot, an operator and a numeral. -/
structure Parts (t : SpelledTerm) (f : RowFilter) : Prop where
  blank : ∀ c ∈ t.text.toList, isBlank c = false
  name : SlotWord t.name.toList
  operator : (t.operator.toList, f.op) ∈ RowFilter.operators
  value : AllNumeral t.value.toList
  ne : t.value.toList ≠ []

theorem toParts (h : FilterToken extra t f) (hcalled : extra.CalledByShown) : Parts t f := by
  obtain ⟨hblank, token, hmem, htext, -, hne⟩ := RowFilter.split?_eq_some h.parts
  obtain ⟨l, r, hsplit, hfield, hreadable, hvalue⟩ :=
    RowFilter.exists_split_of_parse? h.recognised
  rw [trimmed_of_forall hblank, h.parts] at hsplit
  obtain ⟨rfl, -, rfl⟩ : t.name.toList = l ∧ f.op = f.op ∧ t.value.toList = r := by
    simpa using hsplit
  have htoken : t.operator.toList = token := by
    simpa [SpelledTerm.text, String.toList_append] using htext
  have hname : ∀ c ∈ t.name.toList, isBlank c = false := fun c hc =>
    hblank c (by simp [SpelledTerm.text, String.toList_append, hc])
  have hnumeral := allNumeral_of_read? hvalue
  rw [String.toList_ofList] at hnumeral
  exact ⟨hblank, slotWord_of_parse hcalled hname hfield hreadable, htoken ▸ hmem, hnumeral, hne⟩

namespace Parts

variable (h : Parts t f)
include h

/-- No part has a blank. -/
theorem blank_of_mem {spelling : Spelling} {token : String} (htoken : token ∈ t.tokens spelling) :
    ∀ c ∈ token.toList, isBlank c = false := by
  have hblank := h.blank
  simp only [SpelledTerm.text, String.toList_append, List.mem_append, or_imp, forall_and] at hblank
  obtain ⟨⟨hname, hoperator⟩, hvalue⟩ := hblank
  rcases SpelledTerm.part_of_mem_tokens htoken with ⟨-, rfl⟩ | rfl | rfl | rfl | rfl
  · exact h.blank
  · rw [String.toList_append]
    exact List.forall_mem_append.mpr ⟨hname, hoperator⟩
  · exact hname
  · exact hoperator
  · exact hvalue

/-- **No part of a filter is a clause, a marker or a slash**, however it is split. -/
theorem unclaimed {spelling : Spelling} {token : String} (htoken : token ∈ t.tokens spelling) :
    Unclaimed token := by
  have hblank := h.blank_of_mem htoken
  have hstarts : ∀ more, StartsSlot (t.name ++ more).toList := by
    intro more
    rw [String.toList_append]
    exact h.name.startsSlot.append _
  rcases SpelledTerm.part_of_mem_tokens htoken with ⟨-, rfl⟩ | rfl | rfl | rfl | rfl
  · rw [SpelledTerm.text, String.append_assoc] at hblank ⊢
    exact .of_startsSlot hblank (hstarts _)
  · exact .of_startsSlot hblank (hstarts _)
  · exact .of_startsSlot hblank h.name.startsSlot
  · exact .of_operator h.operator
  · exact .of_allNumeral hblank h.value

theorem unclaimed_whole : ∀ token ∈ [t.text], Unclaimed token :=
  fun token htoken => h.unclaimed (show token ∈ t.tokens .whole from htoken)

theorem parse?_append_operator (extra : ExtraList) {before : String}
    (hblank : ∀ c ∈ (before ++ t.operator).toList, isBlank c = false) :
    RowFilter.parse? extra (before ++ t.operator) = none := by
  obtain ⟨hne, hchars⟩ := RowFilter.mem_of_mem_operators h.operator
  refine Option.eq_none_iff_forall_ne_some.mpr fun found hfound => ?_
  have hlast := (RowFilter.shape_of_parse? hblank hfound).2 (t.operator.toList.getLast hne) (by
    rw [String.toList_append, List.getLast?_append, List.getLast?_eq_some_getLast hne, Option.some_or])
  rw [RowFilter.isNumeralChar_of_operator (hchars _ (List.getLast_mem hne))] at hlast
  cases hlast

/-- **No part of a filter that is split is a filter.** -/
theorem parse?_of_mem (extra : ExtraList) {spelling : Spelling} (hsplit : spelling ≠ .whole)
    {token : String} (htoken : token ∈ t.tokens spelling) : RowFilter.parse? extra token = none := by
  have hblank := h.blank_of_mem htoken
  rcases SpelledTerm.part_of_mem_tokens htoken with ⟨hwhole, -⟩ | rfl | rfl | rfl | rfl
  · exact absurd hwhole hsplit
  · exact h.parse?_append_operator extra hblank
  · refine Option.eq_none_iff_forall_ne_some.mpr fun found hfound => ?_
    obtain ⟨⟨c, hc, hoperator⟩, hlast⟩ := RowFilter.shape_of_parse? hblank hfound
    rcases h.name.getLast?_eq_or with hbracket | hnone
    · exact absurd (hlast _ hbracket) (by decide)
    · exact hnone c hc hoperator
  · have hempty : "" ++ t.operator = t.operator := String.empty_append
    rw [← hempty] at hblank ⊢
    exact h.parse?_append_operator extra hblank
  · refine Option.eq_none_iff_forall_ne_some.mpr fun found hfound => ?_
    obtain ⟨⟨c, hc, hoperator⟩, -⟩ := RowFilter.shape_of_parse? hblank hfound
    have hnumeral := h.value c hc
    rw [RowFilter.isNumeralChar_of_operator hoperator] at hnumeral
    cases hnumeral

theorem isOperator : GameLog.isOperator t.operator = true := by
  have hall : ∀ entry ∈ RowFilter.operators, GameLog.isOperator (String.ofList entry.1) = true := by
    decide
  have hoperator := hall _ h.operator
  rwa [String.ofList_toList] at hoperator

theorem endsWithOperator_text : endsWithOperator t.text = false := by
  have hlast : t.text.toList.getLast? = some (t.value.toList.getLast h.ne) := by
    rw [SpelledTerm.text, String.toList_append, List.getLast?_append,
      List.getLast?_eq_some_getLast h.ne, Option.some_or]
  refine SpelledTerm.endsWithOperator_of_last hlast fun hmem => ?_
  have hnumeral := h.value _ (List.getLast_mem h.ne)
  rw [RowFilter.isNumeralChar_of_operator hmem] at hnumeral
  cases hnumeral

end Parts

end FilterToken

end GameLog
