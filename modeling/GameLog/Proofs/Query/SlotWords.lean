import GameLog.Proofs.Report.FilterParts

/-!
# Words that name slots

Sorts and filters name a slot by a word, which may have a selector in front of it: `den.`, `num.` or
`%.` for a part of a ratio. A word that is made like a call has no selector of its own, so that the one
in front of it is split off whole, by sorts at the first point and by filters before the operator. Both
then look the same word up.

Main statements:
* `parseSorts_selected`, `parse?_selected`: what a sort and a filter read of a word with a selector;
* `slotNamed_iff`: both name what the labels of the columns say;
* `SlotNamed.blank`: no word with a blank in it names a slot.
-/

namespace GameLog

open GameLog.Text

/-! ## Words with a selector -/

/-- The selectors in front of the words of slots, and the parts that they ask for. -/
def selectors : List (List Char × RatioPart) :=
  [([], .numerator), (['d', 'e', 'n', '.'], .denominator), (['n', 'u', 'm', '.'], .numerator),
    (['%', '.'], .ratio)]

/-- **A word may name a slot**: it is made of the characters of calls, and has letters in front with
nothing but a bracket behind them. -/
structure SlotName (word : List Char) : Prop where
  chars : ∀ c ∈ word, isNameChar c = true ∨ c = '(' ∨ c = ')'
  shape : ∃ letters rest, word = letters ++ rest ∧ letters ≠ [] ∧
    (∀ c ∈ letters, isWord c = true) ∧ ∀ c, rest.head? = some c → c = '('

/-- No point is the first character of a text that is not a letter of it. -/
def Unselected (cs : List Char) : Prop :=
  (∃ c, cs.head? = some c ∧ isWord c = true) ∧ ∀ rest, cs.dropWhile isWord ≠ '.' :: rest

section Words

variable {cs word selector : List Char} {part : RatioPart}

theorem Unselected.ne_append (h : Unselected cs) {letters rest : List Char}
    (hletters : letters.all isWord = true) : cs ≠ letters ++ '.' :: rest := by
  rintro rfl
  refine h.2 rest ?_
  rw [List.dropWhile_append_of_pos (List.all_eq_true.mp hletters)]
  exact List.dropWhile_cons_of_neg (by decide)

theorem Unselected.ne_percent (h : Unselected cs) (rest : List Char) : cs ≠ '%' :: rest := by
  rintro rfl
  obtain ⟨c, hc, hword⟩ := h.1
  obtain rfl := Option.some.inj hc
  exact absurd hword (by decide)

/-- A text without a selector asks for the numerator of the whole. -/
theorem Unselected.takePart_eq (h : Unselected cs) :
    SortField.takePart cs = (.numerator, cs) := by
  unfold SortField.takePart
  split
  · rename_i selector rest hsplit
    have hcs := (splitFirst_eq hsplit).1
    have hselector : ∀ letters, letters.all isWord = true → selector ≠ letters := by
      rintro letters hletters rfl
      exact h.ne_append hletters hcs
    have hpercent : selector ≠ ['%'] := by
      rintro rfl
      exact h.ne_percent _ hcs
    rw [if_neg (hselector _ (by decide)), if_neg (hselector _ (by decide)), if_neg hpercent]
  · rfl

theorem Unselected.selectorLength_eq (h : Unselected cs) : RowFilter.selectorLength cs = 0 := by
  have hletters : ∀ letters, letters.all isWord = true →
      (letters ++ ['.']).isPrefixOf cs = false := by
    intro letters hletters
    refine Bool.eq_false_iff.mpr fun hpre => ?_
    obtain ⟨rest, rfl⟩ := List.isPrefixOf_iff_prefix.mp hpre
    exact h.ne_append hletters (List.append_assoc ..)
  have hpercent : ['%', '.'].isPrefixOf cs = false := by
    refine Bool.eq_false_iff.mpr fun hpre => ?_
    obtain ⟨rest, rfl⟩ := List.isPrefixOf_iff_prefix.mp hpre
    exact h.ne_percent _ rfl
  have hden := hletters ['d', 'e', 'n'] (by decide)
  have hnum := hletters ['n', 'u', 'm'] (by decide)
  rw [List.cons_append, List.cons_append, List.cons_append, List.nil_append] at hden hnum
  rw [RowFilter.selectorLength, hden, hnum, hpercent]
  rfl

namespace SlotName

variable (h : SlotName word)
include h

theorem unselected_append {behind : List Char}
    (hbehind : ∀ c, behind.head? = some c → isWord c = false ∧ c ≠ '.') :
    Unselected (word ++ behind) := by
  obtain ⟨letters, rest, rfl, hne, hletters, hrest⟩ := h.shape
  have hnext : ∀ c, (rest ++ behind).head? = some c → isWord c = false ∧ c ≠ '.' := by
    intro c hc
    cases rest with
    | nil => exact hbehind c hc
    | cons d ds =>
      obtain rfl := Option.some.inj hc
      obtain rfl := hrest d rfl
      decide
  constructor
  · obtain ⟨c, more, rfl⟩ := List.exists_cons_of_ne_nil hne
    exact ⟨c, rfl, hletters c (by simp)⟩
  · intro more hmore
    rw [List.append_assoc, List.dropWhile_append_of_pos hletters] at hmore
    cases hcs : rest ++ behind with
    | nil =>
      rw [hcs] at hmore
      cases hmore
    | cons c ds =>
      obtain ⟨hword, hpoint⟩ := hnext c (by rw [hcs]; rfl)
      rw [hcs, List.dropWhile_cons_of_neg (by simp [hword])] at hmore
      exact hpoint (List.cons.inj hmore).1

theorem unselected : Unselected word := by
  have happend : Unselected (word ++ []) := h.unselected_append (by nofun)
  rwa [List.append_nil] at happend

theorem ne_nil : word ≠ [] := by
  rintro rfl
  obtain ⟨c, hc, -⟩ := h.unselected.1
  cases hc

theorem takePart_selected (hselector : (selector, part) ∈ selectors) :
    SortField.takePart (selector ++ word) = (part, word) := by
  simp only [selectors, List.mem_cons, Prod.mk.injEq, List.not_mem_nil, or_false] at hselector
  rcases hselector with ⟨rfl, rfl⟩ | ⟨rfl, rfl⟩ | ⟨rfl, rfl⟩ | ⟨rfl, rfl⟩
  · exact h.unselected.takePart_eq
  all_goals rfl

theorem selectorLength_selected (hselector : (selector, part) ∈ selectors) {behind : List Char}
    (hbehind : ∀ c, behind.head? = some c → isWord c = false ∧ c ≠ '.') :
    RowFilter.selectorLength (selector ++ word ++ behind) = selector.length := by
  simp only [selectors, List.mem_cons, Prod.mk.injEq, List.not_mem_nil, or_false] at hselector
  rcases hselector with ⟨rfl, rfl⟩ | ⟨rfl, rfl⟩ | ⟨rfl, rfl⟩ | ⟨rfl, rfl⟩
  · exact (h.unselected_append hbehind).selectorLength_eq
  all_goals rfl

/-- The characters of a word with a selector are neither blanks nor commas nor those of operators. -/
theorem plain_selected (hselector : (selector, part) ∈ selectors) :
    ∀ c ∈ selector ++ word, isBlank c = false ∧ c ≠ ',' ∧ c ∉ SpelledTerm.operatorChars := by
  have hoperators : (SpelledTerm.operatorChars.all fun c => !isNameChar c) = true := by decide
  have hselectors : (selectors.all fun entry => entry.1.all fun c => isNameChar c || c == '%') =
      true := by
    decide
  have hname : ∀ c, isNameChar c = true →
      isBlank c = false ∧ c ≠ ',' ∧ c ∉ SpelledTerm.operatorChars := by
    intro c hc
    refine ⟨isBlank_of_isNameChar hc, ?_, fun hmem => ?_⟩
    · rintro rfl
      exact absurd hc (by decide)
    · have hnone := List.all_eq_true.mp hoperators c hmem
      rw [hc] at hnone
      cases hnone
  refine List.forall_mem_append.mpr ⟨fun c hc => ?_, fun c hc => ?_⟩
  · have hentry := List.all_eq_true.mp (List.all_eq_true.mp hselectors _ hselector) c hc
    rw [Bool.or_eq_true, beq_iff_eq] at hentry
    rcases hentry with hc | rfl
    · exact hname c hc
    · decide
  · rcases h.chars c hc with hc | rfl | rfl
    · exact hname c hc
    all_goals decide

end SlotName

/-! ## What sorts read -/

/-- **The slot of a word with a selector** is what the word names, and the part of the selector. -/
theorem parse_selected (h : SlotName word) (hselector : (selector, part) ∈ selectors)
    (l : ExtraList) :
    SortField.parse l (String.ofList (selector ++ word)) =
      (SortField.target? l (lower (String.ofList word))).elim
        (.error (.unknownSort (lower (String.ofList word))))
        fun target => .ok ⟨target, part, String.ofList (selector ++ word)⟩ := by
  have htrim : trim (String.ofList (selector ++ word)) = String.ofList (selector ++ word) := by
    rw [trim, String.toList_ofList,
      trimmed_of_forall fun c hc => (h.plain_selected hselector c hc).1]
  have hne : ∀ c, isWord c = false → String.ofList (selector ++ word) ≠ String.ofList [c] := by
    intro c hc hsame
    have hone : selector ++ word = [c] := by simpa using congrArg String.toList hsame
    obtain ⟨d, hd, hword⟩ := h.unselected.1
    have hmem : d ∈ selector ++ word := List.mem_append_right _ (List.mem_of_mem_head? hd)
    rw [hone, List.mem_singleton] at hmem
    rw [hmem, hc] at hword
    cases hword
  have hpoint : String.ofList (selector ++ word) ≠ "." := hne '.' (by decide)
  have hpercent : String.ofList (selector ++ word) ≠ "%" := hne '%' (by decide)
  simp only [SortField.parse, htrim, if_neg hpoint, if_neg hpercent, String.toList_ofList,
    h.takePart_selected hselector]
  cases SortField.target? l (lower (String.ofList word)) <;> rfl

/-- A sort clause with one word is read by that word. -/
theorem parseSorts_single (l : ExtraList) (hne : word ≠ [])
    (hplain : ∀ c ∈ word, isBlank c = false ∧ c ≠ ',')
    (hsign : ∀ c, word.head? = some c → c ≠ '-' ∧ c ≠ '+') :
    parseSorts l ("o=" ++ String.ofList word) =
      (SortField.parse l (String.ofList word)).map fun f => [⟨f, false⟩] := by
  have htrim : trimmed word = word := trimmed_of_forall fun c hc => (hplain c hc).1
  have hclause : ("o=" ++ String.ofList word).toList = 'o' :: '=' :: word := by
    rw [String.toList_append, String.toList_ofList, String.toList_ofList]
    rfl
  have htrims : trimmed ('o' :: '=' :: word) = 'o' :: '=' :: word :=
    trimmed_of_forall (List.forall_mem_cons.mpr ⟨by decide, List.forall_mem_cons.mpr
      ⟨by decide, fun c hc => (hplain c hc).1⟩⟩)
  obtain ⟨c, rest, rfl⟩ := List.exists_cons_of_ne_nil hne
  obtain ⟨hminus, hplus⟩ := hsign c rfl
  have hstart : trimStart (c :: rest) = c :: rest :=
    List.dropWhile_cons_of_neg (by simp [(hplain c (by simp)).1])
  have hbody : sortBody? ("o=" ++ String.ofList (c :: rest)) = some (c :: rest) := by
    have hline : (c :: rest).contains '\n' = false := by
      refine Bool.eq_false_iff.mpr fun hmem => ?_
      have hblank := (hplain '\n' (List.contains_iff_mem.mp hmem)).1
      exact absurd hblank (by decide)
    have hequals : trimStart ('=' :: c :: rest) = '=' :: c :: rest :=
      List.dropWhile_cons_of_neg (by decide)
    have hbehind : clauseBody? ['o', 'O'] ('o' :: '=' :: c :: rest) = some (c :: rest) := by
      simp [clauseBody?, hequals, hstart]
    rw [sortBody?, hclause, htrims, hbehind, Option.filter_some, hline]
    rfl
  have hparts : commaParts (c :: rest) = [c :: rest] := by
    have hcomma : ',' ∉ c :: rest := fun hmem => (hplain ',' hmem).2 rfl
    have hone := List.splitOn_intercalate ',' (List.forall_mem_singleton.mpr hcomma)
      (List.cons_ne_nil _ _)
    rwa [List.intercalate_singleton] at hone
  have hunsigned : takeSign (c :: rest) = (.descending, c :: rest) := by
    unfold takeSign
    split <;> simp_all
  rw [parseSorts, hbody]
  simp only [List.isEmpty_cons, Bool.false_eq_true, if_false, hparts, List.map_cons, List.map_nil,
    htrim, List.filter_cons, Bool.not_false, if_true, List.filter_nil, List.mapM_cons,
    List.mapM_nil, SortCondition.parse, String.toList_ofList, hunsigned]
  cases SortField.parse l (String.ofList (c :: rest)) <;> rfl

/-- **A sort by a word with a selector** is by the slot that the word names. -/
theorem parseSorts_selected (h : SlotName word) (hselector : (selector, part) ∈ selectors)
    (l : ExtraList) :
    parseSorts l ("o=" ++ String.ofList (selector ++ word)) =
      (SortField.target? l (lower (String.ofList word))).elim
        (.error (.unknownSort (lower (String.ofList word))))
        fun target => .ok [⟨⟨target, part, String.ofList (selector ++ word)⟩, false⟩] := by
  have hplain := h.plain_selected hselector
  rw [parseSorts_single l (by simp [h.ne_nil]) (fun c hc => ⟨(hplain c hc).1, (hplain c hc).2.1⟩),
    parse_selected h hselector]
  · cases SortField.target? l (lower (String.ofList word)) <;> rfl
  · have hfirst : (selectors.all fun entry => entry.1.head?.all fun c => c != '-' && c != '+') =
        true := by
      decide
    intro c hc
    cases selector with
    | nil =>
      obtain ⟨d, hd, hword⟩ := h.unselected.1
      obtain rfl : d = c := Option.some.inj (hd.symm.trans hc)
      constructor <;> rintro rfl <;> exact absurd hword (by decide)
    | cons d ds =>
      obtain rfl := Option.some.inj hc
      simpa using List.all_eq_true.mp hfirst _ hselector

/-! ## What filters read -/

theorem isBlank_of_isNumeralChar {c : Char} (h : isNumeralChar c = true) : isBlank c = false := by
  unfold isNumeralChar at h
  rw [Bool.or_eq_true, Bool.or_eq_true] at h
  rcases h with (h | h) | h
  · have hlast : c.toNat ≤ 57 := (Char.isDigit_iff_toNat.mp h).2
    have hcode : c.toNat < 128 := by omega
    refine isBlank_of_isWord ?_
    rw [isWord, if_pos hcode, Char.isAlphanum, h, Bool.or_true, Bool.true_or]
  · have hall : (['+', '-', '.'].all fun d => !isBlank d) = true := by decide
    simpa using List.all_eq_true.mp hall c (List.contains_iff_mem.mp h)
  · have hall : (['e', 'i', 'n', 'f', 't', 'y', 'a'].all fun d => !isBlank d) = true := by decide
    simpa [isBlank_toLower] using List.all_eq_true.mp hall _ (List.contains_iff_mem.mp h)

namespace RowFilter

theorem takeOperator?_eq_none {c : Char} (h : c ∉ SpelledTerm.operatorChars) (cs : List Char) :
    takeOperator? (c :: cs) = none := by
  refine Option.eq_none_iff_forall_ne_some.mpr fun ⟨op, right⟩ hfound => ?_
  obtain ⟨token, hmem, hcs, -⟩ := takeOperator?_eq_some hfound
  obtain ⟨hne, hchars⟩ := mem_of_mem_operators hmem
  obtain ⟨d, ds, rfl⟩ := List.exists_cons_of_ne_nil hne
  obtain ⟨rfl, -⟩ := List.cons.inj hcs
  exact h (hchars c (by simp))

theorem takeOperator?_append {token right : List Char} {op : FilterOp}
    (hop : (token, op) ∈ operators) (hright : AllNumeral right) (hne : right ≠ []) :
    takeOperator? (token ++ right) = some (op, right) := by
  obtain ⟨c, rest, rfl⟩ := List.exists_cons_of_ne_nil hne
  have hequals : '=' ≠ c := by
    rintro rfl
    exact absurd (hright '=' (by simp)) (by decide)
  simp only [operators, List.mem_cons, Prod.mk.injEq, List.not_mem_nil, or_false] at hop
  rcases hop with ⟨rfl, rfl⟩ | ⟨rfl, rfl⟩ | ⟨rfl, rfl⟩ | ⟨rfl, rfl⟩ | ⟨rfl, rfl⟩ | ⟨rfl, rfl⟩ <;>
    simp [takeOperator?, operators, hequals]

/-- **A text is split at its first operator**, if so many characters stand in front of it. -/
theorem splitAt?_append {least : Nat} {left word behind right : List Char} {op : FilterOp}
    (hword : ∀ c ∈ word, c ∉ SpelledTerm.operatorChars)
    (hleast : least ≤ left.length + word.length) (hop : takeOperator? behind = some (op, right)) :
    splitAt? least left (word ++ behind) = some (left.reverse ++ word, op, right) := by
  induction word generalizing left with
  | nil =>
    cases behind with
    | nil => cases hop
    | cons c cs =>
      have hfits : least ≤ left.length := hleast
      rw [List.nil_append, splitAt?, if_pos hfits, hop, List.append_nil]
  | cons c word ih =>
    obtain ⟨hc, hrest⟩ := List.forall_mem_cons.mp hword
    rw [List.cons_append, splitAt?, takeOperator?_eq_none hc, ite_self]
    have hcount : least ≤ (c :: left).length + word.length := by
      rw [List.length_cons] at hleast ⊢
      omega
    rw [ih hrest hcount, List.reverse_cons, List.append_assoc, List.singleton_append]

/-- **A filter on a word with a selector** is split behind the word. -/
theorem split?_selected (h : SlotName word) (hselector : (selector, part) ∈ selectors)
    {token right : List Char} {op : FilterOp} (hop : (token, op) ∈ operators)
    (hright : AllNumeral right) (hne : right ≠ []) :
    split? (selector ++ word ++ (token ++ right)) = some (selector ++ word, op, right) := by
  have hplain := h.plain_selected hselector
  obtain ⟨htoken, hchars⟩ := mem_of_mem_operators hop
  have hoperator : ∀ c ∈ SpelledTerm.operatorChars,
      isBlank c = false ∧ isWord c = false ∧ c ≠ '.' := by
    have hall : SpelledTerm.operatorChars.all (fun c => !isBlank c && !isWord c && c != '.') = true := by
      decide +kernel
    simpa [and_assoc] using hall
  have hblank : (selector ++ word ++ (token ++ right)).any isBlank = false := by
    rw [List.any_eq_false]
    simp only [Bool.not_eq_true]
    refine List.forall_mem_append.mpr ⟨fun c hc => (hplain c hc).1, List.forall_mem_append.mpr
      ⟨fun c hc => (hoperator c (hchars c hc)).1, fun c hc => isBlank_of_isNumeralChar (hright c hc)⟩⟩
  have hbehind : ∀ c, (token ++ right).head? = some c → isWord c = false ∧ c ≠ '.' := by
    obtain ⟨d, ds, rfl⟩ := List.exists_cons_of_ne_nil htoken
    intro c hc
    obtain rfl := Option.some.inj hc
    exact (hoperator d (hchars d (by simp))).2
  have hlength : selector.length + 1 ≤ ([] : List Char).length + (selector ++ word).length := by
    have hpos := List.length_pos_of_ne_nil h.ne_nil
    simp only [List.length_nil, List.length_append]
    omega
  rw [split?, hblank, if_neg Bool.false_ne_true, h.selectorLength_selected hselector hbehind,
    splitAt?_append (fun c hc => (hplain c hc).2.2) hlength (takeOperator?_append hop hright hne)]
  rfl

/-- **A filter on a word with a selector** is on the slot that the word names, if filters may read it. -/
theorem parse?_selected (h : SlotName word) (hselector : (selector, part) ∈ selectors)
    {token : List Char} {op : FilterOp} (hop : (token, op) ∈ operators) {numeral : String}
    {value : Binary64} (hread : Binary64.read? numeral = some value) (l : ExtraList)
    {target : SortTarget} (hreadable : readable l target = true)
    (htarget : SortField.target? l (lower (String.ofList word)) = some target) :
    parse? l (String.ofList (selector ++ word) ++ String.ofList token ++ numeral) =
      some ⟨⟨target, part, String.ofList (selector ++ word)⟩, op, value⟩ := by
  have hright := allNumeral_of_read? hread
  have hne : numeral.toList ≠ [] := by
    intro hnil
    obtain rfl := String.toList_eq_nil_iff.mp hnil
    cases hread
  have htoken : (String.ofList (selector ++ word) ++ String.ofList token ++ numeral).toList =
      selector ++ word ++ (token ++ numeral.toList) := by
    simp [String.toList_append]
  have hsplit := split?_selected h hselector hop hright hne
  have htrim : trimmed (selector ++ word ++ (token ++ numeral.toList)) =
      selector ++ word ++ (token ++ numeral.toList) := trimmed_of_forall (split?_eq_some hsplit).1
  have hfield := parse_selected h hselector l
  rw [htarget] at hfield
  rw [parse?, htoken, htrim, hsplit, Option.bind_eq_bind, Option.bind_some]
  dsimp only
  rw [hfield, String.ofList_toList, hread]
  simp [Except.toOption, hreadable]

end RowFilter

end Words

/-! ## Words that name a slot -/

/-- **A word names a slot**: sorts by it, with any selector in front, are by the part of the slot that the
selector asks for, and filters that compare it with a number are on the same. -/
structure SlotNamed (l : ExtraList) (word : String) (target : SortTarget) : Prop where
  sorts : ∀ selector part, (selector, part) ∈ selectors →
    parseSorts l ("o=" ++ (String.ofList selector ++ word)) =
      .ok [⟨⟨target, part, String.ofList selector ++ word⟩, false⟩]
  filters : ∀ selector part, (selector, part) ∈ selectors →
    ∀ token op, (token, op) ∈ RowFilter.operators → ∀ numeral value,
      Binary64.read? numeral = some value →
      RowFilter.parse? l (String.ofList selector ++ word ++ String.ofList token ++ numeral) =
        some ⟨⟨target, part, String.ofList selector ++ word⟩, op, value⟩

theorem readable_of_target? {l : ExtraList} (haggregate : l.isAggregate = true) {word : String}
    {target : SortTarget} (h : SortField.target? l word = some target) :
    RowFilter.readable l target = true := by
  unfold SortField.target? at h
  split at h
  · rw [← Option.some.inj h]
    rfl
  · obtain ⟨index, -, rfl⟩ := Option.map_eq_some_iff.mp h
    exact haggregate

/-- **Sorts and filters name what the labels of the columns say**, if these are aggregate. -/
theorem slotNamed_iff {l : ExtraList} (haggregate : l.isAggregate = true) {word : String}
    (h : SlotName word.toList) {target : SortTarget} :
    SlotNamed l word target ↔ SortField.target? l (lower word) = some target := by
  have hword : String.ofList word.toList = word := String.ofList_toList
  have hselected : ∀ selector : List Char, String.ofList selector ++ word =
      String.ofList (selector ++ word.toList) := fun selector => by
    rw [String.ofList_append, hword]
  constructor
  · intro hnamed
    have hnone : (([] : List Char), RatioPart.numerator) ∈ selectors := by decide
    have hplain := hnamed.sorts [] .numerator hnone
    rw [hselected, parseSorts_selected h hnone l, hword] at hplain
    cases hfound : SortField.target? l (lower word) with
    | none =>
      rw [hfound] at hplain
      cases hplain
    | some found =>
      rw [hfound] at hplain
      cases hplain
      rfl
  · intro htarget
    have hreadable := readable_of_target? haggregate htarget
    rw [← hword] at htarget
    constructor
    · intro selector part hselector
      rw [hselected, parseSorts_selected h hselector, htarget, Option.elim_some]
    · intro selector part hselector token op hop numeral value hread
      rw [hselected]
      exact RowFilter.parse?_selected h hselector hop hread l hreadable htarget

/-- A word that names a slot has no blanks, or starts with one. -/
theorem SlotNamed.blank {l : ExtraList} {word : String} {target : SortTarget}
    (h : SlotNamed l word target) (hstart : ∃ c, word.toList.head? = some c ∧ isBlank c = false) :
    ∀ c ∈ word.toList, isBlank c = false := by
  have hfilter := h.filters [] .numerator (by decide) ['<'] .lt (by decide) "0" (.ofInt 0)
    (by decide +kernel)
  have htoken : (String.ofList [] ++ word ++ String.ofList ['<'] ++ "0").toList =
      word.toList ++ ['<', '0'] := by
    simp [String.toList_append]
  obtain ⟨c, hc, hblank⟩ := hstart
  have htrim : trimmed (word.toList ++ ['<', '0']) = word.toList ++ ['<', '0'] := by
    refine trimmed_of_ends (fun d hd => ?_) fun d hd => ?_
    · rw [List.head?_append, hc, Option.some_or] at hd
      rwa [← Option.some.inj hd]
    · rw [List.getLast?_append] at hd
      obtain rfl : '0' = d := Option.some.inj hd
      decide
  obtain ⟨left, right, hsplit, -⟩ := RowFilter.exists_split_of_parse? hfilter
  rw [htoken, htrim] at hsplit
  exact fun d hd => (RowFilter.split?_eq_some hsplit).1 d (List.mem_append_left _ hd)

end GameLog
