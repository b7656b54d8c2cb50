import GameLog.Proofs.Query.ExtraColumns
import GameLog.Proofs.Query.GroupNames
import GameLog.Query.Group
import GameLog.Query.Spelling

/-!
# The parts of filters

A filter on report rows is one token without blanks: the word of a slot, an operator and a numeral. The
characters of each part tell it from the others. Numerals have none of the characters that operators are
made of, and neither has the word of a slot at its ends, whatever the names in its brackets are.

Main statements:
* `allNumeral_of_read?`: a text that stands for a number has the characters of numerals only;
* `split?_eq_some`: a token is split around an operator, between sides that are not empty;
* `shape_of_parse?`: a filter ends in a numeral behind an operator;
* `calledByShown_askedExtra`: aggregate columns are called by what they show;
* `slotWord_of_parse`: what stands in front of the operator is the word of a slot.
-/

namespace GameLog

open GameLog.Text

/-! ## Numerals -/

/-- Whether a character may stand in a numeral. -/
def isNumeralChar (c : Char) : Bool :=
  c.isDigit || ['+', '-', '.'].contains c || ['e', 'i', 'n', 'f', 't', 'y', 'a'].contains c.toLower

theorem isNumeralChar_of_isDigit {c : Char} (h : c.isDigit = true) : isNumeralChar c = true := by
  simp [isNumeralChar, h]

/-- All characters of a text may stand in a numeral. -/
def AllNumeral (cs : List Char) : Prop := ∀ c ∈ cs, isNumeralChar c = true

theorem allNumeral_cons {c : Char} {cs : List Char} (hc : isNumeralChar c = true)
    (hcs : AllNumeral cs) : AllNumeral (c :: cs) :=
  List.forall_mem_cons.mpr ⟨hc, hcs⟩

theorem allNumeral_of_readDigits? {cs : List Char} {n : Nat} (h : readDigits? cs = some n) :
    AllNumeral cs := by
  unfold readDigits? at h
  split at h
  · rename_i hall
    exact fun c hc => isNumeralChar_of_isDigit
      (List.all_eq_true.mp (Bool.and_eq_true_iff.mp hall).2 c hc)
  · cases h

theorem allNumeral_of_readSigned? {cs : List Char} {n : Int} (h : readSigned? cs = some n) :
    AllNumeral cs := by
  have hdigits : ∀ {ds : List Char}, (readDigits? ds).isSome = true → AllNumeral ds := by
    intro ds hds
    obtain ⟨m, hm⟩ := Option.isSome_iff_exists.mp hds
    exact allNumeral_of_readDigits? hm
  have hread := congrArg Option.isSome h
  unfold readSigned? at hread
  split at hread
  · rename_i ds
    refine allNumeral_cons (by decide) (hdigits ?_)
    cases hds : readDigits? ds <;> simp_all
  · rename_i ds
    refine allNumeral_cons (by decide) (hdigits ?_)
    cases hds : readDigits? ds <;> simp_all
  · refine hdigits ?_
    cases hds : readDigits? cs <;> simp_all

theorem allNumeral_of_power? {cs : List Char} {n : Int} (h : Binary64.power? cs = some n) :
    AllNumeral cs := by
  cases cs with
  | nil => exact fun c hc => absurd hc List.not_mem_nil
  | cons c cs =>
    simp only [Binary64.power?, Bool.or_eq_true, decide_eq_true_eq] at h
    by_cases hletter : c = 'e' ∨ c = 'E'
    · rw [if_pos hletter] at h
      refine allNumeral_cons ?_ (allNumeral_of_readSigned? h)
      rcases hletter with rfl | rfl <;> decide
    · rw [if_neg hletter] at h
      cases h

theorem allNumeral_of_dropWhile {cs : List Char} (h : AllNumeral (cs.dropWhile Char.isDigit)) :
    AllNumeral cs := by
  rw [← List.takeWhile_append_dropWhile (p := Char.isDigit) (l := cs)]
  exact List.forall_mem_append.mpr ⟨fun c hc =>
    isNumeralChar_of_isDigit (List.all_eq_true.mp List.all_takeWhile c hc), h⟩

theorem allNumeral_of_decimal? {neg : Bool} {cs : List Char} {x : Binary64}
    (h : Binary64.decimal? neg cs = some x) : AllNumeral cs := by
  unfold Binary64.decimal? at h
  refine allNumeral_of_dropWhile ?_
  split at h
  rename_i places rest hrest
  obtain ⟨digits, -, h⟩ := Option.bind_eq_some_iff.mp h
  obtain ⟨power, hpower, -⟩ := Option.bind_eq_some_iff.mp h
  have hpower := allNumeral_of_power? hpower
  split at hrest
  · rename_i behind hbehind
    obtain ⟨rfl, rfl⟩ := Prod.mk.inj hrest
    rw [hbehind]
    exact allNumeral_cons (by decide) (allNumeral_of_dropWhile hpower)
  · obtain ⟨rfl, rfl⟩ := Prod.mk.inj hrest
    exact hpower

theorem allNumeral_of_named? {neg : Bool} {cs : List Char} {x : Binary64}
    (h : Binary64.named? neg cs = some x) : AllNumeral cs := by
  have hword : cs.map Char.toLower ∈ ["inf".toList, "infinity".toList, "nan".toList] := by
    unfold Binary64.named? at h
    simp only [Bool.or_eq_true, decide_eq_true_eq] at h
    rw [List.mem_cons, List.mem_cons, List.mem_singleton]
    split at h
    · rename_i hinf
      exact hinf.elim .inl fun h => .inr (.inl h)
    · split at h
      · rename_i hnan
        exact .inr (.inr hnan)
      · cases h
  have hletters : ["inf".toList, "infinity".toList, "nan".toList].all (fun word =>
      word.all ['e', 'i', 'n', 'f', 't', 'y', 'a'].contains) = true := by decide
  intro c hc
  have hletter := List.all_eq_true.mp (List.all_eq_true.mp hletters _ hword) c.toLower
    (List.mem_map_of_mem hc)
  rw [isNumeralChar, hletter, Bool.or_true]

/-- **A text that stands for a number has the characters of numerals only.** -/
theorem allNumeral_of_read? {s : String} {x : Binary64} (h : Binary64.read? s = some x) :
    AllNumeral s.toList := by
  have hboth : ∀ {neg : Bool} {cs : List Char},
      (Binary64.decimal? neg cs).or (Binary64.named? neg cs) = some x → AllNumeral cs := by
    intro neg cs hread
    rcases Option.or_eq_some_iff.mp hread with hdecimal | ⟨-, hnamed⟩
    · exact allNumeral_of_decimal? hdecimal
    · exact allNumeral_of_named? hnamed
  unfold Binary64.read? at h
  split at h
  rename_i hsign
  split at hsign
  · rename_i cs' hcs
    obtain ⟨rfl, rfl⟩ := Prod.mk.inj hsign
    rw [hcs]
    exact allNumeral_cons (by decide) (hboth h)
  · rename_i cs' hcs
    obtain ⟨rfl, rfl⟩ := Prod.mk.inj hsign
    rw [hcs]
    exact allNumeral_cons (by decide) (hboth h)
  · obtain ⟨rfl, rfl⟩ := Prod.mk.inj hsign
    exact hboth h

/-! ## The parts of filters -/

namespace RowFilter

theorem takeOperator?_eq_some {cs right : List Char} {op : FilterOp}
    (h : takeOperator? cs = some (op, right)) :
    ∃ token, (token, op) ∈ operators ∧ cs = token ++ right ∧ right ≠ [] := by
  obtain ⟨⟨token, found⟩, hmem, hfound⟩ := List.exists_of_findSome?_eq_some h
  dsimp only at hfound
  split at hfound
  · rename_i hfits
    simp only [Bool.and_eq_true, List.isPrefixOf_iff_prefix, decide_eq_true_eq] at hfits
    obtain ⟨⟨behind, rfl⟩, hlength⟩ := hfits
    rw [List.drop_left] at hfound
    obtain ⟨rfl, rfl⟩ := Prod.mk.inj (Option.some.inj hfound)
    refine ⟨token, hmem, rfl, ?_⟩
    rintro rfl
    simp at hlength
  · cases hfound

theorem splitAt?_eq_some {least : Nat} {left cs l r : List Char} {op : FilterOp}
    (h : splitAt? least left cs = some (l, op, r)) :
    ∃ token, (token, op) ∈ operators ∧ left.reverse ++ cs = l ++ token ++ r ∧ r ≠ [] ∧
      least ≤ l.length := by
  induction cs generalizing left with
  | nil => cases h
  | cons c cs ih =>
    rw [splitAt?] at h
    split at h
    · rename_i found right hfound
      obtain ⟨rfl, rfl, rfl⟩ : left.reverse = l ∧ found = op ∧ right = r := by simpa using h
      split at hfound
      · rename_i hleast
        obtain ⟨token, hmem, hcs, hright⟩ := takeOperator?_eq_some hfound
        exact ⟨token, hmem, by rw [hcs, List.append_assoc], hright, by simpa using hleast⟩
      · cases hfound
    · obtain ⟨token, hmem, hcs, hright, hleast⟩ := ih h
      exact ⟨token, hmem, by simpa using hcs, hright, hleast⟩

/-- **A token is split around an operator**: it has no blanks, and neither side is empty. -/
theorem split?_eq_some {cs l r : List Char} {op : FilterOp} (h : split? cs = some (l, op, r)) :
    (∀ c ∈ cs, isBlank c = false) ∧
      ∃ token, (token, op) ∈ operators ∧ cs = l ++ token ++ r ∧ l ≠ [] ∧ r ≠ [] := by
  unfold split? at h
  split at h
  · cases h
  · rename_i hblank
    have hfree : ∀ c ∈ cs, isBlank c = false := fun c hc =>
      Bool.eq_false_iff.mpr fun hc' => hblank (List.any_eq_true.mpr ⟨c, hc, hc'⟩)
    refine ⟨hfree, ?_⟩
    rcases Option.or_eq_some_iff.mp h with h | ⟨-, h⟩
    all_goals
      obtain ⟨token, hmem, hcs, hright, hleast⟩ := splitAt?_eq_some h
      refine ⟨token, hmem, hcs, ?_, hright⟩
      rintro rfl
      simp at hleast

/-- A filter has a left side, an operator, and a number as its right side. -/
theorem exists_split_of_parse? {extra : ExtraList} {token : String} {f : RowFilter}
    (h : parse? extra token = some f) :
    ∃ l r, split? (trimmed token.toList) = some (l, f.op, r) ∧
      SortField.parse extra (String.ofList l) = .ok f.field ∧
      readable extra f.field.target = true ∧ Binary64.read? (String.ofList r) = some f.value := by
  unfold parse? at h
  obtain ⟨⟨l, op, r⟩, hsplit, h⟩ := Option.bind_eq_some_iff.mp h
  obtain ⟨field, hfield, h⟩ := Option.bind_eq_some_iff.mp h
  split at h
  · rename_i hreadable
    obtain ⟨value, hvalue, rfl⟩ := Option.map_eq_some_iff.mp h
    refine ⟨l, r, hsplit, ?_, hreadable, hvalue⟩
    cases hparse : SortField.parse extra (String.ofList l) with
    | error e =>
      rw [hparse] at hfield
      cases hfield
    | ok found =>
      rw [hparse] at hfield
      exact congrArg Except.ok (Option.some.inj hfield)
  · cases h

theorem mem_of_mem_operators {token : List Char} {op : FilterOp} (h : (token, op) ∈ operators) :
    token ≠ [] ∧ ∀ c ∈ token, c ∈ SpelledTerm.operatorChars := by
  have hall : operators.all (fun entry => entry.1 != [] &&
      entry.1.all SpelledTerm.operatorChars.contains) = true := by decide
  simpa using List.all_eq_true.mp hall _ h

theorem isNumeralChar_of_operator {c : Char} (h : c ∈ SpelledTerm.operatorChars) :
    isNumeralChar c = false := by
  have hall : SpelledTerm.operatorChars.all (fun c => !isNumeralChar c) = true := by decide
  simpa using List.all_eq_true.mp hall c h

/-- **A filter without blanks ends in a numeral behind an operator.** -/
theorem shape_of_parse? {extra : ExtraList} {token : String} {f : RowFilter}
    (hblank : ∀ c ∈ token.toList, isBlank c = false) (h : parse? extra token = some f) :
    (∃ c ∈ token.toList, c ∈ SpelledTerm.operatorChars) ∧
      ∀ c, token.toList.getLast? = some c → isNumeralChar c = true := by
  obtain ⟨l, r, hsplit, -, -, hvalue⟩ := exists_split_of_parse? h
  rw [trimmed_of_forall hblank] at hsplit
  obtain ⟨-, op, hmem, hcs, -, hright⟩ := split?_eq_some hsplit
  obtain ⟨hne, hop⟩ := mem_of_mem_operators hmem
  constructor
  · obtain ⟨c, hc⟩ := List.exists_mem_of_ne_nil op hne
    exact ⟨c, by simp [hcs, hc], hop c hc⟩
  · intro c hc
    have hnumeral := allNumeral_of_read? hvalue
    rw [String.toList_ofList] at hnumeral
    rw [hcs, List.getLast?_append, List.getLast?_eq_some_getLast hright, Option.some_or] at hc
    obtain rfl := Option.some.inj hc
    exact hnumeral _ (List.getLast_mem hright)

end RowFilter

/-! ## The words of slots -/

/-- What may stand in front of a slot to choose one of several queries. -/
def slotSelectors : List (List Char) := [[], "den.".toList, "num.".toList, "%.".toList]

/-- **A word is a call**: the word of a function with brackets behind it. -/
def IsCall (word : List Char) : Prop :=
  ∃ function inner, function ≠ [] ∧ (∀ c ∈ function, isWord c = true) ∧
    word = function ++ '(' :: inner ++ [')']

/-- **A text is the word of a slot** that filters may read: a percent sign, or the count or a call, with or
without a selector in front. -/
def SlotWord (cs : List Char) : Prop :=
  cs = ['%'] ∨ ∃ selector ∈ slotSelectors, ∃ word, cs = selector ++ word ∧
    (word = ['n'] ∨ word = ['N'] ∨ IsCall word)

/-- **Aggregate columns are called by what they show**: the count, or a call. -/
def ExtraList.CalledByShown (extra : ExtraList) : Prop :=
  extra.isAggregate = true → ∀ f ∈ extra.fields, f.label = "N" ∨ IsCall f.label.toList

theorem isWord_toLower (c : Char) : isWord c.toLower = isWord c :=
  toLower_congr (by decide +kernel) c

theorem word_lower {word : String}
    (h : word.toList ≠ [] ∧ ∀ c ∈ word.toList, isWord c = true) :
    (lower word).toList ≠ [] ∧ ∀ c ∈ (lower word).toList, isWord c = true := by
  rw [lower, String.toList_ofList, List.forall_mem_map]
  refine ⟨mt List.map_eq_nil_iff.mp h.1, fun c hc => ?_⟩
  rw [isWord_toLower, h.2 c hc]

/-- The column of an item whose function is a word is called by what it shows. -/
theorem ExtraField.ReadFrom.calledByShown {s : Scope} {item : ClauseItem} {f : ExtraField}
    (h : f.ReadFrom s item) (haggregate : f.isAggregate = true)
    (hword : ∀ function, item.function = some function →
      function.toList ≠ [] ∧ ∀ c ∈ function.toList, isWord c = true) :
    f.label = "N" ∨ IsCall f.label.toList := by
  cases h with
  | count n hshown hselected hlabel => exact .inl hlabel
  | field name column hcolumn hshown =>
    rw [ExtraField.isAggregate, hshown] at haggregate
    cases haggregate
  | aggregate function name column n hfunction hcolumn hshown hselected hknown hlabel =>
    obtain ⟨hne, hchars⟩ := word_lower (hword function hfunction)
    exact .inr ⟨(lower function).toList, name.toList, hne, hchars, by simp [hlabel]⟩

/-- **The extra columns that a command asks for are called by what they show.** -/
theorem calledByShown_askedExtra (s : Scope) (tokens : List String) :
    (askedExtra s tokens).CalledByShown := by
  intro haggregate f hf
  unfold askedExtra at haggregate hf
  cases hread : readExtra s (tokens.filter isExtraClause) with
  | error e =>
    rw [hread] at hf
    cases hf
  | ok extra =>
    rw [hread] at haggregate hf
    obtain ⟨clause, -, hclause⟩ := bind_eq_ok.mp hread
    cases clause with
    | none =>
      obtain rfl := Except.ok.inj hclause
      cases hf
    | some clause =>
      obtain ⟨found, items, hitems, item, hitem, hfrom⟩ := readIn_of_mem hclause f hf
      have hkind := ExtraList.isAggregate_of_parse (Prod.ext hclause rfl) f hf
      exact hfrom.calledByShown (hkind.trans haggregate) fun function =>
        word_of_function hitems hitem

/-- A word is a call in any letter case. -/
theorem IsCall.of_map_toLower {word call : List Char} (hcall : IsCall call)
    (h : word.map Char.toLower = call.map Char.toLower) : IsCall word := by
  have hpunctuation : ∀ {c d : Char}, (d = '(' ∨ d = ')') → c.toLower = d → c = d := by
    intro c d hd hc
    rcases eq_or_of_toLower hc with hsame | ⟨hfirst, -, hcode⟩
    · exact hsame
    · rcases hd with rfl | rfl
      · have hcode' : ('(' : Char).toNat = 40 := rfl
        omega
      · have hcode' : (')' : Char).toNat = 41 := rfl
        omega
  obtain ⟨function, inner, hne, hchars, rfl⟩ := hcall
  rw [List.map_append, List.map_append, List.map_cons] at h
  obtain ⟨front, last, rfl, hfront, hlast⟩ := List.map_eq_append_iff.mp h
  obtain ⟨function', rest, rfl, hfunction, hrest⟩ := List.map_eq_append_iff.mp hfront
  obtain ⟨c, inner', rfl, hc, hinner⟩ := List.map_eq_cons_iff.mp hrest
  obtain ⟨d, last', rfl, hd, hnil⟩ := List.map_eq_cons_iff.mp hlast
  obtain rfl := List.map_eq_nil_iff.mp hnil
  obtain rfl := hpunctuation (.inl rfl) hc
  obtain rfl := hpunctuation (.inr rfl) hd
  refine ⟨function', inner', ?_, fun c hc => ?_, rfl⟩
  · rintro rfl
    exact hne (List.map_eq_nil_iff.mp hfunction.symm)
  · have hlower : c.toLower ∈ function.map Char.toLower := hfunction ▸ List.mem_map_of_mem hc
    obtain ⟨d, hd, hsame⟩ := List.mem_map.mp hlower
    rw [← isWord_toLower, ← hsame, isWord_toLower, hchars d hd]

/-- A selector in front of a word is taken from it. -/
theorem exists_selector (cs : List Char) :
    ∃ selector ∈ slotSelectors, cs = selector ++ (SortField.takePart cs).2 := by
  unfold SortField.takePart
  split
  · rename_i selector rest hsplit
    have hcs := (splitFirst_eq hsplit).1
    split
    · rename_i hselector
      exact ⟨"den.".toList, by decide, by rw [hcs, hselector]; rfl⟩
    · split
      · rename_i hselector
        exact ⟨"num.".toList, by decide, by rw [hcs, hselector]; rfl⟩
      · split
        · rename_i hselector
          exact ⟨"%.".toList, by decide, by rw [hcs, hselector]; rfl⟩
        · exact ⟨[], by decide, rfl⟩
  · exact ⟨[], by decide, rfl⟩

/-- What names a slot that filters may read is the count or a call. -/
theorem word_of_target? {extra : ExtraList} (hcalled : extra.CalledByShown) {word : List Char}
    {target : SortTarget}
    (h : SortField.target? extra (lower (String.ofList word)) = some target)
    (hreadable : RowFilter.readable extra target = true) :
    word = ['n'] ∨ word = ['N'] ∨ IsCall word := by
  have hletters : ∀ {label : String}, lower (String.ofList word) = lower label →
      word.map Char.toLower = label.toList.map Char.toLower := by
    intro label hsame
    simpa [lower] using congrArg String.toList hsame
  have hcount : lower (String.ofList word) = "n" → word = ['n'] ∨ word = ['N'] := by
    intro hsame
    have hmap : word.map Char.toLower = ['n'] := by
      have hlist := congrArg String.toList hsame
      rwa [lower, String.toList_ofList, String.toList_ofList] at hlist
    obtain ⟨c, rest, rfl, hc, hnil⟩ := List.map_eq_cons_iff.mp hmap
    obtain rfl := List.map_eq_nil_iff.mp hnil
    rcases eq_or_of_toLower hc with rfl | ⟨-, -, hcode⟩
    · exact .inl rfl
    · have hn : ('n' : Char).toNat = 110 := rfl
      have hN : ('N' : Char).toNat = 78 := rfl
      have hcapital : c = 'N' := Char.toNat_inj.mp (by omega)
      exact .inr (by rw [hcapital])
  unfold SortField.target? at h
  split at h
  · rename_i hn
    exact (hcount hn).elim .inl fun h => .inr (.inl h)
  · obtain ⟨i, hi, rfl⟩ := Option.map_eq_some_iff.mp h
    obtain ⟨hlt, hsame, -⟩ := List.findIdx?_eq_some_iff_getElem.mp hi
    have hsame' : lower (String.ofList word) = lower extra.fields[i].label := by
      rw [sameLetters, beq_iff_eq, lower_lower] at hsame
      exact hsame.symm
    rcases hcalled hreadable _ (List.getElem_mem hlt) with hlabel | hlabel
    · rw [hlabel] at hsame'
      exact (hcount (hsame'.trans (by decide))).elim .inl fun h => .inr (.inl h)
    · exact .inr (.inr (hlabel.of_map_toLower (hletters hsame')))

/-- **What stands in front of the operator of a filter is the word of a slot.** -/
theorem slotWord_of_parse {extra : ExtraList} (hcalled : extra.CalledByShown) {cs : List Char}
    {field : SortField} (hblank : ∀ c ∈ cs, isBlank c = false)
    (h : SortField.parse extra (String.ofList cs) = .ok field)
    (hreadable : RowFilter.readable extra field.target = true) : SlotWord cs := by
  have htrim : trim (String.ofList cs) = String.ofList cs := by
    rw [trim, String.toList_ofList, trimmed_of_forall hblank]
  unfold SortField.parse at h
  rw [htrim] at h
  dsimp only at h
  split at h
  · obtain rfl := Except.ok.inj h
    cases hreadable
  · split at h
    · rename_i target htarget
      obtain rfl := Except.ok.inj h
      by_cases hpercent : String.ofList cs = "%"
      · left
        have hlist := congrArg String.toList hpercent
        rwa [String.toList_ofList] at hlist
      · rw [if_neg hpercent, String.toList_ofList] at htarget
        obtain ⟨selector, hselector, hcs⟩ := exists_selector cs
        exact .inr ⟨selector, hselector, _, hcs, word_of_target? hcalled htarget hreadable⟩
    · cases h

end GameLog
