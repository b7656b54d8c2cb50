import GameLog.Catalog.Builtin
import GameLog.Proofs.Query.SlotWords

/-!
# Slots by the names that columns are asked for

Sorts and filters look an extra column up by its label, in any letter case. The label has the canonical
name of the field, so a column is found by the words of the clause only where these are the label already:
neither an alias nor blanks inside brackets are seen through. Columns of one label are told apart by
nothing, and the first of them is found.

Main statements:
* `forall₂_askedNames`: the columns of a clause are those of its words;
* `word_of_aggregate`: the word of an aggregate column is that for the count, or a call;
* `slots_named_as_asked`: which words of a clause name a slot, and which slot that is;
* `alias_names_no_slot`: there are columns that no sort finds by the word they were asked for.
-/

namespace GameLog

open GameLog.Text

/-! ## The words of a clause -/

/-- The words by which a clause asks for its columns, without signs. -/
def askedNames (clause : String) : List String :=
  ((clauseBody? ['x', 'X'] (trimmed clause.toList)).map fun body =>
    (commaParts body).map fun part => String.ofList (takeSign (trimmed part)).2).getD []

/-- **An item is read from a word**: a call, or the name of a field. -/
inductive ClauseItem.ReadOf (item : ClauseItem) (word : String) : Prop
  | call (function field : List Char) (hcall : call? word.toList = some (function, field))
      (hfunction : item.function = some (String.ofList function))
  | name (hname : isName word.toList = true) (hfunction : item.function = none)
      (hfield : item.field = word)

/-- An item without a percent sign is read from the word behind its sign. -/
theorem readOf_of_readItem? {cs : List Char} {item : ClauseItem}
    (h : readItem? false cs = some item) : item.ReadOf (String.ofList (takeSign cs).2) := by
  have hmark : ∀ ds, takePercent false ds = (false, ds) := fun ds => rfl
  unfold readItem? at h
  simp only [hmark] at h
  split at h
  · rename_i function field hcall
    obtain rfl := Option.some.inj h
    exact .call function field (by rwa [String.toList_ofList]) rfl
  · split at h
    · rename_i hname
      obtain rfl := Option.some.inj h
      exact .name (by rwa [String.toList_ofList]) rfl rfl
    · cases h

theorem forall₂_trans {α β γ : Type} {r : α → β → Prop} {q : β → γ → Prop} {as : List α}
    {bs : List β} {cs : List γ} (h : List.Forall₂ r as bs) (h' : List.Forall₂ q bs cs) :
    List.Forall₂ (fun a c => ∃ b, r a b ∧ q b c) as cs := by
  induction h generalizing cs with
  | nil =>
    cases h'
    exact .nil
  | cons hab _ ih =>
    cases h' with
    | cons hbc hrest => exact .cons ⟨_, hab, hbc⟩ (ih hrest)

/-- **The columns of a clause are those of its words**, one for each of them in their order. -/
theorem forall₂_askedNames {s : Scope} {clause : String} {n m : Nat} {l : ExtraList}
    (h : (ExtraList.parse s clause).run n = (.ok l, m)) :
    List.Forall₂ (fun word f => ∃ item : ClauseItem, item.ReadOf word ∧
      ∃ k k', (extraField s clause item).run k = (.ok f, k')) (askedNames clause) l.fields := by
  obtain ⟨items, hitems, hfields, -, -⟩ := ExtraList.run_parse_eq_ok.mp h
  obtain ⟨body, hbody, hitems⟩ := Option.bind_eq_some_iff.mp hitems
  have hwords : askedNames clause =
      (commaParts body).map fun part => String.ofList (takeSign (trimmed part)).2 := by
    rw [askedNames, hbody]
    rfl
  rw [hwords, List.forall₂_map_left_iff]
  have hboth := forall₂_trans (forall₂_of_mapM_eq_some hitems) (Naming.forall₂_of_mapM hfields)
  exact hboth.imp fun part f ⟨item, hread, hshown⟩ => ⟨item, readOf_of_readItem? hread, hshown⟩

/-! ## Calls and the count -/

/-- A call is a function and a field in brackets, which may have blanks around it. -/
theorem exists_inner_of_call? {cs function field : List Char} (h : call? cs = some (function, field)) :
    ∃ inner, cs = function ++ '(' :: (inner ++ [')']) ∧ trimmed inner = field ∧
      isName field = true := by
  unfold call? at h
  split at h
  · rename_i rest hrest
    dsimp only at h
    split at h
    · rename_i hcall
      obtain ⟨rfl, rfl⟩ := Prod.mk.inj (Option.some.inj h)
      simp only [Bool.and_eq_true, beq_iff_eq] at hcall
      obtain ⟨⟨-, hlast⟩, hname⟩ := hcall
      obtain ⟨inner, rfl⟩ := List.getLast?_eq_some_iff.mp hlast
      rw [List.dropLast_concat] at hname ⊢
      exact ⟨inner, by rw [← hrest, List.takeWhile_append_dropWhile], rfl, hname⟩
    · cases h
  · cases h

theorem exists_head_of_call? {cs function field : List Char}
    (h : call? cs = some (function, field)) : ∃ c, cs.head? = some c ∧ isBlank c = false := by
  obtain ⟨inner, rfl, -⟩ := exists_inner_of_call? h
  obtain ⟨hne, hletters⟩ := word_of_call? h
  obtain ⟨c, rest, rfl⟩ := List.exists_cons_of_ne_nil hne
  exact ⟨c, rfl, isBlank_of_isWord (hletters c (by simp))⟩

/-- A call without blanks may name a slot. -/
theorem slotName_of_call? {cs function field : List Char} (h : call? cs = some (function, field))
    (hblank : ∀ c ∈ cs, isBlank c = false) : SlotName cs := by
  obtain ⟨inner, rfl, rfl, hname⟩ := exists_inner_of_call? h
  obtain ⟨hne, hletters⟩ := word_of_call? h
  have hinner : ∀ c ∈ inner, isBlank c = false := fun c hc => hblank c (by simp [hc])
  rw [trimmed_of_forall hinner] at hname
  constructor
  · intro c hc
    rw [List.mem_append, List.mem_cons, List.mem_append, List.mem_singleton] at hc
    rcases hc with hc | rfl | hc | rfl
    · exact .inl (by simp [isNameChar, hletters c hc])
    · exact .inr (.inl rfl)
    · exact .inl (isNameChar_of_isName hname c hc)
    · exact .inr (.inr rfl)
  · exact ⟨_, _, rfl, hne, hletters, by rintro c ⟨⟩; rfl⟩

theorem exists_eq_of_count {word : String} (h : lower word = "n") :
    ∃ c, word.toList = [c] ∧ c.toLower = 'n' := by
  have hmap : word.toList.map Char.toLower = ['n'] := by
    have hlist := congrArg String.toList h
    rwa [lower, String.toList_ofList] at hlist
  obtain ⟨c, rest, hword, hc, hnil⟩ := List.map_eq_cons_iff.mp hmap
  obtain rfl := List.map_eq_nil_iff.mp hnil
  exact ⟨c, hword, hc⟩

theorem slotName_of_count {word : String} (h : lower word = "n") : SlotName word.toList := by
  obtain ⟨c, hword, hc⟩ := exists_eq_of_count h
  have hletter : isWord c = true := by
    rw [← isWord_toLower, hc]
    decide
  rw [hword]
  refine ⟨List.forall_mem_singleton.mpr (.inl (by simp [isNameChar, hletter])), [c], [], rfl,
    List.cons_ne_nil _ _, List.forall_mem_singleton.mpr hletter, by rintro d ⟨⟩⟩

theorem lower_ne_of_call? {word : String} {function field : List Char}
    (h : call? word.toList = some (function, field)) : lower word ≠ "n" := by
  intro hcount
  obtain ⟨c, hword, hc⟩ := exists_eq_of_count hcount
  obtain ⟨inner, hcall, -⟩ := exists_inner_of_call? h
  have hbracket : '(' ∈ word.toList := by
    rw [hcall]
    simp
  rw [hword, List.mem_singleton] at hbracket
  rw [← hbracket] at hc
  exact absurd hc (by decide)

/-- **An aggregate column counts rows and its word is that for the count, or its word is a call.** -/
theorem word_of_aggregate {s : Scope} {clause word : String} {item : ClauseItem} {n m : Nat}
    {f : ExtraField} (hread : item.ReadOf word)
    (h : (extraField s clause item).run n = (.ok f, m)) (haggregate : f.isAggregate = true) :
    (f.projection = .count ∧ lower word = "n") ∨
      (f.projection ≠ .count ∧ ∃ function field, call? word.toList = some (function, field)) := by
  cases hread with
  | call function field hcall hfunction =>
    refine .inr ⟨fun hcount => ?_, function, field, hcall⟩
    rw [extraField, hfunction] at h
    obtain ⟨_, _, _, -, -, -, -, rfl, -⟩ := run_aggregateField_eq_ok.mp h
    cases hcount
  | name hname hfunction hfield =>
    rw [extraField, hfunction] at h
    dsimp only at h
    split at h
    · rename_i hcount
      rw [hfield] at hcount
      rw [run_countField] at h
      cases h
      exact .inl ⟨rfl, hcount⟩
    · obtain ⟨_, _, -, -, rfl, -⟩ := run_plainField_eq_ok.mp h
      cases haggregate

/-! ## The first column of a label -/

/-- **A column is the first one of its label** that a word calls, in any letter case. -/
def ExtraList.FirstCalled (l : ExtraList) (word : String) (index : Nat) : Prop :=
  ∃ f, l.fields[index]? = some f ∧ sameLetters f.label word = true ∧
    ∀ k < index, ∀ g, l.fields[k]? = some g → sameLetters g.label word = false

section Called

variable {l : ExtraList} {word : String}

/-- Labels are looked up in any letter case. -/
theorem place?_eq_some_iff {index : Nat} :
    l.place? (lower word) = some index ↔ l.FirstCalled word index := by
  have hletters : ∀ f : ExtraField, sameLetters f.label (lower word) = sameLetters f.label word :=
    fun f => by rw [sameLetters, sameLetters, lower_lower]
  rw [ExtraList.place?, List.findIdx?_eq_some_iff_getElem]
  simp only [hletters, Bool.not_eq_true]
  constructor
  · rintro ⟨hlt, hcalled, hbefore⟩
    refine ⟨l.fields[index], List.getElem?_eq_getElem hlt, hcalled, fun k hk g hg => ?_⟩
    obtain ⟨hk', rfl⟩ := List.getElem?_eq_some_iff.mp hg
    exact hbefore k hk
  · rintro ⟨f, hf, hcalled, hbefore⟩
    obtain ⟨hlt, rfl⟩ := List.getElem?_eq_some_iff.mp hf
    exact ⟨hlt, hcalled, fun k hk => hbefore k hk _ (List.getElem?_eq_getElem (Nat.lt_trans hk hlt))⟩

theorem target?_eq_extra_iff (hword : lower word ≠ "n") {index : Nat} :
    SortField.target? l (lower word) = some (.extra index) ↔ l.FirstCalled word index := by
  rw [SortField.target?, if_neg hword, Option.map_eq_some_iff, ← place?_eq_some_iff]
  constructor
  · rintro ⟨found, hfound, hsame⟩
    rwa [← SortTarget.extra.inj hsame]
  · exact fun hfound => ⟨index, hfound, rfl⟩

theorem exists_firstCalled {i : Nat} {f : ExtraField} (hf : l.fields[i]? = some f)
    (hcalled : sameLetters f.label word = true) : ∃ index ≤ i, l.FirstCalled word index := by
  induction i using Nat.strongRecOn generalizing f with
  | ind i ih =>
    by_cases hbefore : ∀ k < i, ∀ g, l.fields[k]? = some g → sameLetters g.label word = false
    · exact ⟨i, Nat.le_refl i, f, hf, hcalled, hbefore⟩
    · push Not at hbefore
      obtain ⟨k, hk, g, hg, hsame⟩ := hbefore
      obtain ⟨index, hindex, hfirst⟩ := ih k hk hg (by simpa using hsame)
      exact ⟨index, Nat.le_trans hindex (Nat.le_of_lt hk), hfirst⟩

end Called

theorem exists_getElem?_of_forall₂ {α β : Type} {r : α → β → Prop} {as : List α} {bs : List β}
    (h : List.Forall₂ r as bs) {i : Nat} {a : α} (ha : as[i]? = some a) :
    ∃ b, bs[i]? = some b ∧ r a b := by
  induction h generalizing i with
  | nil => cases ha
  | cons hab _ ih =>
    cases i with
    | zero =>
      cases ha
      exact ⟨_, rfl, hab⟩
    | succ i => exact ih ha

/-! ## The columns as they are asked for -/

/-- **The words of a clause name slots by labels.** Each word of a clause with aggregate columns asks for
the column at its place. The word for the count names the count of rows. A call names the first column
that has it for a label, in any letter case, and only so if no blanks stand in it; if the label of its
own column is the call, then there is such a first column, at its place or before it. -/
theorem slots_named_as_asked {s : Scope} {clause : String} {n m : Nat} {l : ExtraList}
    (h : (ExtraList.parse s clause).run n = (.ok l, m)) (haggregate : l.isAggregate = true) :
    ∀ i word, (askedNames clause)[i]? = some word → ∃ f, l.fields[i]? = some f ∧
      (f.projection = .count → SlotNamed l word .count) ∧
      (f.projection ≠ .count →
        (∀ index, SlotNamed l word (.extra index) ↔
          (∀ c ∈ word.toList, isBlank c = false) ∧ l.FirstCalled word index) ∧
        (sameLetters f.label word = true → ∃ index ≤ i, l.FirstCalled word index)) := by
  intro i word hword
  obtain ⟨f, hf, item, hread, k, k', hmade⟩ := exists_getElem?_of_forall₂ (forall₂_askedNames h) hword
  have hcolumn : f.isAggregate = true :=
    (ExtraList.isAggregate_of_parse h f (List.mem_of_getElem? hf)).trans haggregate
  refine ⟨f, hf, ?_⟩
  rcases word_of_aggregate hread hmade hcolumn with ⟨hcount, hn⟩ | ⟨hcall, function, field, hword⟩
  · refine ⟨fun _ => ?_, fun hne => absurd hcount hne⟩
    refine (slotNamed_iff haggregate (slotName_of_count hn)).mpr ?_
    rw [SortField.target?, if_pos hn]
  · refine ⟨fun hcount => absurd hcount hcall, fun _ => ⟨fun index => ?_, exists_firstCalled hf⟩⟩
    rw [← target?_eq_extra_iff (lower_ne_of_call? hword)]
    constructor
    · intro hnamed
      have hblank := hnamed.blank (exists_head_of_call? hword)
      exact ⟨hblank, (slotNamed_iff haggregate (slotName_of_call? hword hblank)).mp hnamed⟩
    · rintro ⟨hblank, htarget⟩
      exact (slotNamed_iff haggregate (slotName_of_call? hword hblank)).mpr htarget

/-- The count and an average that are asked for in capitals. -/
theorem shouted_words_name_slots :
    ∃ l, (ExtraList.parse (defaultScope .builtin .game) "x=N,-AVG(XL)").fresh = .ok l ∧
      SlotNamed l "N" .count ∧ SlotNamed l "AVG(XL)" (.extra 1) := by
  let count : ExtraField :=
    ⟨.count, .descending, ⟨.countRows, some "count_1"⟩, "N", some .integer⟩
  let average : ExtraField :=
    ⟨.aggregate "avg" "xl", .ascending, ⟨.apply "avg" ⟨some "lg", "xl"⟩, some "avg_xl_2"⟩, "avg(xl)",
      some .integer⟩
  let l : ExtraList := ⟨[count, average], "x=N,-AVG(XL)"⟩
  have hparse : (ExtraList.parse (defaultScope .builtin .game) "x=N,-AVG(XL)").fresh = .ok l := by
    decide +kernel
  have hnames := slots_named_as_asked (Naming.run_of_fresh hparse) rfl
  obtain ⟨f, hf, hcount, -⟩ := hnames 0 "N" (by decide)
  obtain ⟨g, hg, -, hcall⟩ := hnames 1 "AVG(XL)" (by decide)
  obtain rfl : count = f := Option.some.inj hf
  obtain rfl : average = g := Option.some.inj hg
  have hblank : ("AVG(XL)".toList.all fun c => !isBlank c) = true := by decide
  refine ⟨l, hparse, hcount rfl, ((hcall (by decide)).1 1).mpr
    ⟨by simpa using hblank, average, rfl, by decide, ?_⟩⟩
  intro k hk h hh
  obtain rfl : k = 0 := by omega
  obtain rfl : count = h := Option.some.inj hh
  decide

/-- **An alias names no slot**: a sort by the average that was asked for finds no column. -/
theorem alias_names_no_slot :
    ∃ l, (ExtraList.parse (defaultScope .builtin .game) "x=avg(turns)").fresh = .ok l ∧
      l.isAggregate = true ∧ l.fields.map ExtraField.label = ["avg(turn)"] ∧
      askedNames "x=avg(turns)" = ["avg(turns)"] ∧
      parseSorts l "o=avg(turns)" = .error (.unknownSort "avg(turns)") ∧
      RowFilter.parse? l "avg(turns)>5" = none := by
  let average : ExtraField :=
    ⟨.aggregate "avg" "turn", .descending,
      ⟨.apply "avg" ⟨some "lg", "turn"⟩, some "avg_turn_1"⟩, "avg(turn)", some .integer⟩
  let l : ExtraList := ⟨[average], "x=avg(turns)"⟩
  have hparse : (ExtraList.parse (defaultScope .builtin .game) "x=avg(turns)").fresh = .ok l := by
    decide +kernel
  exact ⟨l, hparse, rfl, rfl, by decide, by decide +kernel, by decide +kernel⟩

end GameLog
