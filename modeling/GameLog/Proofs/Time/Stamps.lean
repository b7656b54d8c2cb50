import GameLog.Proofs.Outcome
import GameLog.Proofs.Time.StoredForm

/-!
# Time stamps and the moments they are stored as

Whatever form a time stamp is read in, the moment it is stored as is the instant that it denotes, counted
in seconds. That moment can be stored, so that its text is read again as the same moment, and stored
texts are ordered as the instants.

Main statements:
* `read_eq_aborted_iff`: on which time stamps the run is aborted;
* `storable_of_read`: a moment that a time stamp is read as can be stored;
* `instant?_of_read`: it is the instant that the time stamp denotes;
* `stored_stamps_keep_time`: stored texts are stored as they are, and keep instants in their order.
-/

namespace GameLog.Time

open GameLog.Text

variable {raw : String} {cs : List Char} {m : Moment}

/-- The seconds from the start of 1970 to the instant that a time stamp denotes, by the first form that it
is read in. -/
def instant? (raw : String) : Option Int :=
  let cs := trimmed raw.toList
  let body := (cs.reverse.dropWhile isClockLetter).reverse
  ((stored? cs).map Moment.seconds).or (((internet? cs).map ClockReading.instant).or
    (if isStamp body then (stamp body).toOption.map Moment.seconds else readInt? (String.ofList cs)))

/-! ## Years of four digits -/

theorem lt_of_takeDigits? {count n : Nat} {rest : List Char}
    (h : takeDigits? count cs = some (n, rest)) : n < Nat.pow 10 count := by
  unfold takeDigits? readDigits? at h
  split at h
  · rename_i hlength
    split at h
    · rename_i hdigits
      simp only [Option.map_some, Option.some.injEq, Prod.mk.injEq] at h
      have hlt := digitsValue_lt (Bool.and_eq_true_iff.mp hdigits).2
      rw [hlength] at hlt
      rwa [← h.1]
    · cases h
  · cases h

theorem year_of_takeYear? {year : Int} {rest : List Char} (h : takeYear? cs = some (year, rest)) :
    -9999 ≤ year ∧ year ≤ 9999 := by
  unfold takeYear? at h
  split at h
  all_goals
    obtain ⟨⟨n, behind⟩, htake, heq⟩ := Option.map_eq_some_iff.mp h
    have hlt : n < 10000 := lt_of_takeDigits? htake
    obtain ⟨rfl, -⟩ := Prod.mk.inj heq
    omega

theorem storable_of_stored? (h : stored? cs = some m) : m.Storable := by
  simp only [stored?, Option.bind_eq_bind, Option.bind_eq_some_iff, Prod.exists] at h
  obtain ⟨year, behindYear, hyear, month, day, behindDay, -, behindBlank, -, hour, minute, second,
    behindSecond, -, h⟩ := h
  split at h
  · rename_i hvalid
    obtain rfl := Option.some.inj h
    obtain ⟨hlow, hhigh⟩ := year_of_takeYear? hyear
    simp only [Bool.and_eq_true] at hvalid
    exact ⟨Bool.and_eq_true_iff.mpr ⟨hvalid.1.2, hvalid.2⟩, hlow, hhigh⟩
  · cases h

theorem storable_of_stamp (hstamp : isStamp cs = true) (h : stamp cs = .ok m) : m.Storable := by
  obtain ⟨-, hdigits⟩ := Bool.and_eq_true_iff.mp hstamp
  have hyear : digitsValue ((cs.drop 0).take 4) < 10000 := by
    have hall : ((cs.drop 0).take 4).all Char.isDigit = true := List.all_eq_true.mpr fun c hc =>
      List.all_eq_true.mp hdigits c (List.mem_of_mem_drop (List.mem_of_mem_take hc))
    have hfour : Nat.pow 10 ((cs.drop 0).take 4).length ≤ Nat.pow 10 4 :=
      Nat.pow_le_pow_right (by decide) (List.length_take_le _ _)
    exact Nat.lt_of_lt_of_le (digitsValue_lt hall) hfour
  unfold stamp at h
  dsimp only at h
  split at h
  · cases h
  · split at h
    · cases h
    · rename_i hdate
      split at h
      · cases h
      · rename_i htime
        obtain rfl := Except.ok.inj h
        refine ⟨Bool.and_eq_true_iff.mpr ⟨by simpa using hdate, by simpa using htime⟩, ?_, ?_⟩
        · dsimp only
          omega
        · dsimp only
          omega

theorem storable_ofSeconds {n : Int} (h : secondsInRange n = true) : (Moment.ofSeconds n).Storable := by
  obtain ⟨hvalid, hseconds⟩ := Moment.ofSeconds_spec n
  rw [secondsInRange, Bool.and_eq_true, decide_eq_true_iff, decide_eq_true_iff, ← hseconds] at h
  refine ⟨hvalid, Int.not_lt.mp fun hlow => ?_, Int.not_lt.mp fun hhigh => ?_⟩
  · have := Moment.seconds_lt_of_parts hvalid (n := ⟨-9999, 1, 1, 0, 0, 0⟩) (by decide)
      (List.cons_lt_cons_iff.mpr (.inl hlow))
    omega
  · have := Moment.seconds_lt_of_parts (m := ⟨9999, 12, 31, 23, 59, 59⟩) (by decide) hvalid
      (List.cons_lt_cons_iff.mpr (.inl hhigh))
    omega

/-! ## Reading -/

/-- **How a time stamp is read**: in one of four forms, and in none of those in front of it. -/
inductive ReadAs (cs : List Char) (m : Moment) : Prop
  | stored (h : stored? cs = some m)
  | internet (hstored : stored? cs = none) {r : ClockReading} (h : internet? cs = some r)
    (hrange : secondsInRange r.instant = true) (hm : m = .ofSeconds r.instant)
  | stamp (hstored : stored? cs = none) (hinternet : internet? cs = none)
    (hstamp : isStamp (cs.reverse.dropWhile isClockLetter).reverse = true)
    (h : Time.stamp (cs.reverse.dropWhile isClockLetter).reverse = .ok m)
  | seconds (hstored : stored? cs = none) (hinternet : internet? cs = none)
    (hstamp : isStamp (cs.reverse.dropWhile isClockLetter).reverse = false) {n : Int}
    (h : readInt? (String.ofList cs) = some n) (hrange : secondsInRange n = true)
    (hm : m = .ofSeconds n)

theorem readAs_of_read (h : read raw = .ok m) : ReadAs (trimmed raw.toList) m := by
  unfold read at h
  dsimp only at h
  split at h
  · cases h
  · split at h
    · rename_i hstored
      exact .stored (hstored.trans (congrArg some (Except.ok.inj h)))
    · rename_i hstored
      split at h
      · rename_i r hinternet
        split at h
        · rename_i hrange
          exact .internet hstored hinternet hrange (Except.ok.inj h).symm
        · cases h
      · rename_i hinternet
        split at h
        · rename_i hstamp
          exact .stamp hstored hinternet hstamp (mapError_eq_ok.mp h)
        · rename_i hstamp
          split at h
          · rename_i n hseconds
            split at h
            · rename_i hrange
              exact .seconds hstored hinternet (Bool.eq_false_iff.mpr hstamp) hseconds hrange
                (Except.ok.inj h).symm
            · cases h
          · cases h

/-- **Reading aborts exactly on a clock reading whose instant lies in no year of four digits**, whatever
year the clock shows. -/
theorem read_eq_aborted_iff : read raw = .error .aborted ↔
    stored? (trimmed raw.toList) = none ∧
      ∃ r, internet? (trimmed raw.toList) = some r ∧ secondsInRange r.instant = false := by
  constructor
  · intro h
    unfold read at h
    dsimp only at h
    split at h
    · cases h
    · split at h
      · cases h
      · rename_i hstored
        split at h
        · rename_i r hinternet
          split at h
          · cases h
          · rename_i hrange
            exact ⟨hstored, r, hinternet, Bool.eq_false_iff.mpr hrange⟩
        · split at h
          · cases hstamp : stamp ((trimmed raw.toList).reverse.dropWhile isClockLetter).reverse <;>
              rw [hstamp] at h <;> cases h
          · split at h
            · split at h <;> cases h
            · cases h
  · rintro ⟨hstored, r, hinternet, hrange⟩
    have hne : (trimmed raw.toList).isEmpty = false := by
      cases hcs : trimmed raw.toList with
      | nil => rw [hcs] at hinternet; cases hinternet
      | cons c cs => rfl
    simp only [read, hne, hstored, hinternet, hrange, Bool.false_eq_true, if_false]

example : read "9999-12-31T23:59:59-01:00" = .error .aborted := by rfl

/-- **A moment that a time stamp is read as can be stored.** -/
theorem storable_of_read (h : read raw = .ok m) : m.Storable := by
  cases readAs_of_read h with
  | stored h => exact storable_of_stored? h
  | internet _ _ hrange hm => exact hm ▸ storable_ofSeconds hrange
  | stamp _ _ hstamp h => exact storable_of_stamp hstamp h
  | seconds _ _ _ _ hrange hm => exact hm ▸ storable_ofSeconds hrange

/-- **A time stamp is read as the instant that it denotes.** -/
theorem instant?_of_read (h : read raw = .ok m) : instant? raw = some m.seconds := by
  rw [instant?]
  cases readAs_of_read h with
  | stored h => simp only [h, Option.map_some, Option.some_or]
  | internet hstored h _ hm =>
    simp only [hstored, h, Option.map_none, Option.map_some, Option.none_or, Option.some_or, hm,
      (Moment.ofSeconds_spec _).2]
  | stamp hstored hinternet hstamp h =>
    simp only [hstored, hinternet, hstamp, h, Option.map_none, Option.none_or, if_true]
    rfl
  | seconds hstored hinternet hstamp h _ hm =>
    simp only [hstored, hinternet, hstamp, h, Option.map_none, Option.none_or, hm,
      (Moment.ofSeconds_spec _).2, Bool.false_eq_true, if_false]

/-! ## Storing -/

/-- **A time stamp is stored as a text that stays**: it is read as a moment that can be stored, which is the
instant that it denotes, and so is the text. -/
structure StoredAs (raw stored : String) (m : Moment) : Prop where
  read : Time.read raw = .ok m
  instant : instant? raw = some m.seconds
  stays : normal stored = .ok stored
  readAgain : Time.read stored = .ok m
  sameInstant : instant? stored = some m.seconds

theorem exists_storedAs {stored : String} (h : normal raw = .ok stored) :
    ∃ m : Moment, m.Storable ∧ stored = m.text ∧ StoredAs raw stored m := by
  rw [normal] at h
  cases hread : Time.read raw with
  | error e =>
    rw [hread] at h
    cases h
  | ok m =>
    rw [hread] at h
    obtain rfl : m.text = stored := Except.ok.inj h
    have hstorable := storable_of_read hread
    have hagain := Moment.read_text hstorable
    exact ⟨m, hstorable, rfl, hread, instant?_of_read hread, by rw [normal, hagain]; rfl, hagain,
      instant?_of_read hagain⟩

/-- **Stored texts stay as they are, and keep instants in their order**: what a time stamp is stored as is
stored as itself and denotes the same instant, and of two time stamps of the years 0 to 9999 the earlier is
stored as the text with the smaller bytes. Those of one instant are stored as one text. -/
theorem stored_stamps_keep_time {raw raw' stored stored' : String} (h : normal raw = .ok stored)
    (h' : normal raw' = .ok stored') :
    ∃ m m' : Moment, StoredAs raw stored m ∧ StoredAs raw' stored' m' ∧
      (0 ≤ m.year ∧ m.year ≤ 9999 → 0 ≤ m'.year ∧ m'.year ≤ 9999 →
        (m.seconds < m'.seconds ↔ utf8 stored < utf8 stored')) ∧
      (m.seconds = m'.seconds ↔ stored = stored') := by
  obtain ⟨m, hm, rfl, hstored⟩ := exists_storedAs h
  obtain ⟨m', hm', rfl, hstored'⟩ := exists_storedAs h'
  refine ⟨m, m', hstored, hstored', fun hyear hyear' => ?_, ?_⟩
  · rw [Moment.utf8_text_lt_iff hm hm' hyear.1 hyear'.1]
  · rw [Moment.seconds_inj hm.valid hm'.valid, Moment.text_inj hm hm']

/-- A second in one time zone and the next one in a log file are kept in their order. -/
theorem next_second_keeps_time :
    normal "2010-06-23T17:30:01.5+02:00" = .ok "2010-06-23 15:30:01" ∧
      normal "20100523153002S" = .ok "2010-06-23 15:30:02" ∧
      StoredAs "2010-06-23T17:30:01.5+02:00" "2010-06-23 15:30:01" ⟨2010, 6, 23, 15, 30, 1⟩ ∧
      StoredAs "20100523153002S" "2010-06-23 15:30:02" ⟨2010, 6, 23, 15, 30, 2⟩ ∧
      utf8 "2010-06-23 15:30:01" < utf8 "2010-06-23 15:30:02" := by
  have h : normal "2010-06-23T17:30:01.5+02:00" = .ok "2010-06-23 15:30:01" :=
    ok_of_toOption (by decide +kernel)
  have h' : normal "20100523153002S" = .ok "2010-06-23 15:30:02" := ok_of_toOption (by decide +kernel)
  obtain ⟨m, m', hstored, hstored', horder, -⟩ := stored_stamps_keep_time h h'
  obtain rfl : (⟨2010, 6, 23, 15, 30, 1⟩ : Moment) = m :=
    Except.ok.inj ((ok_of_toOption (by decide +kernel)).symm.trans hstored.read)
  obtain rfl : (⟨2010, 6, 23, 15, 30, 2⟩ : Moment) = m' :=
    Except.ok.inj ((ok_of_toOption (by decide +kernel)).symm.trans hstored'.read)
  exact ⟨h, h', hstored, hstored', (horder (by decide) (by decide)).mp (by decide)⟩

end GameLog.Time
