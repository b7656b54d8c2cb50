/-!
# Bytes read as UTF-8

Any list of bytes is read as text: a well-formed sequence becomes its character, and each longest
part that starts like one but does not go on like one becomes a single replacement character.
Main statement: `decodeBytes_ascii`, bytes below 128 are read as themselves.
-/

namespace GameLog.Text

/-- What a first byte asks of the second, and how many more bytes follow that one. -/
structure Lead where
  bits : Nat
  low : Nat
  high : Nat
  more : Nat

/-- The demands of a first byte that starts a sequence of two to four bytes. -/
def lead? (b : Nat) : Option Lead :=
  if 0xC2 ≤ b && b ≤ 0xDF then some ⟨b - 0xC0, 0x80, 0xBF, 0⟩
  else if b == 0xE0 then some ⟨b - 0xE0, 0xA0, 0xBF, 1⟩
  else if b == 0xED then some ⟨b - 0xE0, 0x80, 0x9F, 1⟩
  else if 0xE1 ≤ b && b ≤ 0xEF then some ⟨b - 0xE0, 0x80, 0xBF, 1⟩
  else if b == 0xF0 then some ⟨b - 0xF0, 0x90, 0xBF, 2⟩
  else if 0xF1 ≤ b && b ≤ 0xF3 then some ⟨b - 0xF0, 0x80, 0xBF, 2⟩
  else if b == 0xF4 then some ⟨b - 0xF0, 0x80, 0x8F, 2⟩
  else none

/-- The code point after so many more tail bytes, if they are there, and the bytes left over. -/
def takeTails (code : Nat) : Nat → List UInt8 → Option Nat × List UInt8
  | 0, bytes => (some code, bytes)
  | _ + 1, [] => (none, [])
  | more + 1, b :: bytes =>
    if 0x80 ≤ b.toNat && b.toNat ≤ 0xBF then takeTails (code * 64 + (b.toNat - 0x80)) more bytes
    else (none, b :: bytes)

/-- Tail bytes only shorten what is left over. -/
theorem length_takeTails (code more : Nat) (bytes : List UInt8) :
    (takeTails code more bytes).2.length ≤ bytes.length := by
  induction more generalizing code bytes with
  | zero => simp [takeTails]
  | succ more ih =>
    cases bytes with
    | nil => simp [takeTails]
    | cons b bytes =>
      simp only [takeTails]
      split
      · exact Nat.le_succ_of_le (ih _ _)
      · simp

/-- The code point of a sequence behind its first byte, if it is well formed, and what follows. -/
def takeSequence (first : Nat) (bytes : List UInt8) : Option Nat × List UInt8 :=
  match lead? first, bytes with
  | some lead, b :: rest =>
    if lead.low ≤ b.toNat && b.toNat ≤ lead.high then
      takeTails (lead.bits * 64 + (b.toNat - 0x80)) lead.more rest
    else (none, bytes)
  | _, _ => (none, bytes)

theorem length_takeSequence (first : Nat) (bytes : List UInt8) :
    (takeSequence first bytes).2.length ≤ bytes.length := by
  unfold takeSequence
  split
  · split
    · exact Nat.le_succ_of_le (length_takeTails _ _ _)
    · simp
  · simp

/-- The characters of a list of bytes. -/
def decodeBytes : List UInt8 → List Char
  | [] => []
  | b :: bytes =>
    if b.toNat < 0x80 then Char.ofNat b.toNat :: decodeBytes bytes
    else
      have := length_takeSequence b.toNat bytes
      Char.ofNat ((takeSequence b.toNat bytes).1.getD 0xFFFD) ::
        decodeBytes (takeSequence b.toNat bytes).2
termination_by bytes => bytes.length
decreasing_by all_goals simp_wf <;> omega

/-- Bytes below 128 are read as themselves. -/
theorem decodeBytes_ascii (bytes : List UInt8) (h : ∀ b ∈ bytes, b.toNat < 0x80) :
    decodeBytes bytes = bytes.map fun b => Char.ofNat b.toNat := by
  induction bytes with
  | nil => simp [decodeBytes]
  | cons b bytes ih =>
    rw [decodeBytes, if_pos (h b (by simp)), ih fun c hc => h c (by simp [hc])]
    simp

/-- The text of a list of bytes. -/
def bytesText (bytes : List UInt8) : String := String.ofList (decodeBytes bytes)

end GameLog.Text
