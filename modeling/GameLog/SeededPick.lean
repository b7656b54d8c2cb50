import GameLog.Fetch

/-!
# Random rows by a seed

The place of a random row is settled by a seed: its bits are mixed, and what is left over after
division by the count of rows is the place. Main statement: `seededPick_range`, it is the place of a
row if there is one.
-/

namespace GameLog

/-- A word with its bits mixed. -/
def mixWord (x : UInt64) : UInt64 :=
  let x := (x + 0x9E3779B97F4A7C15)
  let x := (x ^^^ (x >>> 30)) * 0xBF58476D1CE4E5B9
  let x := (x ^^^ (x >>> 27)) * 0x94D049BB133111EB
  x ^^^ (x >>> 31)

/-- The place that a seed picks among so many rows. -/
def seededPick (seed : Nat) : Pick := fun count => (mixWord (UInt64.ofNat seed)).toNat % count

/-- A seed picks the place of a row if there is one. -/
theorem seededPick_range (seed : Nat) {count : Int} (h : 0 < count) :
    0 ≤ seededPick seed count ∧ seededPick seed count < count :=
  ⟨Int.emod_nonneg _ (by omega), Int.emod_lt_of_pos _ h⟩

end GameLog
