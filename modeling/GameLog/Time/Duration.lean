import GameLog.Text.Numeral

/-!
# Durations

A duration in seconds is written as hours, minutes and seconds. The hours are not cut off at a day.
-/

namespace GameLog.Time

open GameLog.Text

/-- A duration as `H:MM:SS`, behind a minus sign if it is negative. -/
def durationText (seconds : Int) : String :=
  let n := seconds.natAbs
  (if seconds < 0 then "-" else "") ++ natText (n / 3600) ++ ":" ++ paddedText 2 (n % 3600 / 60) ++
    ":" ++ paddedText 2 (n % 60)

end GameLog.Time
