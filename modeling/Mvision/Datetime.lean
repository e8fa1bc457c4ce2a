import Mathlib.Data.Int.Notation

/-! # Timestamps -/

namespace Mvision

/-- Microseconds since the epoch. -/
abbrev Timestamp := Int

def timedelta (seconds : Int) : Int := seconds * 1000000

end Mvision
