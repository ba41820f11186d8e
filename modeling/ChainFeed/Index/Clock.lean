import ChainFeed.Text.Numeral

/-!
# Stamps of changes

An index stamps its changes with the time of a wall clock, which may stand still or step back. A
**change clock** makes the stamps strictly increasing all the same: each stamp is the reading of the
wall clock or, if that is not beyond the last stamp, the last stamp plus one. So no two changes of
an index share a stamp, and a reader that has seen every change up to a stamp asks for those behind
it.
-/

namespace ChainFeed

/-- The source of an index's stamps. -/
structure ChangeClock where
  /-- The last stamp given out, zero before the first. -/
  last : Nat
  deriving DecidableEq, Repr

namespace ChangeClock

/-- A clock that has given out no stamp. -/
def fresh : ChangeClock := ⟨0⟩

/-- The next stamp while the wall clock shows `now`. -/
def stamp (now : Nat) (clock : ChangeClock) : Nat :=
  max now (clock.last + 1)

/-- The clock after its next stamp. -/
def tick (now : Nat) (clock : ChangeClock) : ChangeClock :=
  ⟨clock.stamp now⟩

/-- A stamp is beyond every earlier one. -/
theorem last_lt_stamp (now : Nat) (clock : ChangeClock) : clock.last < clock.stamp now := by
  simp only [stamp]
  omega

/-- A stamp is not behind the wall clock. -/
theorem le_stamp (now : Nat) (clock : ChangeClock) : now ≤ clock.stamp now :=
  Nat.le_max_left _ _

end ChangeClock

/-- A wall clock that is set by hand, in milliseconds of 64 bits. -/
structure ManualClock where
  /-- What the clock shows. -/
  now : Nat
  deriving DecidableEq, Repr

namespace ManualClock

/-- The clock set to a time. -/
def set (time : Nat) (_ : ManualClock) : ManualClock := ⟨time⟩

/-- The clock moved on by a span, starting over at zero behind its last value. -/
def advance (span : Nat) (clock : ManualClock) : ManualClock :=
  ⟨(clock.now + span) % Text.word64⟩

end ManualClock

end ChainFeed
