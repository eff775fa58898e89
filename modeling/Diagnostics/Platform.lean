import Diagnostics.Number.Binary64

/-!
# What a machine can time

A machine keeps time in counters of a fixed width, so there are times that it cannot wait for and
limits that it cannot keep. Such a time is refused with an error, which is about the machine and
not about the run: nothing in a catalog or in the settings says how long is too long.

The numbers are a parameter. `Platform.posix` has those of a 64-bit machine whose clock counts
nanoseconds and whose polls count milliseconds in 32 bits; `Platform.replay` is a machine that only
plays back what was recorded, where time is never measured.
-/

set_option autoImplicit false

namespace Diagnostics

/-- Why a machine cannot keep a time that it is given. -/
inductive TimeError where
  /-- A wait goes beyond the clock. -/
  | beyondClock
  /-- A limit has more milliseconds than a poll takes. -/
  | tooLong
  /-- A limit has more milliseconds than the clock. -/
  | beyondTicks
  /-- A limit has no finite number of milliseconds. -/
  | infinite
  | notANumber
  deriving DecidableEq, Repr

namespace TimeError

def message : TimeError → String
  | .beyondClock => "timestamp out of range for platform time_t"
  | .tooLong => "timeout is too large"
  | .beyondTicks => "timestamp too large to convert to C _PyTime_t"
  | .infinite => "cannot convert float infinity to integer"
  | .notANumber => "cannot convert float NaN to integer"

/-- The longest time whose milliseconds are a finite binary64 number. -/
def longestFinite : Binary64 := Binary64.ofDecimal false 17976931348623156 289

/-- The longest time whose milliseconds the clock can hold. -/
def longestTicking : Binary64 := Binary64.ofDecimal false 9223372036854 (-3)

/-- What is wrong with a limit that is not within what a poll takes. It is turned into a whole
number of milliseconds first, then into a reading of the clock, and only then into a poll. -/
def ofLimit (seconds : Binary64) : TimeError :=
  if seconds.isNaN then .notANumber
  else if longestFinite < seconds then .infinite
  else if longestTicking < seconds then .beyondTicks
  else .tooLong

end TimeError

/-- What sets one machine apart from another. -/
structure Platform where
  /-- The longest wait that can be timed; none if every wait can. -/
  longestWait : Option Binary64
  /-- The longest limit for a program whose output is polled for; none if every limit is kept. -/
  longestPoll : Option Binary64
  /-- Programs hand their output over to be written for them, so that whoever starts a program
  learns if it is refused. Otherwise a program writes for itself and nobody else learns of it. -/
  relaysOutput : Bool
  deriving DecidableEq, Repr

namespace Platform

/-- A 64-bit machine: waits up to 2⁶³ nanoseconds, polls up to 2³¹ - 1 milliseconds. -/
def posix : Platform where
  longestWait := some (Binary64.ofDecimal false 9223372036854774 (-6))
  longestPoll := some (Binary64.ofDecimal false 2147483647 (-3))
  relaysOutput := false

/-- A machine that plays programs back. -/
def replay : Platform where
  longestWait := none
  longestPoll := none
  relaysOutput := true

/-- Why a wait cannot be timed. A wait that is not a number is over at once. -/
def waitError? (platform : Platform) (seconds : Binary64) : Option TimeError :=
  if platform.longestWait.any (· < seconds) then some .beyondClock else none

/-- Why the limit of a program whose output is polled for cannot be kept. -/
def pollError? (platform : Platform) (seconds : Binary64) : Option TimeError :=
  if platform.longestPoll.all (seconds ≤ ·) then none else some (.ofLimit seconds)

/-- A wait of so many seconds can be timed. -/
def CanWait (platform : Platform) (seconds : Binary64) : Prop :=
  platform.waitError? seconds = none

instance (platform : Platform) (seconds : Binary64) : Decidable (platform.CanWait seconds) :=
  inferInstanceAs (Decidable (_ = none))

end Platform

end Diagnostics
