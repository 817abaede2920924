import Brix.Election.Machine
import Brix.Foundation.Narrowing

/-!
# How long an election has been in progress

`get_current_time_ms` returns the milliseconds since the epoch as an `int`, which keeps 32 bits of
them.  `start_time` and `current_wait_time` are `long`s, but the difference is one of two
narrowed readings: it is the time that has passed as long as no multiple of 2³² milliseconds lies
in between, counted from 2³¹ (`exactWait_iff`), and too small by 2³² for each that does
(`toInt_currentWaitTime`).

### What is load-bearing

Both readings are narrowed before they are subtracted, and the subtraction itself is made in 64
bits.  It therefore cannot overflow, and the only error is the number of times that the narrowed
clock has wrapped in between; `toInt_currentWaitTime` is that error, and both halves of the result
are read off it.
-/

namespace Brix

namespace Election

open Narrowing

/-- `get_current_time_ms`, for a count of the system clock. -/
def getCurrentTimeMs (count : Int64) : Int32 := count.toInt32

/-- `start_time`. -/
def startTime (count : Int64) : Int64 := (getCurrentTimeMs count).toInt64

/-- `current_wait_time` in `IN_PROGRESS`, for the counts at the start and now. -/
def currentWaitTime (start now : Int64) : Int64 :=
  (getCurrentTimeMs now).toInt64 - startTime start

/-- A turn in `IN_PROGRESS` in which nothing is received, so many milliseconds after the start. -/
def timeOut (m : Machine) (id : UInt32) (start now : Int64) : Machine × List Output :=
  m.branch id (.of none) (currentWaitTime start now).toInt .inProgress

/-- The waiting time is the time that has passed, and the election is won by waiting once that is
as long as it should be.

The second field is about the automaton and not about the clock: an election that is measured
wrongly is announced at the wrong time, or never. -/
structure ExactWait (start now : Int64) : Prop where
  elapsed : (currentWaitTime start now).toInt = now.toInt - start.toInt
  announced_iff : ∀ (m : Machine) (id : UInt32),
    .broadcast .coordAnnouncement ∈ (timeOut m id start now).2 ↔
      ANSWER_MAX_WAIT_TIME ≤ now.toInt - start.toInt

section Wait

variable {start now : Int64}

/-- The difference of the narrowed readings fits a `long`.

Each of them is between -2³¹ and 2³¹ - 1, so their difference is far from the ends of a `long`. -/
theorem toInt_currentWaitTime_bmod (start now : Int64) :
    (currentWaitTime start now).toInt
      = now.toInt.bmod (2 ^ 32) - start.toInt.bmod (2 ^ 32) := by
  have hstart : (startTime start).toInt = start.toInt.bmod (2 ^ 32) := by
    rw [startTime, getCurrentTimeMs, Int32.toInt_toInt64, Int64.toInt_toInt32]
  have hnow : (getCurrentTimeMs now).toInt64.toInt = now.toInt.bmod (2 ^ 32) := by
    rw [getCurrentTimeMs, Int32.toInt_toInt64, Int64.toInt_toInt32]
  have hrange : ∀ count : ℤ, -2 ^ 31 ≤ count.bmod (2 ^ 32) ∧ count.bmod (2 ^ 32) < 2 ^ 31 :=
    fun count => ⟨Int.le_bmod (by norm_num), Int.bmod_lt (by norm_num)⟩
  obtain ⟨hstartLow, hstartHigh⟩ := hrange start.toInt
  obtain ⟨hnowLow, hnowHigh⟩ := hrange now.toInt
  rw [currentWaitTime, Int64.toInt_sub, hstart, hnow]
  exact Int.bmod_eq_of_le (by omega) (by omega)

/-- **What the waiting time is**: too small by 2³² for every wrap of the narrowed clock. -/
theorem toInt_currentWaitTime (start now : Int64) :
    (currentWaitTime start now).toInt = now.toInt - start.toInt
      - 2 ^ 32 * (now.toInt.bdiv (2 ^ 32) - start.toInt.bdiv (2 ^ 32)) := by
  have hstart := Int.bdiv_add_bmod start.toInt (2 ^ 32)
  have hnow := Int.bdiv_add_bmod now.toInt (2 ^ 32)
  rw [toInt_currentWaitTime_bmod]
  omega

/-- The election is won by waiting if the waiting time says so. -/
theorem announced_timeOut_iff (m : Machine) (id : UInt32) :
    .broadcast .coordAnnouncement ∈ (timeOut m id start now).2 ↔
      ANSWER_MAX_WAIT_TIME ≤ (currentWaitTime start now).toInt := by
  have hturn : timeOut m id start now = Machine.handleInProgressTimeout
      { m with currentWaitTime := (currentWaitTime start now).toInt } := rfl
  rw [hturn, Machine.handleInProgressTimeout]
  split
  · rename_i hlong
    exact iff_of_true (List.mem_singleton_self _) hlong
  · rename_i hshort
    exact iff_of_false List.not_mem_nil hshort

end Wait

/-- **When the waiting time is exact**: if the clock has not wrapped since the start. -/
theorem exactWait_iff (start now : Int64) :
    ExactWait start now ↔ start.toInt.bdiv (2 ^ 32) = now.toInt.bdiv (2 ^ 32) := by
  have hwait := toInt_currentWaitTime start now
  constructor
  · intro h
    have helapsed := h.elapsed
    omega
  · intro hsame
    have helapsed : (currentWaitTime start now).toInt = now.toInt - start.toInt := by omega
    refine ⟨helapsed, fun m id => ?_⟩
    rw [announced_timeOut_iff, helapsed]

/-- **A wrap of the clock.**  One second after the start the waiting time is negative, and no
server wins by waiting. -/
theorem currentWaitTime_wrapped :
    (currentWaitTime 1763084075007 1763084076007).toInt
        ≠ (1763084076007 : Int64).toInt - (1763084075007 : Int64).toInt ∧
      ∀ (m : Machine) (id : UInt32), .broadcast .coordAnnouncement ∉
        (timeOut m id 1763084075007 1763084076007).2 := by
  refine ⟨by decide, fun m id => ?_⟩
  rw [announced_timeOut_iff]
  decide

end Election

end Brix
