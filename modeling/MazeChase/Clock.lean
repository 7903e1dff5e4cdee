import MazeChase.Fault

/-!
# The clock and the schedule of a game

Time is a 64-bit count of ticks. A tick is one round: every agent decides once, then the moves are
made. The configuration of a game fixes its seed, its length and how often it is recorded.

## Main definitions

* `Tick`, `Tick.after`, `Tick.since` — the clock, advanced and compared with its limits checked
* `Schedule`, `Schedule.isSnapshotTick` — the schedule of a game

## Main results

* `Tick.after_eq_ok_iff` — the clock advances exactly when the sum fits in 64 bits
* `Tick.next_of_lt` — short of the last tick there is a next one
* `Schedule.isSnapshotTick_iff` — snapshots are taken at the multiples of their interval
-/

namespace MazeChase

/-- A count of ticks since the start of a game. -/
structure Tick where
  /-- The number of ticks. -/
  count : UInt64
deriving DecidableEq, Repr

namespace Tick

/-- The first tick. -/
def zero : Tick := ⟨0⟩

/-- The tick `n` ticks after `t`. -/
def after (t : Tick) (n : UInt64) : Except Fault Tick :=
  if t.count.toNat + n.toNat < UInt64.size then .ok ⟨t.count + n⟩ else .error .additionOverflow

/-- The tick that follows `t`. -/
def next (t : Tick) : Except Fault Tick := t.after 1

/-- The number of ticks from `s` to `t`. -/
def since (t s : Tick) : Except Fault UInt64 :=
  if s.count ≤ t.count then .ok (t.count - s.count) else .error .subtractionOverflow

theorem after_eq_ok_iff {t u : Tick} {n : UInt64} :
    t.after n = .ok u ↔ u.count.toNat = t.count.toNat + n.toNat := by
  rcases u with ⟨u⟩
  have hu := u.toNat_lt_size
  simp only [after]
  split
  · next h =>
    have hsum : (t.count + n).toNat = t.count.toNat + n.toNat := by
      rw [UInt64.toNat_add, Nat.mod_eq_of_lt h]
    simp [← UInt64.toNat_inj, hsum, eq_comm]
  · next h => simp; omega

theorem next_eq_ok_iff {t u : Tick} : t.next = .ok u ↔ u.count.toNat = t.count.toNat + 1 :=
  after_eq_ok_iff

theorem next_of_lt {t : Tick} (h : t.count.toNat + 1 < UInt64.size) :
    t.next = .ok ⟨t.count + 1⟩ := by
  have hone : (1 : UInt64).toNat = 1 := rfl
  rw [next, after, if_pos (by omega)]

instance : Ord Tick := ⟨fun t u => compare t.count u.count⟩

instance : ToString Tick := ⟨fun t => s!"T{t.count.toNat}"⟩

end Tick

/-- The schedule of a game. -/
structure Schedule where
  /-- The seed from which every agent's generator is seeded. -/
  seed : UInt64 := 0
  /-- The tick at which a full run ends. -/
  totalTicks : UInt64 := 1000
  /-- A snapshot is taken every so many ticks; 0 turns snapshots off. -/
  snapshotInterval : UInt64 := 0
deriving DecidableEq, Repr

namespace Schedule

/-- The tick before which a full run plays. -/
def endTick (c : Schedule) : Tick := ⟨c.totalTicks⟩

/-- Whether a snapshot is taken at the end of tick `t`. -/
def isSnapshotTick (c : Schedule) (t : Tick) : Bool :=
  0 < c.snapshotInterval && t.count % c.snapshotInterval == 0

theorem isSnapshotTick_iff {c : Schedule} {t : Tick} :
    c.isSnapshotTick t = true ↔
      0 < c.snapshotInterval.toNat ∧ c.snapshotInterval.toNat ∣ t.count.toNat := by
  simp [isSnapshotTick, UInt64.lt_iff_toNat_lt, ← UInt64.toNat_inj, Nat.dvd_iff_mod_eq_zero]

end Schedule

end MazeChase
