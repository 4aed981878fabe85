import MediaGateway.Clock
import Mathlib.Algebra.Group.Nat.Defs

/-!
# An anchored clock keeps pace

A clock converts the wall time as a whole, from its origin, and adds a constant. So what rounding loses
does not add up: from its anchor on, the clock is never further ahead than the time that has passed,
in full units, and one unit more. The one unit is what the remainders of two spans make together.

All of this is about times whose products with the rate fit into a word. At rates up to a million these
are all the times that a wall clock shows.
-/

namespace MediaGateway

theorem Overflow.breaksOff_iff {o : Overflow} {a b : Nat} :
    o.breaksOff a b = true ↔ o = .stops ∧ 2 ^ 64 ≤ a * b := by
  simp [breaksOff, UInt64.size]

namespace MediaClock

variable (c : MediaClock)

/-! ## Words -/

theorem toNat_unitsAt (rate : UInt32) (millis : Nat) :
    (unitsAt rate millis).toNat = millis * rate.toNat % 2 ^ 64 / 1000 := by
  simp [unitsAt, UInt64.toNat_div, UInt64.toNat_mul]

theorem toUnits_of_fits {millis : Nat} (h : millis * c.rate.toNat < 2 ^ 64) :
    c.toUnits millis = millis * c.rate.toNat / 1000 := by
  unfold toUnits
  rw [toNat_unitsAt, Nat.mod_eq_of_lt h]

theorem toMillis_of_fits {units : Nat} (h : units * 1000 < 2 ^ 64) :
    c.toMillis units = units * 1000 / c.rate.toNat := by
  have hrate : c.rate.toUInt64.toNat = c.rate.toNat := c.rate.toNat_toUInt64
  have hproduct : (UInt64.ofNat units * 1000).toNat = units * 1000 := by
    simp only [UInt64.toNat_mul, UInt64.toNat_ofNat']
    exact (Nat.mod_mul_mod units 1000 (2 ^ 64)).trans (Nat.mod_eq_of_lt h)
  unfold toMillis
  rw [UInt64.toNat_div, hproduct, hrate]

/-! ## Timestamp units -/

theorem toUnits_mono {m n : Nat} (h : m ≤ n) (hn : n * c.rate.toNat < 2 ^ 64) :
    c.toUnits m ≤ c.toUnits n := by
  have hproducts : m * c.rate.toNat ≤ n * c.rate.toNat := Nat.mul_le_mul_right c.rate.toNat h
  rw [c.toUnits_of_fits (Nat.lt_of_le_of_lt hproducts hn), c.toUnits_of_fits hn]
  exact Nat.div_le_div_right hproducts

/-- Two spans are together as many units as each of them, and one more if their remainders make up a
full one. -/
theorem toUnits_add {m n : Nat} (h : (m + n) * c.rate.toNat < 2 ^ 64) :
    c.toUnits (m + n) = c.toUnits m + c.toUnits n +
      if 1000 ≤ m * c.rate.toNat % 1000 + n * c.rate.toNat % 1000 then 1 else 0 := by
  have hsum := Nat.add_mul m n c.rate.toNat
  rw [c.toUnits_of_fits h, c.toUnits_of_fits (by omega), c.toUnits_of_fits (by omega), hsum,
    Nat.add_div (by decide)]

/-! ## Milliseconds as units, and back -/

section Back

variable {millis : Nat} (h : millis * c.rate.toNat < 2 ^ 64)
include h

/-- The product on the way back is no larger than the one on the way there. -/
theorem toMillis_toUnits :
    c.toMillis (c.toUnits millis) = millis * c.rate.toNat / 1000 * 1000 / c.rate.toNat := by
  have hrounded := Nat.div_mul_le_self (millis * c.rate.toNat) 1000
  rw [c.toUnits_of_fits h, c.toMillis_of_fits (Nat.lt_of_le_of_lt hrounded h)]

theorem toMillis_toUnits_le : c.toMillis (c.toUnits millis) ≤ millis := by
  rw [c.toMillis_toUnits h]
  apply Nat.div_le_of_le_mul
  rw [Nat.mul_comm c.rate.toNat millis]
  exact Nat.div_mul_le_self _ 1000

/-- At a rate of a unit per millisecond or more, rounding to units takes less than a millisecond. -/
theorem le_toMillis_toUnits (hrate : 1000 ≤ c.rate.toNat) :
    millis ≤ c.toMillis (c.toUnits millis) + 1 := by
  rw [c.toMillis_toUnits h]
  cases millis with
  | zero => exact Nat.zero_le _
  | succ before =>
    have hrounded : (before + 1) * c.rate.toNat < (before + 1) * c.rate.toNat / 1000 * 1000 + 1000 :=
      Nat.lt_div_mul_add (by decide)
    have hunits : before * c.rate.toNat ≤ (before + 1) * c.rate.toNat / 1000 * 1000 := by
      rw [Nat.succ_mul] at hrounded ⊢
      omega
    have hbefore : before ≤ (before + 1) * c.rate.toNat / 1000 * 1000 / c.rate.toNat :=
      (Nat.le_div_iff_mul_le c.rate_pos).2 hunits
    omega

/-- At a whole number of units per millisecond nothing is rounded. -/
theorem toMillis_toUnits_of_dvd (hrate : 1000 ∣ c.rate.toNat) :
    c.toMillis (c.toUnits millis) = millis := by
  have hunits : millis * c.rate.toNat / 1000 * 1000 = millis * c.rate.toNat :=
    Nat.div_mul_cancel (Nat.dvd_mul_left_of_dvd hrate millis)
  rw [c.toMillis_toUnits h, hunits]
  exact Nat.mul_div_cancel millis c.rate_pos

end Back

/-! ## Readings -/

theorem read_synchronize (start now : Nat) (timestamp : UInt32) :
    (c.synchronize start timestamp).read now =
      timestamp.toNat + (c.toUnits now - c.toUnits start : Int) := by
  show (c.toUnits now : Int) + (timestamp.toNat - c.toUnits start) = _
  omega

/-- A clock that was anchored at `start` reads the timestamp then, does not run backwards, and is
ahead of the timestamp by the units of the time since, or by one more. There and back, milliseconds
become no more, at most one less at a rate of 1000 or above, and no less at a multiple of 1000. This
is so for times whose products with the rate fit into a word. -/
theorem anchored_clock_keeps_pace (timestamp : UInt32) {start now : Nat} (h : start ≤ now)
    (hfits : now * c.rate.toNat < 2 ^ 64) :
    let anchored := c.synchronize start timestamp
    let passed := (now - start) * c.rate.toNat / 1000
    anchored.read start = timestamp.toNat ∧
    (∀ later, now ≤ later → later * c.rate.toNat < 2 ^ 64 →
      anchored.read now ≤ anchored.read later) ∧
    (anchored.read now = timestamp.toNat + passed ∨
      anchored.read now = timestamp.toNat + passed + 1) ∧
    ∀ millis, millis * c.rate.toNat < 2 ^ 64 →
      c.toMillis (c.toUnits millis) ≤ millis ∧
      (1000 ≤ c.rate.toNat → millis ≤ c.toMillis (c.toUnits millis) + 1) ∧
      (1000 ∣ c.rate.toNat → c.toMillis (c.toUnits millis) = millis) := by
  intro anchored passed
  refine ⟨?_, ?_, ?_, fun millis hmillis => ⟨c.toMillis_toUnits_le hmillis,
    c.le_toMillis_toUnits hmillis, c.toMillis_toUnits_of_dvd hmillis⟩⟩
  · rw [read_synchronize]
    omega
  · intro later hlater hword
    have hunits := c.toUnits_mono hlater hword
    rw [read_synchronize, read_synchronize]
    omega
  · -- The wall time is the time of the anchor and what has passed since.
    obtain ⟨span, rfl⟩ := Nat.exists_eq_add_of_le h
    have hunits := c.toUnits_add hfits
    have hsum := Nat.add_mul start span c.rate.toNat
    have hpassed : c.toUnits span = passed := by
      rw [c.toUnits_of_fits (by omega)]
      simp only [passed, Nat.add_sub_cancel_left]
    rw [read_synchronize, hunits, hpassed]
    split <;> omega

/-- From 39 to 40 milliseconds a clock at 11025 units per second moves by 12 units, one more than the
11 that are full in a millisecond. -/
theorem anchored_clock_keeps_pace_across_remainder :
    let c := make 11025
    let anchored := c.synchronize 39 4294967295
    (39 ≤ 40 ∧ 40 * c.rate.toNat < 2 ^ 64) ∧
    anchored.read 39 = 4294967295 ∧ anchored.read 40 = 4294967295 + 11 + 1 ∧
    anchored.read 40 ≤ anchored.read 1000000 ∧ 40 ≤ c.toMillis (c.toUnits 40) + 1 := by
  intro c anchored
  have hfits : 40 * c.rate.toNat < 2 ^ 64 := by decide
  obtain ⟨hstart, hlater, hahead, hback⟩ :=
    anchored_clock_keeps_pace c 4294967295 (show 39 ≤ 40 by decide) hfits
  have hpassed : (40 - 39) * c.rate.toNat / 1000 = 11 := by decide
  have hodd : anchored.read 40 ≠ 4294967295 + 11 := by decide
  rw [hpassed] at hahead
  exact ⟨⟨by decide, hfits⟩, hstart, hahead.resolve_left hodd,
    hlater 1000000 (by decide) (by decide), (hback 40 hfits).2.1 (by decide)⟩

end MediaClock

end MediaGateway
