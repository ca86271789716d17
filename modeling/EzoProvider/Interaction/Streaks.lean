import Mathlib.Data.Nat.Basic

/-!
# Streaks

How long a property has held without a break, counted position by position, and
the first position at which a streak is long enough.
-/

namespace EzoProvider.Interaction

/-- How many positions in a row, up to the one before `position`, satisfy `holds`. -/
def streak (holds : Nat → Bool) : Nat → Nat
  | 0 => 0
  | position + 1 => if holds position then streak holds position + 1 else 0

section Streaks

variable {holds other : Nat → Bool} {position count : Nat}

theorem streak_succ_of_holds (here : holds position = true) :
    streak holds (position + 1) = streak holds position + 1 :=
  if_pos here

theorem streak_succ_of_breaks (here : holds position = false) :
    streak holds (position + 1) = 0 := by
  simp [streak, here]

/-- A streak is at least so long when the property holds at so many last positions. -/
theorem le_streak_iff :
    count ≤ streak holds position ↔
      count ≤ position ∧ ∀ back < count, holds (position - 1 - back) = true := by
  induction position generalizing count with
  | zero =>
      simp only [streak, Nat.le_zero]
      constructor
      · rintro rfl
        exact ⟨rfl, by simp⟩
      · exact And.left
  | succ position ih =>
      cases count with
      | zero => simp
      | succ count =>
          cases here : holds position with
          | false =>
              rw [streak_succ_of_breaks here]
              constructor
              · intro impossible
                omega
              · rintro ⟨_, all⟩
                have last := all 0 (by omega)
                simp [here] at last
          | true =>
              rw [streak_succ_of_holds here, Nat.add_le_add_iff_right, ih]
              constructor
              · rintro ⟨within, all⟩
                refine ⟨by omega, fun back below => ?_⟩
                cases back with
                | zero => simpa using here
                | succ back =>
                    have earlier := all back (by omega)
                    rwa [show position + 1 - 1 - (back + 1) = position - 1 - back by omega]
              · rintro ⟨within, all⟩
                refine ⟨by omega, fun back below => ?_⟩
                have earlier := all (back + 1) (by omega)
                rwa [show position + 1 - 1 - (back + 1) = position - 1 - back by omega] at earlier

/-- A streak looks at the positions before it only. -/
theorem streak_congr (same : ∀ earlier < position, holds earlier = other earlier) :
    streak holds position = streak other position := by
  induction position with
  | zero => rfl
  | succ position ih =>
      rw [streak, streak, same position (Nat.lt_succ_self _),
        ih fun earlier below => same earlier (Nat.lt_succ_of_lt below)]

end Streaks

end EzoProvider.Interaction
