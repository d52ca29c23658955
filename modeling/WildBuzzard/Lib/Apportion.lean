import Mathlib.Algebra.BigOperators.Group.List.Basic
import Mathlib.Algebra.Order.Ring.Int
import Mathlib.Tactic.Linarith

/-!
# Splitting an amount by cumulative division

An integer amount is handed out along a list of weights: when weights `before` have had their
shares, the amount handed out is `amount * before / total`, rounded toward zero, and a share is the
difference that one more weight makes.

**Every share has the sign of the amount** (`share_nonneg`, `share_nonpos`), and when all weights
have had theirs the whole amount is handed out (`given_total`): nothing is lost to rounding.
-/

namespace WildBuzzard.Lib.Apportion

/-- What has been handed out when the weights so far add up to `before`. -/
def given (amount total before : Int) : Int := (amount * before).tdiv total

/-- The share of one more weight. -/
def share (amount total before weight : Int) : Int :=
  given amount total (before + weight) - given amount total before

variable {amount total before weight : Int}

@[simp] lemma given_zero : given amount total 0 = 0 := by
  simp [given]

lemma given_total (h : total ≠ 0) : given amount total total = amount :=
  Int.mul_tdiv_cancel amount h

lemma given_neg : given (-amount) total before = -given amount total before := by
  rw [given, given, Int.neg_mul, Int.neg_tdiv]

lemma share_nonneg (hamount : 0 ≤ amount) (htotal : 0 < total) (hbefore : 0 ≤ before)
    (hweight : 0 ≤ weight) : 0 ≤ share amount total before weight := by
  have hle : amount * before ≤ amount * (before + weight) :=
    Int.mul_le_mul_of_nonneg_left (by omega) hamount
  have hstart : 0 ≤ amount * before := Int.mul_nonneg hamount hbefore
  have hmono : (amount * before).tdiv total ≤ (amount * (before + weight)).tdiv total := by
    rw [Int.tdiv_eq_ediv_of_nonneg hstart, Int.tdiv_eq_ediv_of_nonneg (hstart.trans hle)]
    exact Int.ediv_le_ediv htotal hle
  unfold share given
  omega

lemma share_nonpos (hamount : amount ≤ 0) (htotal : 0 < total) (hbefore : 0 ≤ before)
    (hweight : 0 ≤ weight) : share amount total before weight ≤ 0 := by
  have hneg : 0 ≤ share (-amount) total before weight :=
    share_nonneg (by omega) htotal hbefore hweight
  rw [share, given_neg, given_neg] at hneg
  unfold share
  omega

/-- No more is handed out than there is. -/
lemma given_natAbs_le (hbefore : 0 ≤ before) (hle : before ≤ total) :
    (given amount total before).natAbs ≤ amount.natAbs := by
  unfold given
  rw [Int.natAbs_tdiv, Int.natAbs_mul]
  refine Nat.div_le_of_le_mul ?_
  rw [Nat.mul_comm]
  exact Nat.mul_le_mul_right _ (by omega)

lemma share_natAbs_le (hbefore : 0 ≤ before) (hweight : 0 ≤ weight)
    (hle : before + weight ≤ total) :
    (share amount total before weight).natAbs ≤ 2 * amount.natAbs := by
  have hnext : (given amount total (before + weight)).natAbs ≤ amount.natAbs :=
    given_natAbs_le (by omega) hle
  have hlast : (given amount total before).natAbs ≤ amount.natAbs :=
    given_natAbs_le hbefore (by omega)
  unfold share
  omega

end WildBuzzard.Lib.Apportion
