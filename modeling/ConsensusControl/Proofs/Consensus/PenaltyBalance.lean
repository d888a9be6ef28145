import Mathlib.Algebra.Order.Archimedean.Basic
import Mathlib.Data.Rat.Floor
import Mathlib.Tactic.Linarith
import ConsensusControl.Consensus.Penalty
import ConsensusControl.Proofs.Options

namespace ConsensusControl

theorem Checked.clamp_eq {x lo hi : Rat} (h : lo ≤ hi) :
    Checked.clamp x lo hi = .ok (max lo (min hi x)) := by
  have hroom : Checked.require (lo ≤ hi) .emptyInterval = .ok () := Checked.require_eq_ok.mpr h
  refine bind_eq_ok.mpr ⟨(), hroom, congrArg Except.ok ?_⟩
  by_cases hlow : x < lo
  · rw [if_pos hlow, min_eq_right (le_trans (le_of_lt hlow) h), max_eq_left (le_of_lt hlow)]
  by_cases hhigh : hi < x
  · rw [if_neg hlow, if_pos hhigh, min_eq_left (le_of_lt hhigh), max_eq_right h]
  · rw [if_neg hlow, if_neg hhigh, min_eq_right (not_lt.mp hhigh), max_eq_right (not_lt.mp hlow)]

namespace Options

variable {o : Options Rat} {primal primal' dual dual' penalty penalty' : Rat}

/-- A balanced penalty, moved between the bounds. -/
def adapted (o : Options Rat) (primal dual penalty : Rat) : Rat :=
  max o.penaltyMin (min o.penaltyMax (o.balance primal dual penalty))

/-- The value that a penalty goes to under residuals that stay the same. -/
def balanced (o : Options Rat) (primal dual penalty : Rat) : Rat :=
  if o.residualRatio * dual < primal then o.penaltyMax
  else if o.residualRatio * primal < dual then o.penaltyMin
  else max o.penaltyMin (min o.penaltyMax penalty)

theorem adapted_le_adapted
    (h : o.balance primal dual penalty ≤ o.balance primal' dual' penalty') :
    o.adapted primal dual penalty ≤ o.adapted primal' dual' penalty' :=
  max_le_max (le_refl _) (min_le_min (le_refl _) h)

namespace Valid

variable (h : o.Valid)
include h

theorem bounds_le : o.penaltyMin ≤ o.penaltyMax := le_trans h.penaltyInit.1 h.penaltyInit.2

theorem adapt_eq (primal dual penalty : Rat) :
    o.adaptPenaltyParameter primal dual penalty = .ok (o.adapted primal dual penalty) :=
  Checked.clamp_eq h.bounds_le

theorem adapted_mem (primal dual penalty : Rat) :
    o.penaltyMin ≤ o.adapted primal dual penalty ∧ o.adapted primal dual penalty ≤ o.penaltyMax :=
  ⟨le_max_left _ _, max_le h.bounds_le (min_le_left _ _)⟩

theorem le_ratio_mul (hprimal : 0 ≤ primal) : primal ≤ o.residualRatio * primal :=
  le_mul_of_one_le_left hprimal h.residualRatio

/-- A ratio of at least one lets one residual dominate only. -/
theorem not_lowered_of_raised (hprimal : 0 ≤ primal) (hdual : 0 ≤ dual)
    (hraised : o.residualRatio * dual < primal) : ¬ o.residualRatio * primal < dual := by
  have hleft := h.le_ratio_mul hprimal
  have hright := h.le_ratio_mul hdual
  linarith

theorem le_raise (hpenalty : 0 < penalty) : penalty ≤ penalty * o.penaltyIncrease :=
  le_mul_of_one_le_right (le_of_lt hpenalty) (le_of_lt h.penaltyIncrease)

theorem lower_le (hpenalty : 0 < penalty) : penalty / o.penaltyDecrease ≤ penalty :=
  div_le_self (le_of_lt hpenalty) (le_of_lt h.penaltyDecrease)

theorem balance_le_raise (hpenalty : 0 < penalty) (primal dual : Rat) :
    o.balance primal dual penalty ≤ penalty * o.penaltyIncrease := by
  unfold balance
  split
  · exact le_refl _
  split
  · exact le_trans (h.lower_le hpenalty) (h.le_raise hpenalty)
  · exact h.le_raise hpenalty

theorem lower_le_balance (hpenalty : 0 < penalty) (primal dual : Rat) :
    penalty / o.penaltyDecrease ≤ o.balance primal dual penalty := by
  unfold balance
  split
  · exact le_trans (h.lower_le hpenalty) (h.le_raise hpenalty)
  split
  · exact le_refl _
  · exact h.lower_le hpenalty

/-- Unless the dual residual dominates, the penalty is not lowered. -/
theorem le_balance (hpenalty : 0 < penalty) (hdual : ¬ o.residualRatio * primal < dual) :
    penalty ≤ o.balance primal dual penalty := by
  by_cases hraised : o.residualRatio * dual < primal
  · rw [balance, if_pos hraised]
    exact h.le_raise hpenalty
  · rw [balance, if_neg hraised, if_neg hdual]

/-- Unless the primal residual dominates, the penalty is not raised. -/
theorem balance_le (hpenalty : 0 < penalty) (hprimal : ¬ o.residualRatio * dual < primal) :
    o.balance primal dual penalty ≤ penalty := by
  rw [balance, if_neg hprimal]
  split
  · exact h.lower_le hpenalty
  · exact le_refl _

theorem ratio_pos : 0 < o.residualRatio := lt_of_lt_of_le one_pos h.residualRatio

theorem decrease_pos : 0 < o.penaltyDecrease := lt_trans one_pos h.penaltyDecrease

theorem balance_mono_primal (hprimal : 0 ≤ primal) (hdual : 0 ≤ dual) (hpenalty : 0 < penalty)
    (hle : primal ≤ primal') : o.balance primal dual penalty ≤ o.balance primal' dual penalty := by
  by_cases hraised : o.residualRatio * dual < primal'
  · rw [balance.eq_def o primal', if_pos hraised]
    exact h.balance_le_raise hpenalty _ _
  by_cases hlowered : o.residualRatio * primal < dual
  · have hfirst : ¬ o.residualRatio * dual < primal := fun hlt =>
      h.not_lowered_of_raised hprimal hdual hlt hlowered
    rw [balance, if_neg hfirst, if_pos hlowered]
    exact h.lower_le_balance hpenalty _ _
  · have hfirst : ¬ o.residualRatio * dual < primal := fun hlt => hraised (lt_of_lt_of_le hlt hle)
    have hstep : o.residualRatio * primal ≤ o.residualRatio * primal' :=
      mul_le_mul_of_nonneg_left hle (le_of_lt h.ratio_pos)
    have hsecond : ¬ o.residualRatio * primal' < dual := fun hlt => hlowered (lt_of_le_of_lt hstep hlt)
    exact le_trans (h.balance_le hpenalty hfirst) (h.le_balance hpenalty hsecond)

theorem balance_anti_dual (hpenalty : 0 < penalty) (hle : dual ≤ dual') :
    o.balance primal dual' penalty ≤ o.balance primal dual penalty := by
  have hstep : o.residualRatio * dual ≤ o.residualRatio * dual' :=
    mul_le_mul_of_nonneg_left hle (le_of_lt h.ratio_pos)
  by_cases hraised : o.residualRatio * dual < primal
  · rw [balance.eq_def o primal dual, if_pos hraised]
    exact h.balance_le_raise hpenalty _ _
  have hfirst : ¬ o.residualRatio * dual' < primal := fun hlt => hraised (lt_of_le_of_lt hstep hlt)
  by_cases hlowered : o.residualRatio * primal < dual'
  · rw [balance, if_neg hfirst, if_pos hlowered]
    exact h.lower_le_balance hpenalty _ _
  · have hsecond : ¬ o.residualRatio * primal < dual := fun hlt => hlowered (lt_of_lt_of_le hlt hle)
    exact le_trans (h.balance_le hpenalty hfirst) (h.le_balance hpenalty hsecond)

/-- The residuals alone decide what is done to a penalty, so the order of two penalties is kept. -/
theorem balance_mono_penalty (hle : penalty ≤ penalty') :
    o.balance primal dual penalty ≤ o.balance primal dual penalty' := by
  have hincrease : 0 ≤ o.penaltyIncrease := le_of_lt (lt_trans one_pos h.penaltyIncrease)
  have hdecrease : 0 ≤ o.penaltyDecrease := le_of_lt h.decrease_pos
  unfold balance
  split
  · exact mul_le_mul_of_nonneg_right hle hincrease
  split
  · exact div_le_div_of_nonneg_right hle hdecrease
  · exact hle

end Valid

/-- How an adapted penalty follows the residuals and the penalty that it comes from. -/
structure Follows (o : Options Rat) (primal dual penalty : Rat) : Prop where
  result : o.adaptPenaltyParameter primal dual penalty = .ok (o.adapted primal dual penalty)
  bounds : o.penaltyMin ≤ o.adapted primal dual penalty ∧ o.adapted primal dual penalty ≤ o.penaltyMax
  mono_primal : ∀ primal', primal ≤ primal' →
    o.adapted primal dual penalty ≤ o.adapted primal' dual penalty
  anti_dual : ∀ dual', dual ≤ dual' → o.adapted primal dual' penalty ≤ o.adapted primal dual penalty
  mono_penalty : ∀ penalty', penalty ≤ penalty' →
    o.adapted primal dual penalty ≤ o.adapted primal dual penalty'
  raised : o.penaltyMin ≤ penalty → penalty ≤ o.penaltyMax → dual ≤ primal →
    penalty ≤ o.adapted primal dual penalty
  lowered : o.penaltyMin ≤ penalty → penalty ≤ o.penaltyMax → primal ≤ dual →
    o.adapted primal dual penalty ≤ penalty

theorem Valid.follows (h : o.Valid) (hprimal : 0 ≤ primal) (hdual : 0 ≤ dual) (hpenalty : 0 < penalty) :
    o.Follows primal dual penalty where
  result := h.adapt_eq primal dual penalty
  bounds := h.adapted_mem primal dual penalty
  mono_primal _ hle := adapted_le_adapted (h.balance_mono_primal hprimal hdual hpenalty hle)
  anti_dual _ hle := adapted_le_adapted (h.balance_anti_dual hpenalty hle)
  mono_penalty _ hle := adapted_le_adapted (h.balance_mono_penalty hle)
  raised _ hupper hle := by
    have hratio : ¬ o.residualRatio * primal < dual :=
      not_lt.mpr (le_trans hle (h.le_ratio_mul hprimal))
    exact le_max_of_le_right (le_min hupper (h.le_balance hpenalty hratio))
  lowered hlower _ hle := by
    have hratio : ¬ o.residualRatio * dual < primal :=
      not_lt.mpr (le_trans hle (h.le_ratio_mul hdual))
    exact max_le hlower (min_le_of_right_le (h.balance_le hpenalty hratio))

/-- Adapts a penalty to the same residuals a number of times. -/
def adaptTimes (o : Options Rat) (primal dual : Rat) : Nat → Rat → Checked Rat
  | 0, penalty => .ok penalty
  | n + 1, penalty => do adaptTimes o primal dual n (← o.adaptPenaltyParameter primal dual penalty)

/-- A factor above one gets a sequence beyond every bound, however close to one it is. -/
theorem reaches_of_growth {a : Nat → Rat} {c start bound : Rat} (hc : 1 < c) (hstart : 0 < start)
    (hfirst : start ≤ a 0) (hbound : 0 < bound) (hstep : ∀ m, min bound (a m * c) ≤ a (m + 1)) :
    ∃ n, ∀ m, n ≤ m → bound ≤ a m := by
  have hpos : 0 < c := lt_trans one_pos hc
  have hgrowth : ∀ m, min bound (start * c ^ m) ≤ a m := by
    intro m
    induction m with
    | zero => simpa using Or.inr hfirst
    | succ m ih =>
      refine le_trans (le_min (min_le_left _ _) ?_) (hstep m)
      rcases min_le_iff.mp ih with hreached | hgrown
      · have hkept : bound ≤ a m * c :=
          le_trans hreached (le_mul_of_one_le_right (le_trans (le_of_lt hbound) hreached) (le_of_lt hc))
        exact le_trans (min_le_left _ _) hkept
      · have hnext : start * c ^ m * c ≤ a m * c := mul_le_mul_of_nonneg_right hgrown (le_of_lt hpos)
        rw [pow_succ, ← mul_assoc]
        exact le_trans (min_le_right _ _) hnext
  obtain ⟨n, hn⟩ := pow_unbounded_of_one_lt (bound / start) hc
  refine ⟨n, fun m hm => ?_⟩
  have hpower : bound / start ≤ c ^ m := le_trans (le_of_lt hn) (pow_le_pow_right₀ (le_of_lt hc) hm)
  have hbeyond : bound ≤ start * c ^ m := by
    rwa [div_le_iff₀ hstart, mul_comm] at hpower
  rw [← min_eq_left hbeyond]
  exact hgrowth m

/-- A lowered penalty, unless a bound stops it, has an inverse that grew by the factor. -/
theorem min_inv_le_inv_clamp {lo hi c y : Rat} (hhi : 0 < hi) (hc : 0 < c) (hy : 0 < y) :
    min lo⁻¹ (y⁻¹ * c) ≤ (max lo (min hi (y / c)))⁻¹ := by
  have hinverse : y⁻¹ * c = (y / c)⁻¹ := by rw [inv_div, div_eq_inv_mul]
  have hquotient : 0 < y / c := div_pos hy hc
  rw [hinverse]
  rcases le_total lo (min hi (y / c)) with hkept | hstopped
  · rw [max_eq_right hkept]
    exact min_le_of_right_le (inv_anti₀ (lt_min hhi hquotient) (min_le_right _ _))
  · rw [max_eq_left hstopped]
    exact min_le_left _ _

namespace Valid

variable (h : o.Valid)
include h

theorem adaptTimes_eq (primal dual : Rat) (n : Nat) (penalty : Rat) :
    o.adaptTimes primal dual n penalty = .ok ((o.adapted primal dual)^[n] penalty) := by
  induction n generalizing penalty with
  | zero => rfl
  | succ n ih => exact bind_eq_ok.mpr ⟨_, h.adapt_eq primal dual penalty, ih _⟩

theorem reaches_max (hraised : o.residualRatio * dual < primal) (start : Rat) :
    ∃ n, ∀ m, n ≤ m → (o.adapted primal dual)^[m + 1] start = o.penaltyMax := by
  have hreached : ∃ n, ∀ m, n ≤ m → o.penaltyMax ≤ (o.adapted primal dual)^[m + 1] start := by
    apply reaches_of_growth h.penaltyIncrease h.penaltyMin.1 _ h.penaltyMax.1
    · intro m
      rw [Function.iterate_succ_apply' _ (m + 1), adapted.eq_def o primal dual, balance, if_pos hraised]
      exact le_max_right _ _
    · exact (h.adapted_mem _ _ _).1
  obtain ⟨n, hn⟩ := hreached
  refine ⟨n, fun m hm => le_antisymm ?_ (hn m hm)⟩
  rw [Function.iterate_succ_apply']
  exact (h.adapted_mem _ _ _).2

/-- Lowering a penalty is raising its inverse. -/
theorem reaches_min (hraised : ¬ o.residualRatio * dual < primal)
    (hlowered : o.residualRatio * primal < dual) (start : Rat) :
    ∃ n, ∀ m, n ≤ m → (o.adapted primal dual)^[m + 1] start = o.penaltyMin := by
  have hmin := h.penaltyMin.1
  have hmax := h.penaltyMax.1
  have hlower : ∀ m, o.penaltyMin ≤ (o.adapted primal dual)^[m + 1] start := by
    intro m
    rw [Function.iterate_succ_apply']
    exact (h.adapted_mem _ _ _).1
  have hreached : ∃ n, ∀ m, n ≤ m →
      (o.penaltyMin)⁻¹ ≤ ((o.adapted primal dual)^[m + 1] start)⁻¹ := by
    apply reaches_of_growth h.penaltyDecrease (inv_pos.mpr hmax) _ (inv_pos.mpr hmin)
    · intro m
      have hpos : 0 < (o.adapted primal dual)^[m + 1] start := lt_of_lt_of_le hmin (hlower m)
      rw [Function.iterate_succ_apply' _ (m + 1), adapted.eq_def o primal dual, balance, if_neg hraised,
        if_pos hlowered]
      exact min_inv_le_inv_clamp hmax h.decrease_pos hpos
    · exact inv_anti₀ (lt_of_lt_of_le hmin (h.adapted_mem _ _ _).1) (h.adapted_mem _ _ _).2
  obtain ⟨n, hn⟩ := hreached
  refine ⟨n, fun m hm => le_antisymm ?_ (hlower m)⟩
  exact (inv_le_inv₀ hmin (lt_of_lt_of_le hmin (hlower m))).mp (hn m hm)

/-- Residuals that are in balance keep what is between the bounds. -/
theorem keeps_clamped (hraised : ¬ o.residualRatio * dual < primal)
    (hlowered : ¬ o.residualRatio * primal < dual) (start : Rat) (m : Nat) :
    (o.adapted primal dual)^[m + 1] start = max o.penaltyMin (min o.penaltyMax start) := by
  have hclamp : ∀ x, o.adapted primal dual x = max o.penaltyMin (min o.penaltyMax x) := by
    intro x
    rw [adapted, balance, if_neg hraised, if_neg hlowered]
  induction m with
  | zero => exact hclamp start
  | succ m ih =>
    have hupper : max o.penaltyMin (min o.penaltyMax start) ≤ o.penaltyMax :=
      max_le h.bounds_le (min_le_left _ _)
    rw [Function.iterate_succ_apply', ih, hclamp, min_eq_right hupper, max_eq_right (le_max_left _ _)]

theorem settles (primal dual start : Rat) :
    ∃ n, ∀ m, n ≤ m → (o.adapted primal dual)^[m + 1] start = o.balanced primal dual start := by
  by_cases hraised : o.residualRatio * dual < primal
  · rw [balanced, if_pos hraised]
    exact h.reaches_max hraised start
  by_cases hlowered : o.residualRatio * primal < dual
  · rw [balanced, if_neg hraised, if_pos hlowered]
    exact h.reaches_min hraised hlowered start
  · rw [balanced, if_neg hraised, if_neg hlowered]
    exact ⟨0, fun m _ => h.keeps_clamped hraised hlowered start m⟩

end Valid

theorem adaptation_balances (hvalid : o.validate = .ok ()) (hprimal : 0 ≤ primal) (hdual : 0 ≤ dual) :
    (∀ penalty, 0 < penalty → o.Follows primal dual penalty) ∧
      ∀ start, ∃ n, ∀ m, n ≤ m → o.adaptTimes primal dual m start = .ok (o.balanced primal dual start) := by
  have h := validate_eq_ok.mp hvalid
  refine ⟨fun penalty hpenalty => h.follows hprimal hdual hpenalty, fun start => ?_⟩
  obtain ⟨n, hn⟩ := h.settles primal dual start
  refine ⟨n + 1, fun m hm => ?_⟩
  obtain ⟨k, rfl⟩ : ∃ k, m = k + 1 := ⟨m - 1, by omega⟩
  rw [h.adaptTimes_eq, hn k (by omega)]

/-- A primal residual far beyond the dual one takes the default penalty to its upper bound. -/
theorem default_balances : (default : Options Rat).validate = .ok () ∧
    (∀ penalty, 0 < penalty → (default : Options Rat).Follows 50 2 penalty) ∧
      ∀ start, ∃ n, ∀ m, n ≤ m → (default : Options Rat).adaptTimes 50 2 m start = .ok 1000 := by
  have hvalid : (default : Options Rat).validate = .ok () := by decide +kernel
  have hlimit : ∀ start, (default : Options Rat).balanced 50 2 start = 1000 := fun start => by
    have hraised : (default : Options Rat).residualRatio * 2 < 50 := by decide +kernel
    exact if_pos hraised
  have hprimal : (0 : Rat) ≤ 50 := by decide
  have hdual : (0 : Rat) ≤ 2 := by decide
  obtain ⟨hfollows, hsettles⟩ := adaptation_balances hvalid hprimal hdual
  refine ⟨hvalid, hfollows, fun start => ?_⟩
  rw [← hlimit start]
  exact hsettles start

end Options

end ConsensusControl
