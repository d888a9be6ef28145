import Mathlib.Algebra.Order.Field.Basic
import Mathlib.Tactic.Linarith
import ConsensusControl.Proofs.Consensus.Residuals
import ConsensusControl.Proofs.Sampling

namespace ConsensusControl.Trajectory

variable {t values : Vec Rat} {dim k : Nat} {time : Rat}

/-- Neighboring times of an increasing grid are too far apart to count as equal. -/
theorem span_of_isIncreasing (ht : isIncreasing t = true) (hk : k + 1 < t.length) :
    Scalar.timeTolerance < t.getD (k + 1) 0 - t.getD k 0 := by
  induction t generalizing k with
  | nil => simp at hk
  | cons a t ih =>
    cases t with
    | nil => simp at hk
    | cons b t =>
      rw [isIncreasing, Bool.and_eq_true, decide_eq_true_iff] at ht
      cases k with
      | zero => exact ht.1
      | succ k => exact ih ht.2 (by simpa using hk)

theorem timeTolerance_pos : (0 : Rat) < Scalar.timeTolerance := by decide +kernel

theorem pairwise_of_isIncreasing (ht : isIncreasing t = true) : t.Pairwise (· < ·) := by
  rw [← List.isChain_iff_pairwise, List.isChain_iff_getElem]
  intro k hk
  have hspan := lt_trans timeTolerance_pos (span_of_isIncreasing ht hk)
  rw [List.getD_eq_getElem _ _ hk, List.getD_eq_getElem _ _ (by omega)] at hspan
  exact sub_pos.mp hspan

/-- Over a span that counts, the share of the upper sample is the share of the time. -/
theorem weight_of_span {lower upper : Rat} (h : Scalar.timeTolerance < upper - lower) (time : Rat) :
    weight lower upper time = (time - lower) / (upper - lower) := by
  have hwide : ¬ Scalar.abs (upper - lower) < Scalar.timeTolerance := by
    rw [scalar_abs]
    exact not_lt.mpr (le_trans (le_of_lt h) (le_abs_self _))
  rw [weight, if_neg hwide]

theorem getD_blend {w : Rat} {a b : Vec Rat} (h : a.length = b.length) (c : Nat) :
    (blend w a b).getD c 0 = a.getD c 0 + w * (b.getD c 0 - a.getD c 0) := by
  by_cases hc : c < a.length
  · have hb : c < b.length := h ▸ hc
    simp [blend, List.getD_eq_getElem?_getD, hc, hb]
  · have hb : ¬ c < b.length := h ▸ hc
    simp [blend, List.getD_eq_getElem?_getD, hc, hb]

/-- A share between zero and one leads to a point between the two. -/
theorem blend_mem {w : Rat} {a b : Vec Rat} (h : a.length = b.length) (hlower : 0 ≤ w) (hupper : w ≤ 1)
    (c : Nat) : min (a.getD c 0) (b.getD c 0) ≤ (blend w a b).getD c 0 ∧
      (blend w a b).getD c 0 ≤ max (a.getD c 0) (b.getD c 0) := by
  rw [getD_blend h]
  generalize a.getD c 0 = x
  generalize b.getD c 0 = y
  rcases le_total x y with hxy | hyx
  · rw [min_eq_left hxy, max_eq_right hxy]
    constructor <;> nlinarith
  · rw [min_eq_right hyx, max_eq_left hyx]
    constructor <;> nlinarith

/-- Through the samples in straight lines, and constant before the first and after the last one. -/
structure PiecewiseLinear (t values : Vec Rat) (dim : Nat) (f : Rat → Vec Rat) : Prop where
  before : ∀ time, 0 < t.length → time ≤ t.getD 0 0 → f time = sample dim values 0
  after : ∀ time, 0 < t.length → t.getD (t.length - 1) 0 ≤ time →
    f time = sample dim values (t.length - 1)
  sampled : ∀ k, k < t.length → f (t.getD k 0) = sample dim values k
  line : ∀ k time, k + 1 < t.length → t.getD k 0 ≤ time → time ≤ t.getD (k + 1) 0 →
    f time = blend ((time - t.getD k 0) / (t.getD (k + 1) 0 - t.getD k 0)) (sample dim values k)
      (sample dim values (k + 1))
  between : ∀ k time c, k + 1 < t.length → t.getD k 0 ≤ time → time ≤ t.getD (k + 1) 0 →
    min ((sample dim values k).getD c 0) ((sample dim values (k + 1)).getD c 0) ≤ (f time).getD c 0 ∧
      (f time).getD c 0 ≤ max ((sample dim values k).getD c 0) ((sample dim values (k + 1)).getD c 0)

/-- On the closed interval between two times, both samples included. -/
theorem interpolate_line (ht : isIncreasing t = true) (hdim : dim ≠ 0)
    (hvalues : values.length = t.length * dim) (hk : k + 1 < t.length) (hlower : t.getD k 0 ≤ time)
    (hupper : time ≤ t.getD (k + 1) 0) :
    interpolate t values dim time =
      blend ((time - t.getD k 0) / (t.getD (k + 1) 0 - t.getD k 0)) (sample dim values k)
        (sample dim values (k + 1)) := by
  have hpairwise := pairwise_of_isIncreasing ht
  have hspan := span_of_isIncreasing ht hk
  rcases lt_or_eq_of_le hupper with hinside | rfl
  · rw [interpolate_between hpairwise hdim hvalues hk hlower hinside, weight_of_span hspan]
  · have hwide : t.getD (k + 1) 0 - t.getD k 0 ≠ 0 := ne_of_gt (lt_trans timeTolerance_pos hspan)
    have hfirst := length_sample_complete hvalues (show k < t.length by omega)
    have hsecond := length_sample_complete hvalues hk
    rw [interpolate_getD hpairwise hk hvalues, div_self hwide]
    apply List.ext_getElem
    · simp [blend, hfirst, hsecond]
    · intro i _ _
      simp [blend]

theorem piecewiseLinear_interpolate (ht : isIncreasing t = true) (hdim : dim ≠ 0)
    (hvalues : values.length = t.length * dim) :
    PiecewiseLinear t values dim (interpolate t values dim) where
  before time hpos htime := by
    have hne := List.ne_nil_of_length_pos hpos
    rw [interpolate_complete hdim hne hvalues, if_pos (.inr htime)]
  after time hpos htime :=
    interpolate_last (pairwise_of_isIncreasing ht) hdim (List.ne_nil_of_length_pos hpos) hvalues htime
  sampled k hk := interpolate_getD (pairwise_of_isIncreasing ht) hk hvalues
  line k time hk := interpolate_line ht hdim hvalues hk
  between k time c hk hlower hupper := by
    have hspan := lt_trans timeTolerance_pos (span_of_isIncreasing ht hk)
    have hfirst := length_sample_complete hvalues (show k < t.length by omega)
    have hsecond := length_sample_complete hvalues hk
    rw [interpolate_line ht hdim hvalues hk hlower hupper]
    apply blend_mem (hfirst.trans hsecond.symm)
    · exact div_nonneg (sub_nonneg.mpr hlower) (le_of_lt hspan)
    · rw [div_le_one hspan]
      exact sub_le_sub_right hupper _

/-- The value at a time is made of what is there: of zeros if there is no time or no complete sample, and
else of one complete sample, or of two that follow each other. -/
structure Guarded (t values : Vec Rat) (dim : Nat) (time : Rat) : Prop where
  found : interpolateWithin t values dim time = .ok (interpolate t values dim time)
  bracket : ∀ last, last = Nat.min t.length (values.length / dim) - 1 → last ≠ 0 →
    last < t.length ∧ 1 ≤ (bracket t last time).2 ∧ (bracket t last time).2 ≤ last ∧
      (bracket t last time).1 + 1 = (bracket t last time).2
  zeros : t = [] ∨ values.length < dim → interpolate t values dim time = Vec.zeros dim
  samples : t ≠ [] → dim ≤ values.length →
    (∃ k, k < t.length ∧ (k + 1) * dim ≤ values.length ∧
      interpolate t values dim time = sample dim values k) ∨
    ∃ k, k + 1 < t.length ∧ (k + 2) * dim ≤ values.length ∧
      interpolate t values dim time = blend (weight (t.getD k 0) (t.getD (k + 1) 0) time)
        (sample dim values k) (sample dim values (k + 1))

/-- The search may end anywhere, but what is made of it are two indices that follow each other. -/
theorem bracket_eq (t : Vec Rat) {last : Nat} (time : Rat) (h : last ≠ 0) :
    ∃ k, k + 1 ≤ last ∧ bracket t last time = (k, k + 1) := by
  obtain ⟨-, hhi⟩ := bracket_le t time h
  have hpos : 1 ≤ (bracket t last time).2 := Nat.le_max_left _ _
  have hlo : (bracket t last time).1 = (bracket t last time).2 - 1 := rfl
  refine ⟨(bracket t last time).1, by omega, Prod.ext rfl ?_⟩
  dsimp only
  omega

theorem guarded (t values : Vec Rat) (dim : Nat) (time : Rat) : Guarded t values dim time where
  found := interpolateWithin_eq t values dim time
  bracket last hlast hne := by
    have hmin : Nat.min t.length (values.length / dim) ≤ t.length := Nat.min_le_left _ _
    obtain ⟨k, hk, heq⟩ := bracket_eq t time hne
    rw [heq]
    exact ⟨by omega, by simp, hk, rfl⟩
  zeros h := by
    by_cases hdim : dim = 0
    · rw [interpolate, if_pos hdim, hdim]
      rfl
    · have hmissing : (t.isEmpty || decide (values.length < dim)) = true := by simpa using h
      rw [interpolate, if_neg hdim, if_pos hmissing]
  samples ht hvalues := by
    have hgrid : 0 < t.length := List.length_pos_iff.mpr ht
    by_cases hdim : dim = 0
    · refine .inl ⟨0, hgrid, by simp [hdim], ?_⟩
      rw [interpolate, if_pos hdim, hdim, sample, List.take_zero]
    have hcomplete : (t.isEmpty || decide (values.length < dim)) = false := by
      simp [ht, Nat.not_lt.mpr hvalues]
    have hmin : Nat.min t.length (values.length / dim) ≤ t.length := Nat.min_le_left _ _
    rw [interpolate, if_neg hdim, hcomplete, if_neg Bool.false_ne_true]
    dsimp only
    generalize hlast : Nat.min t.length (values.length / dim) - 1 = last
    have hwithin : ∀ k, k ≤ last → k < t.length ∧ (k + 1) * dim ≤ values.length := by
      intro k hk
      subst hlast
      exact ⟨by omega, sample_within hdim hvalues hk⟩
    split
    · exact .inl ⟨0, (hwithin 0 (by omega)).1, (hwithin 0 (by omega)).2, rfl⟩
    split
    · exact .inl ⟨last, (hwithin last (by omega)).1, (hwithin last (by omega)).2, rfl⟩
    next hinside _ =>
    rw [not_or] at hinside
    obtain ⟨k, hk, hbracket⟩ := bracket_eq t time hinside.1
    rw [hbracket]
    exact .inr ⟨k, (hwithin (k + 1) hk).1, (hwithin (k + 1) hk).2, rfl⟩

/-- On an increasing grid with a sample for every time, interpolation is piecewise linear, and on any
grid it looks up nothing that is not there. -/
theorem interpolate_follows_samples (t values : Vec Rat) (dim : Nat) :
    (isIncreasing t = true → 0 < dim → values.length = t.length * dim →
      PiecewiseLinear t values dim (interpolate t values dim)) ∧
    ∀ time, Guarded t values dim time :=
  ⟨fun ht hdim hvalues => piecewiseLinear_interpolate ht (Nat.ne_of_gt hdim) hvalues,
    guarded t values dim⟩

/-- Halfway between the second and the third time, and on a grid that runs backwards, with values for two
of its three times. -/
theorem interpolate_bent_line :
    (isIncreasing ([0, 1, 3] : Vec Rat) = true ∧ 0 < 2 ∧ ([2, 10, 4, 30, 8, -10] : Vec Rat).length = 3 * 2) ∧
    PiecewiseLinear [0, 1, 3] [2, 10, 4, 30, 8, -10] 2 (interpolate [0, 1, 3] [2, 10, 4, 30, 8, -10] 2) ∧
    interpolate [0, 1, 3] [2, 10, 4, 30, 8, -10] 2 (2 : Rat) = [6, 10] ∧
    Guarded [3, 1, 0] [2, 10, 4, 30] 2 5 ∧ interpolate [3, 1, 0] [2, 10, 4, 30] 2 (5 : Rat) = [4, 30] := by
  have hgrid : isIncreasing ([0, 1, 3] : Vec Rat) = true := by decide +kernel
  have hlinear := (interpolate_follows_samples [0, 1, 3] [2, 10, 4, 30, 8, -10] 2).1 hgrid (by omega) rfl
  exact ⟨⟨hgrid, by omega, rfl⟩, hlinear, by decide +kernel,
    (interpolate_follows_samples [3, 1, 0] [2, 10, 4, 30] 2).2 5, by decide +kernel⟩

end ConsensusControl.Trajectory
