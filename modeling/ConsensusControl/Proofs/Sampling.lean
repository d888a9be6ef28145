import Mathlib.Algebra.Order.Ring.Rat
import Mathlib.Data.List.GetD
import Mathlib.Tactic.Ring
import ConsensusControl.Proofs.Trajectory

namespace ConsensusControl.Trajectory

/-- Bisection finds the length of the initial part on which a predicate holds. -/
theorem searchFrom_eq {holds : Nat → Bool} {count base size : Nat} (hsize : 0 < size)
    (hlo : base ≤ count) (hhi : count ≤ base + size)
    (h : ∀ k, k < base + size → (holds k = true ↔ k < count)) :
    searchFrom holds base size = count := by
  fun_induction searchFrom holds base size with
  | case1 base size hlong mid ih =>
    by_cases hmid : holds mid = true
    · have hbelow : mid < count := (h mid (by omega)).mp hmid
      simp only [hmid, dite_eq_ite, if_true] at ih ⊢
      exact ih (by omega) (by omega) (by omega) fun k hk => h k (by omega)
    · have habove : ¬ mid < count := fun hlt => hmid ((h mid (by omega)).mpr hlt)
      simp only [hmid, dite_eq_ite, Bool.false_eq_true, if_false] at ih ⊢
      exact ih (by omega) (by omega) (by omega) fun k hk => h k (by omega)
  | case2 base size hshort hholds =>
    have hbelow : base < count := (h base (by omega)).mp hholds
    omega
  | case3 base size hshort hholds =>
    have habove : ¬ base < count := fun hlt => hholds ((h base (by omega)).mpr hlt)
    omega

variable {t values : Vec Rat} {dim k : Nat}

theorem getD_le_getD_iff (ht : t.Pairwise (· < ·)) {i : Nat} (hi : i < t.length) (hk : k < t.length) :
    t.getD i 0 ≤ t.getD k 0 ↔ i ≤ k := by
  rw [List.getD_eq_getElem _ _ hi, List.getD_eq_getElem _ _ hk]
  have hlt := List.pairwise_iff_getElem.mp ht
  constructor
  · intro hle
    by_contra hgt
    exact absurd (hlt k i hk hi (Nat.lt_of_not_le hgt)) (not_lt.mpr hle)
  · intro hle
    rcases Nat.lt_or_eq_of_le hle with hlower | rfl
    · exact le_of_lt (hlt i k hi hk hlower)
    · exact le_refl _

/-- The number of times up to a given one, if those are the first ones of the grid. -/
theorem countUpTo_eq {time : Rat} {count : Nat} (ht : t ≠ []) (hcount : count ≤ t.length)
    (h : ∀ i, i < t.length → (t.getD i 0 ≤ time ↔ i < count)) : countUpTo t time = count := by
  have hlength : 0 < t.length := List.length_pos_iff.mpr ht
  unfold countUpTo
  rw [List.isEmpty_eq_false_iff.mpr ht, if_neg Bool.false_ne_true]
  apply searchFrom_eq
  · exact hlength
  · omega
  · omega
  · intro i hi
    rw [decide_eq_true_iff]
    exact h i (by omega)

/-- The point between two samples that has the given share of the second. -/
def blend (w : Rat) (a b : Vec Rat) : Vec Rat := List.zipWith (fun a b => a + w * (b - a)) a b

theorem blend_zero {a b : Vec Rat} (h : a.length = b.length) : blend 0 a b = a := by
  apply List.ext_getElem
  · simp [blend, h]
  · intro i _ _
    simp [blend]

theorem blend_self (w : Rat) (a : Vec Rat) : blend w a a = a := by
  simp [blend, List.zipWith_self]

theorem weight_lower (lower upper : Rat) : weight lower upper lower = 0 := by
  unfold weight
  split
  · rfl
  · rw [sub_self, zero_div]

/-- A trajectory with a sample for every time. -/
theorem interpolate_complete (hdim : dim ≠ 0) (ht : t ≠ []) (hvalues : values.length = t.length * dim)
    (time : Rat) : interpolate t values dim time =
      if t.length - 1 = 0 ∨ time ≤ t.getD 0 0 then sample dim values 0
      else if t.getD (t.length - 1) 0 ≤ time then sample dim values (t.length - 1)
      else
        let (lo, hi) := bracket t (t.length - 1) time
        blend (weight (t.getD lo 0) (t.getD hi 0) time) (sample dim values lo) (sample dim values hi) := by
  have hlength : 0 < t.length := List.length_pos_iff.mpr ht
  have hcount : values.length / dim = t.length := by
    rw [hvalues, Nat.mul_div_cancel _ (Nat.pos_of_ne_zero hdim)]
  have hdimle : dim ≤ values.length := by
    rw [hvalues]
    exact Nat.le_mul_of_pos_left dim hlength
  have hcomplete : (t.isEmpty || decide (values.length < dim)) = false := by
    simp [ht, Nat.not_lt.mpr hdimle]
  have hmin : Nat.min t.length t.length = t.length := Nat.min_self _
  unfold interpolate
  rw [if_neg hdim, hcomplete, if_neg Bool.false_ne_true, hcount, hmin]
  rfl

theorem length_sample_complete (hvalues : values.length = t.length * dim) (hk : k < t.length) :
    (sample dim values k).length = dim := by
  apply length_sample
  rw [hvalues]
  exact Nat.mul_le_mul_right dim hk

/-- From its last time on, a trajectory has its last sample. -/
theorem interpolate_last (ht : t.Pairwise (· < ·)) (hdim : dim ≠ 0) (hne : t ≠ [])
    (hvalues : values.length = t.length * dim) {time : Rat} (h : t.getD (t.length - 1) 0 ≤ time) :
    interpolate t values dim time = sample dim values (t.length - 1) := by
  have hlength : 0 < t.length := List.length_pos_iff.mpr hne
  rw [interpolate_complete hdim hne hvalues]
  by_cases hfirst : t.length - 1 = 0 ∨ time ≤ t.getD 0 0
  · have hone : t.length - 1 = 0 := by
      rcases hfirst with hone | hstart
      · exact hone
      · exact Nat.le_zero.mp ((getD_le_getD_iff ht (by omega) hlength).mp (le_trans h hstart))
    rw [if_pos hfirst, hone]
  · rw [if_neg hfirst, if_pos h]

/-- From a time of its grid up to the next one, a trajectory goes from the one sample to the other. -/
theorem interpolate_between (ht : t.Pairwise (· < ·)) (hdim : dim ≠ 0)
    (hvalues : values.length = t.length * dim) (hk : k + 1 < t.length) {time : Rat}
    (hlower : t.getD k 0 ≤ time) (hupper : time < t.getD (k + 1) 0) :
    interpolate t values dim time =
      blend (weight (t.getD k 0) (t.getD (k + 1) 0) time) (sample dim values k)
        (sample dim values (k + 1)) := by
  have hne : t ≠ [] := List.ne_nil_of_length_pos (by omega)
  have hcount : countUpTo t time = k + 1 := by
    refine countUpTo_eq hne (by omega) fun i hi => ⟨fun hle => ?_, fun hle => ?_⟩
    · by_contra hbehind
      have hnext := (getD_le_getD_iff ht hk hi).mpr (Nat.not_lt.mp hbehind)
      exact absurd (lt_of_le_of_lt hle hupper) (not_lt.mpr hnext)
    · exact le_trans ((getD_le_getD_iff ht hi (by omega)).mpr (by omega)) hlower
  have hbracket : bracket t (t.length - 1) time = (k, k + 1) := by
    have hall : t.take (t.length - 1 + 1) = t := List.take_of_length_le (by omega)
    have hmin : Nat.min (t.length - 1) (k + 1) = k + 1 := Nat.min_eq_right (by omega)
    have hmax : Nat.max 1 (k + 1) = k + 1 := Nat.max_eq_right (by omega)
    simp only [bracket, hall, hcount, hmin, hmax, Nat.add_sub_cancel]
  rw [interpolate_complete hdim hne hvalues, hbracket]
  split
  · next hfirst =>
    -- Only at the very first time does the early exit answer, and there the share is zero.
    have hstart : time ≤ t.getD 0 0 := hfirst.resolve_left (by omega)
    obtain rfl : k = 0 :=
      Nat.le_zero.mp ((getD_le_getD_iff ht (by omega) (by omega)).mp (le_trans hlower hstart))
    rw [le_antisymm hstart hlower, weight_lower, blend_zero]
    rw [length_sample_complete hvalues (by omega), length_sample_complete hvalues hk]
  · rw [if_neg]
    intro hlast
    have hnext := (getD_le_getD_iff ht hk (by omega)).mpr (show k + 1 ≤ t.length - 1 by omega)
    exact absurd (lt_of_lt_of_le hupper (le_trans hnext hlast)) (lt_irrefl time)

/-- At a time of its grid, a trajectory has the sample of that time. -/
theorem interpolate_getD (ht : t.Pairwise (· < ·)) (hk : k < t.length)
    (hvalues : values.length = t.length * dim) :
    interpolate t values dim (t.getD k 0) = sample dim values k := by
  by_cases hdim : dim = 0
  · rw [interpolate, if_pos hdim, hdim, sample, List.take_zero]
  have hne : t ≠ [] := List.ne_nil_of_length_pos (by omega)
  by_cases hlast : k = t.length - 1
  · subst hlast
    exact interpolate_last ht hdim hne hvalues (le_refl _)
  · have hnext : k + 1 < t.length := by omega
    have hlt : t.getD k 0 < t.getD (k + 1) 0 := by
      rw [← not_le, getD_le_getD_iff ht hnext hk]
      omega
    rw [interpolate_between ht hdim hvalues hnext (le_refl _) hlt, weight_lower, blend_zero]
    rw [length_sample_complete hvalues hk, length_sample_complete hvalues hnext]

theorem getD_sample {c : Nat} (hc : c < dim) :
    (sample dim values k).getD c 0 = values.getD (k * dim + c) 0 := by
  simp [sample, List.getD_eq_getElem?_getD, hc]

/-- An entry of a trajectory belongs to one sample. -/
theorem sample_set (c : Nat) (y : Rat) :
    sample dim (values.set (k * dim + c) y) k = (sample dim values k).set c y := by
  have hlt : ¬ k * dim + c < k * dim := by omega
  rw [sample, sample, List.drop_set, if_neg hlt, Nat.add_sub_cancel_left, List.take_set]

end ConsensusControl.Trajectory
