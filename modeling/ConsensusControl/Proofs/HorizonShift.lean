import ConsensusControl.Proofs.Consensus.Fitting
import ConsensusControl.Proofs.Interpolation

namespace ConsensusControl

namespace Trajectory

variable {β : Type} {values : List β} {n dim k : Nat}

/-- The samples move up by one, and the last one stays. -/
theorem sample_shiftSamples (hn : 2 ≤ n) (hvalues : values.length = n * dim) (hk : k < n) :
    sample dim (shiftSamples dim values) k = sample dim values (min (k + 1) (n - 1)) := by
  by_cases hdim : dim = 0
  · rw [hdim, sample, sample, List.take_zero, List.take_zero]
  obtain ⟨m, rfl⟩ := Nat.exists_eq_add_of_le' hn
  have hlong : ¬ (dim = 0 ∨ values.length ≤ dim) := by
    have hpos : 0 < dim := Nat.pos_of_ne_zero hdim
    rw [hvalues, Nat.add_mul]
    omega
  have hrest : (values.drop dim).length = (m + 1) * dim := by
    rw [List.length_drop, hvalues, Nat.succ_mul (m + 1), Nat.add_sub_cancel]
  have hlast : values.length - dim = (m + 1) * dim := by rw [← hrest, List.length_drop]
  rw [shiftSamples, if_neg hlong, hlast]
  by_cases hend : k = m + 1
  · subst hend
    have hmin : min (m + 1 + 1) (m + 2 - 1) = m + 1 := by omega
    rw [hmin, sample, sample, ← hrest, List.drop_left]
  · have hmin : min (k + 1) (m + 2 - 1) = k + 1 := by omega
    have hinside : (k + 1) * dim ≤ (values.drop dim).length := by
      rw [hrest]
      exact Nat.mul_le_mul_right dim (by omega)
    have hstart : k * dim + dim ≤ (values.drop dim).length := Nat.succ_mul k dim ▸ hinside
    rw [hmin, sample, sample, List.drop_append_of_le_length (by omega),
      List.take_append_of_le_length (by rw [List.length_drop]; omega), List.drop_drop, Nat.succ_mul,
      Nat.add_comm dim]

variable {t0 dt time : Rat} {values : Vec Rat}

theorem getD_uniformGrid (t0 dt : Rat) (hk : k < n) : (uniformGrid t0 dt n).getD k 0 = t0 + k * dt := by
  simp [uniformGrid, List.getD_eq_getElem?_getD, hk]

/-- From the start of a grid on, a time is behind its end or between two of its times. -/
theorem exists_interval (dt : Rat) (hn : 0 < n) (h : t0 ≤ time) :
    (∃ k, k + 1 < n ∧ t0 + k * dt ≤ time ∧ time < t0 + (k + 1 : Nat) * dt) ∨
      t0 + (n - 1 : Nat) * dt ≤ time := by
  obtain ⟨m, rfl⟩ := Nat.exists_eq_add_of_lt hn
  induction m with
  | zero => exact .inr (by simpa using h)
  | succ m ih =>
    rcases ih (by omega) with ⟨k, hk, hinterval⟩ | hend
    · exact .inl ⟨k, by omega, hinterval⟩
    · have hm : 0 + m + 1 - 1 = m := by omega
      rw [hm] at hend
      by_cases hnext : time < t0 + (m + 1 : Nat) * dt
      · exact .inl ⟨m, by omega, hend, hnext⟩
      · have hm' : 0 + (m + 1) + 1 - 1 = m + 1 := by omega
        rw [hm']
        exact .inr (not_lt.mp hnext)

section Shift

variable (hdt : Scalar.timeTolerance < dt) (hvalues : values.length = n * dim) (hdim : dim ≠ 0)
include hdt hvalues hdim

/-- From the last time of a uniform grid on, the trajectory has its last sample. -/
theorem interpolate_uniform_last (hn : 0 < n) (htime : t0 + (n - 1 : Nat) * dt ≤ time) :
    interpolate (uniformGrid t0 dt n) values dim time = sample dim values (n - 1) := by
  have hpairwise := pairwise_of_isIncreasing (isIncreasing_uniformGrid hdt t0 n)
  have hlength : values.length = (uniformGrid t0 dt n).length * dim := by rwa [length_uniformGrid]
  have hne : uniformGrid t0 dt n ≠ [] := List.ne_nil_of_length_pos (by rwa [length_uniformGrid])
  have hlast : (uniformGrid t0 dt n).getD ((uniformGrid t0 dt n).length - 1) 0 ≤ time := by
    rwa [length_uniformGrid, getD_uniformGrid _ _ (by omega)]
  rw [interpolate_last hpairwise hdim hne hlength hlast, length_uniformGrid]

/-- On an interval of a uniform grid, the trajectory goes from the one sample to the other. -/
theorem interpolate_uniform_between (hk : k + 1 < n) (hlower : t0 + k * dt ≤ time)
    (hupper : time < t0 + (k + 1 : Nat) * dt) :
    interpolate (uniformGrid t0 dt n) values dim time =
      blend (weight (t0 + k * dt) (t0 + (k + 1 : Nat) * dt) time) (sample dim values k)
        (sample dim values (k + 1)) := by
  have hpairwise := pairwise_of_isIncreasing (isIncreasing_uniformGrid hdt t0 n)
  have hlength : values.length = (uniformGrid t0 dt n).length * dim := by rwa [length_uniformGrid]
  have hfirst := getD_uniformGrid t0 dt (show k < n by omega)
  have hsecond := getD_uniformGrid t0 dt hk
  rw [← hfirst] at hlower ⊢
  rw [← hsecond] at hupper ⊢
  exact interpolate_between hpairwise hdim hlength (by rwa [length_uniformGrid]) hlower hupper

/-- From its old last time on, a shifted trajectory has its last sample as well. -/
theorem interpolate_shift_last (hn : 2 ≤ n) (htime : t0 + (n - 1 : Nat) * dt ≤ time) :
    interpolate (uniformGrid (t0 + dt) dt n) (shiftSamples dim values) dim time =
      sample dim values (n - 1) := by
  have hlength : (shiftSamples dim values).length = n * dim := by rwa [length_shiftSamples]
  have hstep : t0 + dt + ((n - 2 : Nat) : Rat) * dt = t0 + ((n - 1 : Nat) : Rat) * dt := by
    rw [show n - 1 = n - 2 + 1 by omega]
    push_cast
    ring
  have hend : min (n - 1 + 1) (n - 1) = n - 1 := by omega
  by_cases hlate : t0 + dt + (n - 1 : Nat) * dt ≤ time
  · rw [interpolate_uniform_last hdt hlength hdim (by omega) hlate,
      sample_shiftSamples hn hvalues (by omega), hend]
  · -- The last interval of the new grid leads from the last sample to its repetition.
    have hsecond : n - 2 + 1 = n - 1 := by omega
    have hupper : time < t0 + dt + (n - 2 + 1 : Nat) * dt := by
      rw [hsecond]
      exact not_le.mp hlate
    rw [interpolate_uniform_between hdt hlength hdim (by omega) (by rwa [hstep]) hupper, hsecond,
      sample_shiftSamples hn hvalues (by omega), sample_shiftSamples hn hvalues (by omega), hsecond, hend,
      Nat.min_self, blend_self]

/-- From its second time on, a shifted trajectory is the same as before. -/
theorem interpolate_shift (hn : 2 ≤ n) (htime : t0 + dt ≤ time) :
    interpolate (uniformGrid (t0 + dt) dt n) (shiftSamples dim values) dim time =
      interpolate (uniformGrid t0 dt n) values dim time := by
  have hlength : (shiftSamples dim values).length = n * dim := by rwa [length_shiftSamples]
  have hnext : ∀ k : Nat, t0 + dt + k * dt = t0 + (k + 1 : Nat) * dt := by
    intro k
    push_cast
    ring
  have hrest : 0 < n - 1 := by omega
  rcases exists_interval dt hrest htime with ⟨k, hk, hlower, hupper⟩ | hend
  · -- Interval `k` of the new grid is interval `k + 1` of the old one.
    have hfirst : min (k + 1) (n - 1) = k + 1 := by omega
    have hsecond : min (k + 1 + 1) (n - 1) = k + 1 + 1 := by omega
    rw [interpolate_uniform_between hdt hlength hdim (by omega) hlower hupper,
      sample_shiftSamples hn hvalues (by omega), sample_shiftSamples hn hvalues (by omega), hfirst, hsecond,
      hnext, hnext]
    rw [hnext] at hlower hupper
    rw [interpolate_uniform_between hdt hvalues hdim (by omega) hlower hupper]
  · rw [hnext, show n - 1 - 1 + 1 = n - 1 by omega] at hend
    rw [interpolate_shift_last hdt hvalues hdim hn hend,
      interpolate_uniform_last hdt hvalues hdim (by omega) hend]

end Shift

theorem interpolate_none (t values : Vec Rat) (time : Rat) : interpolate t values 0 time = [] :=
  if_pos rfl

theorem step_of_isIncreasing (hn : 2 ≤ n) (h : isIncreasing (uniformGrid t0 dt n) = true) :
    Scalar.timeTolerance < dt := by
  have hspan := span_of_isIncreasing (k := 0) h (by rw [length_uniformGrid]; omega)
  rw [getD_uniformGrid _ _ (by omega), getD_uniformGrid _ _ (by omega)] at hspan
  simpa using hspan

end Trajectory

namespace Record

variable {family : Family} {r r' : Record family Rat} {n : Nat} {shape : Shape} {t0 dt : Rat}

/-- All channels at a time. -/
def values (r : Record family Rat) (shape : Shape) (time : Rat) : Vec Rat × Vec Rat × Vec Rat :=
  (r.interpolateX shape.nx time, r.interpolateU shape.nu time, r.interpolateV shape.nv time)

/-- Sample `k` of all channels. -/
def valuesAt (r : Record family Rat) (shape : Shape) (k : Nat) : Vec Rat × Vec Rat × Vec Rat :=
  (Trajectory.sample shape.nx r.x k, Trajectory.sample shape.nu r.u k, Trajectory.sample shape.nv r.v k)

/-- The second record has as many samples and starts a step later on the uniform grid of the first. From
there on both have the same values, and from the last time of the first on they hold its last ones. -/
structure Continues (r r' : Record family Rat) (n : Nat) (shape : Shape) (t0 dt : Rat) : Prop where
  hasShape : r'.hasShape n shape = true
  start : r'.t0 = r.t0 + dt
  grid : r'.t = Trajectory.uniformGrid (t0 + dt) dt n
  values : ∀ time, t0 + dt ≤ time → r'.values shape time = r.values shape time
  held : ∀ time, t0 + (n - 1 : Nat) * dt ≤ time →
    r'.values shape time = r.valuesAt shape (n - 1) ∧ r.values shape time = r.valuesAt shape (n - 1)

/-- One channel of a record, shifted with its dimension. -/
theorem continues_channel {values : Vec Rat} {dim : Nat} (hn : 2 ≤ n) (hdt : Scalar.timeTolerance < dt)
    (hvalues : values.length = n * dim) (time : Rat) :
    (t0 + dt ≤ time →
      Trajectory.interpolate (Trajectory.uniformGrid (t0 + dt) dt n)
          (Trajectory.shiftSamples dim values) dim time =
        Trajectory.interpolate (Trajectory.uniformGrid t0 dt n) values dim time) ∧
    (t0 + (n - 1 : Nat) * dt ≤ time →
      Trajectory.interpolate (Trajectory.uniformGrid t0 dt n) values dim time =
        Trajectory.sample dim values (n - 1)) := by
  by_cases hdim : dim = 0
  · subst hdim
    simp only [Trajectory.interpolate_none, Trajectory.sample, List.take_zero, implies_true, and_self]
  · exact ⟨Trajectory.interpolate_shift hdt hvalues hdim hn,
      Trajectory.interpolate_uniform_last hdt hvalues hdim (by omega)⟩

/-- A record of any family on a uniform grid tells the same after it has been shifted. -/
theorem shift_tells_same (hn : 2 ≤ n) (hshape : r.hasShape n shape = true)
    (hgrid : r.t = Trajectory.uniformGrid t0 dt n) : r.Continues (r.shift dt) n shape t0 dt := by
  obtain ⟨hspans, hincreasing⟩ := hasShape_iff_spans.mp hshape
  have hdt : Scalar.timeTolerance < dt := Trajectory.step_of_isIncreasing hn (hgrid ▸ hincreasing)
  have hpos : 0 < n := by omega
  have hstored : r.shape = shape := by
    rw [Record.shape, samples, hspans.t, Trajectory.sampleSize_of_length hpos hspans.x,
      Trajectory.sampleSize_of_length hpos hspans.u, Trajectory.sampleSize_of_length hpos hspans.v]
  have hmoved : (r.shift dt).t = Trajectory.uniformGrid (t0 + dt) dt n := by
    change r.t.map (· + dt) = _
    rw [hgrid, Trajectory.uniformGrid_move]
  have hvalues : ∀ time, t0 + dt ≤ time → (r.shift dt).values shape time = r.values shape time := by
    intro time htime
    rw [values, values, interpolateX, interpolateU, interpolateV, interpolateX, interpolateU, interpolateV,
      hmoved, hgrid, ← (continues_channel hn hdt hspans.x time).1 htime,
      ← (continues_channel hn hdt hspans.u time).1 htime, ← (continues_channel hn hdt hspans.v time).1 htime,
      ← hstored]
    rfl
  have hheld : ∀ time, t0 + (n - 1 : Nat) * dt ≤ time → r.values shape time = r.valuesAt shape (n - 1) := by
    intro time htime
    rw [values, valuesAt, interpolateX, interpolateU, interpolateV, hgrid,
      (continues_channel hn hdt hspans.x time).2 htime, (continues_channel hn hdt hspans.u time).2 htime,
      (continues_channel hn hdt hspans.v time).2 htime]
  refine ⟨hasShape_iff_spans.mpr ⟨hspans.shift dt, ?_⟩, rfl, hmoved, hvalues, fun time htime => ?_⟩
  · rw [hmoved]
    exact Trajectory.isIncreasing_uniformGrid hdt _ _
  · have hstep : t0 + dt ≤ t0 + (n - 1 : Nat) * dt := by
      have hone : (1 : Rat) ≤ (n - 1 : Nat) := by exact_mod_cast (show 1 ≤ n - 1 by omega)
      have hpositive := lt_trans Trajectory.timeTolerance_pos hdt
      nlinarith
    rw [hvalues time (le_trans hstep htime), hheld time htime]
    exact ⟨rfl, rfl⟩

/-- Weights of one control and of an influence with two entries, over three samples. -/
def steppedWeights : PenaltyState Rat :=
  ⟨1, 1, [1, 3 / 2, 2], [], [4, 6, 9], [1, -1, 2, -2, 5, -5]⟩

theorem steppedWeights_tell_same :
    (2 ≤ 3 ∧ steppedWeights.hasShape 3 ⟨0, 1, 2⟩ = true ∧
      steppedWeights.t = Trajectory.uniformGrid 1 (1 / 2) 3) ∧
    steppedWeights.Continues (steppedWeights.shift (1 / 2)) 3 ⟨0, 1, 2⟩ 1 (1 / 2) ∧
    (steppedWeights.shift (1 / 2)).values ⟨0, 1, 2⟩ (7 / 4) = ([], [15 / 2], [7 / 2, -7 / 2]) := by
  have hshape : steppedWeights.hasShape 3 ⟨0, 1, 2⟩ = true := by decide +kernel
  have hgrid : steppedWeights.t = Trajectory.uniformGrid 1 (1 / 2) 3 := by decide +kernel
  exact ⟨⟨by omega, hshape, hgrid⟩, shift_tells_same (by omega) hshape hgrid, by decide +kernel⟩

end Record

end ConsensusControl
