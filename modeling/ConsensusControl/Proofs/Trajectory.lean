import ConsensusControl.Record
import ConsensusControl.Proofs.Checked

namespace ConsensusControl

variable {α : Type} [Scalar α]

omit [Scalar α] in
theorem Record.sampleAt_of_le {what : String} {values : Vec α} {dim k : Nat}
    (h : (k + 1) * dim ≤ values.length) :
    sampleAt what values dim k = .ok (Trajectory.sample dim values k) :=
  bind_eq_ok.mpr ⟨(), Checked.require_eq_ok.mpr h, rfl⟩

namespace Trajectory

/-- Up to its first time, and at every time if there is no other, a trajectory has its first sample. -/
theorem interpolate_first {t values : Vec α} {dim : Nat} {time : α} (ht : t ≠ [])
    (hv : dim ≤ values.length) (h : t.length = 1 ∨ time ≤ t.getD 0 0) :
    interpolate t values dim time = values.take dim := by
  unfold interpolate
  split
  · next hdim => rw [hdim, List.take_zero]
  · have hcomplete : (t.isEmpty || decide (values.length < dim)) = false := by
      simp [ht, Nat.not_lt.mpr hv]
    rw [hcomplete, if_neg Bool.false_ne_true]
    dsimp only
    rw [if_pos, sample, Nat.zero_mul, List.drop_zero]
    refine h.imp_left fun hone => ?_
    have hmin : Nat.min t.length (values.length / dim) ≤ 1 := hone ▸ Nat.min_le_left _ _
    omega

omit [Scalar α] in
theorem length_constant (n : Nat) (sample : Vec α) :
    (constant n sample).length = n * sample.length := by
  simp [constant]

omit [Scalar α] in
theorem sampleSize_of_length {n dim : Nat} {values : Vec α} (hn : 0 < n)
    (h : values.length = n * dim) : sampleSize n values = dim := by
  have hmax : Nat.max n 1 = n := Nat.max_eq_left hn
  rw [sampleSize, hmax, h]
  exact Nat.mul_div_cancel_left _ hn

omit [Scalar α] in
/-- Every index up to the last one of a trajectory belongs to a complete sample. -/
theorem sample_within {t values : Vec α} {dim k : Nat} (hdim : dim ≠ 0) (hvalues : dim ≤ values.length)
    (hk : k ≤ Nat.min t.length (values.length / dim) - 1) : (k + 1) * dim ≤ values.length := by
  have hdiv : 1 ≤ values.length / dim :=
    (Nat.one_le_div_iff (Nat.pos_of_ne_zero hdim)).mpr hvalues
  have hmin : Nat.min t.length (values.length / dim) ≤ values.length / dim := Nat.min_le_right _ _
  have hk' : k + 1 ≤ values.length / dim := by omega
  exact Nat.le_trans (Nat.mul_le_mul_right dim hk') (Nat.div_mul_le_self _ _)

/-- A bracket does not reach beyond the last sample. -/
theorem bracket_le (t : Vec α) {last : Nat} (time : α) (h : last ≠ 0) :
    (bracket t last time).1 ≤ last ∧ (bracket t last time).2 ≤ last := by
  have hhi : (bracket t last time).2 ≤ last :=
    Nat.max_le.mpr ⟨Nat.one_le_iff_ne_zero.mpr h, Nat.min_le_left _ _⟩
  exact ⟨Nat.le_trans (Nat.sub_le _ _) hhi, hhi⟩

/-- A sample has its dimension at every time, whatever the trajectory. -/
@[simp] theorem length_interpolate (t values : Vec α) (dim : Nat) (time : α) :
    (interpolate t values dim time).length = dim := by
  unfold interpolate
  split
  · next hdim => exact hdim.symm
  next hdim =>
  split
  · exact Vec.length_zeros dim
  next hcomplete =>
  have hvalues : dim ≤ values.length := by
    simp only [Bool.or_eq_true, decide_eq_true_eq, not_or, Nat.not_lt] at hcomplete
    exact hcomplete.2
  have hwithin : ∀ k, k ≤ Nat.min t.length (values.length / dim) - 1 →
      (sample dim values k).length = dim :=
    fun k hk => length_sample (sample_within hdim hvalues hk)
  dsimp only
  split
  · exact hwithin 0 (Nat.zero_le _)
  split
  · exact hwithin _ (Nat.le_refl _)
  next hlast _ =>
  simp only [not_or] at hlast
  obtain ⟨hlo, hhi⟩ := bracket_le t time hlast.1
  rw [List.length_zipWith, hwithin _ hhi, hwithin _ hlo, Nat.min_self]

section Samples

variable {β : Type}

theorem samples_succ (n dim : Nat) (values : List β) :
    samples (n + 1) dim values = values.take dim :: samples n dim (values.drop dim) := by
  have hnext : ∀ k, sample dim values (k + 1) = sample dim (values.drop dim) k := by
    intro k
    rw [sample, sample, List.drop_drop, Nat.succ_mul, Nat.add_comm]
  rw [samples, List.range_succ_eq_map, List.map_cons, List.map_map, sample, Nat.zero_mul, List.drop_zero]
  exact congrArg _ (List.map_congr_left fun k _ => hnext k)

theorem flatten_samples {n dim : Nat} {values : List β} (h : values.length = n * dim) :
    (samples n dim values).flatten = values := by
  induction n generalizing values with
  | zero =>
    obtain rfl : values = [] := List.length_eq_zero_iff.mp (h.trans (Nat.zero_mul dim))
    rfl
  | succ n ih =>
    have hrest : (values.drop dim).length = n * dim := by
      rw [List.length_drop, h, Nat.succ_mul, Nat.add_sub_cancel]
    rw [samples_succ, List.flatten_cons, ih hrest, List.take_append_drop]

theorem samples_flatten {dim : Nat} {rows : List (List β)} (h : ∀ row ∈ rows, row.length = dim) :
    samples rows.length dim rows.flatten = rows := by
  induction rows with
  | nil => rfl
  | cons row rows ih =>
    obtain ⟨rfl, hrows⟩ := List.forall_mem_cons.mp h
    rw [List.length_cons, samples_succ, List.flatten_cons, List.take_left, List.drop_left, ih hrows]

theorem drop_flatten {dim : Nat} {rows : List (List β)} (h : ∀ row ∈ rows, row.length = dim) (k : Nat) :
    rows.flatten.drop (k * dim) = (rows.drop k).flatten := by
  induction k generalizing rows with
  | zero => simp
  | succ k ih =>
    cases rows with
    | nil => simp
    | cons row rows =>
      obtain ⟨rfl, hrows⟩ := List.forall_mem_cons.mp h
      rw [List.flatten_cons, Nat.succ_mul, Nat.add_comm, List.drop_length_add_append, ih hrows,
        List.drop_succ_cons]

theorem length_of_mem_samples {n dim : Nat} {values row : List β} (h : values.length = n * dim)
    (hrow : row ∈ samples n dim values) : row.length = dim := by
  obtain ⟨k, hk, rfl⟩ := List.mem_map.mp hrow
  exact length_sample (h ▸ Nat.mul_le_mul_right dim (List.mem_range.mp hk))

end Samples

/-- The time at an index of the grid. -/
def timeAt (t : Vec α) (k : Nat) : Checked α := do
  Checked.require (k < t.length) (.outOfRange "time" k t.length)
  return t.getD k 0

theorem timeAt_of_lt {t : Vec α} {k : Nat} (h : k < t.length) : timeAt t k = .ok (t.getD k 0) :=
  bind_eq_ok.mpr ⟨(), Checked.require_eq_ok.mpr h, rfl⟩

/-- `interpolate` where every time and every sample has to be there when it is looked at. -/
def interpolateWithin (t values : Vec α) (dim : Nat) (time : α) : Checked (Vec α) :=
  if dim = 0 then return []
  else if t.isEmpty || values.length < dim then return Vec.zeros dim
  else do
    let last := Nat.min t.length (values.length / dim) - 1
    let start ← timeAt t 0
    let stop ← timeAt t last
    if last = 0 ∨ time ≤ start then Record.sampleAt "sample" values dim 0
    else if stop ≤ time then Record.sampleAt "sample" values dim last
    else
      let (lo, hi) := bracket t last time
      let lower ← timeAt t lo
      let upper ← timeAt t hi
      let a ← Record.sampleAt "sample" values dim lo
      let b ← Record.sampleAt "sample" values dim hi
      return List.zipWith (fun a b => a + weight lower upper time * (b - a)) a b

/-- An interpolation looks at nothing that is not there, whatever the trajectory. -/
theorem interpolateWithin_eq (t values : Vec α) (dim : Nat) (time : α) :
    interpolateWithin t values dim time = .ok (interpolate t values dim time) := by
  unfold interpolateWithin interpolate
  split
  · rfl
  next hdim =>
  split
  · rfl
  next hcomplete =>
  have hcomplete : t ≠ [] ∧ dim ≤ values.length := by simpa using hcomplete
  have hgrid : 0 < t.length := List.length_pos_iff.mpr hcomplete.1
  have hlast : Nat.min t.length (values.length / dim) - 1 < t.length := by
    have hmin : Nat.min t.length (values.length / dim) ≤ t.length := Nat.min_le_left _ _
    omega
  have htimes : ∀ k, k ≤ Nat.min t.length (values.length / dim) - 1 →
      timeAt t k = .ok (t.getD k 0) := fun k hk => timeAt_of_lt (by omega)
  have hsamples : ∀ k, k ≤ Nat.min t.length (values.length / dim) - 1 →
      Record.sampleAt "sample" values dim k = .ok (sample dim values k) :=
    fun k hk => Record.sampleAt_of_le (sample_within hdim hcomplete.2 hk)
  refine bind_eq_ok.mpr ⟨_, htimes 0 (Nat.zero_le _), bind_eq_ok.mpr ⟨_, htimes _ (Nat.le_refl _), ?_⟩⟩
  dsimp only
  split
  · exact hsamples 0 (Nat.zero_le _)
  split
  · exact hsamples _ (Nat.le_refl _)
  next hinside _ =>
  simp only [not_or] at hinside
  obtain ⟨hlo, hhi⟩ := bracket_le t time hinside.1
  exact bind_eq_ok.mpr ⟨_, htimes _ hlo, bind_eq_ok.mpr ⟨_, htimes _ hhi,
    bind_eq_ok.mpr ⟨_, hsamples _ hlo, bind_eq_ok.mpr ⟨_, hsamples _ hhi, rfl⟩⟩⟩⟩

omit [Scalar α] in
@[simp] theorem constant_one (values : Vec α) : constant 1 values = values := by
  simp [constant]

end Trajectory

end ConsensusControl
