import ConsensusControl.Vec

namespace ConsensusControl

/-- Position of an agent in the network's tables. The order of ids says nothing about the order of
blocks inside an extended vector. -/
abbrev AgentId := Nat

namespace Trajectory

variable {α : Type}

/-- Sample `k` of a sample-major list. -/
def sample (dim : Nat) (values : Vec α) (k : Nat) : Vec α := (values.drop (k * dim)).take dim

theorem length_sample {dim k : Nat} {values : Vec α} (h : (k + 1) * dim ≤ values.length) :
    (sample dim values k).length = dim := by
  have : (k + 1) * dim = k * dim + dim := Nat.succ_mul k dim
  simp only [sample, List.length_take, List.length_drop]
  omega

/-- Cuts a sample-major list into its samples. -/
def samples (n dim : Nat) (values : Vec α) : List (Vec α) := (List.range n).map (sample dim values)

/-- Drops the first sample and repeats the last. -/
def shiftSamples (dim : Nat) (values : Vec α) : Vec α :=
  if dim = 0 ∨ values.length ≤ dim then values
  else values.drop dim ++ values.drop (values.length - dim)

@[simp] theorem length_shiftSamples (dim : Nat) (values : Vec α) :
    (shiftSamples dim values).length = values.length := by
  unfold shiftSamples
  split
  · rfl
  · simp only [List.length_append, List.length_drop]; omega

/-- A trajectory of several samples must not end inside its second one when it is shifted. -/
def requireShiftable (dim : Nat) (values : Vec α) : Checked Unit :=
  Checked.require (dim = 0 ∨ values.length ≤ dim ∨ 2 * dim ≤ values.length)
    (.outOfRange "second sample" (2 * dim) values.length)

/-- Length of one of `n` equal samples, an empty trajectory counting as one sample. -/
def sampleSize (n : Nat) (values : Vec α) : Nat := values.length / Nat.max n 1

/-- A trajectory of equal samples is one sample or has a whole second one. -/
theorem requireShiftable_sampleSize (n : Nat) (values : Vec α) :
    requireShiftable (sampleSize n values) values = .ok () := by
  unfold requireShiftable Checked.require
  rw [if_pos]
  by_cases hn : Nat.max n 1 = 1
  · exact .inr (.inl (by simp [sampleSize, hn]))
  · have htwo : 2 ≤ Nat.max n 1 := by
      have : Nat.max n 1 = max n 1 := rfl
      omega
    have hmul : Nat.max n 1 * sampleSize n values ≤ values.length := Nat.mul_div_le _ _
    exact .inr (.inr (Nat.le_trans (Nat.mul_le_mul_right _ htwo) hmul))

/-- The same sample at every grid point. -/
def constant (n : Nat) (sample : Vec α) : Vec α := (List.replicate n sample).flatten

variable [Scalar α]

/-- The grid `t0, t0 + dt, ..., t0 + (n - 1) * dt`. -/
def uniformGrid (t0 dt : α) (n : Nat) : Vec α :=
  (List.range n).map fun (k : Nat) => t0 + (k : α) * dt

@[simp] theorem length_uniformGrid (t0 dt : α) (n : Nat) : (uniformGrid t0 dt n).length = n := by
  simp [uniformGrid]

/-- Neighboring times lie further apart than the time tolerance. -/
def isIncreasing : Vec α → Bool
  | a :: b :: rest => Scalar.timeTolerance < b - a && isIncreasing (b :: rest)
  | _ => true

/-- Both grids have the same times, up to the grid tolerance. -/
def onGrid (t grid : Vec α) : Bool :=
  t.length == grid.length && (t.zip grid).all fun p => Scalar.abs (p.1 - p.2) < Scalar.gridTolerance

/-- Halves `[base, base + size)` down to one index, then tests it. On a predicate that holds of an
initial part the result is the length of that part. -/
def searchFrom (holds : Nat → Bool) (base size : Nat) : Nat :=
  if 1 < size then
    let mid := base + size / 2
    searchFrom holds (if holds mid then mid else base) (size - size / 2)
  else if holds base then base + 1 else base
termination_by size
decreasing_by omega

/-- Number of the leading times that are at most `time`. -/
def countUpTo (t : Vec α) (time : α) : Nat :=
  if t.isEmpty then 0 else searchFrom (fun k => t.getD k 0 ≤ time) 0 t.length

/-- The two samples around a time strictly inside a grid of `last + 1` samples. -/
def bracket (t : Vec α) (last : Nat) (time : α) : Nat × Nat :=
  let hi := Nat.max 1 (Nat.min last (countUpTo (t.take (last + 1)) time))
  (hi - 1, hi)

/-- Share of the upper sample. Times too close to divide by count as equal. -/
def weight (lower upper time : α) : α :=
  if Scalar.abs (upper - lower) < Scalar.timeTolerance then 0 else (time - lower) / (upper - lower)

/-- Piecewise linear in time and constant outside the grid. Without a complete sample all is zero. -/
def interpolate (t values : Vec α) (dim : Nat) (time : α) : Vec α :=
  if dim = 0 then []
  else if t.isEmpty || values.length < dim then Vec.zeros dim
  else
    let last := Nat.min t.length (values.length / dim) - 1
    if last = 0 ∨ time ≤ t.getD 0 0 then sample dim values 0
    else if t.getD last 0 ≤ time then sample dim values last
    else
      let (lo, hi) := bracket t last time
      let w := weight (t.getD lo 0) (t.getD hi 0) time
      List.zipWith (fun a b => a + w * (b - a)) (sample dim values lo) (sample dim values hi)

end Trajectory

end ConsensusControl
