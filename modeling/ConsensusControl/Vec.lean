import ConsensusControl.Scalar
import ConsensusControl.Fault

namespace ConsensusControl

/-- Vectors and sample-major trajectories alike: sample `k` of dimension `n` is at `k * n`. -/
abbrev Vec (α : Type) := List α

namespace Vec

/-- Updates the entries of `out` that have a partner and keeps the others. -/
def mergeWith {α β : Type} (f : α → β → α) : List α → List β → List α
  | o :: out, s :: src => f o s :: mergeWith f out src
  | out, _ => out

@[simp] theorem length_mergeWith {α β : Type} (f : α → β → α) (out : List α) (src : List β) :
    (mergeWith f out src).length = out.length := by
  induction out generalizing src with
  | nil => cases src <;> simp [mergeWith]
  | cons o out ih => cases src <;> simp [mergeWith, ih]

variable {α : Type} [Scalar α]

def zeros (n : Nat) : Vec α := List.replicate n 0

@[simp] theorem length_zeros (n : Nat) : (zeros n : Vec α).length = n := List.length_replicate

def normInf (xs : Vec α) : α := xs.foldl (fun acc x => Scalar.max acc (Scalar.abs x)) 0

/-- Largest change between two versions of a vector. -/
def maxChange (new old : Vec α) : α :=
  (new.zip old).foldl (fun acc p => Scalar.max acc (Scalar.abs (p.1 - p.2))) 0

def dot (a b : Vec α) : α := Scalar.sum (List.zipWith (· * ·) a b)

def addScaled (scale : α) (src out : Vec α) : Vec α := mergeWith (fun o s => o + scale * s) out src

/-- `addScaled` on vectors that have to match. -/
def addScaled? (scale : α) (src out : Vec α) : Checked (Vec α) := do
  Checked.require (out.length = src.length) (.lengthMismatch "scaled sum" out.length src.length)
  return addScaled scale src out

def add (src out : Vec α) : Vec α := mergeWith (· + ·) out src

@[simp] theorem length_addScaled (scale : α) (src out : Vec α) :
    (addScaled scale src out).length = out.length := length_mergeWith ..

@[simp] theorem length_add (src out : Vec α) : (add src out).length = out.length := length_mergeWith ..

/-- Weighted squared distance of `a` from `b`. -/
def weightedDistance (w a b : Vec α) : α :=
  Scalar.sum (List.zipWith (fun w (p : α × α) => w * (p.1 - p.2) * (p.1 - p.2)) w (a.zip b))

/-- Adds the gradient of `weightedDistance` in `a`. -/
def addWeightedDistanceGrad (w a b out : Vec α) : Vec α :=
  mergeWith (fun o (p : α × α × α) => o + Scalar.two * p.1 * (p.2.1 - p.2.2)) out (w.zip (a.zip b))

end Vec

/-- A matrix by rows. -/
structure RowMatrix (α : Type) where
  rows : List (Vec α)

namespace RowMatrix

/-- Cuts a row-major list into `rows` rows of `cols` entries. -/
def ofRowMajor {α : Type} (rows cols : Nat) (values : List α) : RowMatrix α :=
  ⟨(List.range rows).map fun r => (values.drop (r * cols)).take cols⟩

variable {α : Type} [Scalar α]

/-- Adds `M v`. -/
def addMul (m : RowMatrix α) (v out : Vec α) : Vec α :=
  Vec.mergeWith (fun o row => o + Vec.dot row v) out m.rows

/-- Adds `Mᵀ v`, row by row. -/
def addMulTransposed (m : RowMatrix α) (v out : Vec α) : Vec α :=
  (m.rows.zip v).foldl (fun out p => Vec.mergeWith (fun o a => o + a * p.2) out p.1) out

end RowMatrix

/-- A contiguous part of a vector. -/
structure Block where
  start : Nat
  size : Nat
  deriving DecidableEq, Repr

namespace Block

def stop (b : Block) : Nat := b.start + b.size

def read {α : Type} (b : Block) (xs : List α) : List α := (xs.drop b.start).take b.size

/-- Applies `f` to the block and leaves the rest in place. -/
def update {α : Type} (b : Block) (f : List α → List α) (xs : List α) : List α :=
  xs.take b.start ++ f (b.read xs) ++ xs.drop b.stop

def write {α : Type} (b : Block) (values xs : List α) : List α := b.update (fun _ => values) xs

variable {α : Type} {f : List α → List α}

@[simp] theorem length_read (b : Block) (xs : List α) :
    (b.read xs).length = Nat.min b.size (xs.length - b.start) := by
  simp [read]

/-- An update that keeps the length of the block keeps the length of the whole, even where the block
reaches beyond it. -/
theorem length_update (b : Block) {xs : List α} (hf : (f (b.read xs)).length = (b.read xs).length) :
    (b.update f xs).length = xs.length := by
  rw [update, List.length_append, List.length_append, hf]
  simp only [read, stop, List.length_take, List.length_drop]
  omega

theorem read_update (b : Block) {xs : List α} (hf : (f (b.read xs)).length = (b.read xs).length)
    (h : b.stop ≤ xs.length) : b.read (b.update f xs) = f (b.read xs) := by
  unfold stop at h
  have hstart : (xs.take b.start).length = b.start := by simp; omega
  have hsize : (f ((xs.drop b.start).take b.size)).length = b.size := by
    rw [← read, hf]
    simp only [read, List.length_take, List.length_drop]
    omega
  simp only [read, update, List.append_assoc]
  rw [List.drop_append_of_le_length (Nat.le_of_eq hstart.symm), List.drop_of_length_le (Nat.le_of_eq hstart),
    List.nil_append, List.take_append_of_le_length (Nat.le_of_eq hsize.symm),
    List.take_of_length_le (Nat.le_of_eq hsize)]

/-- What lies in front of the block stays. -/
theorem take_update (b : Block) {xs : List α} (h : b.start ≤ xs.length) :
    (b.update f xs).take b.start = xs.take b.start := by
  have hstart : (xs.take b.start).length = b.start := by simp; omega
  simp only [update, List.append_assoc]
  rw [List.take_append_of_le_length (Nat.le_of_eq hstart.symm),
    List.take_of_length_le (Nat.le_of_eq hstart)]

end Block

end ConsensusControl
