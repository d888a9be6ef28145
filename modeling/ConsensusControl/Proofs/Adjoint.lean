import Mathlib.Tactic.LinearCombination
import Mathlib.Tactic.Ring
import ConsensusControl.Proofs.Model
import ConsensusControl.Proofs.IndexMap

namespace ConsensusControl

namespace Vec

def sub (a b : Vec Rat) : Vec Rat := List.zipWith (· - ·) a b

@[simp] theorem dot_nil_left (b : Vec Rat) : dot [] b = 0 := rfl

@[simp] theorem dot_nil_right (a : Vec Rat) : dot a [] = 0 := by cases a <;> rfl

theorem dot_eq_sum (a b : Vec Rat) : dot a b = (List.zipWith (· * ·) a b).sum :=
  List.sum_eq_foldl.symm

@[simp] theorem dot_cons_cons (x y : Rat) (a b : Vec Rat) :
    dot (x :: a) (y :: b) = x * y + dot a b := by
  rw [dot_eq_sum, dot_eq_sum, List.zipWith_cons_cons, List.sum_cons]

theorem dot_comm (a b : Vec Rat) : dot a b = dot b a := by
  rw [dot_eq_sum, dot_eq_sum, List.zipWith_comm_of_comm mul_comm]

theorem dot_append {a a' b b' : Vec Rat} (h : a.length = a'.length) :
    dot (a ++ b) (a' ++ b') = dot a a' + dot b b' := by
  rw [dot_eq_sum, dot_eq_sum, dot_eq_sum, List.zipWith_append h, List.sum_append]

@[simp] theorem dot_zeros (w : Vec Rat) (n : Nat) : dot w (zeros n) = 0 := by
  induction w generalizing n with
  | nil => rfl
  | cons x w ih =>
    cases n with
    | zero => rfl
    | succ n => exact (dot_cons_cons x 0 w (zeros n)).trans (by rw [ih, mul_zero, add_zero])

theorem dot_add (w : Vec Rat) {a out : Vec Rat} (h : a.length = out.length) :
    dot w (add a out) = dot w a + dot w out := by
  induction a generalizing w out with
  | nil =>
    obtain rfl : out = [] := List.length_eq_zero_iff.mp h.symm
    simp
  | cons x a ih =>
    cases out with
    | nil => simp at h
    | cons o out =>
      cases w with
      | nil => simp
      | cons y w =>
        rw [add_cons_cons, dot_cons_cons, dot_cons_cons, dot_cons_cons, ih w (Nat.succ.inj h)]
        ring

theorem dot_add_zeros {w : Vec Rat} {n : Nat} (hw : w.length = n) (a : Vec Rat) :
    dot w (add a (zeros n)) = dot w a := by
  induction w generalizing a n with
  | nil => simp
  | cons y w ih =>
    cases a with
    | nil => simp
    | cons x a =>
      obtain rfl : w.length + 1 = n := hw
      have hzeros : add (x :: a) (zeros (w.length + 1)) = x :: add a (zeros w.length) :=
        congrArg (List.cons · _) (zero_add x)
      rw [hzeros, dot_cons_cons, dot_cons_cons, ih rfl]

theorem dot_sub (w : Vec Rat) {a b : Vec Rat} (h : a.length = b.length) :
    dot w (sub a b) = dot w a - dot w b := by
  induction a generalizing w b with
  | nil =>
    obtain rfl : b = [] := List.length_eq_zero_iff.mp h.symm
    simp [sub]
  | cons x a ih =>
    cases b with
    | nil => simp at h
    | cons y b =>
      cases w with
      | nil => simp
      | cons z w =>
        have hrest := ih w (Nat.succ.inj h)
        simp only [sub, List.zipWith_cons_cons, dot_cons_cons] at hrest ⊢
        rw [hrest]
        ring

theorem addScaled_eq_add (s : Rat) (d x : Vec Rat) : addScaled s d x = add (d.map (s * ·)) x :=
  mergeWith_eq_add _ x d

theorem dot_map_mul (w d : Vec Rat) (s : Rat) : dot w (d.map (s * ·)) = s * dot w d := by
  induction w generalizing d with
  | nil => simp
  | cons y w ih =>
    cases d with
    | nil => simp
    | cons z d =>
      rw [List.map_cons, dot_cons_cons, dot_cons_cons, ih]
      ring

/-- Twice the direction, whatever the point. -/
theorem dot_addScaled_sub (w : Vec Rat) {d x : Vec Rat} (h : d.length = x.length) :
    dot w (addScaled 1 d x) - dot w (addScaled (-1) d x) = 2 * dot w d := by
  rw [addScaled_eq_add, addScaled_eq_add, dot_add w (by simpa using h), dot_add w (by simpa using h),
    dot_map_mul, dot_map_mul]
  ring

namespace Adds

variable {n : Nat} {f g : Vec Rat → Vec Rat}

theorem length_zeros (hf : Adds n f) : (f (zeros n)).length = n := hf.length (Vec.length_zeros n)

theorem dot_apply (hf : Adds n f) (w : Vec Rat) {out : Vec Rat} (hout : out.length = n) :
    dot w (f out) = dot w (f (zeros n)) + dot w out := by
  rw [hf out hout, dot_add w (hf.length_zeros.trans hout.symm)]

theorem dot_comp (hf : Adds n f) (hg : Adds n g) (w : Vec Rat) :
    dot w (f (g (zeros n))) = dot w (f (zeros n)) + dot w (g (zeros n)) :=
  hf.dot_apply w hg.length_zeros

theorem comp_dot (hf : Adds n f) (hg : Adds n g) (d : Vec Rat) :
    dot (f (g (zeros n))) d = dot (f (zeros n)) d + dot (g (zeros n)) d := by
  rw [dot_comm _ d, dot_comm _ d, dot_comm _ d, hf.dot_comp hg]

end Adds

theorem add_append {a a' out out' : Vec Rat} (h : a.length = out.length) :
    add (a ++ a') (out ++ out') = add a out ++ add a' out' := by
  induction a generalizing out with
  | nil =>
    obtain rfl : out = [] := List.length_eq_zero_iff.mp h.symm
    rfl
  | cons x a ih =>
    cases out with
    | nil => simp at h
    | cons o out => exact congrArg (List.cons _) (ih (Nat.succ.inj h))

theorem drop_mergeWith {β γ : Type} (f : β → γ → β) (k : Nat) (out : List β) (src : List γ) :
    (mergeWith f out src).drop k = mergeWith f (out.drop k) (src.drop k) := by
  induction k generalizing out src with
  | zero => rfl
  | succ k ih =>
    cases out with
    | nil => simp [mergeWith]
    | cons o out =>
      cases src with
      | nil => cases h : out.drop k <;> simp [mergeWith, h]
      | cons s src => exact ih out src

theorem take_mergeWith {β γ : Type} (f : β → γ → β) (k : Nat) (out : List β) (src : List γ) :
    (mergeWith f out src).take k = mergeWith f (out.take k) (src.take k) := by
  induction k generalizing out src with
  | zero => rfl
  | succ k ih =>
    cases out with
    | nil => simp [mergeWith]
    | cons o out =>
      cases src with
      | nil => rfl
      | cons s src => exact congrArg (List.cons _) (ih out src)

end Vec

namespace Block

theorem read_mergeWith {β γ : Type} (b : Block) (f : β → γ → β) (out : List β) (src : List γ) :
    b.read (Vec.mergeWith f out src) = Vec.mergeWith f (b.read out) (b.read src) := by
  rw [read, Vec.drop_mergeWith, Vec.take_mergeWith]
  rfl

/-- A block is read along a direction by reading both. -/
theorem read_addScaled (b : Block) (s : Rat) (d x : Vec Rat) :
    b.read (Vec.addScaled s d x) = Vec.addScaled s (b.read d) (b.read x) :=
  read_mergeWith b _ x d

variable {b : Block} {n : Nat} {f : Vec Rat → Vec Rat}

/-- Two updates of a block are one. -/
theorem update_update {g : Vec Rat → Vec Rat} {xs : Vec Rat} (h : b.stop ≤ xs.length)
    (hg : (g (b.read xs)).length = b.size) :
    b.update f (b.update g xs) = b.update (fun ys => f (g ys)) xs := by
  have hread : (b.read xs).length = b.size := length_read_of_stop h
  have hsame := hg.trans hread.symm
  have hstart : b.start ≤ xs.length := Nat.le_trans (Nat.le_add_right _ _) h
  have hfront : (xs.take b.start ++ g (b.read xs)).length = b.stop := by
    rw [List.length_append, List.length_take_of_le hstart, hg]
    rfl
  have hrest : (b.update g xs).drop b.stop = xs.drop b.stop := by
    rw [update, List.drop_left' hfront]
  rw [update, take_update b hstart, read_update b hsame h, hrest]
  rfl

theorem update_zeros (h : b.stop ≤ n) : b.update f (Vec.zeros n) =
    Vec.zeros b.start ++ f (Vec.zeros b.size) ++ Vec.zeros (n - b.stop) := by
  have hstart : min b.start n = b.start := by unfold stop at h; omega
  rw [update, read_zeros h, Vec.zeros, List.take_replicate, List.drop_replicate, hstart]
  rfl

/-- What adds to a block adds to the whole. -/
theorem adds_update (hf : Vec.Adds b.size f) (h : b.stop ≤ n) : Vec.Adds n (b.update f) := by
  intro out hout
  have hread : (b.read out).length = b.size := length_read_of_stop (by omega)
  have hsplit : out = out.take b.start ++ b.read out ++ out.drop b.stop := (update_same b out).symm
  have hfront : (out.take b.start).length = b.start := by
    unfold stop at h
    simp only [List.length_take]
    omega
  have hrest : Vec.add (Vec.zeros (n - b.stop)) (out.drop b.stop) = out.drop b.stop := Vec.add_zeros _ _
  rw [update_zeros h]
  calc b.update f out
      = Vec.add (Vec.zeros b.start) (out.take b.start) ++
          Vec.add (f (Vec.zeros b.size)) (b.read out) ++
          Vec.add (Vec.zeros (n - b.stop)) (out.drop b.stop) := by
        rw [Vec.add_zeros, Vec.add_zeros, ← hf _ hread, update]
    _ = Vec.add (Vec.zeros b.start ++ f (Vec.zeros b.size) ++ Vec.zeros (n - b.stop))
          (out.take b.start ++ b.read out ++ out.drop b.stop) := by
        rw [← Vec.add_append (by rw [hfront, Vec.length_zeros]),
          ← Vec.add_append (by
            rw [List.length_append, List.length_append, hfront, hread, hf.length_zeros,
              Vec.length_zeros])]
    _ = _ := by rw [← hsplit]

/-- Writing into a block is adjoint to reading it. -/
theorem dot_update (hf : Vec.Adds b.size f) (h : b.stop ≤ n) {w : Vec Rat} (hw : w.length = n) :
    Vec.dot w (b.update f (Vec.zeros n)) = Vec.dot (b.read w) (f (Vec.zeros b.size)) := by
  have hread : (b.read w).length = b.size := length_read_of_stop (by omega)
  have hsplit : w = w.take b.start ++ b.read w ++ w.drop b.stop := (update_same b w).symm
  have hfront : (w.take b.start).length = b.start := by
    unfold stop at h
    simp only [List.length_take]
    omega
  calc Vec.dot w (b.update f (Vec.zeros n))
      = Vec.dot (w.take b.start ++ b.read w ++ w.drop b.stop)
          (Vec.zeros b.start ++ f (Vec.zeros b.size) ++ Vec.zeros (n - b.stop)) := by
        rw [← hsplit, update_zeros h]
    _ = Vec.dot (w.take b.start) (Vec.zeros b.start) +
          Vec.dot (b.read w) (f (Vec.zeros b.size)) +
          Vec.dot (w.drop b.stop) (Vec.zeros (n - b.stop)) := by
        rw [Vec.dot_append (by
            rw [List.length_append, List.length_append, hfront, hread, hf.length_zeros,
              Vec.length_zeros]),
          Vec.dot_append (by rw [hfront, Vec.length_zeros])]
    _ = Vec.dot (b.read w) (f (Vec.zeros b.size)) := by
        rw [Vec.dot_zeros, Vec.dot_zeros, zero_add, add_zero]

theorem update_dot (hf : Vec.Adds b.size f) (h : b.stop ≤ n) {d : Vec Rat} (hd : d.length = n) :
    Vec.dot (b.update f (Vec.zeros n)) d = Vec.dot (f (Vec.zeros b.size)) (b.read d) := by
  rw [Vec.dot_comm, dot_update hf h hd, Vec.dot_comm]

end Block

namespace Point

/-- The point moved along a direction, at the same time. -/
def along (z : Point Rat) (s : Rat) (d : Point Rat) : Point Rat :=
  ⟨z.t, Vec.addScaled s d.x z.x, Vec.addScaled s d.u z.u⟩

structure Sized (nx nu : Nat) (z : Point Rat) : Prop where
  x : z.x.length = nx
  u : z.u.length = nu

theorem Sized.along {nx nu : Nat} {z : Point Rat} (hz : z.Sized nx nu) (s : Rat) (d : Point Rat) :
    (z.along s d).Sized nx nu :=
  ⟨(Vec.length_addScaled ..).trans hz.x, (Vec.length_addScaled ..).trans hz.u⟩

/-- A part of the state with a part of the control. -/
def part (x u : Block) (z : Point Rat) : Point Rat := ⟨z.t, x.read z.x, u.read z.u⟩

theorem part_along (x u : Block) (z : Point Rat) (s : Rat) (d : Point Rat) :
    (z.along s d).part x u = (z.part x u).along s (d.part x u) := by
  simp only [part, along, Block.read_addScaled]

theorem Sized.part {nx nu : Nat} {z : Point Rat} (hz : z.Sized nx nu) {x u : Block} (hx : x.stop ≤ nx)
    (hu : u.stop ≤ nu) : (z.part x u).Sized x.size u.size :=
  ⟨Block.length_read_of_stop (hx.trans_eq hz.x.symm), Block.length_read_of_stop (hu.trans_eq hz.u.symm)⟩

end Point

namespace PairPoint

/-- The point moved along a direction, at the same time. -/
def along (p : PairPoint Rat) (s : Rat) (d : PairPoint Rat) : PairPoint Rat :=
  ⟨p.t, Vec.addScaled s d.xi p.xi, Vec.addScaled s d.ui p.ui, Vec.addScaled s d.xj p.xj,
    Vec.addScaled s d.uj p.uj⟩

structure Sized (nxi nui nxj nuj : Nat) (p : PairPoint Rat) : Prop where
  xi : p.xi.length = nxi
  ui : p.ui.length = nui
  xj : p.xj.length = nxj
  uj : p.uj.length = nuj

theorem Sized.along {nxi nui nxj nuj : Nat} {p : PairPoint Rat} (hp : p.Sized nxi nui nxj nuj)
    (s : Rat) (d : PairPoint Rat) : (p.along s d).Sized nxi nui nxj nuj :=
  ⟨(Vec.length_addScaled ..).trans hp.xi, (Vec.length_addScaled ..).trans hp.ui,
    (Vec.length_addScaled ..).trans hp.xj, (Vec.length_addScaled ..).trans hp.uj⟩

end PairPoint

namespace Point

/-- Two parts of the state with two parts of the control. -/
def pair (xi ui xj uj : Block) (z : Point Rat) : PairPoint Rat :=
  ⟨z.t, xi.read z.x, ui.read z.u, xj.read z.x, uj.read z.u⟩

theorem pair_along (xi ui xj uj : Block) (z : Point Rat) (s : Rat) (d : Point Rat) :
    (z.along s d).pair xi ui xj uj = (z.pair xi ui xj uj).along s (d.pair xi ui xj uj) := by
  simp only [pair, along, PairPoint.along, Block.read_addScaled]

theorem Sized.pair {nx nu : Nat} {z : Point Rat} (hz : z.Sized nx nu) {xi ui xj uj : Block}
    (hxi : xi.stop ≤ nx) (hui : ui.stop ≤ nu) (hxj : xj.stop ≤ nx) (huj : uj.stop ≤ nu) :
    (z.pair xi ui xj uj).Sized xi.size ui.size xj.size uj.size :=
  ⟨Block.length_read_of_stop (hxi.trans_eq hz.x.symm),
    Block.length_read_of_stop (hui.trans_eq hz.u.symm),
    Block.length_read_of_stop (hxj.trans_eq hz.x.symm),
    Block.length_read_of_stop (huj.trans_eq hz.u.symm)⟩

end Point

/-- The members add values that do not depend on what is there, and along every direction the function
moves as its transposed Jacobians say. -/
structure AgentMap.Adjoint (nx nu n : Nat) (f : AgentMap Rat) : Prop where
  value : ∀ z, z.Sized nx nu → Vec.Adds n (f.value z)
  dx : ∀ z w, z.Sized nx nu → w.length = n → Vec.Adds nx (f.dx z w)
  du : ∀ z w, z.Sized nx nu → w.length = n → Vec.Adds nu (f.du z w)
  law : ∀ z d w, z.Sized nx nu → d.Sized nx nu → w.length = n →
    Vec.dot w (Vec.sub (f.value (z.along 1 d) (Vec.zeros n))
        (f.value (z.along (-1) d) (Vec.zeros n))) =
      2 * (Vec.dot (f.dx z w (Vec.zeros nx)) d.x + Vec.dot (f.du z w (Vec.zeros nu)) d.u)

/-- The members add values that do not depend on what is there, and along every direction of both sides
at once the function moves as its transposed Jacobians say. -/
structure PairMap.Adjoint (nxi nui nxj nuj n : Nat) (f : PairMap Rat) : Prop where
  value : ∀ p, p.Sized nxi nui nxj nuj → Vec.Adds n (f.value p)
  dxi : ∀ p w, p.Sized nxi nui nxj nuj → w.length = n → Vec.Adds nxi (f.dxi p w)
  dui : ∀ p w, p.Sized nxi nui nxj nuj → w.length = n → Vec.Adds nui (f.dui p w)
  dxj : ∀ p w, p.Sized nxi nui nxj nuj → w.length = n → Vec.Adds nxj (f.dxj p w)
  duj : ∀ p w, p.Sized nxi nui nxj nuj → w.length = n → Vec.Adds nuj (f.duj p w)
  law : ∀ p d w, p.Sized nxi nui nxj nuj → d.Sized nxi nui nxj nuj → w.length = n →
    Vec.dot w (Vec.sub (f.value (p.along 1 d) (Vec.zeros n))
        (f.value (p.along (-1) d) (Vec.zeros n))) =
      2 * (Vec.dot (f.dxi p w (Vec.zeros nxi)) d.xi + Vec.dot (f.dui p w (Vec.zeros nui)) d.ui +
        Vec.dot (f.dxj p w (Vec.zeros nxj)) d.xj + Vec.dot (f.duj p w (Vec.zeros nuj)) d.uj)

namespace AgentMap

/-- Both functions, one added after the other. -/
def andThen (f g : AgentMap Rat) : AgentMap Rat where
  value z out := g.value z (f.value z out)
  dx z w out := g.dx z w (f.dx z w out)
  du z w out := g.du z w (f.du z w out)

/-- One function for each entry, added in order. -/
def each {β : Type} (F : β → AgentMap Rat) (l : List β) : AgentMap Rat where
  value z out := l.foldl (fun out k => (F k).value z out) out
  dx z w out := l.foldl (fun out k => (F k).dx z w out) out
  du z w out := l.foldl (fun out k => (F k).du z w out) out

/-- The function of a part of the point, added to a block. -/
def within (x u o : Block) (f : AgentMap Rat) : AgentMap Rat where
  value z out := o.update (f.value (z.part x u)) out
  dx z w out := x.update (f.dx (z.part x u) (o.read w)) out
  du z w out := u.update (f.du (z.part x u) (o.read w)) out

/-- A block of the control, added to a block of the state as it is. -/
def slot (v o : Block) : AgentMap Rat where
  value z out := o.update (Vec.add (v.read z.u)) out
  dx _ _ out := out
  du _ w out := v.update (Vec.add (o.read w)) out

end AgentMap

/-- The function of two parts of one point, added to a block. -/
def PairMap.within (xi ui xj uj o : Block) (f : PairMap Rat) : AgentMap Rat where
  value z out := o.update (f.value (z.pair xi ui xj uj)) out
  dx z w out :=
    let p := z.pair xi ui xj uj
    xj.update (f.dxj p (o.read w)) (xi.update (f.dxi p (o.read w)) out)
  du z w out :=
    let p := z.pair xi ui xj uj
    uj.update (f.duj p (o.read w)) (ui.update (f.dui p (o.read w)) out)

namespace AgentMap.Adjoint

variable {nx nu n : Nat} {f g : AgentMap Rat}

theorem moves (h : f.Adjoint nx nu n) {z d : Point Rat} {w : Vec Rat} (hz : z.Sized nx nu)
    (hd : d.Sized nx nu) (hw : w.length = n) :
    Vec.dot w (f.value (z.along 1 d) (Vec.zeros n)) -
        Vec.dot w (f.value (z.along (-1) d) (Vec.zeros n)) =
      2 * (Vec.dot (f.dx z w (Vec.zeros nx)) d.x + Vec.dot (f.du z w (Vec.zeros nu)) d.u) := by
  have hplus := (h.value _ (hz.along 1 d)).length_zeros
  have hminus := (h.value _ (hz.along (-1) d)).length_zeros
  rw [← Vec.dot_sub w (hplus.trans hminus.symm), h.law z d w hz hd hw]

/-- Only values at vectors of the right dimension matter. -/
theorem of_value_eq (h : f.Adjoint nx nu n)
    (hvalue : ∀ z out, z.Sized nx nu → out.length = n → g.value z out = f.value z out)
    (hdx : g.dx = f.dx) (hdu : g.du = f.du) : g.Adjoint nx nu n where
  value z hz out hout := by
    rw [hvalue z out hz hout, hvalue z _ hz (Vec.length_zeros n)]
    exact h.value z hz out hout
  dx := hdx ▸ h.dx
  du := hdu ▸ h.du
  law z d w hz hd hw := by
    rw [hvalue _ _ (hz.along 1 d) (Vec.length_zeros n),
      hvalue _ _ (hz.along (-1) d) (Vec.length_zeros n), hdx, hdu]
    exact h.law z d w hz hd hw

theorem none (nx nu n : Nat) : AgentMap.none.Adjoint nx nu n where
  value _ _ := .same n
  dx _ _ _ _ := .same nx
  du _ _ _ _ := .same nu
  law z d w _ _ _ := by
    dsimp only [AgentMap.none]
    rw [Vec.dot_sub w rfl, Vec.dot_comm _ d.x, Vec.dot_comm _ d.u]
    simp

theorem andThen (hf : f.Adjoint nx nu n) (hg : g.Adjoint nx nu n) :
    (f.andThen g).Adjoint nx nu n where
  value z hz := (hg.value z hz).comp (hf.value z hz)
  dx z w hz hw := (hg.dx z w hz hw).comp (hf.dx z w hz hw)
  du z w hz hw := (hg.du z w hz hw).comp (hf.du z w hz hw)
  law z d w hz hd hw := by
    have hplus := hz.along 1 d
    have hminus := hz.along (-1) d
    have hlength : ∀ z, z.Sized nx nu → (g.value z (f.value z (Vec.zeros n))).length = n :=
      fun z hz => ((hg.value z hz).comp (hf.value z hz)).length_zeros
    dsimp only [AgentMap.andThen]
    rw [Vec.dot_sub w ((hlength _ hplus).trans (hlength _ hminus).symm),
      (hg.value _ hplus).dot_comp (hf.value _ hplus), (hg.value _ hminus).dot_comp (hf.value _ hminus),
      (hg.dx z w hz hw).comp_dot (hf.dx z w hz hw), (hg.du z w hz hw).comp_dot (hf.du z w hz hw)]
    linear_combination hf.moves hz hd hw + hg.moves hz hd hw

theorem each {β : Type} {F : β → AgentMap Rat} {l : List β}
    (h : ∀ k ∈ l, (F k).Adjoint nx nu n) : (AgentMap.each F l).Adjoint nx nu n := by
  induction l with
  | nil => exact none nx nu n
  | cons k l ih =>
    exact (h k List.mem_cons_self).andThen (ih fun k' hk' => h k' (List.mem_cons_of_mem k hk'))

theorem slot {v o : Block} (hv : v.stop ≤ nu) (ho : o.stop ≤ n) :
    (AgentMap.slot v o).Adjoint nx nu n where
  value _ _ := Block.adds_update (Vec.adds_add _ _) ho
  dx _ _ _ _ := .same nx
  du _ _ _ _ := Block.adds_update (Vec.adds_add _ _) hv
  law z d w hz hd hw := by
    have hzu : (v.read z.u).length = v.size := Block.length_read_of_stop (hv.trans_eq hz.u.symm)
    have hdu : (v.read d.u).length = v.size := Block.length_read_of_stop (hv.trans_eq hd.u.symm)
    have hwo : (o.read w).length = o.size := Block.length_read_of_stop (ho.trans_eq hw.symm)
    have hadds : ∀ s, Vec.Adds o.size (Vec.add (v.read (z.along s d).u)) := fun s => Vec.adds_add _ _
    have hlength : ∀ s, (o.update (Vec.add (v.read (z.along s d).u)) (Vec.zeros n)).length = n :=
      fun s => (Block.adds_update (hadds s) ho).length_zeros
    have hvalue : ∀ s, Vec.dot w (o.update (Vec.add (v.read (z.along s d).u)) (Vec.zeros n)) =
        Vec.dot (o.read w) (Vec.addScaled s (v.read d.u) (v.read z.u)) := by
      intro s
      rw [Block.dot_update (hadds s) ho hw, Vec.dot_add_zeros hwo]
      exact congrArg (Vec.dot _) (Block.read_addScaled v s d.u z.u)
    have hdual : Vec.dot (v.update (Vec.add (o.read w)) (Vec.zeros nu)) d.u =
        Vec.dot (o.read w) (v.read d.u) := by
      rw [Block.update_dot (Vec.adds_add _ _) hv hd.u, Vec.dot_comm, Vec.dot_add_zeros hdu,
        Vec.dot_comm]
    dsimp only [AgentMap.slot]
    rw [Vec.dot_sub w ((hlength 1).trans (hlength (-1)).symm), hvalue, hvalue, hdual,
      Vec.dot_addScaled_sub _ (hdu.trans hzu.symm), Vec.dot_comm _ d.x, Vec.dot_zeros, zero_add]

/-- A law for a part is one for the whole. -/
theorem within {x u o : Block} (h : f.Adjoint x.size u.size o.size) (hx : x.stop ≤ nx)
    (hu : u.stop ≤ nu) (ho : o.stop ≤ n) : (f.within x u o).Adjoint nx nu n := by
  have hpart : ∀ z : Point Rat, z.Sized nx nu → (z.part x u).Sized x.size u.size := fun z hz =>
    hz.part hx hu
  have hwo : ∀ w : Vec Rat, w.length = n → (o.read w).length = o.size := fun w hw =>
    Block.length_read_of_stop (ho.trans_eq hw.symm)
  refine ⟨fun z hz => Block.adds_update (h.value _ (hpart z hz)) ho,
    fun z w hz hw => Block.adds_update (h.dx _ _ (hpart z hz) (hwo w hw)) hx,
    fun z w hz hw => Block.adds_update (h.du _ _ (hpart z hz) (hwo w hw)) hu, ?_⟩
  intro z d w hz hd hw
  have hadds : ∀ s, Vec.Adds o.size (f.value ((z.part x u).along s (d.part x u))) := fun s =>
    h.value _ ((hpart z hz).along s _)
  have hlength := fun s => (Block.adds_update (hadds s) ho).length_zeros
  dsimp only [AgentMap.within]
  rw [Point.part_along, Point.part_along, Vec.dot_sub w ((hlength 1).trans (hlength (-1)).symm),
    Block.dot_update (hadds 1) ho hw, Block.dot_update (hadds (-1)) ho hw,
    Block.update_dot (h.dx _ _ (hpart z hz) (hwo w hw)) hx hd.x,
    Block.update_dot (h.du _ _ (hpart z hz) (hwo w hw)) hu hd.u]
  exact h.moves (hpart z hz) (hpart d hd) (hwo w hw)

end AgentMap.Adjoint

namespace PairMap.Adjoint

variable {f : PairMap Rat} {nxi nui nxj nuj n : Nat}

theorem moves (h : f.Adjoint nxi nui nxj nuj n) {p d : PairPoint Rat} {w : Vec Rat}
    (hp : p.Sized nxi nui nxj nuj) (hd : d.Sized nxi nui nxj nuj) (hw : w.length = n) :
    Vec.dot w (f.value (p.along 1 d) (Vec.zeros n)) -
        Vec.dot w (f.value (p.along (-1) d) (Vec.zeros n)) =
      2 * (Vec.dot (f.dxi p w (Vec.zeros nxi)) d.xi + Vec.dot (f.dui p w (Vec.zeros nui)) d.ui +
        Vec.dot (f.dxj p w (Vec.zeros nxj)) d.xj + Vec.dot (f.duj p w (Vec.zeros nuj)) d.uj) := by
  have hplus := (h.value _ (hp.along 1 d)).length_zeros
  have hminus := (h.value _ (hp.along (-1) d)).length_zeros
  rw [← Vec.dot_sub w (hplus.trans hminus.symm), h.law p d w hp hd hw]

theorem none (nxi nui nxj nuj n : Nat) : PairMap.none.Adjoint nxi nui nxj nuj n where
  value _ _ := .same n
  dxi _ _ _ _ := .same nxi
  dui _ _ _ _ := .same nui
  dxj _ _ _ _ := .same nxj
  duj _ _ _ _ := .same nuj
  law p d w _ _ _ := by
    dsimp only [PairMap.none]
    rw [Vec.dot_sub w rfl, Vec.dot_comm _ d.xi, Vec.dot_comm _ d.ui, Vec.dot_comm _ d.xj,
      Vec.dot_comm _ d.uj]
    simp

/-- Each side's part of the adjoint goes to where that side is read. -/
theorem within {nx nu : Nat} {xi ui xj uj o : Block}
    (h : f.Adjoint xi.size ui.size xj.size uj.size o.size) (hxi : xi.stop ≤ nx) (hui : ui.stop ≤ nu)
    (hxj : xj.stop ≤ nx) (huj : uj.stop ≤ nu) (ho : o.stop ≤ n) :
    (f.within xi ui xj uj o).Adjoint nx nu n := by
  have hpair : ∀ z : Point Rat, z.Sized nx nu →
      (z.pair xi ui xj uj).Sized xi.size ui.size xj.size uj.size := fun z hz => hz.pair hxi hui hxj huj
  have hwo : ∀ w : Vec Rat, w.length = n → (o.read w).length = o.size := fun w hw =>
    Block.length_read_of_stop (ho.trans_eq hw.symm)
  have hdxi := fun z w hz hw => Block.adds_update (h.dxi _ _ (hpair z hz) (hwo w hw)) hxi
  have hdui := fun z w hz hw => Block.adds_update (h.dui _ _ (hpair z hz) (hwo w hw)) hui
  have hdxj := fun z w hz hw => Block.adds_update (h.dxj _ _ (hpair z hz) (hwo w hw)) hxj
  have hduj := fun z w hz hw => Block.adds_update (h.duj _ _ (hpair z hz) (hwo w hw)) huj
  refine ⟨fun z hz => Block.adds_update (h.value _ (hpair z hz)) ho,
    fun z w hz hw => (hdxj z w hz hw).comp (hdxi z w hz hw),
    fun z w hz hw => (hduj z w hz hw).comp (hdui z w hz hw), ?_⟩
  intro z d w hz hd hw
  have hadds : ∀ s, Vec.Adds o.size (f.value ((z.pair xi ui xj uj).along s (d.pair xi ui xj uj))) :=
    fun s => h.value _ ((hpair z hz).along s _)
  have hlength := fun s => (Block.adds_update (hadds s) ho).length_zeros
  dsimp only [PairMap.within]
  rw [Point.pair_along, Point.pair_along, Vec.dot_sub w ((hlength 1).trans (hlength (-1)).symm),
    Block.dot_update (hadds 1) ho hw, Block.dot_update (hadds (-1)) ho hw,
    (hdxj z w hz hw).comp_dot (hdxi z w hz hw), (hduj z w hz hw).comp_dot (hdui z w hz hw),
    Block.update_dot (h.dxi _ _ (hpair z hz) (hwo w hw)) hxi hd.x,
    Block.update_dot (h.dui _ _ (hpair z hz) (hwo w hw)) hui hd.u,
    Block.update_dot (h.dxj _ _ (hpair z hz) (hwo w hw)) hxj hd.x,
    Block.update_dot (h.duj _ _ (hpair z hz) (hwo w hw)) huj hd.u]
  have hlaw := h.moves (hpair z hz) (hpair d hd) (hwo w hw)
  dsimp only [Point.pair] at hlaw ⊢
  linear_combination hlaw

end PairMap.Adjoint

namespace RowMatrix

theorem addMulTransposed_eq (m : RowMatrix Rat) (w out : Vec Rat) :
    m.addMulTransposed w out =
      (m.rows.zip w).foldl (fun out p => Vec.add (p.1.map (p.2 * ·)) out) out := by
  have hrow : ∀ (c : Rat) (row out : Vec Rat),
      Vec.mergeWith (fun o a => o + a * c) out row = Vec.add (row.map (c * ·)) out := by
    intro c row out
    rw [Vec.mergeWith_eq_add]
    exact congrArg (Vec.add · out) (List.map_congr_left fun a _ => mul_comm a c)
  exact List.foldl_ext _ _ _ fun out p _ => hrow p.2 p.1 out

theorem adds_addMulTransposed (n : Nat) (m : RowMatrix Rat) (w : Vec Rat) :
    Vec.Adds n (m.addMulTransposed w) :=
  .foldl fun p _ => Vec.adds_mergeWith n (· * p.2) p.1

/-- Rows against a vector on the one side are columns against a vector on the other. -/
theorem dot_addMul (m : RowMatrix Rat) {w d : Vec Rat} {n k : Nat} (hw : w.length = n)
    (hd : d.length = k) :
    Vec.dot w (m.addMul d (Vec.zeros n)) = Vec.dot (m.addMulTransposed w (Vec.zeros k)) d := by
  obtain ⟨rows⟩ := m
  rw [addMul_eq, Vec.dot_add_zeros hw, Vec.dot_comm _ d, addMulTransposed_eq]
  clear hw
  induction rows generalizing w with
  | nil => simp
  | cons row rows ih =>
    cases w with
    | nil => simp
    | cons c w =>
      have hrest : Vec.Adds k fun out =>
          (rows.zip w).foldl (fun out p => Vec.add (p.1.map (p.2 * ·)) out) out :=
        .foldl fun p _ => Vec.adds_add k (p.1.map (p.2 * ·))
      have hfirst := (Vec.adds_add k (row.map (c * ·))).length_zeros
      rw [List.map_cons, Vec.dot_cons_cons, List.zip_cons_cons, List.foldl_cons,
        hrest.dot_apply d hfirst, Vec.dot_add_zeros hd, Vec.dot_map_mul, ih, Vec.dot_comm row,
        add_comm]

end RowMatrix

end ConsensusControl
