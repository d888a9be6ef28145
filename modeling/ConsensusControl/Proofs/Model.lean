import Mathlib.Algebra.Order.Ring.Rat
import ConsensusControl.Model.Linear
import ConsensusControl.Model.PowerGrid

namespace ConsensusControl

namespace Vec

@[simp] theorem add_nil_left (out : Vec Rat) : add [] out = out := by cases out <;> rfl

@[simp] theorem add_nil_right (a : Vec Rat) : add a [] = [] := by cases a <;> rfl

@[simp] theorem add_cons_cons (x o : Rat) (a out : Vec Rat) :
    add (x :: a) (o :: out) = (o + x) :: add a out := rfl

theorem add_left_comm (a b out : Vec Rat) : add a (add b out) = add b (add a out) := by
  induction out generalizing a b with
  | nil => simp
  | cons o out ih =>
    cases a with
    | nil => simp
    | cons x a =>
      cases b with
      | nil => simp
      | cons y b => rw [add_cons_cons, add_cons_cons, add_cons_cons, add_cons_cons, ih, add_right_comm]

/-- A sum may be added part by part if its first part covers all entries. -/
theorem add_add {a w out : Vec Rat} (h : out.length ≤ w.length) :
    add (add a w) out = add a (add w out) := by
  induction out generalizing a w with
  | nil => simp
  | cons o out ih =>
    cases w with
    | nil => simp at h
    | cons y w =>
      cases a with
      | nil => simp
      | cons x a =>
        rw [add_cons_cons, add_cons_cons, add_cons_cons, add_cons_cons,
          ih (Nat.le_of_succ_le_succ h), add_assoc]

@[simp] theorem add_zeros (n : Nat) (out : Vec Rat) : add (zeros n) out = out := by
  induction out generalizing n with
  | nil => simp
  | cons o out ih =>
    cases n with
    | zero => rfl
    | succ n => exact congrArg₂ List.cons (add_zero o) (ih n)

/-- On vectors with `n` entries, the function adds what it gives from zero. -/
def Adds (n : Nat) (f : Vec Rat → Vec Rat) : Prop :=
  ∀ out, out.length = n → f out = add (f (zeros n)) out

theorem adds_add (n : Nat) (a : Vec Rat) : Adds n (add a) := by
  intro out hout
  rw [add_add (by simp [hout]), add_zeros]

theorem adds_modify (n k : Nat) (x : Rat) : Adds n (·.modify k (· + x)) := by
  have heq : ∀ out : Vec Rat, out.modify k (· + x) = add (zeros k ++ [x]) out := by
    intro out
    induction k generalizing out with
    | zero => cases out <;> simp [zeros]
    | succ k ih =>
      cases out with
      | nil => simp
      | cons o out =>
        rw [List.modify_succ_cons, ih]
        exact congrArg₂ List.cons (add_zero o).symm rfl
  intro out hout
  dsimp only
  rw [heq, heq]
  exact adds_add n _ out hout

namespace Adds

variable {n : Nat} {f g : Vec Rat → Vec Rat}

theorem length (h : Adds n f) {out : Vec Rat} (hout : out.length = n) : (f out).length = n := by
  rw [h out hout, length_add, hout]

theorem same (n : Nat) : Adds n fun out => out := fun out _ => (add_zeros n out).symm

theorem comp (hf : Adds n f) (hg : Adds n g) : Adds n fun out => f (g out) := by
  intro out hout
  have hzeros : (g (zeros n)).length = n := hg.length (length_zeros n)
  calc f (g out) = add (f (zeros n)) (g out) := hf _ (hg.length hout)
    _ = add (f (zeros n)) (add (g (zeros n)) out) := by rw [hg out hout]
    _ = add (add (f (zeros n)) (g (zeros n))) out := (add_add (by rw [hout, hzeros])).symm
    _ = add (f (g (zeros n))) out := by rw [← hf _ hzeros]

theorem comm (hf : Adds n f) (hg : Adds n g) {out : Vec Rat} (hout : out.length = n) :
    f (g out) = g (f out) := by
  rw [hf _ (hg.length hout), hg _ (hf.length hout), hf out hout, hg out hout, add_left_comm]

variable {β : Type} {F : Vec Rat → β → Vec Rat} {l : List β}

theorem foldl (h : ∀ k ∈ l, Adds n (F · k)) : Adds n (l.foldl F) := by
  induction l with
  | nil => exact same n
  | cons k l ih =>
    exact comp (ih fun k' hk' => h k' (List.mem_cons_of_mem k hk')) (h k List.mem_cons_self)

/-- What is added first may as well be added last. -/
theorem foldl_first (hg : Adds n g) (h : ∀ k ∈ l, Adds n (F · k)) {out : Vec Rat}
    (hout : out.length = n) : l.foldl F (g out) = g (l.foldl F out) :=
  (foldl h).comm hg hout

/-- The only addition that is left out may be made in the end. -/
theorem foldl_filter {p : β → Bool} {k : β} (hnodup : l.Nodup) (hk : k ∈ l)
    (hp : ∀ b ∈ l, p b = false ↔ b = k) (h : ∀ b ∈ l, Adds n (F · b)) {out : Vec Rat}
    (hout : out.length = n) : l.foldl F out = F ((l.filter p).foldl F out) k := by
  induction l generalizing out with
  | nil => simp at hk
  | cons b l ih =>
    obtain ⟨hb, hnodup⟩ := List.nodup_cons.mp hnodup
    have hrest : ∀ b' ∈ l, Adds n (F · b') := fun b' hb' => h b' (List.mem_cons_of_mem b hb')
    have hfirst : Adds n (F · b) := h b List.mem_cons_self
    by_cases hbk : b = k
    · subst hbk
      have hkept : l.filter p = l := by
        refine List.filter_eq_self.mpr fun b' hb' => ?_
        have hne : b' ≠ b := fun heq => hb (heq ▸ hb')
        simpa using (hp b' (List.mem_cons_of_mem b hb')).not.mpr hne
      rw [List.filter_cons_of_neg (by simp [(hp b List.mem_cons_self).mpr rfl]), hkept]
      exact foldl_first hfirst hrest hout
    · have hkeep : p b = true := by simpa using (hp b List.mem_cons_self).not.mpr hbk
      rw [List.filter_cons_of_pos hkeep]
      exact ih hnodup ((List.mem_cons.mp hk).resolve_left (Ne.symm hbk))
        (fun b' hb' => hp b' (List.mem_cons_of_mem b hb')) hrest (hfirst.length hout)

end Adds

end Vec

/-- The function adds to vectors with `n` entries. -/
def AgentMap.Adds (n : Nat) (f : AgentMap Rat) : Prop := ∀ p, Vec.Adds n (f.value p)

/-- The function adds to vectors with `n` entries. -/
def PairMap.Adds (n : Nat) (f : PairMap Rat) : Prop := ∀ p, Vec.Adds n (f.value p)

theorem Vec.mergeWith_eq_add {β : Type} (g : β → Rat) (out : Vec Rat) (src : List β) :
    mergeWith (fun o s => o + g s) out src = add (src.map g) out := by
  induction out generalizing src with
  | nil => cases src <;> rfl
  | cons o out ih =>
    cases src with
    | nil => rfl
    | cons s src => exact congrArg (List.cons _) (ih src)

theorem Vec.adds_mergeWith {β : Type} (n : Nat) (g : β → Rat) (src : List β) :
    Adds n fun out => mergeWith (fun o s => o + g s) out src := by
  intro out hout
  dsimp only
  rw [mergeWith_eq_add, mergeWith_eq_add]
  exact adds_add n _ out hout

theorem Vec.adds_addWeightedDistanceGrad (n : Nat) (w a b : Vec Rat) :
    Adds n (addWeightedDistanceGrad w a b) :=
  adds_mergeWith n (fun p : Rat × Rat × Rat => Scalar.two * p.1 * (p.2.1 - p.2.2)) _

theorem RowMatrix.addMul_eq (m : RowMatrix Rat) (v out : Vec Rat) :
    m.addMul v out = Vec.add (m.rows.map (Vec.dot · v)) out := Vec.mergeWith_eq_add _ _ _

theorem RowMatrix.adds_addMul (n : Nat) (m : RowMatrix Rat) (v : Vec Rat) :
    Vec.Adds n (m.addMul v) := Vec.adds_mergeWith n _ _

theorem LinearAgent.adds (m : LinearAgent Rat) (n : Nat) : m.toModel.dynamics.Adds n :=
  fun p => (m.b.adds_addMul n p.u).comp (m.a.adds_addMul n p.x)

theorem LinearCoupling.adds (m : LinearCoupling Rat) (n : Nat) : m.toModel.dynamics.Adds n :=
  fun p => (m.b.adds_addMul n p.uj).comp (m.a.adds_addMul n p.xj)

theorem PowerNode.adds (m : PowerNode Rat) (n : Nat) : m.toModel.dynamics.Adds n :=
  fun _ => (Vec.adds_modify n 1 _).comp (Vec.adds_modify n 0 _)

end ConsensusControl
