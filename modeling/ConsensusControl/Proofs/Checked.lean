import Mathlib.Data.List.Forall2
import ConsensusControl.Fault

namespace ConsensusControl

/-- A sequence succeeds where both of its parts do. -/
theorem bind_eq_ok {ε β γ : Type} {x : Except ε β} {f : β → Except ε γ} {c : γ} :
    x >>= f = .ok c ↔ ∃ b, x = .ok b ∧ f b = .ok c := by
  cases x with
  | error s => simp [bind, Except.bind]
  | ok b => simp [bind, Except.bind]

/-- A sequence fails where its first failing part does. -/
theorem bind_eq_error {ε β γ : Type} {x : Except ε β} {f : β → Except ε γ} {e : ε} :
    x >>= f = .error e ↔ x = .error e ∨ ∃ b, x = .ok b ∧ f b = .error e := by
  cases x with
  | error s => simp [bind, Except.bind]
  | ok b => simp [bind, Except.bind]

theorem pure_eq_ok {ε β : Type} {b c : β} : (pure b : Except ε β) = .ok c ↔ b = c := by
  simp [pure, Except.pure]

theorem map_eq_ok {ε β γ : Type} {x : Except ε β} {f : β → γ} {c : γ} :
    x.map f = .ok c ↔ ∃ b, x = .ok b ∧ f b = c := by
  cases x with
  | error s => simp [Except.map]
  | ok b => simp [Except.map]

/-- A traversal succeeds where every element does. -/
theorem mapM_eq_ok {ε β ι : Type} {f : ι → Except ε β} {l : List ι} {bs : List β} :
    l.mapM f = .ok bs ↔ List.Forall₂ (fun i b => f i = .ok b) l bs := by
  induction l generalizing bs with
  | nil =>
    rw [List.mapM_nil, pure_eq_ok]
    constructor
    · intro heq
      obtain rfl := heq
      exact .nil
    · intro h
      cases h
      rfl
  | cons i l ih =>
    rw [List.mapM_cons, bind_eq_ok]
    constructor
    · intro h
      obtain ⟨b, hb, h⟩ := h
      rw [bind_eq_ok] at h
      obtain ⟨cs, hcs, h⟩ := h
      rw [pure_eq_ok] at h
      exact h ▸ .cons hb (ih.mp hcs)
    · intro h
      obtain _ | ⟨hb, hcs⟩ := h
      exact ⟨_, hb, bind_eq_ok.mpr ⟨_, ih.mpr hcs, rfl⟩⟩

/-- A run fails where it has come to a step that does. -/
theorem foldlM_eq_error {ε β ι : Type} {f : β → ι → Except ε β} {b : β} {l : List ι} {e : ε} :
    l.foldlM f b = .error e ↔
      ∃ before i after c, l = before ++ i :: after ∧ before.foldlM f b = .ok c ∧ f c i = .error e := by
  induction l generalizing b with
  | nil => simp [pure, Except.pure]
  | cons i l ih =>
    rw [List.foldlM_cons, bind_eq_error]
    constructor
    · rintro (h | ⟨c, hc, h⟩)
      · exact ⟨[], i, l, b, rfl, rfl, h⟩
      · obtain ⟨before, k, after, d, rfl, hd, hk⟩ := ih.mp h
        exact ⟨i :: before, k, after, d, rfl, bind_eq_ok.mpr ⟨c, hc, hd⟩, hk⟩
    · rintro ⟨before, k, after, d, hl, hd, hk⟩
      cases before with
      | nil =>
        obtain ⟨rfl, rfl⟩ := List.cons.inj hl
        obtain rfl := pure_eq_ok.mp hd
        exact .inl hk
      | cons first before =>
        obtain ⟨rfl, rfl⟩ := List.cons.inj hl
        obtain ⟨c, hc, hd⟩ := bind_eq_ok.mp hd
        exact .inr ⟨c, hc, ih.mpr ⟨before, k, after, d, rfl, hd, hk⟩⟩

theorem forM_eq_ok {ε ι : Type} {f : ι → Except ε Unit} {l : List ι} (h : ∀ i ∈ l, f i = .ok ()) :
    l.forM f = .ok () := by
  induction l with
  | nil => rfl
  | cons i l ih =>
    have hrest := ih fun k hk => h k (List.mem_cons_of_mem _ hk)
    exact bind_eq_ok.mpr ⟨(), h i (by simp), hrest⟩

theorem toOption_eq_some {ε β : Type} {x : Except ε β} {b : β} :
    x.toOption = some b ↔ x = .ok b := by
  cases x <;> simp [Except.toOption]

/-- A success is known by its answer. -/
theorem ok_of_isOk {ε β : Type} {x : Except ε β} (b : β) (h : x.isOk = true) :
    x = .ok (x.toOption.getD b) := by
  cases x with
  | ok b' => rfl
  | error s => simp [Except.isOk, Except.toBool] at h

namespace Checked

theorem require_eq_ok {p : Prop} [Decidable p] {fault : Fault} {u : Unit} :
    require p fault = .ok u ↔ p := by
  unfold require
  split <;> simp_all

end Checked

end ConsensusControl
