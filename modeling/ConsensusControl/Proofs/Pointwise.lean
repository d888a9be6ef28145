import Mathlib.Data.List.Forall2

namespace ConsensusControl

variable {β γ δ : Type}

theorem forall₂_of_zip {R : β × γ → δ → Prop} {bs : List β} {cs : List γ} {ds : List δ}
    (hl : bs.length ≤ cs.length) (h : List.Forall₂ R (bs.zip cs) ds) :
    List.Forall₂ (fun b d => ∃ c ∈ cs, R (b, c) d) bs ds := by
  induction bs generalizing cs ds with
  | nil =>
    cases h
    exact .nil
  | cons b bs ih =>
    cases cs with
    | nil => simp at hl
    | cons c cs =>
      rw [List.zip_cons_cons] at h
      obtain _ | ⟨hb, hrest⟩ := h
      refine .cons ⟨c, by simp, hb⟩ ((ih (by simpa using hl) hrest).imp ?_)
      intro b' d h
      obtain ⟨c', hc', hR⟩ := h
      exact ⟨c', by simp [hc'], hR⟩

theorem forall₂_mem_left {R : β → γ → Prop} {bs : List β} {cs : List γ}
    (h : List.Forall₂ R bs cs) {b : β} (hb : b ∈ bs) : ∃ c ∈ cs, R b c := by
  induction h with
  | nil => simp at hb
  | @cons b' c bs cs hR _ ih =>
    rcases List.mem_cons.mp hb with rfl | hb
    · exact ⟨c, by simp, hR⟩
    · obtain ⟨c', hc', hR'⟩ := ih hb
      exact ⟨c', by simp [hc'], hR'⟩

theorem forall₂_mem_right {R : β → γ → Prop} {bs : List β} {cs : List γ}
    (h : List.Forall₂ R bs cs) {c : γ} (hc : c ∈ cs) : ∃ b ∈ bs, R b c :=
  forall₂_mem_left h.flip hc

/-- What holds of every left entry may be used in relating it. -/
theorem forall₂_and_mem {R : β → γ → Prop} {bs : List β} {cs : List γ}
    (h : List.Forall₂ R bs cs) : List.Forall₂ (fun b c => b ∈ bs ∧ R b c) bs cs := by
  induction h with
  | nil => exact .nil
  | cons hR _ ih =>
    refine .cons ⟨by simp, hR⟩ (ih.imp ?_)
    intro b c h
    obtain ⟨hb, hR⟩ := h
    exact ⟨by simp [hb], hR⟩

theorem forall₂_and {R S : β → γ → Prop} {bs : List β} {cs : List γ} (h₁ : List.Forall₂ R bs cs)
    (h₂ : List.Forall₂ S bs cs) : List.Forall₂ (fun b c => R b c ∧ S b c) bs cs := by
  induction h₁ with
  | nil => exact .nil
  | cons hR _ ih =>
    obtain _ | ⟨hS, hrest⟩ := h₂
    exact .cons ⟨hR, hS⟩ (ih hrest)

theorem exists_forall₂ {R : β → γ → Prop} {bs : List β} (h : ∀ b ∈ bs, ∃ c, R b c) :
    ∃ cs, List.Forall₂ R bs cs := by
  induction bs with
  | nil => exact ⟨[], .nil⟩
  | cons b bs ih =>
    obtain ⟨c, hc⟩ := h b (by simp)
    obtain ⟨cs, hcs⟩ := ih fun b' hb' => h b' (by simp [hb'])
    exact ⟨c :: cs, .cons hc hcs⟩

/-- A view that related entries share is the same of both lists. -/
theorem map_eq_of_forall₂ {f : β → δ} {g : γ → δ} {bs : List β} {cs : List γ}
    (h : List.Forall₂ (fun b c => g c = f b) bs cs) : cs.map g = bs.map f := by
  induction h with
  | nil => rfl
  | cons hbc _ ih => rw [List.map_cons, List.map_cons, hbc, ih]

theorem forall₂_of_map_eq {f : β → δ} {g : γ → δ} {bs : List β} {cs : List γ}
    (h : cs.map g = bs.map f) : List.Forall₂ (fun b c => g c = f b) bs cs := by
  have heq : List.Forall₂ (fun x y => y = x) (bs.map f) (cs.map g) :=
    h ▸ List.forall₂_same.mpr fun _ _ => rfl
  rwa [List.forall₂_map_left_iff, List.forall₂_map_right_iff] at heq

/-- Lists that agree entry by entry are the same. -/
theorem eq_of_forall₂ {bs cs : List β} (h : List.Forall₂ (fun b c => c = b) bs cs) : cs = bs := by
  simpa using map_eq_of_forall₂ (f := id) (g := id) h

end ConsensusControl
