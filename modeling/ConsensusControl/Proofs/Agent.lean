import Mathlib.Data.List.Pairwise
import Mathlib.Data.List.Nodup
import ConsensusControl.Agent

namespace ConsensusControl.Agent

variable {α : Type}

/-- With ids that occur once, changing the first neighbor with an id changes the only one. -/
theorem modifyFirst_eq_map {id : AgentId} (f : Neighbor α → Neighbor α) {nbs : List (Neighbor α)}
    (h : (nbs.map (·.id)).Nodup) :
    modifyFirst id f nbs = nbs.map fun nb => if nb.id = id then f nb else nb := by
  induction nbs with
  | nil => rfl
  | cons nb nbs ih =>
    obtain ⟨hnb, hnbs⟩ := List.nodup_cons.mp h
    unfold modifyFirst
    by_cases hid : nb.id = id
    · have hrest : nbs.map (fun nb => if nb.id = id then f nb else nb) = nbs := by
        conv_rhs => rw [← List.map_id nbs]
        apply List.map_congr_left
        intro nb' hmem
        have hne : nb'.id ≠ id := fun he =>
          hnb (List.mem_map.mpr ⟨nb', hmem, he.trans hid.symm⟩)
        simp [hne]
      simp [hid, hrest]
    · simp [hid, ih hnbs]

/-- A view of the neighbors that a change of the first one with an id does not touch. -/
theorem map_modifyFirst {β : Type} (g : Neighbor α → β) {id : AgentId}
    {f : Neighbor α → Neighbor α} {nbs : List (Neighbor α)}
    (h : ∀ nb, nbs.find? (·.id == id) = some nb → g (f nb) = g nb) :
    (modifyFirst id f nbs).map g = nbs.map g := by
  induction nbs with
  | nil => rfl
  | cons nb nbs ih =>
    unfold modifyFirst
    by_cases hid : nb.id = id
    · have hfirst := h nb (by simp [hid])
      simp [hid, hfirst]
    · have hrest := ih fun k hk => h k (by simpa [hid] using hk)
      simp [hid, hrest]

/-- Where a change takes place, whatever it is. -/
theorem modifyFirst_split {id : AgentId} {nbs : List (Neighbor α)} {nb : Neighbor α}
    (h : nbs.find? (·.id == id) = some nb) :
    ∃ before after, nbs = before ++ nb :: after ∧ nb.id = id ∧ id ∉ before.map (·.id) ∧
      ∀ f, modifyFirst id f nbs = before ++ f nb :: after := by
  induction nbs with
  | nil => cases h
  | cons k nbs ih =>
    by_cases hid : k.id = id
    · obtain rfl : k = nb := by simpa [hid] using h
      exact ⟨[], nbs, rfl, hid, List.not_mem_nil, fun f => by simp [modifyFirst, hid]⟩
    · obtain ⟨before, after, hsplit, hnb, hfresh, hmodify⟩ := ih (by simpa [hid] using h)
      refine ⟨k :: before, after, congrArg (k :: ·) hsplit, hnb, ?_, fun f => ?_⟩
      · simpa [Ne.symm hid] using hfresh
      · simp [modifyFirst, hid, hmodify]

/-- A change depends on nothing but the first neighbor with the id. -/
theorem modifyFirst_found {id : AgentId} (f : Neighbor α → Neighbor α) {nbs : List (Neighbor α)}
    {nb : Neighbor α} (h : nbs.find? (·.id == id) = some nb) :
    modifyFirst id (fun _ => f nb) nbs = modifyFirst id f nbs := by
  obtain ⟨before, after, -, -, -, hmodify⟩ := modifyFirst_split h
  rw [hmodify, hmodify]

section Order

variable {f g : Neighbor α → Neighbor α} (hf : ∀ nb, (f nb).id = nb.id) (hg : ∀ nb, (g nb).id = nb.id)
include hf

theorem find?_modifyFirst_id (id other : AgentId) (nbs : List (Neighbor α)) :
    (modifyFirst id f nbs).find? (·.id == other) =
      (nbs.find? (·.id == other)).map fun nb => if other = id then f nb else nb := by
  induction nbs with
  | nil => rfl
  | cons nb nbs ih =>
    unfold modifyFirst
    by_cases hid : nb.id = id
    · subst hid
      by_cases hother : nb.id = other
      · simp [hother, hf]
      · simp [hother, hf, Ne.symm hother]
    · by_cases hother : nb.id = other
      · subst hother
        simp [hid]
      · simp [hid, hother, ih]

/-- Two changes under one id are one change. -/
theorem modifyFirst_modifyFirst (id : AgentId) (nbs : List (Neighbor α)) :
    modifyFirst id g (modifyFirst id f nbs) = modifyFirst id (fun nb => g (f nb)) nbs := by
  induction nbs with
  | nil => rfl
  | cons nb nbs ih =>
    by_cases hid : nb.id = id
    · simp [modifyFirst, hid, hf]
    · simp [modifyFirst, hid, ih]

include hg

/-- Changes under different ids do not see each other. -/
theorem modifyFirst_comm {id other : AgentId} (hne : id ≠ other) (nbs : List (Neighbor α)) :
    modifyFirst other g (modifyFirst id f nbs) = modifyFirst id f (modifyFirst other g nbs) := by
  induction nbs with
  | nil => rfl
  | cons nb nbs ih =>
    by_cases hid : nb.id = id
    · have hother : nb.id ≠ other := fun h => hne (hid.symm.trans h)
      simp [modifyFirst, hid, hf, hne]
    · by_cases hother : nb.id = other
      · simp [modifyFirst, hother, hg, Ne.symm hne]
      · simp [modifyFirst, hid, hother, ih]

end Order

/-- Neighbors that a change of the first one with an id leaves behind. -/
theorem mem_modifyFirst {id : AgentId} {f : Neighbor α → Neighbor α} {nbs : List (Neighbor α)}
    {nb' : Neighbor α} (h : nb' ∈ modifyFirst id f nbs) : nb' ∈ nbs ∨ ∃ nb ∈ nbs, nb' = f nb := by
  induction nbs with
  | nil => exact .inl h
  | cons k nbs ih =>
    unfold modifyFirst at h
    split at h
    · rcases List.mem_cons.mp h with rfl | h
      · exact .inr ⟨k, by simp, rfl⟩
      · exact .inl (List.mem_cons_of_mem _ h)
    · rcases List.mem_cons.mp h with rfl | h
      · exact .inl (by simp)
      · obtain hold | ⟨nb, hnb, heq⟩ := ih h
        · exact .inl (List.mem_cons_of_mem _ hold)
        · exact .inr ⟨nb, List.mem_cons_of_mem _ hnb, heq⟩

theorem mem_neighborIds {a : Agent α} {id : AgentId} :
    id ∈ a.neighborIds ↔ ∃ nb ∈ a.neighbors, nb.id = id :=
  List.mem_map

theorem mem_of_neighbor? {a : Agent α} {id : AgentId} {nb : Neighbor α}
    (h : a.neighbor? id = some nb) : nb ∈ a.neighbors ∧ nb.id = id :=
  ⟨List.mem_of_find?_eq_some h, by simpa using List.find?_some h⟩

theorem neighbor?_isSome {a : Agent α} {id : AgentId} :
    (a.neighbor? id).isSome ↔ id ∈ a.neighborIds := by
  simp [neighbor?, mem_neighborIds]

theorem neighbor?_of_mem {a : Agent α} (h : a.neighborIds.Nodup) {nb : Neighbor α}
    (hmem : nb ∈ a.neighbors) : a.neighbor? nb.id = some nb := by
  obtain ⟨found, hfound⟩ := Option.isSome_iff_exists.mp
    (neighbor?_isSome.mpr (mem_neighborIds.mpr ⟨nb, hmem, rfl⟩))
  obtain ⟨hf, hid⟩ := mem_of_neighbor? hfound
  rw [hfound, List.inj_on_of_nodup_map h hf hmem hid]

theorem neighbor?_eq_some {a : Agent α} (h : a.neighborIds.Nodup) {id : AgentId}
    {nb : Neighbor α} : a.neighbor? id = some nb ↔ nb ∈ a.neighbors ∧ nb.id = id := by
  constructor
  · exact mem_of_neighbor?
  · intro h
    obtain ⟨hmem, rfl⟩ := h
    exact neighbor?_of_mem h hmem

end ConsensusControl.Agent
