import ConsensusControl.Trajectory

namespace ConsensusControl

/-- Values by agent, in ascending order of the ids. -/
abbrev Table (β : Type) := List (AgentId × β)

namespace Table

variable {β : Type}

/-- Sets the entry of an agent to `f` of the entry that it has, if any. -/
def alter (id : AgentId) (f : Option β → β) : Table β → Table β
  | [] => [(id, f none)]
  | (k, b) :: rest =>
    if id < k then (id, f none) :: (k, b) :: rest
    else if id = k then (id, f (some b)) :: rest
    else (k, b) :: alter id f rest

def insert (id : AgentId) (b : β) (t : Table β) : Table β := alter id (fun _ => b) t

/-- Changes the entry of an agent that has one. -/
def modify (id : AgentId) (f : β → β) (t : Table β) : Table β :=
  t.map fun (k, b) => (k, if k = id then f b else b)

def erase (id : AgentId) (t : Table β) : Table β := t.filter (·.1 ≠ id)

def contains (id : AgentId) (t : Table β) : Bool := (t.lookup id).isSome

def ids (t : Table β) : List AgentId := t.map (·.1)

/-- The order of a table, which every operation keeps. -/
def Sorted (t : Table β) : Prop := (ids t).Pairwise (· < ·)

theorem lookup_alter_ne {id k : AgentId} (hne : k ≠ id) (f : Option β → β) (t : Table β) :
    (alter id f t).lookup k = t.lookup k := by
  have hk : (k == id) = false := by simp [hne]
  induction t with
  | nil => simp [alter, List.lookup_cons, hk]
  | cons e t ih =>
    obtain ⟨j, b⟩ := e
    unfold alter
    split
    · simp [List.lookup_cons, hk]
    · split
      · next h => subst h; simp [List.lookup_cons, hk]
      · simp [List.lookup_cons, ih]

theorem lookup_eq_none {id : AgentId} {t : Table β} (h : ∀ k ∈ ids t, id ≠ k) :
    t.lookup id = none := by
  induction t with
  | nil => rfl
  | cons e t ih =>
    obtain ⟨k, b⟩ := e
    have hk : (id == k) = false := by simpa using h k (by simp [ids])
    simp only [List.lookup_cons, hk]
    exact ih fun j hj => h j (by simp only [ids, List.map_cons, List.mem_cons] at hj ⊢; exact .inr hj)

theorem lookup_alter_self {id : AgentId} {t : Table β} (h : Sorted t) (f : Option β → β) :
    (alter id f t).lookup id = some (f (t.lookup id)) := by
  induction t with
  | nil => simp [alter]
  | cons e t ih =>
    obtain ⟨k, b⟩ := e
    have hp : (∀ j ∈ ids t, k < j) ∧ Sorted t := by simpa [Sorted, ids] using h
    unfold alter
    split
    · next hlt =>
      have hk : (id == k) = false := by simp [Nat.ne_of_lt hlt]
      have hrest : t.lookup id = none :=
        lookup_eq_none fun j hj => Nat.ne_of_lt (Nat.lt_trans hlt (hp.1 j hj))
      simp [List.lookup_cons, hk, hrest]
    · split
      · next heq => subst heq; simp
      · next hne =>
        have hk : (id == k) = false := by simp [hne]
        simp [List.lookup_cons, hk, ih hp.2]

theorem mem_ids_alter {id k : AgentId} {f : Option β → β} {t : Table β} :
    k ∈ ids (alter id f t) ↔ k = id ∨ k ∈ ids t := by
  induction t with
  | nil => simp [alter, ids]
  | cons e t ih =>
    obtain ⟨j, b⟩ := e
    simp only [ids, List.map_cons, List.mem_cons] at ih ⊢
    unfold alter
    split
    · simp
    · split
      · next h => subst h; simp
      · simp only [List.map_cons, List.mem_cons, ih]
        constructor
        · rintro (h | h | h)
          · exact .inr (.inl h)
          · exact .inl h
          · exact .inr (.inr h)
        · rintro (h | h | h)
          · exact .inr (.inl h)
          · exact .inl h
          · exact .inr (.inr h)

theorem Sorted.alter {t : Table β} (h : Sorted t) (id : AgentId) (f : Option β → β) :
    Sorted (alter id f t) := by
  induction t with
  | nil => simp [Table.alter, Sorted, ids]
  | cons e t ih =>
    obtain ⟨k, b⟩ := e
    have hp : (∀ j ∈ ids t, k < j) ∧ Sorted t := by simpa [Sorted, ids] using h
    unfold Table.alter
    split
    · next hlt =>
      have hall : ∀ j ∈ ids t, id < j := fun j hj => Nat.lt_trans hlt (hp.1 j hj)
      simp only [Sorted, ids, List.map_cons, List.pairwise_cons, List.mem_cons]
      refine ⟨fun j hj => ?_, hp⟩
      rcases hj with rfl | hj
      · exact hlt
      · exact hall j hj
    · split
      · next heq => subst heq; simpa only [Sorted, ids, List.map_cons, List.pairwise_cons] using hp
      · next hne =>
        have hlt : k < id := Nat.lt_of_le_of_ne (Nat.le_of_not_lt ‹_›) (Ne.symm hne)
        simp only [Sorted, ids, List.map_cons, List.pairwise_cons]
        refine ⟨fun j hj => ?_, ih hp.2⟩
        rcases mem_ids_alter.mp hj with rfl | hj
        · exact hlt
        · exact hp.1 j hj

theorem Sorted.modify {t : Table β} (h : Sorted t) (id : AgentId) (f : β → β) :
    Sorted (modify id f t) := by
  simpa [Sorted, ids, Table.modify, Function.comp_def] using h

theorem Sorted.erase {t : Table β} (h : Sorted t) (id : AgentId) : Sorted (erase id t) :=
  List.Pairwise.sublist ((List.filter_sublist (l := t)).map _) h

theorem lookup_erase_self (id : AgentId) (t : Table β) : (erase id t).lookup id = none :=
  lookup_eq_none fun k hk => by
    simp only [ids, erase, List.mem_map, List.mem_filter] at hk
    obtain ⟨e, ⟨_, he⟩, rfl⟩ := hk
    exact fun h => of_decide_eq_true he h.symm

theorem lookup_erase_ne {id k : AgentId} (hne : k ≠ id) (t : Table β) :
    (erase id t).lookup k = t.lookup k := by
  induction t with
  | nil => rfl
  | cons e t ih =>
    obtain ⟨j, b⟩ := e
    by_cases hj : j = id
    · subst hj
      have hk : (k == j) = false := by simp [hne]
      simpa [erase, List.lookup_cons, hk] using ih
    · have he : erase id ((j, b) :: t) = (j, b) :: erase id t := by simp [erase, hj]
      simp only [he, List.lookup_cons, ih]

end Table

/-- Adds a number to an ascending list that does not hold it yet. -/
def insertAscending (n : Nat) : List Nat → List Nat
  | [] => [n]
  | k :: rest => if n < k then n :: k :: rest else if n = k then k :: rest else k :: insertAscending n rest

/-- The members of a list, once each and in ascending order. -/
def ascending (ns : List Nat) : List Nat := ns.foldr insertAscending []

end ConsensusControl
