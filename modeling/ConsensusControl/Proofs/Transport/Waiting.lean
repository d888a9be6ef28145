import ConsensusControl.Transport.Mailbox

namespace ConsensusControl

variable {α : Type}

namespace Envelope

/-- The records of the envelopes with a key, in their order. -/
def under (key : Key) (envelopes : List (Envelope α)) : List (StateRecord α) :=
  (envelopes.filter (·.key = key)).map (·.record)

@[simp] theorem under_nil (key : Key) : under key ([] : List (Envelope α)) = [] := rfl

@[simp] theorem under_cons_self (e : Envelope α) (envelopes : List (Envelope α)) :
    under e.key (e :: envelopes) = e.record :: under e.key envelopes := by
  simp [under]

theorem under_cons_ne {e : Envelope α} {key : Key} (h : e.key ≠ key) (envelopes : List (Envelope α)) :
    under key (e :: envelopes) = under key envelopes := by
  simp [under, h]

@[simp] theorem under_append (key : Key) (envelopes envelopes' : List (Envelope α)) :
    under key (envelopes ++ envelopes') = under key envelopes ++ under key envelopes' := by
  simp [under]

end Envelope

/-- What is left of records that replace each other. -/
def newest {β : Type} (l : List β) : List β := l.getLast?.toList

theorem newest_eq_self {β : Type} {l : List β} (h : l.length ≤ 1) : newest l = l := by
  match l with
  | [] => rfl
  | [b] => rfl
  | _ :: _ :: _ => simp at h

theorem length_newest_le {β : Type} (l : List β) : (newest l).length ≤ 1 := by
  unfold newest
  cases l.getLast? <;> simp

theorem newest_append_cons {β : Type} (l : List β) (b : β) (l' : List β) :
    newest (l ++ b :: l') = newest (b :: l') := by
  rw [newest, newest, List.getLast?_append, List.getLast?_cons, Option.some_or]

theorem newest_sublist {β : Type} (l : List β) : (newest l).Sublist l := by
  unfold newest
  cases h : l.getLast? with
  | none => exact List.nil_sublist l
  | some b => exact List.singleton_sublist.mpr (List.mem_of_getLast? h)

/-- Of the records in front, those that have been passed, only the newest is left. -/
def Thinned {β : Type} (old new : List β) : Prop :=
  ∃ passed rest, old = passed ++ rest ∧ new = newest passed ++ rest

namespace Thinned

variable {β : Type} {old new : List β}

theorem refl (l : List β) : Thinned l l := ⟨[], l, rfl, rfl⟩

theorem sublist (h : Thinned old new) : new.Sublist old := by
  obtain ⟨passed, rest, rfl, rfl⟩ := h
  exact (newest_sublist passed).append (.refl rest)

/-- The newest of all is never lost. -/
theorem getLast? (h : Thinned old new) : new.getLast? = old.getLast? := by
  obtain ⟨passed, rest, rfl, rfl⟩ := h
  have hnewest : (newest passed).getLast? = passed.getLast? := by
    unfold newest
    cases passed.getLast? <;> rfl
  rw [List.getLast?_append, List.getLast?_append, hnewest]

/-- A single record does not give way to anything. -/
theorem eq_of_length_le (h : Thinned old new) (hl : old.length ≤ 1) : new = old := by
  obtain ⟨passed, rest, rfl, rfl⟩ := h
  rw [List.length_append] at hl
  rw [newest_eq_self (by omega)]

end Thinned

namespace Mailbox

/-- The records that wait under a key, in the order in which they come out: the parked one, then those in
the queue. -/
def waiting (m : Mailbox α) (key : Key) : List (StateRecord α) :=
  (m.parked.lookup key).toList ++ Envelope.under key m.queue

@[simp] theorem waiting_empty (key : Key) : (empty : Mailbox α).waiting key = [] := rfl

theorem waiting_deliver_self (m : Mailbox α) (e : Envelope α) :
    (m.deliver e).waiting e.key = m.waiting e.key ++ [e.record] := by
  simp [waiting, deliver]

theorem waiting_deliver_ne {e : Envelope α} {key : Key} (h : e.key ≠ key) (m : Mailbox α) :
    (m.deliver e).waiting key = m.waiting key := by
  simp [waiting, deliver, Envelope.under_cons_ne h]

/-- Dropping the records of other keys leaves that of a key. -/
theorem lookup_filter {p : Key → Bool} {key : Key} (h : p key = true)
    (parked : List (Key × StateRecord α)) :
    (parked.filter (p ·.1)).lookup key = parked.lookup key := by
  induction parked with
  | nil => rfl
  | cons entry parked ih =>
    obtain ⟨k, record⟩ := entry
    by_cases hk : key = k
    · subst hk
      simp [h]
    · have hne : (key == k) = false := by simp [hk]
      rw [List.lookup_cons, hne, List.filter_cons]
      split
      · rw [List.lookup_cons, hne]
        exact ih
      · exact ih

theorem lookup_filter_self (key : Key) (parked : List (Key × StateRecord α)) :
    (parked.filter (·.1 ≠ key)).lookup key = none := by
  rw [List.lookup_eq_none_iff]
  intro entry hentry
  obtain ⟨-, hne⟩ := List.mem_filter.mp hentry
  simpa using Ne.symm (of_decide_eq_true hne)

theorem lookup_park_self {round : Nat} {e : Envelope α} (h : round ≤ e.round)
    (parked : List (Key × StateRecord α)) : (park round e parked).lookup e.key = some e.record := by
  rw [park, if_neg (Nat.not_lt.mpr h), List.lookup_cons_self]

theorem lookup_park_ne {e : Envelope α} {key : Key} (h : e.key ≠ key) (round : Nat)
    (parked : List (Key × StateRecord α)) :
    (park round e parked).lookup key = parked.lookup key := by
  unfold park
  split
  · rfl
  · have hne : (key == e.key) = false := by simpa using Ne.symm h
    rw [List.lookup_cons, hne]
    exact lookup_filter (p := fun k => k ≠ e.key) (by simpa using Ne.symm h) parked

theorem search_self {key : Key} (queue : List (Envelope α)) {parked : List (Key × StateRecord α)}
    (h : parked.lookup key = none) :
    (search key queue parked).1 = (Envelope.under key queue).head? ∧
      (search key queue parked).2.waiting key = (Envelope.under key queue).tail := by
  induction queue generalizing parked with
  | nil => simp [search, waiting, h]
  | cons e queue ih =>
    unfold search
    split
    · next hkey =>
      subst hkey
      simp [waiting, h]
    · next hkey =>
      rw [Envelope.under_cons_ne hkey]
      exact ih ((lookup_park_ne hkey key.round parked).trans h)

/-- A receive gives the first of the records that wait under its key and leaves the others. -/
theorem receive_self (m : Mailbox α) (key : Key) :
    (m.receive key).1 = (m.waiting key).head? ∧
      (m.receive key).2.waiting key = (m.waiting key).tail := by
  have hkept : (m.parked.filter (key.round ≤ ·.1.round)).lookup key = m.parked.lookup key :=
    lookup_filter (p := fun k => key.round ≤ k.round) (by simp) m.parked
  unfold receive
  dsimp only
  split
  · next record hlookup =>
    rw [hkept] at hlookup
    simp only [waiting, hlookup, lookup_filter_self]
    exact ⟨rfl, rfl⟩
  · next hlookup =>
    obtain ⟨hgiven, hleft⟩ := search_self m.queue hlookup
    rw [hkept] at hlookup
    rw [hgiven, hleft]
    simp [waiting, hlookup]

/-- A search for one key passes some of the queued records under another, all of them if it finds
nothing. -/
theorem search_ne {key other : Key} (hround : key.round ≤ other.round) (hne : other ≠ key)
    (queue : List (Envelope α)) (parked : List (Key × StateRecord α)) :
    ∃ passed rest, Envelope.under other queue = passed ++ rest ∧
      (search key queue parked).2.waiting other =
        newest ((parked.lookup other).toList ++ passed) ++ rest ∧
      ((search key queue parked).1 = none → rest = []) := by
  have hparked : ∀ parked : List (Key × StateRecord α),
      newest (parked.lookup other).toList = (parked.lookup other).toList :=
    fun parked => newest_eq_self (by cases parked.lookup other <;> simp)
  induction queue generalizing parked with
  | nil => exact ⟨[], [], rfl, by simp [search, waiting, hparked], fun _ => rfl⟩
  | cons e queue ih =>
    unfold search
    split
    · next hkey =>
      have hother : e.key ≠ other := fun h => hne (h.symm.trans hkey)
      exact ⟨[], _, (List.nil_append _).symm,
        by simp [waiting, hparked, Envelope.under_cons_ne hother], by simp⟩
    · obtain ⟨passed, rest, hunder, hnew, hall⟩ := ih (park key.round e parked)
      by_cases hother : e.key = other
      · subst hother
        refine ⟨e.record :: passed, rest, by rw [Envelope.under_cons_self, hunder]; rfl, ?_, hall⟩
        rw [hnew, lookup_park_self hround, newest_append_cons]
        rfl
      · refine ⟨passed, rest, by rw [Envelope.under_cons_ne hother, hunder], ?_, hall⟩
        rw [hnew, lookup_park_ne hother]

/-- A receive thins out what waits under another key whose round is not over. If it waits itself, it has
passed everything. -/
theorem receive_ne {key other : Key} (hround : key.round ≤ other.round) (hne : other ≠ key)
    (m : Mailbox α) : Thinned (m.waiting other) ((m.receive key).2.waiting other) ∧
      ((m.receive key).1 = none → ((m.receive key).2.waiting other).length ≤ 1) := by
  have hkept : (m.parked.filter (key.round ≤ ·.1.round)).lookup other = m.parked.lookup other :=
    lookup_filter (p := fun k => key.round ≤ k.round) (by simpa using hround) m.parked
  unfold receive
  dsimp only
  split
  · have hother := lookup_filter (p := fun k => k ≠ key) (by simpa using hne)
      (m.parked.filter (key.round ≤ ·.1.round))
    have hsame : Mailbox.waiting ⟨m.queue, (m.parked.filter (key.round ≤ ·.1.round)).filter (·.1 ≠ key)⟩
        other = m.waiting other := by
      rw [waiting, waiting, hother, hkept]
    exact ⟨hsame ▸ .refl _, by simp⟩
  · obtain ⟨passed, rest, hunder, hnew, hall⟩ := search_ne hround hne m.queue
      (m.parked.filter (key.round ≤ ·.1.round))
    rw [hkept] at hnew
    rw [hnew]
    refine ⟨⟨(m.parked.lookup other).toList ++ passed, rest, ?_, rfl⟩, fun hnone => ?_⟩
    · rw [waiting, hunder, List.append_assoc]
    · rw [hall hnone, List.append_nil]
      exact length_newest_le _

end Mailbox

end ConsensusControl
