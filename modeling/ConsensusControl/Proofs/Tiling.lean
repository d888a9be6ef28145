import Mathlib.Data.List.Forall2
import ConsensusControl.Vec

namespace ConsensusControl.Block

/-- Neither block reaches into the other. -/
def Apart (b c : Block) : Prop := b.stop ≤ c.start ∨ c.stop ≤ b.start

variable {α : Type} {b c : Block} {f : List α → List α} {xs : List α}

theorem read_append {own segment rest : List α} (hstart : b.start = own.length)
    (hsize : b.size = segment.length) : b.read (own ++ (segment ++ rest)) = segment := by
  rw [read, hstart, hsize, List.drop_left, List.take_left]

theorem Apart.symm (h : b.Apart c) : c.Apart b := Or.symm h

theorem length_read_of_stop (h : b.stop ≤ xs.length) : (b.read xs).length = b.size := by
  unfold stop at h
  rw [length_read]
  exact Nat.min_eq_left (by omega)

theorem read_zeros [Scalar α] {n : Nat} (h : b.stop ≤ n) :
    b.read (Vec.zeros n : Vec α) = Vec.zeros b.size := by
  unfold stop at h
  rw [read, Vec.zeros, List.drop_replicate, List.take_replicate]
  exact congrArg (List.replicate · 0) (Nat.min_eq_left (by omega))

theorem read_append_drop (b : Block) (xs : List α) : b.read xs ++ xs.drop b.stop = xs.drop b.start := by
  rw [read, stop, ← List.drop_drop, List.take_append_drop]

theorem update_same (b : Block) (xs : List α) : b.update (fun ys => ys) xs = xs := by
  simp only [update, read, stop, List.append_assoc]
  rw [← List.drop_drop, List.take_append_drop, List.take_append_drop]

/-- An update stays within its block. -/
theorem read_update_apart (h : b.Apart c) (hstop : b.stop ≤ xs.length)
    (hf : (f (b.read xs)).length = b.size) : c.read (b.update f xs) = c.read xs := by
  have hstart : b.start ≤ xs.length := Nat.le_trans (Nat.le_add_right _ _) hstop
  have hlength : (xs.take b.start).length = b.start := List.length_take_of_le hstart
  rcases h with h | h
  · have hfront : (xs.take b.start ++ f (b.read xs)).length = b.stop := by
      rw [List.length_append, hlength, hf]
      rfl
    obtain ⟨k, hk⟩ := Nat.exists_eq_add_of_le h
    rw [read, read, update, hk, ← List.drop_drop, ← List.drop_drop, List.drop_left' hfront]
  · have hread : ∀ ys : List α, (c.read (xs.take b.start ++ ys)) = c.read (xs.take b.start) := by
      intro ys
      unfold stop at h
      simp only [read]
      rw [List.drop_append_of_le_length (by omega), List.take_append_of_le_length (by simp; omega)]
    calc c.read (b.update f xs) = c.read (xs.take b.start) := by
          rw [update, List.append_assoc, hread]
      _ = c.read (xs.take b.start ++ xs.drop b.start) := (hread _).symm
      _ = c.read xs := by rw [List.take_append_drop]

/-- The blocks lead from `start` to `stop`, without a gap or an overlap. -/
def Tiles : Nat → Nat → List Block → Prop
  | start, stop, [] => start = stop
  | start, stop, b :: bs => b.start = start ∧ Tiles b.stop stop bs

/-- The position is one of the block's. -/
def Covers (b : Block) (k : Nat) : Prop := b.start ≤ k ∧ k < b.stop

instance (b : Block) (k : Nat) : Decidable (b.Covers k) :=
  inferInstanceAs (Decidable (b.start ≤ k ∧ k < b.stop))

theorem start_le_stop (b : Block) : b.start ≤ b.stop := Nat.le_add_right _ _

namespace Tiles

variable {start stop : Nat} {bs : List Block}

theorem le (h : Tiles start stop bs) : start ≤ stop := by
  induction bs generalizing start with
  | nil => exact Nat.le_of_eq h
  | cons b bs ih =>
    obtain ⟨rfl, hrest⟩ := h
    exact Nat.le_trans b.start_le_stop (ih hrest)

theorem within (h : Tiles start stop bs) (hb : b ∈ bs) : start ≤ b.start ∧ b.stop ≤ stop := by
  induction bs generalizing start with
  | nil => cases hb
  | cons c bs ih =>
    obtain ⟨rfl, hrest⟩ := h
    rcases List.mem_cons.mp hb with rfl | hb
    · exact ⟨Nat.le_refl _, hrest.le⟩
    · obtain ⟨hstart, hstop⟩ := ih hrest hb
      exact ⟨Nat.le_trans c.start_le_stop hstart, hstop⟩

theorem apart (h : Tiles start stop bs) : bs.Pairwise Apart := by
  induction bs generalizing start with
  | nil => exact .nil
  | cons b bs ih => exact .cons (fun c hc => .inl (h.2.within hc).1) (ih h.2)

/-- The blocks cover what lies behind the start of the stretch. -/
theorem flatMap_read (h : Tiles start xs.length bs) : (bs.flatMap fun b => b.read xs) = xs.drop start := by
  induction bs generalizing start with
  | nil =>
    obtain rfl : start = xs.length := h
    rw [List.drop_length]
    rfl
  | cons b bs ih =>
    obtain ⟨rfl, hrest⟩ := h
    rw [List.flatMap_cons, ih hrest]
    exact b.read_append_drop xs

/-- Segments that fill the blocks are found there. -/
theorem read_flatten {own : List α} {segments : List (List α)} (h : Tiles start stop bs)
    (hown : own.length = start) (hsizes : List.Forall₂ (fun b s => s.length = b.size) bs segments) :
    List.Forall₂ (fun b s => b.read (own ++ segments.flatten) = s) bs segments := by
  induction hsizes generalizing own start with
  | nil => exact .nil
  | @cons b s bs segments hs _ ih =>
    obtain ⟨rfl, hrest⟩ := h
    have hlength : (own ++ s).length = b.stop := by
      rw [List.length_append, hown, hs, Block.stop]
    refine .cons ?_ ?_
    · exact read_append hown.symm hs.symm
    · simpa only [List.flatten_cons, List.append_assoc] using ih hrest hlength

/-- Blocks behind a stretch are not in it. -/
theorem countP_of_lt (h : Tiles start stop bs) {k : Nat} (hk : k < start) :
    bs.countP (·.Covers k) = 0 := by
  rw [List.countP_eq_zero]
  intro b hb hcovers
  have hcovers := of_decide_eq_true hcovers
  exact absurd (Nat.lt_of_lt_of_le hk (h.within hb).1) (Nat.not_lt.mpr hcovers.1)

/-- Every position of the stretch is in exactly one block. -/
theorem countP (h : Tiles start stop bs) {k : Nat} (hstart : start ≤ k) (hstop : k < stop) :
    bs.countP (·.Covers k) = 1 := by
  induction bs generalizing start with
  | nil => exact absurd (Nat.lt_of_le_of_lt hstart hstop) (Nat.not_lt.mpr (Nat.le_of_eq h.symm))
  | cons b bs ih =>
    obtain ⟨rfl, hrest⟩ := h
    by_cases hk : k < b.stop
    · have hcovers : b.Covers k := ⟨hstart, hk⟩
      rw [List.countP_cons_of_pos (by simpa using hcovers), hrest.countP_of_lt hk]
    · have hmiss : ¬ b.Covers k := fun hcovers => hk hcovers.2
      rw [List.countP_cons_of_neg (by simpa using hmiss)]
      exact ih hrest (Nat.not_lt.mp hk)

end Tiles

theorem read_write {values : List α} (hvalues : values.length = b.size) (h : b.stop ≤ xs.length) :
    b.read (b.write values xs) = values := by
  rw [write, read_update _ _ h]
  exact hvalues.trans (length_read_of_stop h).symm

/-- The blocks share a vector of `n` entries among them: one lies behind the other, each entry is in exactly
one, and what is written to one shows there and in no other. -/
structure Partition (n : Nat) (bs : List Block) : Prop where
  tiles : Tiles 0 n bs
  apart : bs.Pairwise Apart
  cover : ∀ k, k < n → bs.countP (·.Covers k) = 1
  write : ∀ {α : Type} {xs values : List α} {i j : Nat} {b c : Block}, xs.length = n →
    bs[i]? = some b → bs[j]? = some c → values.length = b.size →
    c.read (b.write values xs) = if i = j then values else c.read xs

theorem Tiles.partition {n : Nat} {bs : List Block} (h : Tiles 0 n bs) : Partition n bs where
  tiles := h
  apart := h.apart
  cover k hk := h.countP (Nat.zero_le k) hk
  write {α xs values i j b c} hxs hi hj hvalues := by
    have hstop : b.stop ≤ xs.length := hxs ▸ (h.within (List.mem_of_getElem? hi)).2
    obtain ⟨hilt, rfl⟩ := List.getElem?_eq_some_iff.mp hi
    obtain ⟨hjlt, rfl⟩ := List.getElem?_eq_some_iff.mp hj
    have hapart := List.pairwise_iff_getElem.mp h.apart
    rcases Nat.lt_trichotomy i j with hlt | rfl | hlt
    · rw [if_neg (Nat.ne_of_lt hlt)]
      exact read_update_apart (hapart i j hilt hjlt hlt) hstop hvalues
    · rw [if_pos rfl]
      exact read_write hvalues hstop
    · rw [if_neg (Nat.ne_of_gt hlt)]
      exact read_update_apart (hapart j i hjlt hilt hlt).symm hstop hvalues

end ConsensusControl.Block
