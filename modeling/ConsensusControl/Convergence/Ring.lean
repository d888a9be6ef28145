import ConsensusControl.Scalar

namespace ConsensusControl

/-- The latest values, at most `capacity` of them, in cells that are there from the start. A full ring overwrites
its oldest cell. -/
structure Ring (β : Type) (capacity : Nat) where
  cells : Vector β capacity
  /-- Cell that the next value goes to. -/
  next : Nat
  /-- Number of cells that hold a value. -/
  count : Nat

namespace Ring

variable {β : Type} {capacity : Nat}

def empty [Zero β] : Ring β capacity := ⟨.replicate capacity 0, 0, 0⟩

def push (value : β) (r : Ring β capacity) : Ring β capacity where
  cells := r.cells.setIfInBounds r.next value
  next := (r.next + 1) % capacity
  count := if r.count < capacity then r.count + 1 else r.count

def latest (r : Ring β capacity) : Option β :=
  if 0 < r.count then r.cells[(r.next + capacity - 1) % capacity]? else none

/-- The values from the oldest to the newest. As long as there are free cells, none from the next one on holds a
value. -/
def values (r : Ring β capacity) : List β :=
  let right := r.cells.toList.drop r.next
  let skip := if r.count < capacity then right.length else 0
  right.drop skip ++ r.cells.toList.take r.next

variable {α : Type} [Scalar α]

/-- Arithmetic mean, zero when there are no values. -/
def average (r : Ring α capacity) : α :=
  if r.count = 0 then 0 else Scalar.sum r.values / (r.count : α)

/-- Mean of the newer half less the mean of the older one: negative while the values decrease. -/
def trend (r : Ring α capacity) : α :=
  if r.count < 2 then 0
  else
    let half := r.count / 2
    let first := Scalar.sum (r.values.take half) / (half : α)
    let last := Scalar.sum (r.values.drop (r.count - half)) / (half : α)
    last - first

end Ring

end ConsensusControl
