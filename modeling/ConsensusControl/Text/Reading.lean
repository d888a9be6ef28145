namespace ConsensusControl

namespace Text

/-- Why a text cannot be read. -/
inductive Misreading
  | malformed
  /-- The text ends before a part of it does. -/
  | unfinished
  deriving DecidableEq, Repr

/-- A reader of what a text starts with. It leaves the rest, and where it fails, all. -/
abbrev Reading (β : Type) := StateT (List Char) (Except Misreading) β

/-- What stands between the parts of a document without being one. -/
inductive Gap
  | blanks
  | lineComment
  /-- Comments nest: this many are open. -/
  | blockComment (depth : Nat)
  deriving DecidableEq, Repr

def isBlank (c : Char) : Bool :=
  [0x9, 0xa, 0xb, 0xc, 0xd, 0x20, 0x85, 0x200e, 0x200f, 0x2028, 0x2029].contains c.toNat

/-- What is left behind a gap. A slash must begin a comment, and one in a block has to end. -/
def Gap.skip? : Gap → List Char → Option (List Char)
  | blanks, '/' :: '/' :: cs => lineComment.skip? cs
  | blanks, '/' :: '*' :: cs => (blockComment 1).skip? cs
  | blanks, '/' :: _ => none
  | blanks, c :: cs => if isBlank c then blanks.skip? cs else some (c :: cs)
  | lineComment, c :: cs => (if c = '\n' then blanks else lineComment).skip? cs
  | blockComment depth, '/' :: '*' :: cs => (blockComment (depth + 1)).skip? cs
  | blockComment depth, '*' :: '/' :: cs =>
    (if depth ≤ 1 then blanks else blockComment (depth - 1)).skip? cs
  | blockComment depth, _ :: cs => (blockComment depth).skip? cs
  | blockComment _, [] => none
  | _, [] => some []

/-- What stands in front of the first `close`, and what behind it. -/
def splitBefore? (close : List Char) : List Char → Option (List Char × List Char)
  | [] => none
  | c :: cs => match close.isPrefixOf? (c :: cs) with
    | some rest => some ([], rest)
    | none => (splitBefore? close cs).map fun (read, rest) => (c :: read, rest)

namespace Reading

variable {β : Type}

def malformed : Reading β := throw .malformed

/-- What `r` yields, with nothing read. -/
def lookAhead (r : Reading β) : Reading β := fun cs => (r cs).map fun (x, _) => (x, cs)

/-- What `r` yields of a text that it reads to the end. -/
def whole? (r : Reading β) (s : String) : Option β :=
  match r s.toList with
  | .ok (x, []) => some x
  | _ => none

def next : Reading Char := do
  match ← get with
  | [] => throw .unfinished
  | c :: cs =>
    set cs
    return c

/-- Whether `c` comes next. -/
def sees (c : Char) : Reading Bool := return (← get).head? = some c

/-- Reads `mark`, if it comes next. -/
def take (mark : String) : Reading Bool := do
  match mark.toList.isPrefixOf? (← get) with
  | none => return false
  | some rest =>
    set rest
    return true

def expect (mark : String) : Reading Unit := do
  if !(← take mark) then malformed

/-- Reads all characters up to the first that does not have the property. -/
def run (p : Char → Bool) : Reading (List Char) := do
  let (read, rest) := (← get).span p
  set rest
  return read

def gap : Reading Unit := do
  match Gap.blanks.skip? (← get) with
  | none => malformed
  | some rest => set rest

/-- Reads a comma with the gaps around it, if there is one. -/
def comma : Reading Bool := do
  gap
  if ← take "," then
    gap
    return true
  else return false

end Reading

end Text

end ConsensusControl
