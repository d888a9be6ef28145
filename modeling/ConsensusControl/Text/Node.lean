import ConsensusControl.Text.Numeral

namespace ConsensusControl

namespace Text

/-- Values of a document. -/
inductive Node
  | flag (b : Bool)
  | number (n : Numeral)
  | interval (i : Interval)
  | text (s : String)
  | letter (c : Char)
  | bytes (octets : List UInt8)
  | name (s : String)
  | unit
  /-- A value that is marked as being there. -/
  | present (value : Node)
  | record (name : Option String) (fields : List (String × Node))
  | tuple (name : Option String) (items : List Node)
  | list (items : List Node)
  | map (entries : List (Node × Node))

/-- What a document may leave out around the value behind `Some`. -/
structure Liberties where
  /-- The parentheses. -/
  bare : Bool
  /-- The value's own parentheses, inside those of `Some`. -/
  merged : Bool
  deriving DecidableEq, Repr

namespace Node

/-- Words with a meaning of their own, which never name a record. -/
def reserved? (w : String) : Option Node :=
  if w = "true" then some (.flag true)
  else if w = "false" then some (.flag false)
  else if w = "None" then some (.name w)
  else none

mutual

/-- How deep values lie within one another. A value that holds others takes a level, and each of
those takes one. -/
def levels : Node → Nat
  | present v => v.levels + 1
  | record _ fields => levelsOfFields fields + 1
  | tuple _ items | list items => levelsOfItems items + 1
  | map entries => levelsOfEntries entries + 1
  | _ => 0

def levelsOfItems : List Node → Nat
  | [] => 0
  | item :: items => max (item.levels + 1) (levelsOfItems items)

def levelsOfFields : List (String × Node) → Nat
  | [] => 0
  | (_, v) :: fields => max (v.levels + 1) (levelsOfFields fields)

def levelsOfEntries : List (Node × Node) → Nat
  | [] => 0
  | (k, v) :: entries => max (max k.levels v.levels + 1) (levelsOfEntries entries)

end

end Node

/-- What the parentheses behind `Some` enclose, where they may be those of the value itself. -/
inductive Enclosed
  | nothing
  | fields
  | items
  | value
  deriving DecidableEq, Repr

namespace Reading

/-- Whether a key comes next. -/
def seesKey : Reading Bool := lookAhead do
  match ← identifier? with
  | none => return false
  | some _ =>
    gap
    sees ':'

/-- Passes over what `part` reads, if it is well formed, and says whether it is. -/
def passes {β : Type} (part : Reading β) : Reading Bool := do
  try part *> return true catch
    | .malformed => return false
    | .unfinished => throw .unfinished

/-- Passes over a letter or a text, if one comes next, and says whether one does. No letter is unfinished:
its apostrophe may stand for itself. -/
def passesQuoted : Reading Bool := do
  let isLetter ← try passes letter catch _ => pure false
  if isLetter then return true
  else if ← passes string then return true
  else passes byteString

/-- Whether a comma with something behind it comes before the parenthesis that closes this level.
`depth` more are open. Letters and texts are passed over whole. A letter that is an octet is not: where
what it has between apostrophes is no character, as in `b'\xff'`, each of its marks counts. -/
def seesItems (fuel depth : Nat) : Reading Bool :=
  match fuel with
  | 0 => malformed
  | fuel + 1 => do
    gap
    if ← passesQuoted then seesItems fuel depth
    else
      let c ← next
      if c ∈ ['(', '[', '\x7b'] then seesItems fuel (depth + 1)
      else if c ∈ [')', ']', '\x7d'] then
        if depth = 0 then return false else seesItems fuel (depth - 1)
      else if c = ',' ∧ depth = 0 then
        gap
        return !(← sees ')')
      else seesItems fuel depth

/-- What comes next inside the parentheses behind `Some`. -/
def enclosed : Reading Enclosed := lookAhead do
  if ← sees ')' then return .nothing
  else if ← seesKey then return .fields
  else
    let _ ← identifier?
    if ← seesItems ((← get).length + 1) 0 then return .items else return .value

mutual

/-- A value, which nests at most `fuel` deep. -/
def value (l : Liberties) (fuel : Nat) : Reading Node :=
  match fuel with
  | 0 => malformed
  | fuel + 1 => do
    if ← take ".." then return .interval (← interval none)
    match ← numeral? with
    | some n => if ← take ".." then return .interval (← interval n) else return .number n
    | none => match ← identifier? with
      | some w => word l fuel w
      | none =>
        if ← take "()" then return .unit
        else if ← take "(" then group l fuel none
        else if ← take "[" then
          gap
          let vs ← items l fuel ']'
          expect "]"
          return .list vs
        else if ← take "\x7b" then
          gap
          let entries ← entries l fuel
          expect "\x7d"
          return .map entries
        else if ← sees '\'' then return .letter (← letter)
        else if ← sees 'b' then return .bytes (← byteString)
        else return .text (← string)

/-- What starts with a word. -/
def word (l : Liberties) (fuel : Nat) (w : Identifier) : Reading Node :=
  match fuel with
  | 0 => malformed
  | fuel + 1 =>
    if w = ⟨"Some", false⟩ then present l fuel
    else match if w.isMarked then none else Node.reserved? w.text with
      | some v => return v
      | none => do
        gap
        if ← take "(" then group l fuel w.text else return .name w.text

/-- What follows `Some`. -/
def present (l : Liberties) (fuel : Nat) : Reading Node :=
  match fuel with
  | 0 => malformed
  | fuel + 1 => do
    gap
    if ← take "(" then
      gap
      let v ← if l.merged then merged l fuel else value l fuel
      let _ ← comma
      expect ")"
      return .present v
    else if l.bare then return .present (← value l fuel)
    else malformed

/-- A value whose own parentheses are left out inside those of `Some`. -/
def merged (l : Liberties) (fuel : Nat) : Reading Node :=
  match fuel with
  | 0 => malformed
  | fuel + 1 => do
    match ← enclosed with
    | .nothing => return .unit
    | .fields => return .record none (← fields l fuel)
    | .items => return .tuple none (← items l fuel ')')
    | .value => value l fuel

/-- What follows an opening parenthesis: fields, if the first part is a key, else items. -/
def group (l : Liberties) (fuel : Nat) (name : Option String) : Reading Node :=
  match fuel with
  | 0 => malformed
  | fuel + 1 => do
    gap
    let v ← if ← seesKey then Node.record name <$> fields l fuel else Node.tuple name <$> items l fuel ')'
    expect ")"
    return v

def items (l : Liberties) (fuel : Nat) (close : Char) : Reading (List Node) :=
  match fuel with
  | 0 => malformed
  | fuel + 1 => do
    if ← sees close then return []
    let item ← value l fuel
    if ← comma then return item :: (← items l fuel close) else return [item]

def fields (l : Liberties) (fuel : Nat) : Reading (List (String × Node)) :=
  match fuel with
  | 0 => malformed
  | fuel + 1 => do
    if ← sees ')' then return []
    let key ← ofOption (← identifier?)
    gap
    expect ":"
    gap
    let v ← value l fuel
    if ← comma then return (key.text, v) :: (← fields l fuel) else return [(key.text, v)]

def entries (l : Liberties) (fuel : Nat) : Reading (List (Node × Node)) :=
  match fuel with
  | 0 => malformed
  | fuel + 1 => do
    if ← sees '\x7d' then return []
    let k ← value l fuel
    gap
    expect ":"
    gap
    let v ← value l fuel
    if ← comma then return (k, v) :: (← entries l fuel) else return [(k, v)]

end

/-- A value with at most 128 levels. Reading it spends at most four units of fuel for each character. -/
def node (l : Liberties) : Reading Node := do
  let v ← value l (4 * (← get).length + 4)
  if v.levels ≤ 128 then return v else malformed

end Reading

end Text

end ConsensusControl
