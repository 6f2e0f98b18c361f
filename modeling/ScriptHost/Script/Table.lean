/-
ScriptHost.Script.Table — what tables hold, and where they hold it.

A table holds values under different keys; an integer and the double that is
this integer are one and the same key. The values under 1, 2, … are its
items. Some of them have their places in a row, and all other keys have slots
(`Storage`). Only a new key for which there is no slot left makes a table
choose the row and the slots anew, so they depend on the order in which it
was filled.

The length of a table is a border: there is an item under this number, unless
it is 0, and none under the next one. A table with gaps has several borders,
and its row decides which one is the length (`Table.border`). So tables that
hold the same may have different lengths, and count as arrays or not.

Two things are left out that an interpreter may do: it may give the slot of a
key that was taken out to another key, and it may remember a border that it
has found. Which border is the length then is not decided by what happened to
the table. But each border is the length with some storage
(`Table.exists_border`), so that what is said of all tables holds for every
choice.
-/
import ScriptHost.Script.Value

namespace ScriptHost

/-- What kind of table it is. -/
inductive Mark where
  /-- No mark. -/
  | plain
  /-- The mark of an array that came from data. -/
  | array
  /-- An object of a type, whose class table answers for missing fields. -/
  | object (className : String)
  deriving DecidableEq, Repr, Inhabited

/-! ## Where keys are held -/

/-- Where a table holds its keys. -/
structure Storage where
  /-- How many items have a place in the row. -/
  row : Nat := 0
  /-- How many slots there are for all other keys. -/
  slots : Nat := 0
  /-- The keys that have a slot, also those that were taken out. -/
  keys : List Value := []
  deriving DecidableEq, Repr, Inhabited

namespace Storage

/-- The length of the row that is made for some keys: the largest power of
two such that the keys fill more than half of the row, or 0. -/
def rowFor (keys : List Value) : Nat :=
  ((List.range (keys.length.log2 + 2)).map (1 <<< ·)).foldl
    (fun row n => if n < 2 * keys.countP (Value.isItem n) then n else row) 0

/-- The number of slots that are made for some keys: a power of two, or
0. -/
def slotsFor (count : Nat) : Nat :=
  if count ≤ 1 then count else 1 <<< ((count - 1).log2 + 1)

/-- New storage for some keys. -/
def ofKeys (keys : List Value) : Storage :=
  let row := rowFor keys
  let others := keys.filter fun key => !key.isItem row
  { row, slots := slotsFor others.length, keys := others }

/-- The storage after a key was written, if these are the keys of the table
then. -/
def write (s : Storage) (keys : List Value) (key : Value) : Storage :=
  if key.isItem s.row || s.keys.contains key then s
  else if s.keys.length < s.slots then { s with keys := key :: s.keys }
  else ofKeys keys

end Storage

/-! ## Tables -/

/-- What a table holds: its entries, oldest first, none of them nil. -/
structure Table where
  entries : List (Value × Value) := []
  mark : Mark := .plain
  storage : Storage := {}
  deriving DecidableEq, Repr, Inhabited

namespace Table

/-- The value under a key, among entries. -/
def find (key : Value) : List (Value × Value) → Value
  | [] => .nil
  | (k, v) :: rest => if k = key then v else find key rest

/-- Writes a value under a key. -/
def put (key value : Value) : List (Value × Value) → List (Value × Value)
  | [] => [(key, value)]
  | (k, v) :: rest =>
    if k = key then (key, value) :: rest else (k, v) :: put key value rest

/-- Takes a key out. -/
def drop (key : Value) : List (Value × Value) → List (Value × Value)
  | [] => []
  | (k, v) :: rest => if k = key then rest else (k, v) :: drop key rest

/-- The value under a key, nil if there is none. -/
def get (t : Table) (key : Value) : Value := find key.asKey t.entries

/-- Writes a value under a key; nil takes the key out. What cannot be a key
changes nothing. -/
def set (t : Table) (key value : Value) : Table :=
  if !key.isKey then t
  else if value.isNil then { t with entries := drop key.asKey t.entries }
  else
    let entries := put key.asKey value t.entries
    { t with
      entries
      storage := t.storage.write (entries.map Prod.fst) key.asKey }

/-- The values under a text key. -/
def field (t : Table) (name : String) : Value := t.get (.ofText name)

/-- The items under the keys from `start` on, up to the first nil, at most
`fuel` of them. -/
def itemsFrom (t : Table) (start : Nat) : Nat → List Value
  | 0 => []
  | fuel + 1 =>
    let v := t.get (.int (Int64.ofNat start))
    if v.isNil then [] else v :: itemsFrom t (start + 1) fuel

/-- The items under the keys 1, 2, … up to the first nil. -/
def items (t : Table) : List Value := t.itemsFrom 1 t.entries.length

/-! ## Length -/

/-- Is there an item of this number? -/
def hasItem (t : Table) (n : Nat) : Bool :=
  1 ≤ n && n ≤ Word.maxSigned && !(t.get (.int (Int64.ofNat n))).isNil

/-- The border that a search by halves finds between the number of an item
and a number without one, at most `2 ^ fuel` apart. -/
def bisect (t : Table) : Nat → Nat → Nat → Nat
  | 0, low, _ => low
  | fuel + 1, low, high =>
    if high ≤ low + 1 then low
    else
      let middle := (low + high) / 2
      if t.hasItem middle then bisect t fuel middle high
      else bisect t fuel low middle

/-- The border that is found from the number of an item on: the number is
doubled, up to the largest integer, until there is no item. -/
def ascend (t : Table) : Nat → Nat → Nat
  | 0, n => n
  | fuel + 1, n =>
    let next := min (2 * n) Word.maxSigned.toNat
    if t.hasItem next then ascend t fuel next
    else t.bisect (next.log2 + 1) n next

/-- The length of the table: a border in the row or at its end, and one
behind it only if there are items on both sides of the end. -/
def border (t : Table) : Nat :=
  let last := t.storage.row
  if 0 < last && !t.hasItem last then
    if t.hasItem (last - 1) then last - 1
    else t.bisect (last.log2 + 1) 0 last
  else if t.hasItem (last + 1) then t.ascend 63 (max last 1)
  else last

/-- Does the table count as an array? -/
def isSequence (t : Table) : Bool := t.mark = .array || 0 < t.border

/-! ## Filling -/

/-- The table with the given entries, written in order. -/
def ofPairs (pairs : List (Value × Value)) : Table :=
  pairs.foldl (fun t p => t.set p.1 p.2) {}

/-- Pairs the items of a list with the keys `start`, `start + 1`, …, and
leaves out nil. -/
def enumerate (start : Nat) : List Value → List (Value × Value)
  | [] => []
  | v :: rest =>
    if v.isNil then enumerate (start + 1) rest
    else (.int (Int64.ofNat start), v) :: enumerate (start + 1) rest

/-- The table with the items of a list, written in order under the keys
1, 2, …; nil leaves a hole. -/
def ofItems (mark : Mark) (items : List Value) : Table :=
  { ofPairs (enumerate 1 items) with mark }

end Table

end ScriptHost
