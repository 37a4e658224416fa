import Mathlib.Data.List.Basic

/-! `OrderedMapAnyEntry`: a list of entries, and a hash table from their keys to their positions in
the list. A position is the number of a node, which no other node ever has; an operation is
undefined where it uses a position that holds no node. -/

set_option autoImplicit false

namespace Andromeda.Containers

/-- `ValueLookup`, an unordered map from keys to iterators, in the order in which it is iterated. -/
abbrev ValueLookup (Key : Type) := List (Key × Nat)

/-- An unordered map may be in any order after an insertion. -/
structure HashOrder (Key : Type) where
  arrange : ValueLookup Key → ValueLookup Key
  perm : ∀ table, (arrange table).Perm table

/-- How keys and values are taken from the entries: `impl_get_key` and `impl_get_value`. -/
structure Impl (Key Value Entry : Type) where
  getKey : Entry → Key
  getValue : Entry → Value

/-- `HashedQueue`, whose entries are keys and values at once. -/
def Impl.hashedQueue (Value : Type) : Impl Value Value Value := ⟨id, id⟩

/-- The members of the class, with the number of the next node. -/
structure OrderedMap (Key Entry : Type) where
  queue : List (Nat × Entry)
  lookup : ValueLookup Key
  next : Nat

variable {Key Value Entry : Type} [DecidableEq Key]

namespace ValueLookup

/-- `std::unordered_map::find`. -/
def find (table : ValueLookup Key) (key : Key) : Option Nat := List.lookup key table

/-- `operator[]` and an assignment. -/
def assign (order : HashOrder Key) (table : ValueLookup Key) (key : Key) (node : Nat) :
    ValueLookup Key :=
  if (table.find key).isSome then
    List.map (fun entry => if entry.1 = key then (key, node) else entry) table
  else order.arrange ((key, node) :: table)

/-- `std::unordered_map::erase`. -/
def erase (table : ValueLookup Key) (key : Key) : ValueLookup Key :=
  List.filter (fun entry => entry.1 ≠ key) table

/-- The key after one, in the order of the table; none is the end. -/
def after (table : ValueLookup Key) (key : Key) : Option Key :=
  ((List.dropWhile (fun entry => entry.1 ≠ key) table)[1]?).map Prod.fst

end ValueLookup

namespace OrderedMap

/-- `std::list::erase`. -/
def eraseNode (queue : List (Nat × Entry)) (node : Nat) : Option (List (Nat × Entry)) :=
  if node ∈ queue.map Prod.fst then some (queue.filter fun item => item.1 ≠ node) else none

/-- The entry that an iterator points to. -/
def entryAt (queue : List (Nat × Entry)) (node : Nat) : Option Entry := queue.lookup node

/-- The entries in the order of iteration. -/
def entries (map : OrderedMap Key Entry) : List Entry := map.queue.map Prod.snd

def empty : OrderedMap Key Entry := ⟨[], [], 0⟩

section Queries

variable (map : OrderedMap Key Entry)

def size : Nat := map.queue.length

def front : Option Entry := map.queue.head?.map Prod.snd

def back : Option Entry := map.queue.getLast?.map Prod.snd

/-- `exists`. -/
def contains (key : Key) : Bool := (map.lookup.find key).isSome

/-- `find`, with the entry that the iterator points to unless it is the end. -/
def find (key : Key) : Option (Option Entry) :=
  match map.lookup.find key with
  | none => some none
  | some node => (entryAt map.queue node).map some

end Queries

section Operations

variable (order : HashOrder Key) (impl : Impl Key Value Entry) (map : OrderedMap Key Entry)

/-- `clear`. -/
def clear : OrderedMap Key Entry := { map with queue := [], lookup := [] }

/-- `enqueue_front`, where the key is not checked. -/
def enqueueFront (entry : Entry) : OrderedMap Key Entry where
  queue := (map.next, entry) :: map.queue
  lookup := map.lookup.assign order (impl.getKey entry) map.next
  next := map.next + 1

/-- `enqueue_back`, where the key is not checked. -/
def enqueueBack (entry : Entry) : OrderedMap Key Entry where
  queue := map.queue ++ [(map.next, entry)]
  lookup := map.lookup.assign order (impl.getKey entry) map.next
  next := map.next + 1

/-- The constructor from an initializer list. -/
def ofList (list : List Entry) : OrderedMap Key Entry := list.foldl (enqueueBack order impl) empty

/-- `erase` with a key. -/
def erase (key : Key) : Option (Bool × OrderedMap Key Entry) :=
  match map.lookup.find key with
  | none => some (false, map)
  | some node => do
    let queue ← eraseNode map.queue node
    pure (true, { map with queue, lookup := map.lookup.erase key })

/-- `erase` with the lookup iterator of a key, which has to be there. The iterator that it returns
is that of a key, or the end. -/
def eraseIterator (key : Key) : Option (Option Key × OrderedMap Key Entry) := do
  let node ← map.lookup.find key
  let queue ← eraseNode map.queue node
  pure (map.lookup.after key, { map with queue, lookup := map.lookup.erase key })

/-- `pop`, with the value that it sets. -/
def pop (key : Key) : Option (Option Value × OrderedMap Key Entry) :=
  match map.lookup.find key with
  | none => some (none, map)
  | some node => do
    let entry ← entryAt map.queue node
    let queue ← eraseNode map.queue node
    pure (some (impl.getValue entry), { map with queue, lookup := map.lookup.erase key })

/-- `pop_front`. -/
def popFront : Option (Entry × OrderedMap Key Entry) := do
  let (node, entry) ← map.queue.head?
  let queue ← eraseNode map.queue node
  pure (entry, { map with queue, lookup := map.lookup.erase (impl.getKey entry) })

/-- `pop_back`. -/
def popBack : Option (Entry × OrderedMap Key Entry) := do
  let (node, entry) ← map.queue.getLast?
  let queue ← eraseNode map.queue node
  pure (entry, { map with queue, lookup := map.lookup.erase (impl.getKey entry) })

end Operations

end OrderedMap

/-- The operations that change a map. -/
inductive Op (Key Entry : Type) where
  | enqueueFront (entry : Entry)
  | enqueueBack (entry : Entry)
  | erase (key : Key)
  | eraseIterator (key : Key)
  | pop (key : Key)
  | popFront
  | popBack
  | clear

/-- What an operation returns. -/
inductive Result (Key Value Entry : Type) where
  | done
  | found (isFound : Bool)
  | iterator (next : Option Key)
  | value (popped : Option Value)
  | entry (popped : Entry)

/-- An operation of a map; none where it is undefined. -/
def Op.run (order : HashOrder Key) (impl : Impl Key Value Entry) (map : OrderedMap Key Entry) :
    Op Key Entry → Option (Result Key Value Entry × OrderedMap Key Entry)
  | .enqueueFront entry => some (.done, map.enqueueFront order impl entry)
  | .enqueueBack entry => some (.done, map.enqueueBack order impl entry)
  | .erase key => (map.erase key).map fun (isFound, map) => (.found isFound, map)
  | .eraseIterator key => (map.eraseIterator key).map fun (next, map) => (.iterator next, map)
  | .pop key => (map.pop impl key).map fun (popped, map) => (.value popped, map)
  | .popFront => (map.popFront impl).map fun (popped, map) => (.entry popped, map)
  | .popBack => (map.popBack impl).map fun (popped, map) => (.entry popped, map)
  | .clear => some (.done, map.clear)

/-- A sequence of operations, with what they return. -/
def runAll (order : HashOrder Key) (impl : Impl Key Value Entry) :
    OrderedMap Key Entry → List (Op Key Entry) →
      Option (List (Result Key Value Entry) × OrderedMap Key Entry)
  | map, [] => some ([], map)
  | map, op :: ops => do
    let (result, map) ← op.run order impl map
    let (results, map) ← runAll order impl map ops
    pure (result :: results, map)

end Andromeda.Containers
