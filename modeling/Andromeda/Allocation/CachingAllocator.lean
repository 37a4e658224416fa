import Andromeda.Library.Blocks
import Andromeda.Library.KeyMap
import Andromeda.Library.Run

/-! The caching allocator. All memory is allocated in whole pages, so addresses are given in
pages, with zero for the null pointer. The counters are in bytes, modulo the word size like every
`size_t`. What the source leaves undefined is `none`. -/

set_option autoImplicit false

namespace Andromeda.Allocation

open Andromeda.Library

/-- One more than the largest `size_t`. -/
def wordSize : Nat := 2 ^ 64

/-- `+` of `size_t`. -/
def addSize (first second : Nat) : Nat := (first + second) % wordSize

/-- `-` of `size_t`. -/
def subSize (first second : Nat) : Nat := (first + (wordSize - second)) % wordSize

/-- `mPageSize`, the granularity of the system's memory mappings, and `mBaseline`. -/
structure Settings where
  pageSize : Nat
  positive : 0 < pageSize
  baseline : Nat
  fits : baseline < wordSize

/-- Pages of the usual size. -/
def usualPages (baseline : Nat) (fits : baseline < wordSize) : Settings where
  pageSize := 4096
  positive := by decide
  baseline
  fits

/-- The number of bytes in some pages. -/
def Settings.bytes (settings : Settings) (pages : Nat) : Nat :=
  pages * settings.pageSize % wordSize

structure CachingAllocator where
  curAlloc : Nat
  maxAlloc : Nat
  curFree : Nat
  recycles : Nat
  allocs : Nat
  /-- The freed addresses for each size. -/
  freeLists : KeyMap Nat (List Nat)
  /-- The freed blocks, the last one freed first. The iterators of an entry lead to its free
  list, so to its size, and to its place there. -/
  freeQueue : List Block

namespace CachingAllocator

def init : CachingAllocator := ⟨0, 0, 0, 0, 0, .empty, []⟩

variable (settings : Settings)

/-- `add_entry`. -/
def addEntry (allocator : CachingAllocator) (ptr pages : Nat) : CachingAllocator :=
  { allocator with
    freeLists := (allocator.freeLists.emplace pages []).update pages fun list => ptr :: list
    freeQueue := ⟨ptr, pages⟩ :: allocator.freeQueue }

/-- An emptied free list leaves the map. -/
def dropEmpty (lists : KeyMap Nat (List Nat)) (pages : Nat) : KeyMap Nat (List Nat) :=
  if lists.find? pages = some [] then lists.erase pages else lists

/-- `pop_last_entry` with the oldest entry and its free list. -/
def dropOldest (allocator : CachingAllocator) (entry : Block) (list : List Nat) :
    CachingAllocator :=
  { allocator with
    freeQueue := allocator.freeQueue.dropLast
    curFree := subSize allocator.curFree (settings.bytes entry.length)
    freeLists := dropEmpty (allocator.freeLists.insert entry.length (list.erase entry.start))
      entry.length }

/-- `pop_last_entry`: the block goes back to the system. -/
def popLastEntry (allocator : CachingAllocator) : Option (Block × CachingAllocator) := do
  let entry ← allocator.freeQueue.getLast?
  let list ← allocator.freeLists.find? entry.length
  if entry.start ∈ list then some (entry, allocator.dropOldest settings entry list) else none

/-- The first address of a free list leaves it and the queue. -/
def takeFirst (allocator : CachingAllocator) (pages size ptr : Nat) (rest : List Nat) :
    CachingAllocator :=
  { allocator with
    freeLists := allocator.freeLists.insert size rest
    freeQueue := allocator.freeQueue.eraseP fun entry => decide (entry.start = ptr)
    curFree := subSize allocator.curFree (settings.bytes pages)
    recycles := allocator.recycles + 1 }

/-- The part of a block that was not asked for is free again. -/
def readd (allocator : CachingAllocator) (pages size ptr : Nat) : CachingAllocator :=
  if size ≠ pages then allocator.addEntry (ptr + pages) (size - pages) else allocator

/-- `alloc` from a free list, of blocks of this size. -/
def recycle (allocator : CachingAllocator) (pages size : Nat) :
    List Nat → Option (Nat × CachingAllocator)
  | [] => none
  | ptr :: rest =>
    let readded := (allocator.takeFirst settings pages size ptr rest).readd pages size ptr
    some (ptr, { readded with freeLists := dropEmpty readded.freeLists size })

/-- `mFreeLists.lower_bound`. -/
def lowerBound (allocator : CachingAllocator) (pages : Nat) : Option (Nat × List Nat) :=
  (allocator.freeLists.entriesFrom pages).head?

/-- The counters of an `alloc`. -/
def countAlloc (allocator : CachingAllocator) (pages : Nat) : CachingAllocator :=
  let curAlloc := addSize allocator.curAlloc (settings.bytes pages)
  { allocator with
    allocs := allocator.allocs + 1
    curAlloc
    maxAlloc := max curAlloc allocator.maxAlloc }

/-- `alloc`. Without a free block that is large enough the memory is what the system gives. -/
def alloc (allocator : CachingAllocator) (pages fresh : Nat) :
    Option (Nat × CachingAllocator) :=
  if pages = 0 then some (0, allocator)
  else
    let counted := allocator.countAlloc settings pages
    match allocator.lowerBound pages with
    | some (size, list) => counted.recycle settings pages size list
    | none => some (fresh, counted)

/-- The maximum size of the free pool. -/
def poolLimit (allocator : CachingAllocator) : Nat :=
  subSize allocator.maxAlloc settings.baseline

/-- The loop at the end of `free`, with the blocks that go back to the system. It runs at most
once for each entry of the queue. -/
def shrink : Nat → CachingAllocator → Option (List Block × CachingAllocator)
  | 0, allocator =>
    if allocator.poolLimit settings < allocator.curFree then none else some ([], allocator)
  | entries + 1, allocator =>
    if allocator.poolLimit settings < allocator.curFree then do
      let (popped, rest) ← allocator.popLastEntry settings
      let (others, final) ← shrink entries rest
      some (popped :: others, final)
    else some ([], allocator)

/-- `free` up to its loop. -/
def putBack (allocator : CachingAllocator) (ptr pages : Nat) : CachingAllocator :=
  { allocator.addEntry ptr pages with
    curFree := addSize allocator.curFree (settings.bytes pages)
    curAlloc := subSize allocator.curAlloc (settings.bytes pages) }

/-- `free`. -/
def free (allocator : CachingAllocator) (ptr pages : Nat) :
    Option (List Block × CachingAllocator) :=
  if ptr = 0 ∨ pages = 0 then some ([], allocator)
  else
    let added := allocator.putBack settings ptr pages
    added.shrink settings added.freeQueue.length

/-- The blocks in the free lists. -/
def listed (allocator : CachingAllocator) : List Block :=
  allocator.freeLists.entries.flatMap fun entry => entry.2.map fun ptr => ⟨ptr, entry.1⟩

end CachingAllocator

/-- The allocator with its surroundings: the blocks its callers have, the pages that the system
has handed out and not been given back, and whether anything undefined has happened. -/
structure Memory where
  allocator : CachingAllocator
  live : List Block
  handedOut : Finset Nat
  undefined : Bool

/-- A call of the allocator, and what the system gives if it is asked. -/
inductive Call where
  | alloc (pages fresh : Nat)
  | free (ptr pages : Nat)

/-- The pages of a block. -/
def pagesOf (block : Block) : Finset Nat :=
  Finset.Ico block.start (block.start + block.length)

namespace Memory

def init : Memory := ⟨.init, [], ∅, false⟩

/-- Whether an `alloc` asks the system. -/
def asksSystem (memory : Memory) (pages : Nat) : Bool :=
  decide (pages ≠ 0) && (memory.allocator.lowerBound pages).isNone

/-- What a call does. -/
def step (settings : Settings) (memory : Memory) : Call → Memory
  | .alloc pages fresh =>
    match memory.allocator.alloc settings pages fresh with
    | none => { memory with undefined := true }
    | some (ptr, allocator) => { memory with
        allocator
        live := if pages = 0 then memory.live else ⟨ptr, pages⟩ :: memory.live
        handedOut :=
          if memory.asksSystem pages then memory.handedOut ∪ pagesOf ⟨fresh, pages⟩
          else memory.handedOut }
  | .free ptr pages =>
    match memory.allocator.free settings ptr pages with
    | none => { memory with undefined := true }
    | some (returned, allocator) => { memory with
        allocator
        live := if ptr = 0 ∨ pages = 0 then memory.live
          else Block.takeOut memory.live ⟨ptr, pages⟩
        handedOut := returned.foldl (fun pages block => pages \ pagesOf block)
          memory.handedOut }

/-- Any sequence of calls. -/
def run (settings : Settings) (memory : Memory) (calls : List Call) : Memory :=
  calls.foldl (step settings) memory

/-- What the calls rely on: the system succeeds, with pages that exist, can be addressed and are
not handed out yet, and a caller frees pages of one of its blocks. -/
def Permitted (settings : Settings) (memory : Memory) : Call → Prop
  | .alloc pages fresh => memory.asksSystem pages = true →
    fresh ≠ 0 ∧ (fresh + pages) * settings.pageSize ≤ wordSize ∧
      Disjoint (pagesOf ⟨fresh, pages⟩) memory.handedOut
  | .free ptr pages =>
    ptr = 0 ∨ pages = 0 ∨ ∃ block ∈ memory.live, block.contains ⟨ptr, pages⟩ = true

instance (settings : Settings) (memory : Memory) (call : Call) :
    Decidable (memory.Permitted settings call) :=
  match call with
  | .alloc _ _ => inferInstanceAs (Decidable (_ → _))
  | .free _ _ => inferInstanceAs (Decidable (_ ∨ _))

end Memory

end Andromeda.Allocation
