import Andromeda.Allocation.CachingAllocator

/-! No page is in two blocks of the free pool and its callers, the free lists and the free queue
hold the same blocks, and the counters are exact. -/

set_option autoImplicit false

namespace Andromeda.Allocation

open Andromeda.Library

variable {settings : Settings}

private theorem addSize_eq {first second : Nat} (fits : first + second < wordSize) :
    addSize first second = first + second :=
  Nat.mod_eq_of_lt fits

/-- `-` of `size_t` is exact without a borrow. -/
theorem subSize_eq {first second : Nat} (le : second ≤ first) (fits : first < wordSize) :
    subSize first second = first - second := by
  unfold subSize
  have split : first + (wordSize - second) = first - second + wordSize := by omega
  rw [split, Nat.add_mod_right, Nat.mod_eq_of_lt (by omega)]

private theorem bytes_eq {pages : Nat} (fits : pages * settings.pageSize < wordSize) :
    settings.bytes pages = pages * settings.pageSize :=
  Nat.mod_eq_of_lt fits

private theorem addSize_bytes {first second : Nat}
    (fits : (first + second) * settings.pageSize < wordSize) :
    addSize (first * settings.pageSize) (settings.bytes second) =
      (first + second) * settings.pageSize := by
  rw [Nat.add_mul] at fits
  rw [bytes_eq (by omega), addSize_eq fits, Nat.add_mul]

private theorem subSize_bytes {first second : Nat} (le : second ≤ first)
    (fits : first * settings.pageSize < wordSize) :
    subSize (first * settings.pageSize) (settings.bytes second) =
      (first - second) * settings.pageSize := by
  have less := Nat.mul_le_mul_right settings.pageSize le
  rw [bytes_eq (by omega), subSize_eq less fits, Nat.sub_mul]

private theorem mem_pagesOf {block : Block} {place : Nat} :
    place ∈ pagesOf block ↔ block.holds place = true := by
  unfold pagesOf Block.holds
  rw [Finset.mem_Ico, decide_eq_true_iff]

/-- The pages handed out are those of the blocks, each in one of them, and can be addressed. -/
structure Placed (settings : Settings) (blocks : List Block) (handedOut : Finset Nat) : Prop where
  covered (place : Nat) : Block.cover blocks place = if place ∈ handedOut then 1 else 0
  some : ∀ block ∈ blocks, block.length ≠ 0
  nonnull : 0 ∉ handedOut
  bounded : ∀ place ∈ handedOut, (place + 1) * settings.pageSize ≤ wordSize

namespace Placed

variable {blocks after : List Block} {handedOut : Finset Nat}

private theorem once (placed : Placed settings blocks handedOut) (place : Nat) :
    Block.cover blocks place ≤ 1 := by
  rw [placed.covered]
  split <;> omega

private theorem mem_of_holds (placed : Placed settings blocks handedOut) {block : Block}
    (member : block ∈ blocks) {place : Nat} (held : block.holds place = true) :
    place ∈ handedOut := by
  have some : 0 < Block.cover blocks place := List.countP_pos_iff.mpr ⟨block, member, held⟩
  rw [placed.covered] at some
  by_contra outside
  rw [if_neg outside] at some
  omega

private theorem total_lt (placed : Placed settings blocks handedOut) :
    Block.total blocks * settings.pageSize < wordSize := by
  have within : handedOut ⊆ Finset.Ico 1 (wordSize / settings.pageSize) := by
    intro place member
    rw [Finset.mem_Ico]
    constructor
    · by_contra zero
      have same : place = 0 := by omega
      rw [same] at member
      exact placed.nonnull member
    · exact (Nat.le_div_iff_mul_le settings.positive).mpr (placed.bounded place member)
  have card := Finset.card_le_card within
  rw [Nat.card_Ico] at card
  have few : Block.total blocks ≤ wordSize / settings.pageSize - 1 :=
    (Block.total_le_card (fun block member place => placed.mem_of_holds member)
      placed.once).trans card
  have word : 0 < wordSize := by decide
  have whole := Nat.div_mul_le_self wordSize settings.pageSize
  rcases Nat.eq_zero_or_pos (wordSize / settings.pageSize) with none | more
  · rw [none] at few
    have zero : Block.total blocks = 0 := by omega
    rw [zero, Nat.zero_mul]
    exact word
  · calc Block.total blocks * settings.pageSize
        ≤ (wordSize / settings.pageSize - 1) * settings.pageSize :=
          Nat.mul_le_mul_right _ few
      _ < wordSize / settings.pageSize * settings.pageSize :=
          Nat.mul_lt_mul_of_pos_right (by omega) settings.positive
      _ ≤ wordSize := whole

private theorem congr (placed : Placed settings blocks handedOut)
    (same : ∀ place, Block.cover after place = Block.cover blocks place)
    (some : ∀ block ∈ after, block.length ≠ 0) : Placed settings after handedOut :=
  ⟨fun place => (same place).trans (placed.covered place), some, placed.nonnull, placed.bounded⟩

private theorem fresh (placed : Placed settings blocks handedOut) {block : Block}
    (some : block.length ≠ 0) (nonnull : block.start ≠ 0)
    (bounded : (block.start + block.length) * settings.pageSize ≤ wordSize)
    (apart : Disjoint (pagesOf block) handedOut) :
    Placed settings (block :: blocks) (handedOut ∪ pagesOf block) := by
  constructor
  · intro place
    rw [Block.cover_cons, placed.covered]
    simp only [Finset.mem_union, mem_pagesOf]
    cases held : block.holds place with
    | true =>
        have new : place ∉ handedOut :=
          Finset.disjoint_left.mp apart (mem_pagesOf.mpr held)
        simp [new]
    | false => simp
  · intro other member
    rcases List.mem_cons.mp member with rfl | before
    · exact some
    · exact placed.some other before
  · intro zero
    rcases Finset.mem_union.mp zero with old | new
    · exact placed.nonnull old
    · have bounds := Finset.mem_Ico.mp new
      omega
  · intro place member
    rcases Finset.mem_union.mp member with old | new
    · exact placed.bounded place old
    · have bounds := Finset.mem_Ico.mp new
      exact (Nat.mul_le_mul_right _ (by omega)).trans bounded

private theorem giveBack (placed : Placed settings blocks handedOut) {block : Block}
    (same : ∀ place, Block.cover blocks place =
      (block.holds place).toNat + Block.cover after place)
    (some : ∀ other ∈ after, other.length ≠ 0) :
    Placed settings after (handedOut \ pagesOf block) := by
  constructor
  · intro place
    have covered := placed.covered place
    rw [same] at covered
    simp only [Finset.mem_sdiff, mem_pagesOf]
    cases held : block.holds place with
    | true =>
        rw [held, Bool.toNat_true] at covered
        split at covered
        · simp only [not_true_eq_false, and_false, if_false]
          omega
        · omega
    | false =>
        rw [held, Bool.toNat_false, Nat.zero_add] at covered
        simpa using covered
  · exact some
  · intro zero
    exact placed.nonnull (Finset.mem_sdiff.mp zero).1
  · intro place member
    exact placed.bounded place (Finset.mem_sdiff.mp member).1

end Placed

namespace CachingAllocator

variable {allocator : CachingAllocator}

/-- The free lists hold the blocks of the free queue, each as often, and none is empty. -/
structure Linked (allocator : CachingAllocator) : Prop where
  same (block : Block) : ((allocator.freeLists.find? block.length).getD []).count block.start =
    allocator.freeQueue.count block
  nonempty {pages : Nat} {list : List Nat} :
    allocator.freeLists.find? pages = some list → list ≠ []

private theorem linked_init : Linked init := ⟨fun _ => rfl, fun found => by cases found⟩

private theorem getD_dropEmpty (lists : KeyMap Nat (List Nat)) (pages other : Nat) :
    ((dropEmpty lists pages).find? other).getD [] = (lists.find? other).getD [] := by
  unfold dropEmpty
  split
  · next empty =>
    rw [KeyMap.find?_erase]
    split
    · next same =>
      rw [same, empty]
      rfl
    · rfl
  · rfl

private theorem nonempty_dropEmpty {lists : KeyMap Nat (List Nat)} {pages : Nat}
    (others : ∀ other list, other ≠ pages → lists.find? other = some list → list ≠ [])
    {other : Nat} {list : List Nat} (found : (dropEmpty lists pages).find? other = some list) :
    list ≠ [] := by
  unfold dropEmpty at found
  split at found
  · rw [KeyMap.find?_erase] at found
    split at found
    · cases found
    · next different => exact others other list different found
  · next some =>
    by_cases same : other = pages
    · rw [same] at found
      rintro rfl
      exact some found
    · exact others other list same found

private theorem find?_addEntry (allocator : CachingAllocator) (ptr pages other : Nat) :
    (allocator.addEntry ptr pages).freeLists.find? other =
      if other = pages then some (ptr :: (allocator.freeLists.find? pages).getD [])
      else allocator.freeLists.find? other := by
  simp only [addEntry, KeyMap.find?_update, KeyMap.find?_emplace, if_true, Option.map_some]
  split
  · rfl
  · next different => rfl

private theorem same_addEntry {ptr pages : Nat} {block : Block}
    (same : ((allocator.freeLists.find? block.length).getD []).count block.start =
      allocator.freeQueue.count block) :
    (((allocator.addEntry ptr pages).freeLists.find? block.length).getD []).count block.start =
      (allocator.addEntry ptr pages).freeQueue.count block := by
  rw [find?_addEntry, addEntry, List.count_cons]
  obtain ⟨start, length⟩ := block
  dsimp only at same ⊢
  by_cases size : length = pages
  · subst size
    rw [if_pos rfl, Option.getD_some, List.count_cons, same]
    simp
  · rw [if_neg size, same]
    simp [Ne.symm size]

private theorem Linked.addEntry (linked : Linked allocator) (ptr pages : Nat) :
    Linked (allocator.addEntry ptr pages) := by
  constructor
  · intro block
    exact same_addEntry (linked.same block)
  · intro size list found
    rw [find?_addEntry] at found
    split at found
    · cases found
      exact List.cons_ne_nil _ _
    · exact linked.nonempty found

private theorem Linked.list_of_mem (linked : Linked allocator) {block : Block}
    (member : block ∈ allocator.freeQueue) :
    ∃ list, allocator.freeLists.find? block.length = some list ∧ block.start ∈ list := by
  have some : 0 < allocator.freeQueue.count block := List.count_pos_iff.mpr member
  rw [← linked.same] at some
  cases found : allocator.freeLists.find? block.length with
  | none =>
      rw [found] at some
      simp at some
  | some list =>
      rw [found] at some
      exact ⟨list, rfl, List.count_pos_iff.mp some⟩

private theorem Linked.same_erase (linked : Linked allocator) (entry : Block) {list : List Nat}
    (found : allocator.freeLists.find? entry.length = some list) (block : Block) :
    (((allocator.freeLists.insert entry.length (list.erase entry.start)).find?
        block.length).getD []).count block.start =
      (allocator.freeQueue.erase entry).count block := by
  have same := linked.same block
  rw [KeyMap.find?_insert]
  obtain ⟨start, length⟩ := block
  obtain ⟨entryStart, entryLength⟩ := entry
  dsimp only at found same ⊢
  rw [List.count_erase]
  split
  · next size =>
    subst size
    rw [found, Option.getD_some] at same
    rw [Option.getD_some, List.count_erase, same]
    simp
  · next different =>
    rw [same]
    simp [Ne.symm different]

private theorem Linked.pop (settings : Settings) (linked : Linked allocator) {newer : List Block}
    {entry : Block}
    (queue : allocator.freeQueue = newer ++ [entry]) :
    ∃ list, allocator.popLastEntry settings =
        some (entry, allocator.dropOldest settings entry list) ∧
      Linked (allocator.dropOldest settings entry list) := by
  have member : entry ∈ allocator.freeQueue := by
    rw [queue]
    simp
  obtain ⟨list, found, inList⟩ := linked.list_of_mem member
  refine ⟨list, ?_, fun block => ?_, fun listed => ?_⟩
  · unfold popLastEntry
    rw [queue, List.getLast?_concat]
    simp only [Option.bind_eq_bind, Option.bind_some, found, if_pos inList]
  · have rest : (allocator.freeQueue.erase entry).Perm newer := by
      apply List.Perm.cons_inv
      exact (List.perm_cons_erase member).symm.trans (queue ▸ List.perm_append_singleton _ _)
    have dropped : allocator.freeQueue.dropLast = newer := by
      rw [queue, List.dropLast_concat]
    show List.count block.start (((dropEmpty _ _).find? block.length).getD []) =
      allocator.freeQueue.dropLast.count block
    rw [getD_dropEmpty, linked.same_erase entry found, rest.count_eq, dropped]
  · apply nonempty_dropEmpty _ listed
    intro other kept different same
    rw [KeyMap.find?_insert, if_neg different] at same
    exact linked.nonempty same

private theorem eraseP_start {queue : List Block} (entry : Block)
    (unique : ∀ other ∈ queue, other.start = entry.start → other = entry) :
    (queue.eraseP fun other => decide (other.start = entry.start)) = queue.erase entry := by
  induction queue with
  | nil => rfl
  | cons head tail ih =>
      by_cases same : head.start = entry.start
      · have equal := unique head List.mem_cons_self same
        subst equal
        rw [List.eraseP_cons_of_pos (by simp), List.erase_cons_head]
      · have different : head ≠ entry := fun equal => same (equal ▸ rfl)
        rw [List.eraseP_cons_of_neg (by simpa using same),
          List.erase_cons_tail (by simpa using different),
          ih fun other member => unique other (List.mem_cons_of_mem _ member)]

private theorem Linked.lowerBound (linked : Linked allocator) {pages size : Nat} {list : List Nat}
    (found : allocator.lowerBound pages = some (size, list)) :
    pages ≤ size ∧ allocator.freeLists.find? size = some list ∧
      ∃ ptr rest, list = ptr :: rest ∧ ⟨ptr, size⟩ ∈ allocator.freeQueue := by
  have member := KeyMap.mem_entriesFrom.mp (List.mem_of_mem_head? found)
  refine ⟨member.1, member.2, ?_⟩
  cases list with
  | nil => exact absurd rfl (linked.nonempty member.2)
  | cons ptr rest =>
      refine ⟨ptr, rest, rfl, List.count_pos_iff.mp ?_⟩
      rw [← linked.same, member.2]
      simp

private theorem without_front {ptr size pages : Nat} (large : pages ≤ size) :
    Block.without ⟨ptr, size⟩ ⟨ptr, pages⟩ =
      if size ≠ pages then [⟨ptr + pages, size - pages⟩] else [] := by
  have rest : ptr + size - (ptr + pages) = size - pages := by omega
  simp only [Block.without, Nat.sub_self, rest, ne_eq, not_true_eq_false, decide_false,
    Bool.false_eq_true, not_false_eq_true, List.filter_cons_of_neg]
  split
  · next larger =>
    have some_ : size - pages ≠ 0 := by omega
    simp [some_]
  · next same =>
    have none : size - pages = 0 := by omega
    simp [none]

private theorem freeQueue_readd (allocator : CachingAllocator) {pages size : Nat} (ptr : Nat)
    (large : pages ≤ size) : (allocator.readd pages size ptr).freeQueue =
      Block.without ⟨ptr, size⟩ ⟨ptr, pages⟩ ++ allocator.freeQueue := by
  rw [without_front large]
  unfold readd
  split <;> rfl

private theorem same_readd {pages size ptr : Nat} {block : Block}
    (same : ((allocator.freeLists.find? block.length).getD []).count block.start =
      allocator.freeQueue.count block) :
    (((allocator.readd pages size ptr).freeLists.find? block.length).getD []).count block.start =
      (allocator.readd pages size ptr).freeQueue.count block := by
  unfold readd
  split
  · exact same_addEntry same
  · exact same

private theorem nonempty_readd {pages size ptr other : Nat} {list : List Nat}
    (before : ∀ list, allocator.freeLists.find? other = some list → list ≠ [])
    (found : (allocator.readd pages size ptr).freeLists.find? other = some list) : list ≠ [] := by
  unfold readd at found
  split at found
  · rw [find?_addEntry] at found
    split at found
    · cases found
      exact List.cons_ne_nil _ _
    · exact before list found
  · exact before list found

private theorem Linked.recycle (settings : Settings) (linked : Linked allocator)
    {pages size ptr : Nat} {rest : List Nat}
    (large : pages ≤ size) (found : allocator.freeLists.find? size = some (ptr :: rest))
    (unique : ∀ other ∈ allocator.freeQueue, other.start = ptr → other = ⟨ptr, size⟩) :
    ∃ next, allocator.recycle settings pages size (ptr :: rest) = some (ptr, next) ∧
      Linked next ∧
      next.freeQueue = Block.without ⟨ptr, size⟩ ⟨ptr, pages⟩ ++
        allocator.freeQueue.erase ⟨ptr, size⟩ ∧
      next.maxAlloc = allocator.maxAlloc ∧ next.curAlloc = allocator.curAlloc ∧
      next.curFree = subSize allocator.curFree (settings.bytes pages) := by
  let taken := allocator.takeFirst settings pages size ptr rest
  let readded := taken.readd pages size ptr
  have queue : taken.freeQueue = allocator.freeQueue.erase ⟨ptr, size⟩ :=
    eraseP_start ⟨ptr, size⟩ unique
  have same (block : Block) : ((taken.freeLists.find? block.length).getD []).count block.start =
      taken.freeQueue.count block := by
    have erased := linked.same_erase ⟨ptr, size⟩ found block
    rw [List.erase_cons_head] at erased
    rw [queue, ← erased]
    rfl
  have nonempty (other : Nat) (different : other ≠ size) (list : List Nat)
      (listed : taken.freeLists.find? other = some list) : list ≠ [] := by
    change (allocator.freeLists.insert size rest).find? other = some list at listed
    rw [KeyMap.find?_insert, if_neg different] at listed
    exact linked.nonempty listed
  have counters : readded.maxAlloc = taken.maxAlloc ∧ readded.curAlloc = taken.curAlloc ∧
      readded.curFree = taken.curFree := by
    show (taken.readd pages size ptr).maxAlloc = _ ∧ (taken.readd pages size ptr).curAlloc = _ ∧
      (taken.readd pages size ptr).curFree = _
    unfold readd
    split
    · exact ⟨rfl, rfl, rfl⟩
    · exact ⟨rfl, rfl, rfl⟩
  refine ⟨{ readded with freeLists := dropEmpty readded.freeLists size }, rfl,
    ⟨fun block => ?_, fun listed => ?_⟩, ?_, counters⟩
  · show List.count _ (((dropEmpty readded.freeLists size).find? _).getD []) = _
    rw [getD_dropEmpty]
    exact same_readd (same block)
  · exact nonempty_dropEmpty (fun other _ different =>
      nonempty_readd (nonempty other different)) listed
  · show readded.freeQueue = _
    rw [← queue]
    exact taken.freeQueue_readd ptr large

private theorem count_listed (allocator : CachingAllocator) (block : Block) :
    allocator.listed.count block =
      ((allocator.freeLists.find? block.length).getD []).count block.start := by
  unfold listed KeyMap.find?
  obtain ⟨entries, sorted⟩ := allocator.freeLists
  dsimp only
  induction entries with
  | nil => rfl
  | cons head tail ih =>
      rw [List.pairwise_cons] at sorted
      obtain ⟨size, list⟩ := head
      obtain ⟨start, length⟩ := block
      rw [List.flatMap_cons, List.count_append, ih sorted.2, List.find?_cons]
      dsimp only at ih ⊢
      by_cases same : size = length
      · subst same
        have others : tail.find? (fun entry => decide (entry.1 = size)) = none := by
          rw [List.find?_eq_none]
          intro entry member
          have above := sorted.1 entry member
          simp only [decide_eq_true_eq]
          omega
        rw [others]
        simp only [decide_true, Option.map_none, Option.getD_none, List.count_nil, Nat.add_zero,
          Option.map_some, Option.getD_some]
        exact List.count_map_of_injective _ (fun ptr : Nat => (⟨ptr, size⟩ : Block))
          (fun _ _ equal => congrArg Block.start equal) start
      · have none : (list.map fun ptr => (⟨ptr, size⟩ : Block)).count ⟨start, length⟩ = 0 := by
          rw [List.count_eq_zero, List.mem_map]
          rintro ⟨ptr, _, equal⟩
          exact same (congrArg Block.length equal)
        rw [none, decide_eq_false same, Nat.zero_add]

private theorem Linked.perm (linked : Linked allocator) :
    allocator.listed.Perm allocator.freeQueue := by
  rw [List.perm_iff_count]
  intro block
  rw [count_listed, linked.same]

end CachingAllocator

namespace Memory

open CachingAllocator

variable {memory : Memory}

theorem step_alloc_zero (settings : Settings) (memory : Memory) (fresh : Nat) :
    memory.step settings (.alloc 0 fresh) = memory := by
  simp [step, CachingAllocator.alloc, asksSystem]

theorem step_free_nothing {ptr pages : Nat} (none : ptr = 0 ∨ pages = 0) :
    memory.step settings (.free ptr pages) = memory := by
  simp [step, CachingAllocator.free, none]

/-- The invariant of every sequence of calls. -/
structure Valid (settings : Settings) (memory : Memory) : Prop where
  defined : memory.undefined = false
  placed : Placed settings (memory.allocator.freeQueue ++ memory.live) memory.handedOut
  linked : Linked memory.allocator
  curFree : memory.allocator.curFree =
    Block.total memory.allocator.freeQueue * settings.pageSize
  curAlloc : memory.allocator.curAlloc = Block.total memory.live * settings.pageSize
  peak : memory.allocator.curAlloc ≤ memory.allocator.maxAlloc
  fits : memory.allocator.maxAlloc < wordSize

theorem valid_init (settings : Settings) : Valid settings init where
  defined := rfl
  placed := ⟨fun _ => by simp [init, CachingAllocator.init], by simp [init, CachingAllocator.init],
    by simp [init], by simp [init]⟩
  linked := linked_init
  curFree := by simp [init, CachingAllocator.init]
  curAlloc := by simp [init, CachingAllocator.init]
  peak := Nat.le_refl _
  fits := by simp [init, CachingAllocator.init, wordSize]

namespace Valid

private theorem total_lt (valid : Valid settings memory) :
    (Block.total memory.allocator.freeQueue + Block.total memory.live) * settings.pageSize <
      wordSize := by
  rw [← Block.total_append]
  exact valid.placed.total_lt

private theorem start_unique (valid : Valid settings memory) {block other : Block}
    (member : block ∈ memory.allocator.freeQueue) (also : other ∈ memory.allocator.freeQueue)
    (same : other.start = block.start) : other = block := by
  by_contra different
  have apart : memory.allocator.freeQueue.Pairwise Block.Apart :=
    (List.pairwise_append.mp (Block.pairwise_apart valid.placed.once)).1
  refine apart.forall also member different block.start ⟨?_, ?_⟩
  · rw [← same]
    exact Block.holds_start (valid.placed.some other (List.mem_append_left _ also))
  · exact Block.holds_start (valid.placed.some block (List.mem_append_left _ member))

private theorem curAlloc_countAlloc (valid : Valid settings memory) {pages : Nat}
    (fits : (Block.total memory.live + pages) * settings.pageSize < wordSize) :
    (memory.allocator.countAlloc settings pages).curAlloc =
      (pages + Block.total memory.live) * settings.pageSize := by
  show addSize memory.allocator.curAlloc (settings.bytes pages) = _
  rw [valid.curAlloc, addSize_bytes fits, Nat.add_comm]

private theorem recycle (valid : Valid settings memory) {pages size : Nat} {list : List Nat}
    (some_ : pages ≠ 0) (found : memory.allocator.lowerBound pages = some (size, list)) :
    ∃ ptr next, (memory.allocator.countAlloc settings pages).recycle settings pages size list =
        some (ptr, next) ∧
      Block.total next.freeQueue ≤ Block.total memory.allocator.freeQueue ∧
      next.maxAlloc = max next.curAlloc memory.allocator.maxAlloc ∧
      Valid settings { memory with allocator := next, live := ⟨ptr, pages⟩ :: memory.live } := by
  obtain ⟨large, listed, ptr, rest, rfl, member⟩ := valid.linked.lowerBound found
  have linked : Linked (memory.allocator.countAlloc settings pages) :=
    ⟨valid.linked.same, valid.linked.nonempty⟩
  obtain ⟨next, recycled, nextLinked, queue, maxAlloc, curAlloc, curFree⟩ :=
    linked.recycle settings large listed
      fun other also same => valid.start_unique member also same
  change next.freeQueue = _ ++ memory.allocator.freeQueue.erase ⟨ptr, size⟩ at queue
  have contained : Block.contains ⟨ptr, size⟩ ⟨ptr, pages⟩ = true := by
    unfold Block.contains
    apply decide_eq_true
    dsimp only
    omega
  have split := List.perm_cons_erase member
  have total : Block.total memory.allocator.freeQueue = pages + Block.total next.freeQueue := by
    rw [Block.total_perm split, Block.total_cons, queue, Block.total_append,
      Block.total_without contained, Nat.add_assoc]
  have cover (place : Nat) : Block.cover memory.allocator.freeQueue place =
      (Block.holds ⟨ptr, pages⟩ place).toNat + Block.cover next.freeQueue place := by
    rw [Block.cover_perm split, Block.cover_cons, queue, Block.cover_append,
      Block.holds_without contained, Nat.add_assoc]
  have bound := valid.total_lt
  rw [total] at bound
  have fits : (Block.total memory.live + pages) * settings.pageSize < wordSize :=
    (Nat.mul_le_mul_right _ (by omega)).trans_lt bound
  have counted := valid.curAlloc_countAlloc fits
  refine ⟨ptr, next, recycled, by omega, by rw [maxAlloc, curAlloc]; rfl, ?_⟩
  constructor
  · exact valid.defined
  · refine valid.placed.congr (fun place => ?_) fun block inside => ?_
    · rw [Block.cover_append, Block.cover_append, Block.cover_cons, cover place]
      dsimp only
      omega
    · rcases List.mem_append.mp inside with pooled | given
      · rw [queue] at pooled
        rcases List.mem_append.mp pooled with left | old
        · exact Block.length_of_mem_without left
        · exact valid.placed.some block (List.mem_append_left _ (List.mem_of_mem_erase old))
      · rcases List.mem_cons.mp given with rfl | old
        · exact some_
        · exact valid.placed.some block (List.mem_append_right _ old)
  · exact nextLinked
  · have less : (Block.total memory.allocator.freeQueue) * settings.pageSize < wordSize := by
      rw [total]
      exact (Nat.mul_le_mul_right _ (by omega)).trans_lt bound
    show next.curFree = _
    rw [curFree]
    show subSize memory.allocator.curFree (settings.bytes pages) = _
    rw [valid.curFree, subSize_bytes (by omega) less, total, Nat.add_sub_cancel_left]
  · show next.curAlloc = _
    rw [curAlloc, counted, Block.total_cons]
  · show next.curAlloc ≤ next.maxAlloc
    rw [curAlloc, maxAlloc]
    exact Nat.le_max_left _ _
  · show next.maxAlloc < wordSize
    rw [maxAlloc]
    refine max_lt ?_ valid.fits
    show (memory.allocator.countAlloc settings pages).curAlloc < wordSize
    rw [counted, Nat.add_comm]
    exact fits

private theorem asked (valid : Valid settings memory) {pages fresh : Nat} (some_ : pages ≠ 0)
    (nonnull : fresh ≠ 0) (bounded : (fresh + pages) * settings.pageSize ≤ wordSize)
    (apart : Disjoint (pagesOf ⟨fresh, pages⟩) memory.handedOut) :
    Valid settings { memory with
      allocator := memory.allocator.countAlloc settings pages
      live := ⟨fresh, pages⟩ :: memory.live
      handedOut := memory.handedOut ∪ pagesOf ⟨fresh, pages⟩ } := by
  have given : Placed settings
      (⟨fresh, pages⟩ :: (memory.allocator.freeQueue ++ memory.live))
      (memory.handedOut ∪ pagesOf ⟨fresh, pages⟩) :=
    valid.placed.fresh some_ nonnull bounded apart
  have placed : Placed settings (memory.allocator.freeQueue ++ ⟨fresh, pages⟩ :: memory.live)
      (memory.handedOut ∪ pagesOf ⟨fresh, pages⟩) := by
    refine given.congr (fun place => ?_) fun block inside => ?_
    · exact Block.cover_perm List.perm_middle place
    · exact given.some block (List.perm_middle.mem_iff.mp inside)
  have bound := placed.total_lt
  rw [Block.total_append, Block.total_cons] at bound
  have fits : (Block.total memory.live + pages) * settings.pageSize < wordSize := by
    refine (Nat.mul_le_mul_right _ ?_).trans_lt bound
    dsimp only
    omega
  have counted := valid.curAlloc_countAlloc fits
  constructor
  · exact valid.defined
  · exact placed
  · exact ⟨valid.linked.same, valid.linked.nonempty⟩
  · exact valid.curFree
  · exact counted
  · exact Nat.le_max_left _ _
  · refine max_lt ?_ valid.fits
    show (memory.allocator.countAlloc settings pages).curAlloc < wordSize
    rw [counted, Nat.add_comm]
    exact fits

private theorem pop (valid : Valid settings memory) {newer : List Block} {entry : Block}
    (queue : memory.allocator.freeQueue = newer ++ [entry]) :
    ∃ next, memory.allocator.popLastEntry settings = some (entry, next) ∧
      next.freeQueue = newer ∧ next.maxAlloc = memory.allocator.maxAlloc ∧
      Valid settings { memory with
        allocator := next, handedOut := memory.handedOut \ pagesOf entry } := by
  obtain ⟨list, popped, linked⟩ := valid.linked.pop settings queue
  have dropped : (memory.allocator.dropOldest settings entry list).freeQueue = newer := by
    show memory.allocator.freeQueue.dropLast = newer
    rw [queue, List.dropLast_concat]
  have total : Block.total memory.allocator.freeQueue = entry.length + Block.total newer := by
    rw [queue, Block.total_append, Nat.add_comm]
    rfl
  have bound := valid.total_lt
  refine ⟨_, popped, dropped, rfl, ?_⟩
  constructor
  · exact valid.defined
  · refine valid.placed.giveBack (fun place => ?_) fun block inside => ?_
    · rw [queue, dropped, Block.cover_append, Block.cover_append, Block.cover_append,
        Block.cover_cons, Block.cover_nil]
      dsimp only
      omega
    · rw [dropped] at inside
      apply valid.placed.some block
      rw [queue]
      rcases List.mem_append.mp inside with pooled | given
      · exact List.mem_append_left _ (List.mem_append_left _ pooled)
      · exact List.mem_append_right _ given
  · exact linked
  · have less : (Block.total memory.allocator.freeQueue) * settings.pageSize < wordSize :=
      (Nat.mul_le_mul_right _ (by omega)).trans_lt bound
    show subSize memory.allocator.curFree (settings.bytes entry.length) = _
    rw [valid.curFree, subSize_bytes (by omega) less, total, Nat.add_sub_cancel_left, dropped]
  · exact valid.curAlloc
  · exact valid.peak
  · exact valid.fits

private theorem shrink (valid : Valid settings memory) {entries : Nat}
    (length : memory.allocator.freeQueue.length = entries) :
    ∃ returned next, memory.allocator.shrink settings entries = some (returned, next) ∧
      memory.allocator.freeQueue = next.freeQueue ++ returned.reverse ∧
      next.maxAlloc = memory.allocator.maxAlloc ∧
      next.curFree ≤ next.poolLimit settings ∧
      (∀ block, returned.getLast? = some block → next.poolLimit settings <
        (Block.total next.freeQueue + block.length) * settings.pageSize) ∧
      Valid settings { memory with
        allocator := next
        handedOut := returned.foldl (fun pages block => pages \ pagesOf block)
          memory.handedOut } := by
  induction entries generalizing memory with
  | zero =>
      have empty := List.length_eq_zero_iff.mp length
      have none : memory.allocator.curFree = 0 := by
        rw [valid.curFree, empty, Block.total_nil, Nat.zero_mul]
      have enough : ¬memory.allocator.poolLimit settings < memory.allocator.curFree := by
        omega
      refine ⟨[], memory.allocator, ?_, by simp, rfl, by omega, by simp, valid⟩
      rw [CachingAllocator.shrink, if_neg enough]
  | succ entries ih =>
      rw [CachingAllocator.shrink]
      split
      · next larger =>
        have some_ : memory.allocator.freeQueue ≠ [] := by
          intro empty
          rw [empty] at length
          cases length
        obtain ⟨newer, entry, queue⟩ :=
          (List.eq_nil_or_concat memory.allocator.freeQueue).resolve_left some_
        rw [List.concat_eq_append] at queue
        obtain ⟨popped, pops, rest, maxAlloc, poppedValid⟩ := valid.pop queue
        have shorter : popped.freeQueue.length = entries := by
          rw [queue] at length
          rw [rest]
          simpa using length
        obtain ⟨returned, next, shrunk, split, same, enough, last, nextValid⟩ :=
          ih poppedValid shorter
        change popped.freeQueue = _ at split
        refine ⟨entry :: returned, next, ?_, ?_, same.trans maxAlloc, enough, ?_, nextValid⟩
        · simp only [Option.bind_eq_bind, pops, Option.bind_some]
          change CachingAllocator.shrink settings entries popped = _ at shrunk
          rw [shrunk]
          rfl
        · rw [queue, ← rest, split, List.reverse_cons, List.append_assoc]
        · intro block final
          rw [List.getLast?_cons] at final
          cases others : returned.getLast? with
          | some other =>
              rw [others] at final
              cases final
              exact last _ others
          | none =>
              rw [others] at final
              cases final
              rw [List.getLast?_eq_none_iff] at others
              rw [others, List.reverse_nil, List.append_nil] at split
              rw [valid.curFree, queue, Block.total_append] at larger
              rw [← split, rest]
              have limit : next.poolLimit settings = memory.allocator.poolLimit settings := by
                unfold poolLimit
                rw [same.trans maxAlloc]
              rw [limit]
              exact larger
      · next enough => exact ⟨[], memory.allocator, rfl, by simp, rfl, by omega, by simp, valid⟩

private theorem putBack (valid : Valid settings memory) {ptr pages : Nat} (some_ : pages ≠ 0)
    (inside : ∃ block ∈ memory.live, block.contains ⟨ptr, pages⟩ = true) :
    Valid settings { memory with
      allocator := memory.allocator.putBack settings ptr pages
      live := Block.takeOut memory.live ⟨ptr, pages⟩ } := by
  have total := Block.total_takeOut inside
  have bound := valid.total_lt
  rw [total] at bound
  dsimp only at total bound
  have added : (Block.total memory.allocator.freeQueue + pages) * settings.pageSize < wordSize :=
    (Nat.mul_le_mul_right _ (by omega)).trans_lt bound
  have less : Block.total memory.live * settings.pageSize < wordSize := by
    rw [total]
    exact (Nat.mul_le_mul_right _ (by omega)).trans_lt bound
  have curAlloc : (memory.allocator.putBack settings ptr pages).curAlloc =
      Block.total (Block.takeOut memory.live ⟨ptr, pages⟩) * settings.pageSize := by
    show subSize memory.allocator.curAlloc (settings.bytes pages) = _
    rw [valid.curAlloc, subSize_bytes (by omega) less, total, Nat.add_sub_cancel_left]
  constructor
  · exact valid.defined
  · refine valid.placed.congr (fun place => ?_) fun block member => ?_
    · show Block.cover (⟨ptr, pages⟩ :: memory.allocator.freeQueue ++ _) place = _
      rw [Block.cover_append, Block.cover_append, Block.cover_cons,
        Block.cover_takeOut inside place]
      dsimp only
      omega
    · rcases List.mem_append.mp member with pooled | given
      · rcases List.mem_cons.mp pooled with rfl | old
        · exact some_
        · exact valid.placed.some block (List.mem_append_left _ old)
      · exact Block.length_of_mem_takeOut
          (fun other also => valid.placed.some other (List.mem_append_right _ also)) given
  · exact ⟨(valid.linked.addEntry ptr pages).same, (valid.linked.addEntry ptr pages).nonempty⟩
  · show addSize memory.allocator.curFree (settings.bytes pages) =
      Block.total (⟨ptr, pages⟩ :: memory.allocator.freeQueue) * settings.pageSize
    rw [valid.curFree, addSize_bytes added, Block.total_cons, Nat.add_comm]
  · exact curAlloc
  · refine le_trans ?_ valid.peak
    rw [curAlloc, valid.curAlloc, total]
    exact Nat.mul_le_mul_right _ (by omega)
  · exact valid.fits

/-- An `alloc` of something: the block given, and the state after it. -/
theorem alloc (valid : Valid settings memory) {pages fresh : Nat} (some_ : pages ≠ 0)
    (permitted : memory.Permitted settings (.alloc pages fresh)) :
    ∃ ptr next, memory.allocator.alloc settings pages fresh = some (ptr, next) ∧
      Block.total next.freeQueue ≤ Block.total memory.allocator.freeQueue ∧
      next.maxAlloc = max next.curAlloc memory.allocator.maxAlloc ∧
      (memory.step settings (.alloc pages fresh)).allocator = next ∧
      (memory.step settings (.alloc pages fresh)).live = ⟨ptr, pages⟩ :: memory.live ∧
      Valid settings (memory.step settings (.alloc pages fresh)) := by
  cases found : memory.allocator.lowerBound pages with
  | none =>
      have asks : memory.asksSystem pages = true := by
        simp [asksSystem, some_, found]
      have result : memory.allocator.alloc settings pages fresh =
          some (fresh, memory.allocator.countAlloc settings pages) := by
        simp only [CachingAllocator.alloc, if_neg some_, found]
      obtain ⟨nonnull, bounded, apart⟩ := permitted asks
      refine ⟨fresh, _, result, Nat.le_refl _, rfl, ?_, ?_, ?_⟩
      · simp only [step, result]
      · simp only [step, result, if_neg some_]
      · simp only [step, result, if_neg some_, asks, if_true]
        exact valid.asked some_ nonnull bounded apart
  | some entry =>
      obtain ⟨size, list⟩ := entry
      have asks : memory.asksSystem pages = false := by
        simp [asksSystem, found]
      obtain ⟨ptr, next, recycled, smaller, maxAlloc, nextValid⟩ := valid.recycle some_ found
      have result : memory.allocator.alloc settings pages fresh = some (ptr, next) := by
        simp only [CachingAllocator.alloc, if_neg some_, found, recycled]
      refine ⟨ptr, next, result, smaller, maxAlloc, ?_, ?_, ?_⟩
      · simp only [step, result]
      · simp only [step, result, if_neg some_]
      · simp only [step, result, if_neg some_, asks, Bool.false_eq_true, if_false]
        exact nextValid

/-- A `free` of something: it stops within the limit, and the newest blocks stay. -/
theorem free (valid : Valid settings memory) {ptr pages : Nat} (some_ : ptr ≠ 0 ∧ pages ≠ 0)
    (permitted : memory.Permitted settings (.free ptr pages)) :
    ∃ returned next, memory.allocator.free settings ptr pages = some (returned, next) ∧
      ⟨ptr, pages⟩ :: memory.allocator.freeQueue = next.freeQueue ++ returned.reverse ∧
      next.maxAlloc = memory.allocator.maxAlloc ∧ next.curFree ≤ next.poolLimit settings ∧
      (∀ block, returned.getLast? = some block → next.poolLimit settings <
        (Block.total next.freeQueue + block.length) * settings.pageSize) ∧
      memory.step settings (.free ptr pages) = { memory with
        allocator := next
        live := Block.takeOut memory.live ⟨ptr, pages⟩
        handedOut := returned.foldl (fun pages block => pages \ pagesOf block)
          memory.handedOut } ∧
      Valid settings (memory.step settings (.free ptr pages)) := by
  have inside : ∃ block ∈ memory.live, block.contains ⟨ptr, pages⟩ = true := by
    rcases permitted with null | none | inside
    · exact absurd null some_.1
    · exact absurd none some_.2
    · exact inside
  have nonzero : ¬(ptr = 0 ∨ pages = 0) := by
    rintro (null | none)
    · exact some_.1 null
    · exact some_.2 none
  obtain ⟨returned, next, shrunk, queue, maxAlloc, enough, last, nextValid⟩ :=
    (valid.putBack some_.2 inside).shrink rfl
  have result : memory.allocator.free settings ptr pages = some (returned, next) := by
    simp only [CachingAllocator.free, if_neg nonzero]
    exact shrunk
  have stepped : memory.step settings (.free ptr pages) = { memory with
      allocator := next
      live := Block.takeOut memory.live ⟨ptr, pages⟩
      handedOut := returned.foldl (fun pages block => pages \ pagesOf block)
        memory.handedOut } := by
    simp only [step, result, if_neg nonzero]
  refine ⟨returned, next, result, queue, maxAlloc, enough, last, stepped, ?_⟩
  rw [stepped]
  exact nextValid

theorem step (valid : Valid settings memory) {call : Call}
    (permitted : memory.Permitted settings call) : Valid settings (memory.step settings call) := by
  cases call with
  | alloc pages fresh =>
      by_cases none : pages = 0
      · rw [none, step_alloc_zero]
        exact valid
      · obtain ⟨_, _, _, _, _, _, _, after⟩ := valid.alloc none permitted
        exact after
  | free ptr pages =>
      by_cases none : ptr = 0 ∨ pages = 0
      · rw [step_free_nothing none]
        exact valid
      · obtain ⟨_, _, _, _, _, _, _, _, after⟩ := valid.free (not_or.mp none) permitted
        exact after

theorem run (valid : Valid settings memory) {calls : List Call}
    (permitted : EachStep (Memory.step settings) (Permitted settings) memory calls) :
    Valid settings (memory.run settings calls) :=
  run_preserves (fun _ _ permitted valid => valid.step permitted) valid permitted

end Valid

/-- In every sequence of permitted calls nothing undefined happens, the free blocks and those of
the callers are apart, the free lists and the free queue hold the same blocks with no list empty,
the counters are exact, and the next block given is memory from the system, as large as asked,
that no caller has. -/
theorem run_disjoint {calls : List Call}
    (permitted : EachStep (step settings) (Permitted settings) init calls) :
    let memory := init.run settings calls
    memory.undefined = false ∧
      (memory.allocator.freeQueue ++ memory.live).Pairwise Block.Apart ∧
      memory.allocator.listed.Perm memory.allocator.freeQueue ∧
      (∀ pages list, memory.allocator.freeLists.find? pages = some list → list ≠ []) ∧
      memory.allocator.curFree =
        Block.total memory.allocator.freeQueue * settings.pageSize ∧
      memory.allocator.curAlloc = Block.total memory.live * settings.pageSize ∧
      ∀ pages fresh, pages ≠ 0 → memory.Permitted settings (.alloc pages fresh) →
        ∃ ptr next, memory.allocator.alloc settings pages fresh = some (ptr, next) ∧ ptr ≠ 0 ∧
          (∀ block ∈ memory.live, Block.Apart ⟨ptr, pages⟩ block) ∧
          (∀ block ∈ next.freeQueue, Block.Apart ⟨ptr, pages⟩ block) ∧
          pagesOf ⟨ptr, pages⟩ ⊆ (memory.step settings (.alloc pages fresh)).handedOut := by
  intro memory
  have valid : Valid settings memory := (valid_init settings).run permitted
  refine ⟨valid.defined, Block.pairwise_apart valid.placed.once, valid.linked.perm,
    fun _ _ => valid.linked.nonempty, valid.curFree, valid.curAlloc,
    fun pages fresh some_ may => ?_⟩
  obtain ⟨ptr, next, result, _, _, same, live, after⟩ := valid.alloc some_ may
  have given : ⟨ptr, pages⟩ ∈ (memory.step settings (.alloc pages fresh)).live := by
    rw [live]
    exact List.mem_cons_self
  have owned : pagesOf ⟨ptr, pages⟩ ⊆
      (memory.step settings (.alloc pages fresh)).handedOut := by
    intro place member
    exact after.placed.mem_of_holds (List.mem_append_right _ given) (mem_pagesOf.mp member)
  have apart := List.pairwise_append.mp (Block.pairwise_apart after.placed.once)
  rw [live] at apart
  refine ⟨ptr, next, result, ?_, ?_, ?_, owned⟩
  · rintro rfl
    apply after.placed.nonnull
    apply owned
    rw [mem_pagesOf]
    exact Block.holds_start some_
  · exact (List.pairwise_cons.mp apart.2.1).1
  · intro block member place both
    have pooled : block ∈ (memory.step settings (.alloc pages fresh)).allocator.freeQueue := by
      rw [same]
      exact member
    exact apart.2.2 block pooled ⟨ptr, pages⟩ List.mem_cons_self place ⟨both.2, both.1⟩

/-- The middle page of an allocation is freed and allocated again. -/
theorem run_disjoint_middle :
    (init.run (usualPages 0 (by decide)) [.alloc 3 1, .free 2 1, .alloc 1 9]).live.length = 3 ∧
      ((init.run (usualPages 0 (by decide)) [.alloc 3 1, .free 2 1, .alloc 1 9]).allocator.freeQueue
        ++ (init.run (usualPages 0 (by decide)) [.alloc 3 1, .free 2 1, .alloc 1 9]).live).Pairwise
          Block.Apart :=
  ⟨by decide +kernel,
    (@run_disjoint (usualPages 0 (by decide)) [.alloc 3 1, .free 2 1, .alloc 1 9]
      ⟨by decide +kernel, by decide +kernel, by decide +kernel, trivial⟩).2.1⟩

end Memory

end Andromeda.Allocation
