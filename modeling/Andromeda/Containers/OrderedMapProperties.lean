import Andromeda.Containers.OrderedMap
import Andromeda.Library.Lookup
import Mathlib.Data.List.Induction
import Mathlib.Data.List.Nodup

/-! An ordered map is a plain list of entries: the keys stay distinct, the table leads from each of
them to the node that holds it, and every operation returns what it does on the list. -/

set_option autoImplicit false

namespace Andromeda.Containers

open Library

variable {Key Value Entry : Type} [DecidableEq Key] {order : HashOrder Key}
  {impl : Impl Key Value Entry} {map : OrderedMap Key Entry} {key : Key} {node : Nat}
  {entry : Entry} {list : List Entry}

/-- The keys of a list. -/
def Impl.keys (impl : Impl Key Value Entry) (list : List Entry) : List Key := list.map impl.getKey

/-- A list without the entry of a key. -/
def Impl.without (impl : Impl Key Value Entry) (key : Key) (list : List Entry) : List Entry :=
  list.filter fun entry => impl.getKey entry ≠ key

namespace Op

/-- What the operations ask for: a key that is not there, one that is, or any entry. -/
def Allowed (impl : Impl Key Value Entry) : Op Key Entry → List Entry → Prop
  | .enqueueFront entry, list | .enqueueBack entry, list => impl.getKey entry ∉ impl.keys list
  | .eraseIterator key, list => key ∈ impl.keys list
  | .popFront, list | .popBack, list => list ≠ []
  | .erase _, _ | .pop _, _ | .clear, _ => True

instance decidableAllowed (impl : Impl Key Value Entry) :
    (op : Op Key Entry) → (list : List Entry) → Decidable (op.Allowed impl list)
  | .enqueueFront entry, list | .enqueueBack entry, list =>
    inferInstanceAs (Decidable (impl.getKey entry ∉ impl.keys list))
  | .eraseIterator key, list => inferInstanceAs (Decidable (key ∈ impl.keys list))
  | .popFront, list | .popBack, list => inferInstanceAs (Decidable (list ≠ []))
  | .erase _, _ | .pop _, _ | .clear, _ => inferInstanceAs (Decidable True)

/-- What an operation makes of a plain list. -/
def after (impl : Impl Key Value Entry) : Op Key Entry → List Entry → List Entry
  | .enqueueFront entry, list => entry :: list
  | .enqueueBack entry, list => list ++ [entry]
  | .erase key, list | .eraseIterator key, list | .pop key, list => impl.without key list
  | .popFront, list => list.tail
  | .popBack, list => list.dropLast
  | .clear, _ => []

/-- What an operation returns on a plain list. The table may be in any order, so a lookup iterator
is that of any key that is left, or the end. -/
def Returns (impl : Impl Key Value Entry) (list : List Entry) :
    Op Key Entry → Result Key Value Entry → Prop
  | .enqueueFront _, result | .enqueueBack _, result | .clear, result => result = .done
  | .erase key, result => result = .found (decide (key ∈ impl.keys list))
  | .eraseIterator key, result =>
    ∃ next, result = .iterator next ∧ ∀ other ∈ next, other ∈ impl.keys (impl.without key list)
  | .pop key, result =>
    result = .value ((list.find? fun entry => impl.getKey entry = key).map impl.getValue)
  | .popFront, result => ∃ entry, list.head? = some entry ∧ result = .entry entry
  | .popBack, result => ∃ entry, list.getLast? = some entry ∧ result = .entry entry

end Op

/-- The invariant: keys and nodes are distinct, and the table maps exactly the keys, each to the
node that holds it. -/
structure Coherent (impl : Impl Key Value Entry) (map : OrderedMap Key Entry) : Prop where
  keys : (impl.keys map.entries).Nodup
  nodes : (map.queue.map Prod.fst).Nodup
  fresh : ∀ item ∈ map.queue, item.1 < map.next
  tableKeys : (map.lookup.map Prod.fst).Nodup
  table : ∀ key node, (key, node) ∈ map.lookup ↔
    ∃ entry, (node, entry) ∈ map.queue ∧ impl.getKey entry = key

section Lookup

private theorem Coherent.find_iff (coherent : Coherent impl map) :
    map.lookup.find key = some node ↔
      ∃ entry, (node, entry) ∈ map.queue ∧ impl.getKey entry = key := by
  rw [ValueLookup.find, lookup_eq_some_iff_mem coherent.tableKeys, coherent.table]

omit [DecidableEq Key] in
private theorem mem_keys_iff :
    key ∈ impl.keys map.entries ↔ ∃ node entry, (node, entry) ∈ map.queue ∧ impl.getKey entry = key := by
  simp [Impl.keys, OrderedMap.entries]

private theorem Coherent.find_of_mem (coherent : Coherent impl map)
    (member : key ∈ impl.keys map.entries) :
    ∃ node entry, map.lookup.find key = some node ∧ (node, entry) ∈ map.queue ∧
      impl.getKey entry = key := by
  obtain ⟨node, entry, inQueue, holds⟩ := mem_keys_iff.mp member
  exact ⟨node, entry, coherent.find_iff.mpr ⟨entry, inQueue, holds⟩, inQueue, holds⟩

private theorem Coherent.find_of_not_mem (coherent : Coherent impl map)
    (absent : key ∉ impl.keys map.entries) : map.lookup.find key = none := by
  rw [Option.eq_none_iff_forall_ne_some]
  intro node found
  obtain ⟨entry, member, holds⟩ := coherent.find_iff.mp found
  exact absent (mem_keys_iff.mpr ⟨node, entry, member, holds⟩)

omit [DecidableEq Key] in
private theorem Coherent.node_iff (coherent : Coherent impl map)
    (member : (node, entry) ∈ map.queue)
    {item : Nat × Entry} (other : item ∈ map.queue) :
    item.1 = node ↔ impl.getKey item.2 = impl.getKey entry := by
  constructor
  · intro same
    rw [List.inj_on_of_nodup_map coherent.nodes other member same]
  · intro same
    have distinct : (map.queue.map fun item => impl.getKey item.2).Nodup := by
      simpa [Impl.keys, OrderedMap.entries, Function.comp_def] using coherent.keys
    rw [List.inj_on_of_nodup_map distinct other member same]

end Lookup

section Removal

/-- A map without the node of a key, in the list and in the table. -/
def OrderedMap.removed (map : OrderedMap Key Entry) (node : Nat) (key : Key) : OrderedMap Key Entry :=
  { map with queue := map.queue.filter fun item => item.1 ≠ node, lookup := map.lookup.erase key }

omit [DecidableEq Key] in
private theorem eraseNode_eq (member : (node, entry) ∈ map.queue) :
    OrderedMap.eraseNode map.queue node = some (map.queue.filter fun item => item.1 ≠ node) :=
  if_pos (List.mem_map.mpr ⟨(node, entry), member, rfl⟩)

omit [DecidableEq Key] in
private theorem Coherent.entryAt_eq (coherent : Coherent impl map)
    (member : (node, entry) ∈ map.queue) :
    OrderedMap.entryAt map.queue node = some entry :=
  lookup_of_mem coherent.nodes member

private theorem Coherent.removed_entries (coherent : Coherent impl map)
    (member : (node, entry) ∈ map.queue) :
    (map.removed node (impl.getKey entry)).entries =
      impl.without (impl.getKey entry) map.entries := by
  have sameTest : (map.queue.filter fun item => item.1 ≠ node) =
      map.queue.filter fun item => impl.getKey item.2 ≠ impl.getKey entry :=
    List.filter_congr fun item other =>
      decide_eq_decide.mpr (not_congr (coherent.node_iff member other))
  rw [OrderedMap.entries, OrderedMap.removed, sameTest, Impl.without, OrderedMap.entries,
    List.filter_map]
  rfl

private theorem Coherent.removed (coherent : Coherent impl map)
    (member : (node, entry) ∈ map.queue) :
    Coherent impl (map.removed node (impl.getKey entry)) where
  keys := by
    rw [coherent.removed_entries member]
    exact coherent.keys.sublist (List.filter_sublist.map _)
  nodes := coherent.nodes.sublist (List.filter_sublist.map _)
  fresh item other := coherent.fresh item (List.mem_of_mem_filter other)
  tableKeys := coherent.tableKeys.sublist (List.filter_sublist.map _)
  table key other := by
    simp only [OrderedMap.removed, ValueLookup.erase, List.mem_filter, decide_eq_true_eq,
      coherent.table]
    constructor
    · rintro ⟨⟨held, inQueue, rfl⟩, differs⟩
      exact ⟨held, ⟨inQueue, fun same => differs ((coherent.node_iff member inQueue).mp same)⟩, rfl⟩
    · rintro ⟨held, ⟨inQueue, differs⟩, rfl⟩
      exact ⟨⟨held, inQueue, rfl⟩, fun same => differs ((coherent.node_iff member inQueue).mpr same)⟩

private theorem after_ne {table : ValueLookup Key} {other : Key}
    (distinct : (List.map Prod.fst table).Nodup)
    (next : table.after key = some other) : other ∈ List.map Prod.fst table ∧ other ≠ key := by
  induction table with
  | nil => cases next
  | cons first rest ih =>
      rw [List.map_cons, List.nodup_cons] at distinct
      by_cases here : first.1 = key
      · have head : (rest[0]?).map Prod.fst = some other := by
          simpa [ValueLookup.after, here] using next
        obtain ⟨item, found, rfl⟩ := Option.map_eq_some_iff.mp head
        have member : item.1 ∈ List.map Prod.fst rest :=
          List.mem_map_of_mem (List.mem_of_getElem? found)
        refine ⟨List.mem_cons_of_mem _ member, ?_⟩
        rintro rfl
        exact distinct.1 (here ▸ member)
      · have later : ValueLookup.after rest key = some other := by
          simpa [ValueLookup.after, here] using next
        obtain ⟨member, differs⟩ := ih distinct.2 later
        exact ⟨List.mem_cons_of_mem _ member, differs⟩

private theorem Coherent.after_mem (coherent : Coherent impl map) {other : Key}
    (next : map.lookup.after key = some other) :
    other ∈ impl.keys (impl.without key map.entries) := by
  obtain ⟨member, differs⟩ := after_ne coherent.tableKeys next
  obtain ⟨⟨_, node⟩, inTable, rfl⟩ := List.mem_map.mp member
  obtain ⟨entry, inQueue, holds⟩ := (coherent.table _ node).mp inTable
  have inEntries : entry ∈ map.entries := List.mem_map.mpr ⟨(node, entry), inQueue, rfl⟩
  refine List.mem_map.mpr ⟨entry, List.mem_filter.mpr ⟨inEntries, ?_⟩, holds⟩
  rw [holds]
  exact decide_eq_true differs

end Removal

section Insertion

private theorem Coherent.assign_perm (coherent : Coherent impl map)
    (absent : key ∉ impl.keys map.entries) :
    (map.lookup.assign order key node).Perm ((key, node) :: map.lookup) := by
  rw [ValueLookup.assign, coherent.find_of_not_mem absent]
  exact order.perm _

private theorem Coherent.inserted (coherent : Coherent impl map)
    (absent : impl.getKey entry ∉ impl.keys map.entries) {queue : List (Nat × Entry)}
    (perm : queue.Perm ((map.next, entry) :: map.queue)) :
    Coherent impl
      ⟨queue, map.lookup.assign order (impl.getKey entry) map.next, map.next + 1⟩ := by
  have tablePerm : (map.lookup.assign order (impl.getKey entry) map.next).Perm
      ((impl.getKey entry, map.next) :: map.lookup) := coherent.assign_perm absent
  constructor
  · have keysPerm : (impl.keys (queue.map Prod.snd)).Perm
        (impl.getKey entry :: impl.keys map.entries) := (perm.map Prod.snd).map impl.getKey
    exact keysPerm.nodup_iff.mpr (List.nodup_cons.mpr ⟨absent, coherent.keys⟩)
  · have fresh : map.next ∉ map.queue.map Prod.fst := by
      intro member
      obtain ⟨item, inQueue, same⟩ := List.mem_map.mp member
      exact absurd same (Nat.ne_of_lt (coherent.fresh item inQueue))
    exact (perm.map Prod.fst).nodup_iff.mpr (List.nodup_cons.mpr ⟨fresh, coherent.nodes⟩)
  · intro item member
    rcases List.mem_cons.mp (perm.mem_iff.mp member) with rfl | earlier
    · exact Nat.lt_succ_self _
    · exact Nat.lt_succ_of_lt (coherent.fresh item earlier)
  · have newKey : impl.getKey entry ∉ map.lookup.map Prod.fst := by
      intro member
      obtain ⟨⟨_, node⟩, inTable, rfl⟩ := List.mem_map.mp member
      obtain ⟨held, inQueue, holds⟩ := (coherent.table _ node).mp inTable
      exact absent (mem_keys_iff.mpr ⟨node, held, inQueue, holds⟩)
    exact (tablePerm.map Prod.fst).nodup_iff.mpr (List.nodup_cons.mpr ⟨newKey, coherent.tableKeys⟩)
  · intro key node
    rw [tablePerm.mem_iff, List.mem_cons, Prod.mk.injEq, coherent.table]
    constructor
    · rintro (⟨rfl, rfl⟩ | ⟨held, inQueue, rfl⟩)
      · exact ⟨entry, perm.mem_iff.mpr List.mem_cons_self, rfl⟩
      · exact ⟨held, perm.mem_iff.mpr (List.mem_cons_of_mem _ inQueue), rfl⟩
    · rintro ⟨held, inQueue, rfl⟩
      rcases List.mem_cons.mp (perm.mem_iff.mp inQueue) with same | earlier
      · cases same
        exact Or.inl ⟨rfl, rfl⟩
      · exact Or.inr ⟨held, earlier, rfl⟩

end Insertion

section Steps

/-- A map that stands for a list. -/
structure Refines (impl : Impl Key Value Entry) (map : OrderedMap Key Entry) (list : List Entry) :
    Prop where
  coherent : Coherent impl map
  entries : map.entries = list

private theorem Refines.enqueueFront (refines : Refines impl map list)
    (absent : impl.getKey entry ∉ impl.keys list) :
    Refines impl (map.enqueueFront order impl entry) (entry :: list) := by
  obtain ⟨coherent, rfl⟩ := refines
  exact ⟨coherent.inserted absent (List.Perm.refl _), rfl⟩

private theorem Refines.enqueueBack (refines : Refines impl map list)
    (absent : impl.getKey entry ∉ impl.keys list) :
    Refines impl (map.enqueueBack order impl entry) (list ++ [entry]) := by
  obtain ⟨coherent, rfl⟩ := refines
  refine ⟨coherent.inserted absent (List.perm_append_singleton _ _), ?_⟩
  simp [OrderedMap.entries, OrderedMap.enqueueBack]

private theorem Refines.removed (refines : Refines impl map list)
    (member : (node, entry) ∈ map.queue)
    (holds : impl.getKey entry = key) :
    Refines impl (map.removed node key) (impl.without key list) := by
  obtain ⟨coherent, rfl⟩ := refines
  subst holds
  exact ⟨coherent.removed member, coherent.removed_entries member⟩

omit [DecidableEq Key] in
private theorem refines_clear : Refines impl map.clear [] where
  coherent := ⟨.nil, .nil, nofun, .nil, fun key node => by simp [OrderedMap.clear]⟩
  entries := rfl

private theorem without_of_not_mem (absent : key ∉ impl.keys list) :
    impl.without key list = list := by
  rw [Impl.without, List.filter_eq_self]
  intro entry member
  exact decide_eq_true fun same => absent (List.mem_map.mpr ⟨entry, member, same⟩)

private theorem without_head (distinct : (impl.keys (entry :: list)).Nodup) :
    impl.without (impl.getKey entry) (entry :: list) = list := by
  have absent := (List.nodup_cons.mp distinct).1
  rw [Impl.without, List.filter_cons_of_neg (by simp)]
  exact without_of_not_mem absent

private theorem without_last (distinct : (impl.keys (list ++ [entry])).Nodup) :
    impl.without (impl.getKey entry) (list ++ [entry]) = list := by
  have parts : (impl.keys list ++ [impl.getKey entry]).Nodup := by
    simpa [Impl.keys] using distinct
  have absent : impl.getKey entry ∉ impl.keys list :=
    fun member => (List.nodup_append.mp parts).2.2 _ member _ List.mem_cons_self rfl
  rw [Impl.without, List.filter_append, List.filter_cons_of_neg (by simp), List.filter_nil,
    List.append_nil]
  exact without_of_not_mem absent

private theorem Refines.erase_found (refines : Refines impl map list)
    (member : key ∈ impl.keys list) :
    ∃ map', map.erase key = some (true, map') ∧ Refines impl map' (impl.without key list) := by
  obtain ⟨node, entry, found, inQueue, holds⟩ :=
    refines.coherent.find_of_mem (refines.entries ▸ member)
  refine ⟨map.removed node key, ?_, refines.removed inQueue holds⟩
  simp only [OrderedMap.erase, found, eraseNode_eq inQueue]
  rfl

private theorem Refines.erase_missing (refines : Refines impl map list)
    (absent : key ∉ impl.keys list) :
    map.erase key = some (false, map) ∧ Refines impl map (impl.without key list) := by
  have missing := refines.coherent.find_of_not_mem (refines.entries ▸ absent)
  rw [without_of_not_mem absent]
  refine ⟨?_, refines⟩
  simp only [OrderedMap.erase, missing]

private theorem Refines.eraseIterator (refines : Refines impl map list)
    (member : key ∈ impl.keys list) :
    ∃ next map', map.eraseIterator key = some (next, map') ∧
      (∀ other ∈ next, other ∈ impl.keys (impl.without key list)) ∧
        Refines impl map' (impl.without key list) := by
  obtain ⟨node, entry, found, inQueue, holds⟩ :=
    refines.coherent.find_of_mem (refines.entries ▸ member)
  refine ⟨map.lookup.after key, map.removed node key, ?_, ?_, refines.removed inQueue holds⟩
  · simp only [OrderedMap.eraseIterator, found, bind, Option.bind, eraseNode_eq inQueue]
    rfl
  · intro other next
    rw [← refines.entries]
    exact refines.coherent.after_mem next

private theorem Refines.find?_eq (refines : Refines impl map list)
    (inQueue : (node, entry) ∈ map.queue)
    (holds : impl.getKey entry = key) :
    (list.find? fun entry => impl.getKey entry = key) = some entry := by
  obtain ⟨coherent, rfl⟩ := refines
  subst holds
  have found : (map.entries.map fun entry => (impl.getKey entry, entry)).lookup (impl.getKey entry) =
      some entry :=
    lookup_map_of_mem coherent.keys entry (List.mem_map.mpr ⟨(node, entry), inQueue, rfl⟩)
  rwa [lookup_map_eq_find?, Option.map_id'] at found

private theorem Refines.pop_found (refines : Refines impl map list)
    (member : key ∈ impl.keys list) :
    ∃ map', map.pop impl key =
        some ((list.find? fun entry => impl.getKey entry = key).map impl.getValue, map') ∧
      Refines impl map' (impl.without key list) := by
  obtain ⟨node, entry, found, inQueue, holds⟩ :=
    refines.coherent.find_of_mem (refines.entries ▸ member)
  refine ⟨map.removed node key, ?_, refines.removed inQueue holds⟩
  simp only [OrderedMap.pop, found, refines.coherent.entryAt_eq inQueue, eraseNode_eq inQueue,
    refines.find?_eq inQueue holds]
  rfl

private theorem find?_of_not_mem (absent : key ∉ impl.keys list) :
    (list.find? fun entry => impl.getKey entry = key) = none := by
  rw [List.find?_eq_none]
  intro entry member
  simpa using fun same => absent (List.mem_map.mpr ⟨entry, member, same⟩)

private theorem Refines.pop_missing (refines : Refines impl map list)
    (absent : key ∉ impl.keys list) :
    map.pop impl key =
        some ((list.find? fun entry => impl.getKey entry = key).map impl.getValue, map) ∧
      Refines impl map (impl.without key list) := by
  have missing := refines.coherent.find_of_not_mem (refines.entries ▸ absent)
  rw [without_of_not_mem absent]
  refine ⟨?_, refines⟩
  simp only [OrderedMap.pop, missing, find?_of_not_mem absent]
  rfl

private theorem Refines.popFront (refines : Refines impl map list) (filled : list ≠ []) :
    ∃ entry map', list.head? = some entry ∧ map.popFront impl = some (entry, map') ∧
      Refines impl map' list.tail := by
  obtain ⟨coherent, rfl⟩ := refines
  cases shape : map.queue with
  | nil => exact absurd (by rw [OrderedMap.entries, shape]; rfl) filled
  | cons item rest =>
      have inQueue : (item.1, item.2) ∈ map.queue := shape ▸ List.mem_cons_self
      have entries : map.entries = item.2 :: rest.map Prod.snd := by
        rw [OrderedMap.entries, shape]
        rfl
      have kept := without_head (entries ▸ coherent.keys)
      have removed := (Refines.mk coherent rfl).removed inQueue rfl
      rw [entries, kept] at removed
      refine ⟨item.2, map.removed item.1 (impl.getKey item.2), ?_, ?_, ?_⟩
      · rw [entries, List.head?_cons]
      · simp only [OrderedMap.popFront, shape, List.head?_cons, bind, Option.bind]
        rw [← shape, eraseNode_eq inQueue]
        rfl
      · rw [entries, List.tail_cons]
        exact removed

private theorem Refines.popBack (refines : Refines impl map list) (filled : list ≠ []) :
    ∃ entry map', list.getLast? = some entry ∧ map.popBack impl = some (entry, map') ∧
      Refines impl map' list.dropLast := by
  obtain ⟨coherent, rfl⟩ := refines
  rcases List.eq_nil_or_concat map.queue with shape | ⟨rest, item, shape⟩
  · exact absurd (by rw [OrderedMap.entries, shape]; rfl) filled
  · rw [List.concat_eq_append] at shape
    have inQueue : (item.1, item.2) ∈ map.queue := by simp [shape]
    have entries : map.entries = rest.map Prod.snd ++ [item.2] := by
      rw [OrderedMap.entries, shape, List.map_append]
      rfl
    have kept := without_last (entries ▸ coherent.keys)
    have removed := (Refines.mk coherent rfl).removed inQueue rfl
    rw [entries, kept] at removed
    refine ⟨item.2, map.removed item.1 (impl.getKey item.2), ?_, ?_, ?_⟩
    · rw [entries, List.getLast?_concat]
    · have last : map.queue.getLast? = some item := by rw [shape, List.getLast?_concat]
      simp only [OrderedMap.popBack, last, bind, Option.bind, eraseNode_eq inQueue]
      rfl
    · rw [entries, List.dropLast_concat]
      exact removed

/-- Every operation that is allowed on the list is defined on its map, returns what it does on the
list, and keeps the map that of the list. -/
private theorem Refines.step (refines : Refines impl map list) (order : HashOrder Key)
    (op : Op Key Entry)
    (allowed : op.Allowed impl list) :
    ∃ result map', op.run order impl map = some (result, map') ∧ op.Returns impl list result ∧
      Refines impl map' (op.after impl list) := by
  cases op with
  | enqueueFront entry => exact ⟨.done, _, rfl, rfl, refines.enqueueFront allowed⟩
  | enqueueBack entry => exact ⟨.done, _, rfl, rfl, refines.enqueueBack allowed⟩
  | erase key =>
      by_cases member : key ∈ impl.keys list
      · obtain ⟨map', ran, kept⟩ := refines.erase_found member
        exact ⟨.found true, map', by rw [Op.run, ran]; rfl,
          congrArg _ (decide_eq_true member).symm, kept⟩
      · obtain ⟨ran, kept⟩ := refines.erase_missing member
        exact ⟨.found false, map, by rw [Op.run, ran]; rfl,
          congrArg _ (decide_eq_false member).symm, kept⟩
  | eraseIterator key =>
      obtain ⟨next, map', ran, left, kept⟩ := refines.eraseIterator allowed
      exact ⟨.iterator next, map', by rw [Op.run, ran]; rfl, ⟨next, rfl, left⟩, kept⟩
  | pop key =>
      by_cases member : key ∈ impl.keys list
      · obtain ⟨map', ran, kept⟩ := refines.pop_found member
        exact ⟨.value _, map', by rw [Op.run, ran]; rfl, rfl, kept⟩
      · obtain ⟨ran, kept⟩ := refines.pop_missing member
        exact ⟨.value _, map, by rw [Op.run, ran]; rfl, rfl, kept⟩
  | popFront =>
      obtain ⟨entry, map', head, ran, kept⟩ := refines.popFront allowed
      exact ⟨.entry entry, map', by rw [Op.run, ran]; rfl, ⟨entry, head, rfl⟩, kept⟩
  | popBack =>
      obtain ⟨entry, map', last, ran, kept⟩ := refines.popBack allowed
      exact ⟨.entry entry, map', by rw [Op.run, ran]; rfl, ⟨entry, last, rfl⟩, kept⟩
  | clear => exact ⟨.done, _, rfl, rfl, refines_clear⟩

/-- What a map is asked for is what its list has. -/
theorem Refines.queries (refines : Refines impl map list) (key : Key) :
    map.size = list.length ∧ map.front = list.head? ∧ map.back = list.getLast? ∧
      map.contains key = decide (key ∈ impl.keys list) ∧
      map.find key = some (list.find? fun entry => impl.getKey entry = key) := by
  refine ⟨?_, ?_, ?_, ?_, ?_⟩
  · rw [← refines.entries, OrderedMap.entries, List.length_map]
    rfl
  · rw [← refines.entries, OrderedMap.entries, List.head?_map]
    rfl
  · rw [← refines.entries, OrderedMap.entries, List.getLast?_map]
    rfl
  · by_cases member : key ∈ impl.keys list
    · obtain ⟨node, entry, found, _, _⟩ := refines.coherent.find_of_mem (refines.entries ▸ member)
      rw [OrderedMap.contains, found, decide_eq_true member]
      rfl
    · have missing := refines.coherent.find_of_not_mem (refines.entries ▸ member)
      rw [OrderedMap.contains, missing, decide_eq_false member]
      rfl
  · by_cases member : key ∈ impl.keys list
    · obtain ⟨node, entry, found, inQueue, holds⟩ :=
        refines.coherent.find_of_mem (refines.entries ▸ member)
      simp only [OrderedMap.find, found, refines.coherent.entryAt_eq inQueue,
        refines.find?_eq inQueue holds, Option.map_some]
    · have missing := refines.coherent.find_of_not_mem (refines.entries ▸ member)
      simp only [OrderedMap.find, missing, find?_of_not_mem member]

end Steps

section Runs

/-- A sequence of operations of which each is allowed where it stands. -/
def AllAllowed (impl : Impl Key Value Entry) : List Entry → List (Op Key Entry) → Prop
  | _, [] => True
  | list, op :: ops => op.Allowed impl list ∧ AllAllowed impl (op.after impl list) ops

instance decidableAllAllowed (impl : Impl Key Value Entry) :
    (list : List Entry) → (ops : List (Op Key Entry)) → Decidable (AllAllowed impl list ops)
  | _, [] => inferInstanceAs (Decidable True)
  | list, op :: ops =>
    have := decidableAllAllowed impl (op.after impl list) ops
    inferInstanceAs (Decidable (op.Allowed impl list ∧ AllAllowed impl (op.after impl list) ops))

/-- What a sequence of operations returns on a list, and what it makes of it. -/
inductive ListRun (impl : Impl Key Value Entry) :
    List Entry → List (Op Key Entry) → List (Result Key Value Entry) → List Entry → Prop where
  | nil {list : List Entry} : ListRun impl list [] [] list
  | cons {list final : List Entry} {op : Op Key Entry} {ops : List (Op Key Entry)}
      {result : Result Key Value Entry} {results : List (Result Key Value Entry)}
      (returns : op.Returns impl list result)
      (rest : ListRun impl (op.after impl list) ops results final) :
      ListRun impl list (op :: ops) (result :: results) final

private theorem Refines.run (refines : Refines impl map list) (order : HashOrder Key)
    (ops : List (Op Key Entry)) (allowed : AllAllowed impl list ops) :
    ∃ results map' final, runAll order impl map ops = some (results, map') ∧
      ListRun impl list ops results final ∧ Refines impl map' final := by
  induction ops generalizing map list with
  | nil => exact ⟨[], map, list, rfl, .nil, refines⟩
  | cons op ops ih =>
      obtain ⟨result, next, ran, returns, kept⟩ := refines.step order op allowed.1
      obtain ⟨results, map', final, rest, listRun, last⟩ := ih kept allowed.2
      refine ⟨result :: results, map', final, ?_, .cons returns listRun, last⟩
      simp only [runAll, ran, rest, bind, Option.bind]
      rfl

end Runs

end Andromeda.Containers
