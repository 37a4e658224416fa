import Andromeda.FileData.FetchRangeProperties
import Andromeda.FileData.Scenario
import Andromeda.Library.Run
import Mathlib.Data.List.Perm.Basic

/-! The books of the fetches in every run: the pending ranges are apart from each other and from
the failed pages, and each range but a stale one is what a fetch still has to hand over. A range
goes stale where a fetch runs past the backend's end. -/

set_option autoImplicit false

namespace Andromeda.FileData

open Andromeda.Library

namespace FetchThreads

open PageManager

variable {config : Config} {state : FetchThreads} {stale : List (Nat × Nat)}

/-- The page is in the map. -/
abbrev Cached (world : World) (index : Nat) : Prop :=
  (world.pageManager.pages.find? index).isSome = true

/-- A waiting reader will find its page, or its failure, or a fetch of it is registered. -/
def Awaited (world : World) (index : Nat) : Prop :=
  Cached world index ∨ index ∈ world.pageManager.failedPages ∨
    ∃ range ∈ world.pageManager.pendingPages, HasIndex range index

/-- The books of a page manager; `stale` are the ranges that belong to no fetch. -/
structure Booked (stale : List (Nat × Nat)) (state : FetchThreads) : Prop where
  pending : Pending state.world.pageManager.pendingPages state.world.pageManager.failedPages
  owners : state.world.pageManager.pendingPages.Perm (state.claims ++ stale)
  fetchSize : 0 < state.world.pageManager.fetchSize
  awaited : ∀ index, Reader.waiting index ∈ state.readers → Awaited state.world index
  fetching : ∀ fetch ∈ state.running, fetch.next ≤ fetch.stop ∧ fetch.stop ≤ fetch.last
  exclusive : state.writing = true → state.readers = [] ∧ state.running = []
  found : ErrorCheck.notPending ∉ state.world.trace.errors

private theorem booked_initial (initial : Initial state) : Booked [] state where
  pending := by
    rw [initial.pendingPages]
    exact ⟨nofun, .nil, fun _ _ => nofun⟩
  owners := by simp [claims, initial.pendingPages, initial.fetchThreads, initial.running]
  fetchSize := initial.fetchSize
  awaited index member := by
    rw [initial.readers] at member
    cases member
  fetching fetch member := by
    rw [initial.running] at member
    cases member
  exclusive _ := ⟨initial.readers, initial.running⟩
  found := by
    rw [initial.noErrors]
    exact List.not_mem_nil

/-- What a stretch leaves of the fetches that registers none. -/
structure Quiet (before after : World) : Prop where
  pendingPages : after.pageManager.pendingPages = before.pageManager.pendingPages
  failedPages : after.pageManager.failedPages = before.pageManager.failedPages
  fetchThreads : after.fetchThreads = before.fetchThreads
  fetchSize : after.pageManager.fetchSize = before.pageManager.fetchSize
  stays : ∀ index, Cached before index → Cached after index
  found : .notPending ∈ after.trace.errors → .notPending ∈ before.trace.errors

private theorem Quiet.refl (world : World) :
    Quiet world world := ⟨rfl, rfl, rfl, rfl, fun _ => id, id⟩

private theorem quiet_logged (world : World) {check : ErrorCheck} (other : check ≠ .notPending) :
    Quiet world (world.logged check) := by
  refine ⟨rfl, rfl, rfl, rfl, fun _ => id, fun member => ?_⟩
  rcases List.mem_append.mp member with before | now
  · exact before
  · exact absurd (List.mem_singleton.mp now).symm other

private theorem Quiet.trans {before middle after : World} (first : Quiet before middle)
    (second : Quiet middle after) : Quiet before after :=
  ⟨second.pendingPages.trans first.pendingPages, second.failedPages.trans first.failedPages,
    second.fetchThreads.trans first.fetchThreads, second.fetchSize.trans first.fetchSize,
    fun index cached => second.stays index (first.stays index cached),
    fun member => first.found (second.found member)⟩

private theorem quiet_emplacePage (world : World) (index : Nat) (page : Page) :
    Quiet world (emplacePage world index page) := by
  refine ⟨rfl, rfl, rfl, rfl, fun other cached => ?_, id⟩
  unfold Cached emplacePage
  rw [KeyMap.find?_emplace]
  split
  · rfl
  · exact cached

/-- What the stretches of a reader do: they change no fetch, or register one that
`GetFetchSize` allows. -/
def Looked (before after : World) : Prop :=
  Quiet before after ∨ ∃ middle index readCount, Quiet before middle ∧ readCount ≠ 0 ∧
    (∀ place, index ≤ place → place < index + readCount →
      isFetchPending middle.pageManager place = false) ∧
    after = startFetch middle index readCount

private theorem advanceReadLoop_looked (config : Config) (remaining nextIdx : Nat) (world : World) :
    Outcome (advanceReadLoop config remaining nextIdx) world (fun _ final => Looked world final)
      (fun _ _ => False) := by
  induction remaining generalizing nextIdx with
  | zero => exact .inl (.refl world)
  | succ remaining ih =>
      simp only [advanceReadLoop, Outcome.bind_iff, Outcome.get_iff, Outcome.ite_iff,
        Outcome.pure_iff, Outcome.modify_iff]
      refine ⟨fun _ => .inl (.refl world), fun inside => ?_⟩
      apply (getFetchSize_inside (Nat.lt_of_not_le inside)).mono _ fun _ _ => id
      rintro readCount middle ⟨rfl, rfl⟩
      have spec := fetchSizeAt_spec config middle.pageBackend.backendSize middle.pageManager nextIdx
      exact ⟨fun some => .inr ⟨middle, nextIdx, _, .refl middle, some,
        fun place from' before => (spec.1 place from' before).2, rfl⟩, fun _ => ih (nextIdx + 1)⟩

private theorem getFetchSize_quiet (config : Config) (index : Nat) (world : World) :
    Outcome (getFetchSize config index) world
      (fun readCount final => Quiet world final ∧
        ∀ place, index ≤ place → place < index + readCount →
          isFetchPending final.pageManager place = false)
      (fun _ _ => False) := by
  simp only [getFetchSize, Outcome.bind_iff, Outcome.get_iff, Outcome.ite_iff, Outcome.pure_iff]
  constructor
  · intro _
    refine ⟨quiet_logged world (by decide), fun place from' before => ?_⟩
    exact absurd before (Nat.not_lt.mpr from')
  · intro _
    have spec := fetchSizeAt_spec config world.pageBackend.backendSize world.pageManager index
    exact ⟨.refl world, fun place from' before => (spec.1 place from' before).2⟩

private theorem lookPage_spec (config : Config) (index : Nat) (world : World) :
    Outcome (lookPage config index) world
      (fun waits final => Looked world final ∧
        (waits = true → ∃ range ∈ final.pageManager.pendingPages, HasIndex range index))
      (fun _ _ => False) := by
  have entered (middle : World) (quiet : Quiet world middle) :
      Outcome (do
        if (world.pageManager.pages.find? index).isSome then
          doAdvanceRead config index
          return false
        else if isFetchPending world.pageManager index then return true
        else
          let fetchSize ← getFetchSize config index
          if fetchSize = 0 then
            modify fun world => emplacePage world index ⟨List.replicate config.pageSize 0, false⟩
            return false
          else
            modify fun world => startFetch world index fetchSize
            return true) middle
        (fun waits final => Looked world final ∧
          (waits = true → ∃ range ∈ final.pageManager.pendingPages, HasIndex range index))
        (fun _ _ => False) := by
    simp only [Outcome.ite_iff, Outcome.bind_iff, Outcome.pure_iff, Outcome.modify_iff]
    refine ⟨fun _ => ?_, fun _ => ⟨fun pending => ?_, fun _ => ?_⟩⟩
    · unfold doAdvanceRead
      rw [Outcome.ite_iff]
      constructor
      · exact fun _ => ⟨.inl quiet, by rintro ⟨⟩⟩
      · intro _
        apply (advanceReadLoop_looked config config.readAheadBuffer (index + 1) middle).mono _
          fun _ _ => id
        rintro _ final (same | ⟨reached, next, readCount, same, some, free, rfl⟩)
        · exact ⟨.inl (quiet.trans same), by rintro ⟨⟩⟩
        · exact ⟨.inr ⟨reached, next, readCount, quiet.trans same, some, free, rfl⟩, by rintro ⟨⟩⟩
    · refine ⟨.inl quiet, fun _ => ?_⟩
      rw [quiet.pendingPages]
      exact isFetchPending_iff.mp pending
    · apply (getFetchSize_quiet config index middle).mono _ fun _ _ => id
      rintro readCount reached ⟨same, free⟩
      refine ⟨fun _ => ⟨.inl ((quiet.trans same).trans (quiet_emplacePage _ _ _)), by rintro ⟨⟩⟩,
        fun some => ⟨.inr ⟨reached, index, readCount, quiet.trans same, some, free, rfl⟩,
          fun _ => ⟨(index, readCount), ?_, Nat.le_refl _, ?_⟩⟩⟩
      · exact List.mem_append_right _ (List.mem_singleton_self _)
      · exact Nat.lt_add_of_pos_right (Nat.pos_of_ne_zero some)
  unfold lookPage
  simp only [Outcome.bind_iff, Outcome.get_iff, @Outcome.ite_iff _ _ _ _ _ _ (_ ≤ _)]
  exact ⟨fun _ => entered _ (quiet_logged world (by decide)), fun _ => entered _ (.refl world)⟩

private theorem Awaited.quiet {before after : World} {index : Nat} (awaited : Awaited before index)
    (quiet : Quiet before after) : Awaited after index := by
  rcases awaited with cached | failed | pending
  · exact .inl (quiet.stays index cached)
  · exact .inr (.inl (quiet.failedPages ▸ failed))
  · exact .inr (.inr (quiet.pendingPages ▸ pending))

private theorem Booked.quiet (booked : Booked stale state) {world : World}
    (quiet : Quiet state.world world) : Booked stale { state with world } where
  pending := by
    rw [quiet.pendingPages, quiet.failedPages]
    exact booked.pending
  owners := by
    simp only [claims, quiet.pendingPages, quiet.fetchThreads]
    exact booked.owners
  fetchSize := quiet.fetchSize ▸ booked.fetchSize
  awaited index member := (booked.awaited index member).quiet quiet
  fetching := booked.fetching
  exclusive := booked.exclusive
  found member := booked.found (quiet.found member)

private theorem Awaited.startFetch {world : World} {place index readCount : Nat}
    (awaited : Awaited world place) : Awaited (startFetch world index readCount) place := by
  rcases awaited with cached | failed | ⟨range, member, covers⟩
  · exact .inl cached
  · rcases Decidable.em (index ≤ place ∧ place < index + readCount) with inside | outside
    · exact .inr (.inr ⟨(index, readCount), List.mem_append_right _ (List.mem_singleton_self _),
        inside⟩)
    · refine .inr (.inl (List.mem_filter.mpr ⟨failed, ?_⟩))
      simp only [Bool.not_eq_true', Bool.and_eq_false_iff, decide_eq_false_iff_not]
      exact Decidable.not_and_iff_not_or_not.mp outside
  · exact .inr (.inr ⟨range, List.mem_append_left _ member, covers⟩)

private theorem Booked.startFetch (booked : Booked stale state) {index readCount : Nat}
    (some : readCount ≠ 0)
    (free : ∀ place, index ≤ place → place < index + readCount →
      isFetchPending state.world.pageManager place = false) :
    Booked stale { state with world := startFetch state.world index readCount } where
  pending := startFetch_pending booked.pending some free
  owners := by
    have owners := booked.owners
    simp only [claims, PageManager.startFetch] at owners ⊢
    refine (owners.append_right [(index, readCount)]).trans ?_
    simp only [List.append_assoc]
    refine List.Perm.append_left _ ?_
    rw [← List.append_assoc, ← List.append_assoc [(index, readCount)]]
    exact List.perm_append_comm.trans (by rw [List.append_assoc])
  fetchSize := booked.fetchSize
  awaited place member := (booked.awaited place member).startFetch
  fetching := booked.fetching
  exclusive := booked.exclusive
  found := booked.found

private theorem Booked.looked (booked : Booked stale state) {world : World}
    (looked : Looked state.world world) : Booked stale { state with world } := by
  rcases looked with quiet | ⟨middle, index, readCount, quiet, some, free, rfl⟩
  · exact booked.quiet quiet
  · exact (booked.quiet quiet).startFetch some free

private theorem Booked.withReaders (booked : Booked stale state) {readers : List Reader}
    (idle : state.writing = false)
    (awaited : ∀ index, Reader.waiting index ∈ readers → Awaited state.world index) :
    Booked stale { state with readers } where
  pending := booked.pending
  owners := booked.owners
  fetchSize := booked.fetchSize
  awaited := awaited
  fetching := booked.fetching
  exclusive writing := by
    rw [idle] at writing
    cases writing
  found := booked.found

private theorem Booked.idle_of_reader (booked : Booked stale state) {reader : Nat} {place : Reader}
    (found : state.readers[reader]? = some place) : state.writing = false := by
  cases writing : state.writing with
  | false => rfl
  | true =>
      rw [(booked.exclusive writing).1] at found
      cases found

private theorem Booked.readerStep (booked : Booked stale state) (config : Config) {reader : Nat}
    (index : Nat) (found : state.readers[reader]? = some .reading) :
    Booked stale (readerStep config state reader index) := by
  have spec := lookPage_spec config index state.world
  unfold FetchThreads.readerStep
  unfold Outcome at spec
  split at spec
  · next waits world result =>
    obtain ⟨looked, pending⟩ := spec
    have after := booked.looked looked
    rw [result]
    cases waits with
    | false => exact after
    | true =>
        refine after.withReaders (booked.idle_of_reader found) fun other member => ?_
        rcases List.mem_or_eq_of_mem_set member with before | same
        · exact after.awaited other before
        · cases same
          exact .inr (.inr (pending rfl))
  · exact spec.elim

private theorem Booked.wakeStep (booked : Booked stale state) {reader index : Nat}
    (found : state.readers[reader]? = some (.waiting index)) :
    Booked stale (wakeStep state reader index) := by
  unfold FetchThreads.wakeStep
  split
  · refine booked.withReaders (booked.idle_of_reader found) fun other member => ?_
    rcases List.mem_or_eq_of_mem_set member with before | same
    · exact booked.awaited other before
    · cases same
  · exact booked

private theorem splitPages_length_le (config : Config) (backendSize count index : Nat)
    (data : Bytes) :
    (PageBackend.splitPages config backendSize count index data).length ≤ count := by
  induction count generalizing index data with
  | zero => exact Nat.le_refl _
  | succ count ih =>
      unfold PageBackend.splitPages
      dsimp only
      split
      · exact Nat.zero_le _
      · exact Nat.succ_le_succ (ih _ _)

private theorem pagesHanded_le (config : Config) (backendSize index count : Nat) :
    pagesHanded config backendSize index count ≤ count :=
  splitPages_length_le config backendSize count index _

private theorem Booked.beginStep (booked : Booked stale state) (config : Config) {thread : Nat}
    {range : Nat × Nat} (found : state.world.fetchThreads[thread]? = some range)
    (idle : state.writing = false) :
    Booked stale (beginStep config state thread range) where
  pending := booked.pending
  owners := by
    obtain ⟨index, count⟩ := range
    obtain ⟨bound, same⟩ := List.getElem?_eq_some_iff.mp found
    have positive : 0 < count := by
      refine booked.pending.positive (index, count) (booked.owners.mem_iff.mpr ?_)
      exact List.mem_append_left _ (List.mem_append_left _ (List.mem_of_getElem? found))
    have taken := List.getElem_cons_eraseIdx_perm bound
    rw [same] at taken
    have left : remaining ⟨index, index + count,
        index + pagesHanded config state.world.pageBackend.backendSize index count⟩ =
          some (index, count) := by
      simp [remaining, positive]
    refine booked.owners.trans (List.Perm.append_right stale ?_)
    simp only [claims, FetchThreads.beginStep, List.filterMap_append, List.filterMap_cons, left,
      List.filterMap_nil]
    refine (taken.symm.append_right _).trans ?_
    rw [← List.append_assoc]
    exact @List.perm_append_comm _ [(index, count)] _
  fetchSize := booked.fetchSize
  awaited := booked.awaited
  fetching fetch member := by
    rcases List.mem_append.mp member with before | now
    · exact booked.fetching fetch before
    · obtain rfl := List.mem_singleton.mp now
      exact ⟨Nat.le_add_right _ _, Nat.add_le_add_left (pagesHanded_le config _ _ _) _⟩
  exclusive writing := by
    rw [show state.writing = true from writing] at idle
    cases idle
  found := booked.found

private theorem claims_perm {thread : Nat} {fetch : RunningFetch}
    (found : state.running[thread]? = some fetch) :
    state.claims.Perm ((remaining fetch).toList ++
      (state.world.fetchThreads ++ (state.running.eraseIdx thread).filterMap remaining)) := by
  obtain ⟨bound, same⟩ := List.getElem?_eq_some_iff.mp found
  have taken := (List.getElem_cons_eraseIdx_perm bound).symm.filterMap remaining
  rw [same, List.filterMap_cons] at taken
  have split : (state.running.filterMap remaining).Perm ((remaining fetch).toList ++
      (state.running.eraseIdx thread).filterMap remaining) := by
    cases left : remaining fetch with
    | none =>
        rw [left] at taken
        exact taken
    | some range =>
        rw [left] at taken
        exact taken
  unfold claims
  refine (List.Perm.append_left _ split).trans ?_
  exact List.perm_append_comm_assoc _ _ _

private theorem exitWorld_removePendingFetch {world : World} {index : Nat} {idxOnly : Bool}
    {pendingPages : List (Nat × Nat)}
    (removed : removePending index idxOnly world.pageManager.pendingPages = some pendingPages) :
    exitWorld (removePendingFetch index idxOnly world) =
      { world with pageManager := { world.pageManager with pendingPages } } := by
  simp only [removePendingFetch, bind, EStateM.bind, run_get,
    removed]
  rfl

private theorem remaining_next {fetch : RunningFetch} (more : fetch.next < fetch.last) :
    (if !true || fetch.last - fetch.next - 1 = 0 then []
      else [(fetch.next + 1, fetch.last - fetch.next - 1)]) =
        (remaining { fetch with next := fetch.next + 1 }).toList ∧
    ∀ range, remaining { fetch with next := fetch.next + 1 } = some range →
      0 < range.2 ∧ ∀ index, HasIndex range index ↔
        HasIndex (fetch.next, fetch.last - fetch.next) index ∧ index ≠ fetch.next := by
  rcases Nat.lt_or_ge (fetch.next + 1) fetch.last with goesOn | ended
  · have left : remaining { fetch with next := fetch.next + 1 } =
        some (fetch.next + 1, fetch.last - (fetch.next + 1)) := if_pos goesOn
    have some : fetch.last - (fetch.next + 1) ≠ 0 := by omega
    refine ⟨by simp [left, some, Nat.sub_sub], fun range same => ?_⟩
    rw [left] at same
    obtain rfl := Option.some.inj same
    unfold HasIndex
    exact ⟨by dsimp only; omega, fun index => by dsimp only; omega⟩
  · have left : remaining { fetch with next := fetch.next + 1 } = none :=
      if_neg (Nat.not_lt.mpr ended)
    have none : fetch.last - fetch.next - 1 = 0 := by omega
    refine ⟨by simp [left, none], fun range same => ?_⟩
    rw [left] at same
    cases same

private theorem Booked.handStep (booked : Booked stale state) {thread : Nat} {fetch : RunningFetch}
    (page : Page) (found : state.running[thread]? = some fetch) :
    Booked stale (handStep state thread fetch page) := by
  unfold FetchThreads.handStep
  split
  · next more =>
    obtain ⟨_, within⟩ := booked.fetching fetch (List.mem_of_getElem? found)
    have unfinished : fetch.next < fetch.last := Nat.lt_of_lt_of_le more within
    obtain ⟨bound, _⟩ := List.getElem?_eq_some_iff.mp found
    have whole : remaining fetch = some (fetch.next, fetch.last - fetch.next) := if_pos unfinished
    have owners := booked.owners.trans ((claims_perm found).append_right stale)
    rw [whole, Option.toList_some, List.append_assoc, List.singleton_append] at owners
    generalize others : (state.world.fetchThreads ++
      (state.running.eraseIdx thread).filterMap remaining) ++ stale = rest at owners
    obtain ⟨after, removed, kept⟩ := removePending_perm booked.pending true owners
    obtain ⟨same, left⟩ := remaining_next unfinished
    rw [same] at kept
    obtain ⟨_, apart, failed, restPending⟩ := pending_cons_iff.mp (booked.pending.perm owners)
    rw [@exitWorld_removePendingFetch (emplacePage state.world fetch.next page) _ _ _ removed]
    refine ⟨?_, ?_, booked.fetchSize, ?_, ?_, fun writing => ?_, booked.found⟩
    · refine Pending.perm ?_ kept.symm
      cases goesOn : remaining { fetch with next := fetch.next + 1 } with
      | none => exact restPending
      | some range =>
          obtain ⟨positive, inside⟩ := left range goesOn
          exact pending_cons_iff.mpr ⟨positive,
            fun other member => (apart other member).mono fun index has => ((inside index).mp has).1,
            fun index member has => failed index member ((inside index).mp has).1, restPending⟩
    · refine kept.trans ?_
      rw [← others, ← List.append_assoc]
      refine List.Perm.append_right stale ?_
      have again : (state.running.set thread { fetch with next := fetch.next + 1 })[thread]? =
          some { fetch with next := fetch.next + 1 } := List.getElem?_set_self bound
      have claimed := @claims_perm { state with
        running := state.running.set thread { fetch with next := fetch.next + 1 } } _ _ again
      rw [List.eraseIdx_set_eq] at claimed
      exact claimed.symm
    · intro index member
      rcases booked.awaited index member with cached | isFailed | ⟨range, pending, has⟩
      · exact .inl ((quiet_emplacePage state.world fetch.next page).stays index cached)
      · exact .inr (.inl isFailed)
      · rcases List.mem_cons.mp (owners.mem_iff.mp pending) with rfl | other
        · rcases Decidable.em (index = fetch.next) with rfl | other
          · left
            show (_ : Option Page).isSome = true
            simp only [emplacePage, KeyMap.find?_emplace, if_true, Option.isSome_some]
          · cases goesOn : remaining { fetch with next := fetch.next + 1 } with
            | none =>
                have ended : ¬ fetch.next + 1 < fetch.last := fun goes => by
                  rw [show remaining { fetch with next := fetch.next + 1 } = some _ from
                    if_pos goes] at goesOn
                  cases goesOn
                obtain ⟨from', before⟩ := has
                dsimp only at from' before
                omega
            | some left' =>
                refine .inr (.inr ⟨left', kept.mem_iff.mpr (List.mem_append_left _ ?_),
                  ((left left' goesOn).2 index).mpr ⟨has, other⟩⟩)
                rw [goesOn]
                exact List.mem_singleton_self _
        · exact .inr (.inr ⟨range, kept.mem_iff.mpr (List.mem_append_right _ other), has⟩)
    · intro other member
      rcases List.mem_or_eq_of_mem_set member with before | rfl
      · exact booked.fetching other before
      · exact ⟨more, within⟩
    · have none := (booked.exclusive writing).2
      rw [none] at found
      cases found
  · exact booked

private theorem Booked.failStep (booked : Booked stale state) {thread : Nat} {fetch : RunningFetch}
    (found : state.running[thread]? = some fetch) :
    Booked stale { state with
      world := exitWorld (fetchFailed fetch.next fetch.last state.world)
      running := state.running.eraseIdx thread } := by
  have idle : state.writing = false := by
    cases writing : state.writing with
    | false => rfl
    | true =>
        rw [(booked.exclusive writing).2] at found
        cases found
  have owners := booked.owners.trans ((claims_perm found).append_right stale)
  rcases Nat.lt_or_ge fetch.next fetch.last with unfinished | ended
  · have whole : remaining fetch = some (fetch.next, fetch.last - fetch.next) := if_pos unfinished
    rw [whole, Option.toList_some, List.append_assoc, List.singleton_append] at owners
    obtain ⟨after, removed, kept⟩ := removePending_perm booked.pending false owners
    simp only [Bool.not_false, Bool.true_or, if_true, List.nil_append] at kept
    obtain ⟨_, apart, _, restPending⟩ := pending_cons_iff.mp (booked.pending.perm owners)
    have result : exitWorld (fetchFailed fetch.next fetch.last state.world) =
        { state.world with pageManager := { state.world.pageManager with
          pendingPages := after
          failedPages := state.world.pageManager.failedPages ++
            (List.range' fetch.next (fetch.last - fetch.next)).filter fun failed =>
              !state.world.pageManager.failedPages.contains failed } } := by
      unfold fetchFailed
      simp only [bind, EStateM.bind, run_modify,
        unfinished, if_true]
      exact @exitWorld_removePendingFetch { state.world with
        pageManager := { state.world.pageManager with
          failedPages := state.world.pageManager.failedPages ++
            (List.range' fetch.next (fetch.last - fetch.next)).filter fun failed =>
              !state.world.pageManager.failedPages.contains failed } } _ _ _ removed
    rw [result]
    refine ⟨?_, kept, booked.fetchSize, fun index member => ?_, fun other member => ?_,
      fun writing => ?_, booked.found⟩
    · refine ⟨fun range member => restPending.positive range (kept.mem_iff.mp member),
        (kept.symm.pairwise_iff fun apart => apart.symm).mp restPending.apart,
        fun index member range isPending has => ?_⟩
      have other := kept.mem_iff.mp isPending
      rcases List.mem_append.mp member with before | now
      · exact restPending.failed index before range other has
      · have inside := List.mem_range'_1.mp (List.mem_of_mem_filter now)
        exact apart range other index ⟨inside, has⟩
    · rcases booked.awaited index member with cached | isFailed | ⟨range, pending, has⟩
      · exact .inl cached
      · exact .inr (.inl (List.mem_append_left _ isFailed))
      · rcases List.mem_cons.mp (owners.mem_iff.mp pending) with rfl | other
        · right
          left
          rcases Decidable.em (index ∈ state.world.pageManager.failedPages) with before | new
          · exact List.mem_append_left _ before
          · refine List.mem_append_right _ (List.mem_filter.mpr ⟨?_, ?_⟩)
            · exact List.mem_range'_1.mpr has
            · simpa using new
        · exact .inr (.inr ⟨range, kept.mem_iff.mpr other, has⟩)
    · exact booked.fetching other (List.mem_of_mem_eraseIdx member)
    · rw [idle] at writing
      cases writing
  · have none : remaining fetch = none := if_neg (Nat.not_lt.mpr ended)
    rw [none, Option.toList_none, List.nil_append] at owners
    have result : exitWorld (fetchFailed fetch.next fetch.last state.world) = state.world := by
      unfold fetchFailed
      simp only [bind, EStateM.bind, run_modify,
        Nat.not_lt.mpr ended, if_false, Nat.sub_eq_zero_of_le ended, List.range'_zero,
        List.filter_nil, List.append_nil]
      rfl
    rw [result]
    refine ⟨booked.pending, owners, booked.fetchSize, booked.awaited,
      fun other member => booked.fetching other (List.mem_of_mem_eraseIdx member),
      fun writing => ?_, booked.found⟩
    rw [idle] at writing
    cases writing

private theorem Booked.finishStep (booked : Booked stale state) {thread : Nat}
    {fetch : RunningFetch}
    (found : state.running[thread]? = some fetch) :
    Booked ((remaining fetch).toList ++ stale)
      { state with running := state.running.eraseIdx thread } where
  pending := booked.pending
  owners := by
    refine (booked.owners.trans ((claims_perm found).append_right stale)).trans ?_
    rw [List.append_assoc]
    exact List.perm_append_comm_assoc _ _ _
  fetchSize := booked.fetchSize
  awaited := booked.awaited
  fetching other member := booked.fetching other (List.mem_of_mem_eraseIdx member)
  exclusive writing := by
    rw [(booked.exclusive writing).2] at found
    cases found
  found := booked.found

/-- The fetch that returns in a step, after the last page that its read has handed over. -/
def returning (state : FetchThreads) : FetchAction → Option RunningFetch
  | .finishFetch thread =>
    state.running[thread]?.filter fun fetch => decide (fetch.next = fetch.stop)
  | _ => none

/-- A fetch that returns has handed over all the pages of its range. -/
def Completes (state : FetchThreads) (action : FetchAction) : Prop :=
  ∀ fetch ∈ state.returning action, fetch.stop = fetch.last

instance (state : FetchThreads) (action : FetchAction) : Decidable (Completes state action) :=
  inferInstanceAs (Decidable (∀ fetch ∈ state.returning action, fetch.stop = fetch.last))

private theorem remaining_none_iff {fetch : RunningFetch} (ended : fetch.next = fetch.stop)
    (within : fetch.stop ≤ fetch.last) : remaining fetch = none ↔ fetch.stop = fetch.last := by
  unfold remaining
  split
  · next missing =>
    constructor
    · intro none
      cases none
    · intro whole
      omega
  · next whole => exact ⟨fun _ => by omega, fun _ => rfl⟩

/-- What a step keeps of the books. A range goes stale exactly where a fetch returns with pages
missing. -/
private theorem Booked.step (booked : Booked stale state) (config : Config) (action : FetchAction) :
    ∃ more, Booked (more ++ stale) (state.step config action) ∧
      (more = [] ↔ Completes state action) := by
  have nothing : ([] : List (Nat × Nat)) = [] ↔
      ∀ fetch ∈ (none : Option RunningFetch), fetch.stop = fetch.last :=
    ⟨fun _ => nofun, fun _ => rfl⟩
  cases action with
  | lockShared =>
      refine ⟨[], ?_, nothing⟩
      simp only [FetchThreads.step]
      split
      · exact booked
      · next idle =>
        refine booked.withReaders (Bool.eq_false_iff.mpr idle) fun index member => ?_
        rcases List.mem_append.mp member with before | now
        · exact booked.awaited index before
        · cases List.mem_singleton.mp now
  | unlockShared reader =>
      refine ⟨[], ?_, nothing⟩
      simp only [FetchThreads.step]
      split
      · next found =>
        exact booked.withReaders (booked.idle_of_reader found) fun index member =>
          booked.awaited index (List.mem_of_mem_eraseIdx member)
      · exact booked
  | getPageRead reader index =>
      refine ⟨[], ?_, nothing⟩
      simp only [FetchThreads.step]
      split
      · next found => exact booked.readerStep config index found
      · exact booked
  | wake reader =>
      refine ⟨[], ?_, nothing⟩
      simp only [FetchThreads.step]
      split
      · next found => exact booked.wakeStep found
      · exact booked
  | lock =>
      refine ⟨[], ?_, nothing⟩
      simp only [FetchThreads.step]
      split
      · exact booked
      · next free =>
        simp only [Bool.or_eq_true, Bool.not_eq_true', not_or, Bool.not_eq_false,
          List.isEmpty_iff] at free
        exact ⟨booked.pending, booked.owners, booked.fetchSize, booked.awaited, booked.fetching,
          fun _ => ⟨free.1.2, free.2⟩, booked.found⟩
  | unlock =>
      exact ⟨[], ⟨booked.pending, booked.owners, booked.fetchSize, booked.awaited,
        booked.fetching, nofun, booked.found⟩, nothing⟩
  | change pages fileSize backendSize =>
      refine ⟨[], ?_, nothing⟩
      simp only [FetchThreads.step]
      split
      · next writing =>
        refine ⟨booked.pending, booked.owners, booked.fetchSize, fun index member => ?_,
          booked.fetching, booked.exclusive, booked.found⟩
        rw [(booked.exclusive writing).1] at member
        cases member
      · exact booked
  | beginFetch thread =>
      refine ⟨[], ?_, nothing⟩
      simp only [FetchThreads.step]
      split
      · next range found =>
        split
        · exact booked
        · next idle => exact booked.beginStep config found (Bool.eq_false_iff.mpr idle)
      · exact booked
  | handPage thread page =>
      refine ⟨[], ?_, nothing⟩
      simp only [FetchThreads.step]
      split
      · next found => exact booked.handStep page found
      · exact booked
  | failFetch thread =>
      refine ⟨[], ?_, nothing⟩
      simp only [FetchThreads.step]
      split
      · next found => exact booked.failStep found
      · exact booked
  | finishFetch thread =>
      simp only [FetchThreads.step, Completes, returning, Option.mem_def, Option.filter_eq_some_iff,
        decide_eq_true_eq]
      split
      · next fetch found =>
        have only (other : RunningFetch) (same : state.running[thread]? = some other) :
            other = fetch := Option.some.inj (same.symm.trans found)
        split
        · next more =>
          refine ⟨[], booked, fun _ other same => ?_, fun _ => rfl⟩
          obtain rfl := only other same.1
          exact absurd same.2 (Nat.ne_of_lt more)
        · next done =>
          obtain ⟨before, within⟩ := booked.fetching fetch (List.mem_of_getElem? found)
          have ended : fetch.next = fetch.stop := Nat.le_antisymm before (Nat.not_lt.mp done)
          have left := remaining_none_iff ended within
          refine ⟨(remaining fetch).toList, booked.finishStep found, fun none => ?_, fun all => ?_⟩
          · intro other same
            obtain rfl := only other same.1
            exact left.mp (Option.toList_eq_nil_iff.mp none)
          · exact Option.toList_eq_nil_iff.mpr (left.mpr (all fetch ⟨found, ended⟩))
      · next missing =>
        refine ⟨[], booked, fun _ other same => ?_, fun _ => rfl⟩
        rw [missing] at same
        cases same.1
  | updateBandwidth targetPages =>
      exact ⟨[], ⟨booked.pending, booked.owners, Nat.lt_of_lt_of_le Nat.one_pos
        (Nat.le_max_left _ _), booked.awaited, booked.fetching, booked.exclusive, booked.found⟩,
        nothing⟩

private theorem booked_run (config : Config) (actions : List FetchAction)
    (booked : Booked stale state) :
    ∃ more, Booked (more ++ stale) (state.run config actions) ∧
      (more = [] ↔ Library.EachStep (FetchThreads.step config) Completes state actions) := by
  induction actions generalizing state stale with
  | nil => exact ⟨[], booked, fun _ => trivial, fun _ => rfl⟩
  | cons action rest ih =>
      obtain ⟨first, after, complete⟩ := booked.step config action
      obtain ⟨later, final, each⟩ := ih after
      refine ⟨later ++ first, by rw [List.append_assoc]; exact final, ?_⟩
      rw [List.append_eq_nil_iff, each, complete]
      exact and_comm

/-- In every state that threads reach, `GetFetchSize` answers for an index inside the file with a
range of pages that are neither cached nor pending and that the backend has; the range is empty
only if the index is cached, pending or past the backend's end. The pending ranges, with those that
`StartFetch` has just registered, are apart from each other and from the failed pages. -/
theorem run_fetchSize (config : Config) (state : FetchThreads) (initial : Initial state)
    (actions : List FetchAction) :
    let world := (state.run config actions).world
    let manager := world.pageManager
    let backendSize := world.pageBackend.backendSize
    (∀ index, index * config.pageSize < manager.fileSize →
      ∃ count, getFetchSize config index world = .ok count world ∧
        (∀ place, index ≤ place → place < index + count →
          manager.pages.find? place = none ∧
            ∀ range ∈ manager.pendingPages, ¬ HasIndex range place) ∧
        (count ≠ 0 → backendSize ≠ 0 ∧ index + count - 1 ≤ (backendSize - 1) / config.pageSize) ∧
        (count = 0 → Cached world index ∨ (∃ range ∈ manager.pendingPages, HasIndex range index) ∨
          backendSize ≤ index * config.pageSize)) ∧
      manager.pendingPages.Pairwise Apart ∧
      ∀ index ∈ manager.failedPages, ∀ range ∈ manager.pendingPages, ¬ HasIndex range index := by
  intro world manager backendSize
  obtain ⟨_, booked, _⟩ := booked_run config actions (booked_initial initial)
  refine ⟨fun index inside => ?_, booked.pending.apart, booked.pending.failed⟩
  obtain ⟨free, within⟩ := fetchSizeAt_spec config backendSize manager index
  refine ⟨fetchSizeAt config backendSize manager index, ?_, fun place from' before => ?_, within,
    fun zero => ?_⟩
  · have outcome := @getFetchSize_inside config world _ inside
    unfold Outcome at outcome
    split at outcome
    · next result =>
      obtain ⟨rfl, rfl⟩ := outcome
      exact result
    · exact outcome.elim
  · obtain ⟨missing, notPending⟩ := free place from' before
    refine ⟨missing, fun range member has => ?_⟩
    rw [isFetchPending_iff.mpr ⟨range, member, has⟩] at notPending
    cases notPending
  · cases missing : manager.pages.find? index with
    | some page => exact .inl (Option.isSome_iff_exists.mpr ⟨page, missing⟩)
    | none =>
        right
        cases pending : isFetchPending manager index with
        | true => exact .inl (isFetchPending_iff.mp pending)
        | false => exact .inr (fetchSizeAt_zero missing pending booked.fetchSize zero)

/-- The books are right: each pending range is what an unfinished fetch has yet to hand over, and a
reader waits only for such a range. -/
structure InOrder (state : FetchThreads) : Prop where
  owned : ∀ range ∈ state.world.pageManager.pendingPages, range ∈ state.world.fetchThreads ∨
    ∃ fetch ∈ state.running, remaining fetch = some range
  awaited : ∀ index, Reader.waiting index ∈ state.readers → ¬ Cached state.world index →
    index ∉ state.world.pageManager.failedPages →
      ∃ range ∈ state.world.pageManager.pendingPages, HasIndex range index
  found : ErrorCheck.notPending ∉ state.world.trace.errors

private theorem Booked.inOrder_iff (booked : Booked stale state) : InOrder state ↔ stale = [] := by
  constructor
  · intro inOrder
    rw [List.eq_nil_iff_forall_not_mem]
    intro range member
    have pending := booked.owners.mem_iff.mpr (List.mem_append_right _ member)
    have claimed : range ∈ state.claims := by
      rcases inOrder.owned range pending with waiting | ⟨fetch, running, left⟩
      · exact List.mem_append_left _ waiting
      · exact List.mem_append_right _ (List.mem_filterMap.mpr ⟨fetch, running, left⟩)
    have apart := (booked.owners.pairwise_iff fun apart => apart.symm).mp booked.pending.apart
    have positive := booked.pending.positive range pending
    exact (List.pairwise_append.mp apart).2.2 range claimed range member range.1
      ⟨⟨Nat.le_refl _, Nat.lt_add_of_pos_right positive⟩,
        ⟨Nat.le_refl _, Nat.lt_add_of_pos_right positive⟩⟩
  · rintro rfl
    refine ⟨fun range pending => ?_, fun index waiting missing notFailed => ?_, booked.found⟩
    · have claimed := booked.owners.mem_iff.mp pending
      rw [List.append_nil] at claimed
      rcases List.mem_append.mp claimed with waiting | running
      · exact .inl waiting
      · exact .inr (List.mem_filterMap.mp running)
    · rcases booked.awaited index waiting with cached | failed | pending
      · exact absurd cached missing
      · exact absurd failed notFailed
      · exact pending

/-- The books are right at the end of a run exactly if every fetch that returned in it had handed
over its whole range. -/
theorem run_inOrder_iff (config : Config) (state : FetchThreads) (initial : Initial state)
    (actions : List FetchAction) :
    InOrder (state.run config actions) ↔
      Library.EachStep (FetchThreads.step config) Completes state actions := by
  obtain ⟨stale, booked, each⟩ := booked_run config actions (booked_initial initial)
  rw [List.append_nil] at booked
  rw [booked.inOrder_iff, each]

/-- A file of thirty bytes on the backend, of which nothing is cached. -/
def unread : FetchThreads where
  world :=
    { remote := some (Scenario.bytes 30)
      pageBackend := ⟨30, true⟩
      pageManager := ⟨30, 1, .empty, [], [], []⟩
      cacheManager := Scenario.cache 1000
      uploadMaxBytes := 0
      fetchThreads := []
      trace := ⟨0, [], []⟩ }
  readers := []
  running := []
  writing := false

private theorem initial_unread : Initial unread := ⟨by decide, rfl, rfl, rfl, rfl, rfl, rfl⟩

/-- The second page is read twice, so that a fetch of the third one is registered. -/
def readAhead : List FetchAction :=
  [.lockShared, .getPageRead 0 1, .beginFetch 0, .handPage 0 ⟨Scenario.bytes 10, false⟩,
    .finishFetch 0, .wake 0, .getPageRead 0 1, .unlockShared 0]

theorem run_fetchSize_readAhead :
    ((unread.run (Scenario.config .random) readAhead).world.pageManager.pendingPages.Pairwise
      Apart) :=
  (run_fetchSize (Scenario.config .random) unread initial_unread readAhead).2.1

theorem run_inOrder_readAhead :
    InOrder (unread.run (Scenario.config .random) (readAhead ++ [.beginFetch 0,
      .handPage 0 ⟨Scenario.bytes 10, false⟩, .finishFetch 0])) :=
  (run_inOrder_iff (Scenario.config .random) unread initial_unread _).mpr (by decide)

/-- The file loses its third page before the fetch of it runs. The fetch returns, its range stays
pending, and a reader waits for it when the file has a third page again. -/
theorem stale_range_awaited :
    let final := unread.run (Scenario.config .random) (readAhead ++
      [.lock, .change .empty 20 20, .unlock, .beginFetch 0, .finishFetch 0,
        .lock, .change .empty 30 30, .unlock, .lockShared, .getPageRead 0 2])
    (final.world.pageManager.pendingPages = [(2, 1)] ∧ final.world.fetchThreads = [] ∧
      final.running = [] ∧ final.readers = [.waiting 2]) ∧ ¬ InOrder final := by
  intro final
  have books : final.world.pageManager.pendingPages = [(2, 1)] ∧ final.world.fetchThreads = [] ∧
      final.running = [] ∧ final.readers = [.waiting 2] := by decide
  refine ⟨books, fun inOrder => ?_⟩
  obtain ⟨pending, waiting, running, _⟩ := books
  rcases inOrder.owned (2, 1) (by rw [pending]; exact List.mem_singleton_self _) with
    member | ⟨fetch, member, _⟩
  · rw [waiting] at member
    cases member
  · rw [running] at member
    cases member

end FetchThreads

end Andromeda.FileData
