import Andromeda.Cleanup.Lifetimes
import Andromeda.Library.Run

/-! Who may still refer to a page manager at each stage of its deletion. The scope lock and the
fetch lock keep it for the threads that hold them, but not for a fetch thread on its way in or
out nor for a cleanup thread without the scope lock. -/

set_option autoImplicit false

namespace Andromeda.Cleanup

private theorem Round.exposes_of_refersTo {round : Round} {file : Nat}
    (refers : round.refersTo file) :
    round.exposes file = true ∨ ⟨file, true⟩ ∈ round.entries := by
  have listed (member : file ∈ round.entries.map Entry.file) :
      round.exposes file = true ∨ ⟨file, true⟩ ∈ round.entries := by
    obtain ⟨⟨held, inScope⟩, entered, rfl⟩ := List.mem_map.mp member
    cases inScope with
    | true => exact .inr entered
    | false =>
        refine .inl ?_
        simp only [exposes, entered, decide_true, Bool.true_or]
  cases refers with
  | inr member => exact listed member
  | inl holds =>
      cases round with
      | erased held left =>
          simp only [holding, Option.some.injEq] at holds
          refine .inl ?_
          simp only [exposes, holds, decide_true, Bool.or_true]
      | working entry left | failed entry left =>
          simp only [holding, Option.some.injEq] at holds
          exact listed (by rw [← holds]; exact List.mem_cons_self)
      | outside | next left | dropping left => cases holds

namespace Lifetimes

variable {τ : Type} {state : Lifetimes τ} {cleaner : Cleaner} {file : Nat}

/-- `~PageManager` returns only while no fetch thread of the file is about to lock `mFetchMutex`
or about to unlock the file, and no cleanup thread refers to the page manager or has the lock of
the file without the scope lock. -/
def Clear (state : Lifetimes τ) : LifetimeAction τ → Prop
  | .delete file => state.deletion file = .removing → state.queued file = 0 →
      ⟨file, .started⟩ ∉ state.fetches ∧ ⟨file, .locked⟩ ∉ state.fetches ∧
        ⟨file, .unlocking⟩ ∉ state.fetches ∧ (state.rounds .evict).exposes file = false ∧
          (state.rounds .flush).exposes file = false
  | _ => True

instance (state : Lifetimes τ) : (action : LifetimeAction τ) → Decidable (state.Clear action)
  | .delete _ => inferInstanceAs (Decidable (_ → _ → _ ∧ _ ∧ _ ∧ _ ∧ _))
  | .reader _ _ | .fetch _ | .fetchPage _ | .cleaner _ _ => inferInstanceAs (Decidable True)

/-- Who has left a file at each stage of its deletion. -/
structure Guarded (state : Lifetimes τ) : Prop where
  entered {thread : τ} {file : Nat} : (state.readers thread).file = some file →
    state.deletion file = .alive
  inScope {cleaner : Cleaner} {file : Nat} : ⟨file, true⟩ ∈ (state.rounds cleaner).entries →
    (state.deletion file).hasScopeLock = false
  fetching {file : Nat} : ⟨file, .fetching⟩ ∈ state.fetches →
    (state.deletion file).hasFetchLock = false
  drained {file : Nat} : (state.deletion file).hasReturned = true → state.queued file = 0
  ended {file : Nat} {place : FetchPlace} : (state.deletion file).hasReturned = true →
    ⟨file, place⟩ ∈ state.fetches → place = .ended
  released {file : Nat} {cleaner : Cleaner} : (state.deletion file).hasReturned = true →
    ¬ (state.rounds cleaner).refersTo file

private theorem Guarded.setQueued (guarded : state.Guarded) {count : Nat}
    (drained : (state.deletion file).hasReturned = true → count = 0) :
    (state.setQueued file count).Guarded where
  entered inside := guarded.entered inside
  inScope member := guarded.inScope member
  fetching member := guarded.fetching member
  drained {other} returned := by
    cases decEq other file with
    | isTrue same =>
        subst same
        exact (Function.update_self _ _ _).trans (drained returned)
    | isFalse different =>
        exact (Function.update_of_ne different _ _).trans (guarded.drained returned)
  ended returned member := guarded.ended returned member
  released returned := guarded.released returned

private theorem Guarded.setFetch (guarded : state.Guarded) {index : Nat} {old place : FetchPlace}
    (found : state.fetches[index]? = some ⟨file, old⟩) (running : old ≠ .ended)
    (unlocked : place = .fetching → state.deletion file ≠ .removing) :
    (state.setFetch index ⟨file, place⟩).Guarded where
  entered inside := guarded.entered inside
  inScope member := guarded.inScope member
  fetching {other} member := by
    cases List.mem_or_eq_of_mem_set member with
    | inl before => exact guarded.fetching before
    | inr new =>
        simp only [Fetch.mk.injEq] at new
        obtain ⟨rfl, fetching⟩ := new
        have stays := unlocked fetching.symm
        have there : (state.deletion other).hasReturned ≠ true := fun returned =>
          running (guarded.ended returned (List.mem_of_getElem? found))
        show (state.deletion other).hasFetchLock = false
        cases stage : state.deletion other with
        | removing => exact absurd stage stays
        | returned | destroyed =>
            rw [stage] at there
            exact absurd rfl there
        | alive | closed | holdsScope => rfl
  drained returned := guarded.drained returned
  ended {other otherPlace} returned member := by
    cases List.mem_or_eq_of_mem_set member with
    | inl before => exact guarded.ended returned before
    | inr new =>
        simp only [Fetch.mk.injEq] at new
        obtain ⟨rfl, rfl⟩ := new
        exact absurd (guarded.ended returned (List.mem_of_getElem? found)) running
  released returned := guarded.released returned

private theorem Guarded.goTo (guarded : state.Guarded) {round : Round}
    (inScope : ∀ file, ⟨file, true⟩ ∈ round.entries → (state.deletion file).hasScopeLock = false)
    (released : ∀ file, (state.deletion file).hasReturned = true → ¬ round.refersTo file) :
    (state.goTo cleaner round).Guarded where
  entered inside := guarded.entered inside
  inScope {other held} member := by
    simp only [Lifetimes.goTo] at member
    cases decEq other cleaner with
    | isTrue same =>
        rw [same, Function.update_self] at member
        exact inScope held member
    | isFalse different =>
        rw [Function.update_of_ne different] at member
        exact guarded.inScope member
  fetching member := guarded.fetching member
  drained returned := guarded.drained returned
  ended returned member := guarded.ended returned member
  released {held other} returned := by
    simp only [Lifetimes.goTo]
    cases decEq other cleaner with
    | isTrue same =>
        rw [same, Function.update_self]
        exact released held returned
    | isFalse different =>
        rw [Function.update_of_ne different]
        exact guarded.released returned

private theorem Guarded.goOn (guarded : state.Guarded) {old round : Round}
    (placed : state.rounds cleaner = old) (fewer : ∀ entry ∈ round.entries, entry ∈ old.entries)
    (held : ∀ file, round.holding = some file → old.refersTo file) :
    (state.goTo cleaner round).Guarded := by
  refine guarded.goTo (fun file member => ?_) fun file returned refers => ?_
  · have before := fewer _ member
    rw [← placed] at before
    exact guarded.inScope before
  · have before : old.refersTo file := by
      cases refers with
      | inl holds => exact held file holds
      | inr listed =>
          obtain ⟨entry, member, same⟩ := List.mem_map.mp listed
          exact .inr (List.mem_map.mpr ⟨entry, fewer entry member, same⟩)
    rw [← placed] at before
    exact guarded.released returned before

private theorem Guarded.fetchStep (guarded : state.Guarded) (index : Nat) :
    (state.fetchStep index).Guarded := by
  unfold Lifetimes.fetchStep
  split
  · exact guarded
  · next found =>
    split
    · exact guarded
    · exact guarded.setFetch found nofun nofun
  · next found =>
    split
    · exact guarded
    · next unlocked => exact guarded.setFetch found nofun fun _ => unlocked
  · next found => exact guarded.setFetch found nofun nofun
  · next found => exact guarded.setFetch found nofun nofun
  · exact guarded

private theorem Guarded.fetchPage (guarded : state.Guarded) (index : Nat) :
    (state.fetchPage index).Guarded := by
  unfold Lifetimes.fetchPage
  split
  · next found =>
    refine guarded.setQueued fun returned => ?_
    have ended := guarded.ended returned (List.mem_of_getElem? found)
    cases ended
  · exact guarded

private theorem Guarded.hasScopeLock_of_tryLockScope (guarded : state.Guarded)
    (queued : state.queued file ≠ 0) (locked : state.tryLockScope file = true) :
    (state.deletion file).hasScopeLock = false := by
  simp only [tryLockScope, decide_eq_true_eq] at locked
  have there : (state.deletion file).hasReturned ≠ true := fun returned =>
    queued (guarded.drained returned)
  cases stage : state.deletion file with
  | holdsScope => exact absurd stage locked.1
  | removing => exact absurd stage locked.2
  | returned | destroyed =>
      rw [stage] at there
      exact absurd rfl there
  | alive | closed => rfl

private theorem Guarded.visitPage (guarded : state.Guarded) :
    (state.visitPage cleaner file).Guarded := by
  unfold Lifetimes.visitPage
  split
  · next entries count placed queued =>
    have present : state.queued file ≠ 0 := by
      rw [queued]
      exact Nat.succ_ne_zero count
    have there : (state.deletion file).hasReturned ≠ true := fun returned =>
      present (guarded.drained returned)
    split
    · split
      · exact guarded
      · exact guarded.setQueued fun returned => absurd returned there
    · have entered :
          (state.goTo cleaner (.next (entries ++ [⟨file, state.tryLockScope file⟩]))).Guarded := by
        refine guarded.goTo (fun other member => ?_) fun other returned refers => ?_
        · cases List.mem_append.mp member with
          | inl before =>
              have entered : ⟨other, true⟩ ∈ (state.rounds cleaner).entries := by
                rw [placed]
                exact before
              exact guarded.inScope entered
          | inr new =>
              simp only [List.mem_singleton, Entry.mk.injEq] at new
              obtain ⟨rfl, locked⟩ := new
              exact guarded.hasScopeLock_of_tryLockScope present locked.symm
        · cases refers with
          | inl holds => cases holds
          | inr listed =>
              obtain ⟨entry, member, rfl⟩ := List.mem_map.mp listed
              cases List.mem_append.mp member with
              | inl before =>
                  have refersBefore : (state.rounds cleaner).refersTo entry.file := by
                    rw [placed]
                    exact .inr (List.mem_map_of_mem before)
                  exact guarded.released returned refersBefore
              | inr new =>
                  rw [List.mem_singleton.mp new] at returned
                  exact absurd returned there
      dsimp only
      split
      · exact entered
      · exact entered.setQueued fun returned => absurd returned there
  · exact guarded

private theorem Guarded.choose (guarded : state.Guarded) (visited : List Nat) :
    (state.choose cleaner visited).Guarded := by
  have visits (start : Lifetimes τ) (guarded : start.Guarded) :
      (visited.foldl (fun state file => state.visitPage cleaner file) start).Guarded := by
    induction visited generalizing start with
    | nil => exact guarded
    | cons file rest ih => exact ih _ guarded.visitPage
  refine visits _ (guarded.goTo (fun _ member => ?_) fun _ _ refers => ?_)
  · cases member
  · cases refers with
    | inl holds => cases holds
    | inr member => cases member

private theorem Guarded.setDeletion (guarded : state.Guarded) {stage : Deletion}
    (empty : ∀ thread, (state.readers thread).file ≠ some file)
    (inScope : stage.hasScopeLock = true →
      ∀ cleaner, ⟨file, true⟩ ∉ (state.rounds cleaner).entries)
    (fetching : stage.hasFetchLock = true → ⟨file, .fetching⟩ ∉ state.fetches)
    (drained : stage.hasReturned = true → state.queued file = 0)
    (ended : stage.hasReturned = true → ∀ place, ⟨file, place⟩ ∈ state.fetches → place = .ended)
    (released : stage.hasReturned = true → ∀ cleaner, ¬ (state.rounds cleaner).refersTo file) :
    (state.setDeletion file stage).Guarded where
  entered {thread other} inside := by
    cases decEq other file with
    | isTrue same =>
        subst same
        exact absurd inside (empty thread)
    | isFalse different =>
        exact (Function.update_of_ne different _ _).trans (guarded.entered inside)
  inScope {cleaner other} member := by
    simp only [Lifetimes.setDeletion]
    cases decEq other file with
    | isTrue same =>
        subst same
        rw [Function.update_self]
        exact Bool.eq_false_iff.mpr fun locked => inScope locked cleaner member
    | isFalse different =>
        rw [Function.update_of_ne different]
        exact guarded.inScope member
  fetching {other} member := by
    simp only [Lifetimes.setDeletion]
    cases decEq other file with
    | isTrue same =>
        subst same
        rw [Function.update_self]
        exact Bool.eq_false_iff.mpr fun locked => fetching locked member
    | isFalse different =>
        rw [Function.update_of_ne different]
        exact guarded.fetching member
  drained {other} returned := by
    simp only [Lifetimes.setDeletion] at returned
    cases decEq other file with
    | isTrue same =>
        subst same
        rw [Function.update_self] at returned
        exact drained returned
    | isFalse different =>
        rw [Function.update_of_ne different] at returned
        exact guarded.drained returned
  ended {other place} returned member := by
    simp only [Lifetimes.setDeletion] at returned
    cases decEq other file with
    | isTrue same =>
        subst same
        rw [Function.update_self] at returned
        exact ended returned place member
    | isFalse different =>
        rw [Function.update_of_ne different] at returned
        exact guarded.ended returned member
  released {other cleaner} returned := by
    simp only [Lifetimes.setDeletion] at returned
    cases decEq other file with
    | isTrue same =>
        subst same
        rw [Function.update_self] at returned
        exact released returned cleaner
    | isFalse different =>
        rw [Function.update_of_ne different] at returned
        exact guarded.released returned

private theorem Guarded.empty (guarded : state.Guarded) (begun : state.deletion file ≠ .alive)
    (thread : τ) : (state.readers thread).file ≠ some file := fun inside =>
  begun (guarded.entered inside)

private theorem Guarded.not_inScope (guarded : state.Guarded)
    (locked : (state.deletion file).hasScopeLock = true) (cleaner : Cleaner) :
    ⟨file, true⟩ ∉ (state.rounds cleaner).entries := by
  intro entered
  have free := guarded.inScope entered
  rw [locked] at free
  cases free

private theorem Guarded.not_fetching (guarded : state.Guarded)
    (locked : (state.deletion file).hasFetchLock = true) : ⟨file, .fetching⟩ ∉ state.fetches := by
  intro member
  have free := guarded.fetching member
  rw [locked] at free
  cases free

/-- A fetch thread of a file whose destructor holds `mFetchMutex` is on its way in or out, or
has ended. -/
private theorem Guarded.place_of_removing (guarded : state.Guarded)
    (removing : state.deletion file = .removing) {place : FetchPlace}
    (started : ⟨file, .started⟩ ∉ state.fetches) (locked : ⟨file, .locked⟩ ∉ state.fetches)
    (unlocking : ⟨file, .unlocking⟩ ∉ state.fetches) (member : ⟨file, place⟩ ∈ state.fetches) :
    place = .ended := by
  cases place with
  | started => exact absurd member started
  | locked => exact absurd member locked
  | fetching => exact absurd member (guarded.not_fetching (by rw [removing]; rfl))
  | unlocking => exact absurd member unlocking
  | ended => rfl

private theorem Guarded.not_refersTo_of_removing (guarded : state.Guarded)
    (removing : state.deletion file = .removing)
    (covered : (state.rounds cleaner).exposes file = false) :
    ¬ (state.rounds cleaner).refersTo file := by
  intro refers
  cases Round.exposes_of_refersTo refers with
  | inl exposed =>
      rw [exposed] at covered
      cases covered
  | inr entered => exact guarded.not_inScope (by rw [removing]; rfl) cleaner entered

private theorem Guarded.put [DecidableEq τ] (guarded : state.Guarded) {thread : τ} {reader : Reader}
    (entered : ∀ file, reader.file = some file → state.deletion file = .alive) :
    (state.put thread reader).Guarded where
  entered {other file} inside := by
    simp only [Lifetimes.put] at inside
    cases decEq other thread with
    | isTrue same =>
        rw [same, Function.update_self] at inside
        exact entered file inside
    | isFalse different =>
        rw [Function.update_of_ne different] at inside
        exact guarded.entered inside
  inScope member := guarded.inScope member
  fetching member := guarded.fetching member
  drained returned := guarded.drained returned
  ended returned member := guarded.ended returned member
  released returned := guarded.released returned

private theorem Guarded.startFetch (guarded : state.Guarded)
    (alive : state.deletion file = .alive) :
    ({ state with fetches := state.fetches ++ [⟨file, .started⟩] } : Lifetimes τ).Guarded where
  entered inside := guarded.entered inside
  inScope member := guarded.inScope member
  fetching member := by
    cases List.mem_append.mp member with
    | inl before => exact guarded.fetching before
    | inr new => cases List.mem_singleton.mp new
  drained returned := guarded.drained returned
  ended {other place} returned member := by
    cases List.mem_append.mp member with
    | inl before => exact guarded.ended returned before
    | inr new =>
        cases List.mem_singleton.mp new
        rw [show ({ state with fetches := _ } : Lifetimes τ).deletion file = .alive from alive]
          at returned
        cases returned
  released returned := guarded.released returned

private theorem Guarded.readerStep [DecidableEq τ] (guarded : state.Guarded) (thread : τ)
    (act : ReaderStep) :
    (state.readerStep thread act).Guarded := by
  unfold Lifetimes.readerStep
  split
  · split
    · next alive =>
      refine guarded.put fun file inside => ?_
      rw [← Option.some.inj inside]
      exact alive
    · exact guarded
  · next placed =>
    split
    · exact guarded
    · exact guarded.put fun _ inside => guarded.entered ((congrArg Reader.file placed).trans inside)
  · next placed =>
    have inside : (state.readers thread).file = some _ := congrArg Reader.file placed
    exact guarded.startFetch (guarded.entered inside)
  · next placed =>
    exact guarded.put fun _ inside => guarded.entered ((congrArg Reader.file placed).trans inside)
  · exact guarded.put nofun
  · exact guarded

section

variable [Fintype τ]

private theorem Guarded.delete (guarded : state.Guarded) (clear : state.Clear (.delete file)) :
    (state.delete file).Guarded := by
  unfold Lifetimes.delete
  cases stage : state.deletion file with
  | alive =>
      dsimp only
      split
      · exact guarded
      · next empty =>
        simp only [occupied, decide_eq_true_eq, not_exists] at empty
        exact guarded.setDeletion empty nofun nofun nofun nofun nofun
  | closed =>
      dsimp only
      split
      · exact guarded
      · next free =>
        simp only [scopeLocked, decide_eq_true_eq, not_or] at free
        have begun : state.deletion file ≠ .alive := by simp [stage]
        refine guarded.setDeletion (guarded.empty begun) (fun _ cleaner => ?_) nofun nofun nofun
          nofun
        cases cleaner with
        | evict => exact free.1
        | flush => exact free.2
  | holdsScope =>
      dsimp only
      split
      · exact guarded
      · next free =>
        simp only [fetchLocked, decide_eq_true_eq] at free
        have begun : state.deletion file ≠ .alive := by simp [stage]
        have covered := guarded.not_inScope (by rw [stage]; rfl)
        exact guarded.setDeletion (guarded.empty begun) (fun _ => covered) (fun _ => free) nofun
          nofun nofun
  | removing =>
      dsimp only
      split
      · next count queued =>
        refine guarded.setQueued fun returned => ?_
        rw [stage] at returned
        cases returned
      · next queued =>
        obtain ⟨started, locked, unlocking, evict, flush⟩ := clear stage queued
        have begun : state.deletion file ≠ .alive := by simp [stage]
        have covered := guarded.not_inScope (by rw [stage]; rfl)
        have waited := guarded.not_fetching (by rw [stage]; rfl)
        refine guarded.setDeletion (guarded.empty begun) (fun _ => covered) (fun _ => waited)
          (fun _ => queued) (fun _ _ => guarded.place_of_removing stage started locked unlocking)
          fun _ cleaner => ?_
        cases cleaner with
        | evict => exact guarded.not_refersTo_of_removing stage evict
        | flush => exact guarded.not_refersTo_of_removing stage flush
  | returned =>
      have begun : state.deletion file ≠ .alive := by simp [stage]
      have returned : (state.deletion file).hasReturned = true := by
        rw [stage]
        rfl
      have covered := guarded.not_inScope (by rw [stage]; rfl)
      have waited := guarded.not_fetching (by rw [stage]; rfl)
      exact guarded.setDeletion (guarded.empty begun) (fun _ => covered) (fun _ => waited)
        (fun _ => guarded.drained returned) (fun _ _ => guarded.ended returned)
        fun _ _ => guarded.released returned
  | destroyed => exact guarded

private theorem Guarded.roundNext (guarded : state.Guarded) :
    (state.roundNext cleaner).Guarded := by
  unfold Lifetimes.roundNext
  cases placed : state.rounds cleaner with
  | outside => exact guarded
  | next left =>
      cases left with
      | nil => exact guarded.goOn placed nofun nofun
      | cons entry left =>
          dsimp only
          split
          · refine guarded.goOn placed (fun _ member => member) fun file holds => .inr ?_
            rw [← Option.some.inj holds]
            exact List.mem_map_of_mem List.mem_cons_self
          · exact guarded
  | working entry left =>
      exact guarded.goOn placed (fun _ member => List.mem_cons_of_mem _ member)
        fun file holds => .inl holds
  | erased file left => exact guarded.goOn placed (fun _ member => member) nofun
  | failed entry left => exact guarded.goOn placed (fun _ member => member) nofun
  | dropping left => exact guarded.goOn placed nofun nofun

private theorem Guarded.roundStep (guarded : state.Guarded) (act : RoundStep) :
    (state.roundStep cleaner act).Guarded := by
  cases act with
  | choose visited =>
      simp only [Lifetimes.roundStep]
      split
      · exact guarded.choose visited
      · exact guarded
  | next => exact guarded.roundNext
  | clean =>
      simp only [Lifetimes.roundStep]
      split
      · refine guarded.setQueued fun returned => ?_
        rw [guarded.drained returned]
      · exact guarded
  | fail =>
      simp only [Lifetimes.roundStep]
      split
      · next placed =>
        exact guarded.goOn placed (fun _ member => member) fun _ holds => .inl holds
      · exact guarded

variable [DecidableEq τ]

private theorem Guarded.step (guarded : state.Guarded) {action : LifetimeAction τ}
    (clear : state.Clear action) : (state.step action).Guarded := by
  cases action with
  | reader thread act => exact guarded.readerStep thread act
  | fetch index => exact guarded.fetchStep index
  | fetchPage index => exact guarded.fetchPage index
  | cleaner cleaner act => exact guarded.roundStep act
  | delete file => exact guarded.delete clear

end

end Lifetimes

end Andromeda.Cleanup
