import Andromeda.Fuse.Adapter
import Andromeda.Library.Run

/-! The FUSE thread of an adapter is waited for as long as it has to be, and nothing of it is left
when its adapter is gone, whatever fails and in whatever order the threads run. -/

set_option autoImplicit false

namespace Andromeda.Fuse

open Library

namespace FusePlace

/-- How far the FUSE thread is from its end. -/
def rank : FusePlace → Nat
  | .notStarted => 11
  | .arguments => 10
  | .context => 9
  | .mount => 8
  | .register => 7
  | .loop => 6
  | .unregister _ => 5
  | .unmount _ => 4
  | .destroy _ => 3
  | .caught => 2
  | .signal => 1
  | .finished => 0

/-- Where `mFuseMount` is set. -/
def registers : FusePlace → Bool
  | .loop | .unregister _ => true
  | _ => false

/-- Where there is a `FuseMount`. -/
def mounts : FusePlace → Bool
  | .register | .loop | .unregister _ | .unmount _ => true
  | _ => false

/-- Where there is a `FuseContext`. -/
def hasContext : FusePlace → Bool
  | .mount | .register | .loop | .unregister _ | .unmount _ | .destroy _ => true
  | _ => false

/-- The steps of the FUSE thread before its last one. -/
inductive Next : FusePlace → FusePlace → Prop where
  | argumentsFailed : Next .arguments .caught
  | arguments : Next .arguments .context
  | contextFailed : Next .context .caught
  | context : Next .context .mount
  | mountFailed : Next .mount (.destroy true)
  | mount : Next .mount .register
  | register : Next .register .loop
  | loop (thrown : Bool) : Next .loop (.unregister thrown)
  | unregister (thrown : Bool) : Next (.unregister thrown) (.unmount thrown)
  | unmount (thrown : Bool) : Next (.unmount thrown) (.destroy thrown)
  | destroyThrown : Next (.destroy true) .caught
  | destroy : Next (.destroy false) .signal
  | caught : Next .caught .signal

variable {place next : FusePlace}

private theorem Next.lower (moved : place.Next next) : next.rank < place.rank := by
  cases moved <;> simp [rank]

private theorem Next.started (moved : place.Next next) : place ≠ .notStarted := by
  cases moved <;> exact nofun

private theorem Next.next_started (moved : place.Next next) : next ≠ .notStarted := by
  cases moved <;> exact nofun

private theorem Next.present (moved : place.Next next) : place ≠ .finished := by
  cases moved <;> exact nofun

private theorem Next.next_present (moved : place.Next next) : next ≠ .finished := by
  cases moved <;> exact nofun

private theorem Next.eq_loop {thrown : Bool} (moved : place.Next (.unregister thrown)) :
    place = .loop := by
  cases moved
  rfl

private theorem registers_of_not_mounts (unmounted : place.mounts = false) :
    place.registers = false := by
  cases place <;> first | rfl | cases unmounted

private theorem rank_le_of_not_registers (unregistered : place.registers = false)
    (late : place.rank ≤ 6) :
    place.rank ≤ 4 := by
  cases place with
  | loop | unregister thrown => cases unregistered
  | notStarted | arguments | context | mount | register => exact absurd late (by decide)
  | unmount thrown | destroy thrown | caught | signal | finished => simp [rank]

end FusePlace

namespace OwnerPlace

/-- How far the owner is from its end. -/
def rank : OwnerPlace → Nat
  | .constructed => 11
  | .checking => 10
  | .waiting => 9
  | .checkError => 8
  | .joinError => 7
  | .returned => 6
  | .thrown => 6
  | .destructor => 5
  | .trigger => 4
  | .systemUnmount => 3
  | .join => 2
  | .flush => 1
  | .gone => 0

/-- The steps of the owner that change nothing but its place, and when they are to be had. -/
inductive Next (adapter : FuseAdapter) : OwnerPlace → OwnerPlace → Prop where
  | initialized (known : adapter.initialized = true) : Next adapter .checking .checkError
  | wait (unknown : adapter.initialized = false) : Next adapter .checking .waiting
  | failed (error : adapter.initError = true) : Next adapter .checkError .joinError
  | works (error : adapter.initError = false) : Next adapter .checkError .returned
  | rethrow (finished : adapter.fuse = .finished) : Next adapter .joinError .thrown
  | returned : Next adapter .returned .destructor
  | thrown : Next adapter .thrown .destructor
  | registered (there : adapter.fuseMount = true) : Next adapter .destructor .trigger
  | unregistered (none : adapter.fuseMount = false) : Next adapter .destructor .join
  | joined (finished : adapter.fuse = .finished) : Next adapter .join .flush
  | flushed : Next adapter .flush .gone

private theorem Next.lower {adapter : FuseAdapter} {place next : OwnerPlace}
    (moved : place.Next adapter next) : next.rank < place.rank := by
  cases moved <;> simp [rank]

end OwnerPlace

namespace FuseAdapter

variable {adapter : FuseAdapter}

/-- What holds at each place of the owner. -/
def Knows (adapter : FuseAdapter) : OwnerPlace → Prop
  | .constructed => adapter.fuse = .notStarted
  | .checking => adapter.fuse ≠ .notStarted
  | .waiting => adapter.fuse ≠ .notStarted ∧ adapter.initialized = false
  | .checkError | .returned | .destructor | .trigger => adapter.initialized = true
  | .joinError => adapter.initialized = true ∧ adapter.fuse.rank ≤ 1
  | .systemUnmount => adapter.initialized = true ∧ (adapter.exit = true ∨ adapter.fuse.rank ≤ 4)
  | .join => adapter.initialized = true ∧
    (adapter.exit = true ∧ (adapter.unmounted = true ∨ adapter.unmountFailed = true) ∨
      adapter.fuse.rank ≤ 4)
  | .thrown | .flush | .gone => adapter.fuse = .finished

/-- What the places of the two threads say about the rest. -/
structure Consistent (adapter : FuseAdapter) : Prop where
  knows : adapter.Knows adapter.owner
  registered : adapter.fuseMount = adapter.fuse.registers
  mounted : adapter.mounted = adapter.fuse.mounts
  context : adapter.context = adapter.fuse.hasContext
  running : adapter.operations ≠ 0 → adapter.fuse = .loop
  reached : adapter.initialized = true → adapter.fuse.rank ≤ 6
  failed : adapter.initError = true → adapter.fuse.rank ≤ 1
  signalled : adapter.fuse = .finished → adapter.initialized = true

private theorem consistent_init : Consistent init :=
  ⟨rfl, rfl, rfl, rfl, fun running => absurd rfl running, nofun, nofun, nofun⟩

/-- What a step of the FUSE thread does: none, another place with what it has there, or the last
signal. -/
private theorem fuseStep_cases (kept : Consistent adapter) (fails : Bool) :
    adapter.fuseStep fails = adapter ∨
    (∃ next error, adapter.fuse.Next next ∧ (adapter.fuse = .loop → adapter.operations = 0) ∧
      (error = true → next.rank ≤ 1) ∧
      adapter.fuseStep fails = { adapter with
        fuse := next, initError := error, fuseMount := next.registers, mounted := next.mounts,
        context := next.hasContext }) ∨
    adapter.fuse = .signal ∧
      adapter.fuseStep fails = { adapter.signalInit with fuse := .finished } := by
  obtain ⟨owner, fuse, initialized, initError, fuseMount, context, mounted, operations, exit, woken,
    unmounted, unmountFailed, danglingExit, danglingUnmount⟩ := adapter
  obtain rfl : fuseMount = fuse.registers := kept.registered
  obtain rfl : mounted = fuse.mounts := kept.mounted
  obtain rfl : context = fuse.hasContext := kept.context
  have failed : initError = true → fuse.rank ≤ 1 := kept.failed
  have later {next : FusePlace} (moved : fuse.Next next) (error : initError = true) :
      next.rank ≤ 1 := Nat.le_trans (Nat.le_of_lt moved.lower) (failed error)
  cases fuse with
  | notStarted | finished => exact .inl rfl
  | arguments =>
      cases fails with
      | true => exact .inr (.inl ⟨_, _, .argumentsFailed, nofun, later .argumentsFailed, rfl⟩)
      | false => exact .inr (.inl ⟨_, _, .arguments, nofun, later .arguments, rfl⟩)
  | context =>
      cases fails with
      | true => exact .inr (.inl ⟨_, _, .contextFailed, nofun, later .contextFailed, rfl⟩)
      | false => exact .inr (.inl ⟨_, _, .context, nofun, later .context, rfl⟩)
  | mount =>
      cases fails with
      | true => exact .inr (.inl ⟨_, _, .mountFailed, nofun, later .mountFailed, rfl⟩)
      | false => exact .inr (.inl ⟨_, _, .mount, nofun, later .mount, rfl⟩)
  | register => exact .inr (.inl ⟨_, _, .register, nofun, later .register, rfl⟩)
  | loop =>
      by_cases ends : operations = 0 ∧ (fails = true ∨ unmounted = true ∨ woken = true)
      · exact .inr (.inl ⟨_, _, .loop fails, fun _ => ends.1, later (.loop fails), if_pos ends⟩)
      · exact .inl (if_neg ends)
  | unregister thrown =>
      exact .inr (.inl ⟨_, _, .unregister thrown, nofun, later (.unregister thrown), rfl⟩)
  | unmount thrown => exact .inr (.inl ⟨_, _, .unmount thrown, nofun, later (.unmount thrown), rfl⟩)
  | destroy thrown =>
      cases thrown with
      | true => exact .inr (.inl ⟨_, _, .destroyThrown, nofun, later .destroyThrown, rfl⟩)
      | false => exact .inr (.inl ⟨_, _, .destroy, nofun, later .destroy, rfl⟩)
  | caught => exact .inr (.inl ⟨_, _, .caught, nofun, fun _ => Nat.le_refl 1, rfl⟩)
  | signal => exact .inr (.inr ⟨rfl, rfl⟩)

/-- What a call of `TriggerUnmount` does in its two parts. -/
inductive Triggered (adapter : FuseAdapter) : FuseAdapter → Prop where
  | exit (place : adapter.owner = .trigger) (there : adapter.fuseMount = true) :
      Triggered adapter { adapter with owner := .systemUnmount, exit := true }
  | danglingExit (place : adapter.owner = .trigger) (gone : adapter.fuseMount = false) :
      Triggered adapter { adapter with owner := .systemUnmount, danglingExit := true }
  | unmounted (place : adapter.owner = .systemUnmount) (there : adapter.mounted = true) :
      Triggered adapter { adapter with owner := .join, unmounted := true }
  | unmountFailed (place : adapter.owner = .systemUnmount) (there : adapter.mounted = true) :
      Triggered adapter { adapter with owner := .join, unmountFailed := true }
  | danglingUnmount (place : adapter.owner = .systemUnmount) (gone : adapter.mounted = false) :
      Triggered adapter { adapter with owner := .join, danglingUnmount := true }

/-- What a step of the owner does: none, the start of the FUSE thread, another place, or a part of
`TriggerUnmount`. -/
private theorem ownerStep_cases (adapter : FuseAdapter) (fails : Bool) :
    adapter.ownerStep fails = adapter ∨
    adapter.owner = .constructed ∧
      adapter.ownerStep fails = { adapter with owner := .checking, fuse := .arguments } ∨
    (∃ next, adapter.owner.Next adapter next ∧
      adapter.ownerStep fails = { adapter with owner := next }) ∨
    adapter.Triggered (adapter.ownerStep fails) := by
  obtain ⟨owner, fuse, initialized, initError, fuseMount, context, mounted, operations, exit, woken,
    unmounted, unmountFailed, danglingExit, danglingUnmount⟩ := adapter
  cases owner with
  | constructed => exact .inr (.inl ⟨rfl, rfl⟩)
  | waiting | gone => exact .inl rfl
  | checking =>
      cases initialized with
      | true => exact .inr (.inr (.inl ⟨_, .initialized rfl, rfl⟩))
      | false => exact .inr (.inr (.inl ⟨_, .wait rfl, rfl⟩))
  | checkError =>
      cases initError with
      | true => exact .inr (.inr (.inl ⟨_, .failed rfl, rfl⟩))
      | false => exact .inr (.inr (.inl ⟨_, .works rfl, rfl⟩))
  | joinError =>
      by_cases finished : fuse = .finished
      · exact .inr (.inr (.inl ⟨_, .rethrow finished, if_pos finished⟩))
      · exact .inl (if_neg finished)
  | returned => exact .inr (.inr (.inl ⟨_, .returned, rfl⟩))
  | thrown => exact .inr (.inr (.inl ⟨_, .thrown, rfl⟩))
  | destructor =>
      cases fuseMount with
      | true => exact .inr (.inr (.inl ⟨_, .registered rfl, rfl⟩))
      | false => exact .inr (.inr (.inl ⟨_, .unregistered rfl, rfl⟩))
  | trigger =>
      cases fuseMount with
      | true => exact .inr (.inr (.inr (.exit rfl rfl)))
      | false => exact .inr (.inr (.inr (.danglingExit rfl rfl)))
  | systemUnmount =>
      cases mounted with
      | false => exact .inr (.inr (.inr (.danglingUnmount rfl rfl)))
      | true =>
          cases fails with
          | true => exact .inr (.inr (.inr (.unmountFailed rfl rfl)))
          | false => exact .inr (.inr (.inr (.unmounted rfl rfl)))
  | join =>
      by_cases finished : fuse = .finished
      · exact .inr (.inr (.inl ⟨_, .joined finished, if_pos finished⟩))
      · exact .inl (if_neg finished)
  | flush => exact .inr (.inr (.inl ⟨_, .flushed, rfl⟩))

/-- What an action does: none, a step of one of the threads, a wakeup without a notification, the
signal of the `init` operation, or a change of what the loop has to do. -/
private theorem step_cases (adapter : FuseAdapter) (action : Action) :
    adapter.step action = adapter ∨
    (∃ fails, action = .owner fails ∧ adapter.step action = adapter.ownerStep fails) ∨
    (∃ fails, action = .fuse fails ∧ adapter.step action = adapter.fuseStep fails) ∨
    action = .wake ∧ adapter.owner = .waiting ∧
      adapter.step action = { adapter with owner := .checking } ∨
    action = .init ∧ adapter.fuse = .loop ∧
      adapter.step action =
        { adapter.signalInit with operations := adapter.operations + 1 } ∨
    ∃ operations woken unmounted, (operations ≠ 0 → adapter.operations ≠ 0 ∨ adapter.fuse = .loop) ∧
      (adapter.unmounted = true → unmounted = true) ∧
      adapter.step action =
        { adapter with operations := operations, woken := woken, unmounted := unmounted } := by
  cases action with
  | owner fails => exact .inr (.inl ⟨fails, rfl, rfl⟩)
  | fuse fails => exact .inr (.inr (.inl ⟨fails, rfl, rfl⟩))
  | wake =>
      by_cases waiting : adapter.owner = .waiting
      · exact .inr (.inr (.inr (.inl ⟨rfl, waiting, if_pos waiting⟩)))
      · exact .inl (if_neg waiting)
  | init =>
      by_cases loop : adapter.fuse = .loop
      · exact .inr (.inr (.inr (.inr (.inl ⟨rfl, loop, if_pos loop⟩))))
      · exact .inl (if_neg loop)
  | beginOperation =>
      by_cases loop : adapter.fuse = .loop
      · exact .inr (.inr (.inr (.inr (.inr ⟨_, _, _, fun _ => .inr loop, id, if_pos loop⟩))))
      · exact .inl (if_neg loop)
  | endOperation =>
      by_cases idle : adapter.operations = 0
      · exact .inl (if_pos idle)
      · exact .inr (.inr (.inr (.inr (.inr ⟨_, _, _, fun _ => .inl idle, id, if_neg idle⟩))))
  | unmounted =>
      by_cases there : adapter.mounted = true
      · exact .inr (.inr (.inr (.inr (.inr ⟨_, _, true, .inl, fun _ => rfl, if_pos there⟩))))
      · exact .inl (if_neg there)

/-! The FUSE thread does not change what the owner knows. -/

private theorem Knows.advance {place : OwnerPlace} {next : FusePlace} (knows : adapter.Knows place)
    (moved : adapter.fuse.Next next) (error : Bool) :
    Knows { adapter with
      fuse := next, initError := error, fuseMount := next.registers, mounted := next.mounts,
      context := next.hasContext } place := by
  cases place with
  | constructed => exact absurd knows moved.started
  | checking => exact moved.next_started
  | waiting => exact ⟨moved.next_started, knows.2⟩
  | checkError | returned | destructor | trigger => exact knows
  | joinError => exact ⟨knows.1, Nat.le_trans (Nat.le_of_lt moved.lower) knows.2⟩
  | systemUnmount => exact ⟨knows.1, knows.2.imp_right (Nat.le_trans (Nat.le_of_lt moved.lower))⟩
  | join => exact ⟨knows.1, knows.2.imp_right (Nat.le_trans (Nat.le_of_lt moved.lower))⟩
  | thrown | flush | gone => exact absurd knows moved.present

private theorem Consistent.advance {next : FusePlace} (kept : Consistent adapter)
    (moved : adapter.fuse.Next next) (idle : adapter.fuse = .loop → adapter.operations = 0)
    {error : Bool} (failed : error = true → next.rank ≤ 1) :
    Consistent { adapter with
      fuse := next, initError := error, fuseMount := next.registers, mounted := next.mounts,
      context := next.hasContext } where
  knows := kept.knows.advance moved error
  registered := rfl
  mounted := rfl
  context := rfl
  running running := absurd (idle (kept.running running)) running
  reached known := Nat.le_trans (Nat.le_of_lt moved.lower) (kept.reached known)
  failed := failed
  signalled finished := absurd finished moved.next_present

private theorem Consistent.signalInit (kept : Consistent adapter) (late : adapter.fuse.rank ≤ 6) :
    Consistent adapter.signalInit where
  knows := by
    have knows := kept.knows
    unfold FuseAdapter.signalInit
    cases place : adapter.owner with
    | waiting =>
        rw [place] at knows
        exact knows.1
    | joinError | systemUnmount | join =>
        rw [place] at knows
        exact ⟨rfl, knows.2⟩
    | constructed | checking | thrown | flush | gone =>
        rw [place] at knows
        exact knows
    | checkError | returned | destructor | trigger => exact rfl
  registered := kept.registered
  mounted := kept.mounted
  context := kept.context
  running := kept.running
  reached _ := late
  failed := kept.failed
  signalled _ := rfl

private theorem Consistent.finish (kept : Consistent adapter) (place : adapter.fuse = .signal)
    (known : adapter.initialized = true) : Consistent { adapter with fuse := .finished } where
  knows := by
    have knows := kept.knows
    cases owner : adapter.owner with
    | constructed =>
        rw [owner] at knows
        exact absurd (knows.symm.trans place) nofun
    | waiting =>
        rw [owner] at knows
        exact absurd (knows.2.symm.trans known) nofun
    | checking => exact nofun
    | joinError => exact ⟨known, Nat.zero_le _⟩
    | systemUnmount | join => exact ⟨known, .inr (Nat.zero_le _)⟩
    | checkError | returned | destructor | trigger => exact known
    | thrown | flush | gone => exact rfl
  registered := by rw [kept.registered, place]; rfl
  mounted := by rw [kept.mounted, place]; rfl
  context := by rw [kept.context, place]; rfl
  running running := absurd ((kept.running running).symm.trans place) nofun
  reached _ := Nat.zero_le _
  failed _ := Nat.zero_le _
  signalled _ := known

private theorem Consistent.fuseStep (kept : Consistent adapter) (fails : Bool) :
    Consistent (adapter.fuseStep fails) := by
  rcases fuseStep_cases kept fails with same | ⟨next, error, moved, idle, failed, same⟩ |
    ⟨place, same⟩
  · rw [same]
    exact kept
  · rw [same]
    exact kept.advance moved idle failed
  · have late : adapter.fuse.rank ≤ 6 := by
      rw [place]
      decide
    rw [same]
    exact (kept.signalInit late).finish place rfl

/-! Each step of the owner leads to what it knows there. -/

private theorem Consistent.relocate {next : OwnerPlace} (kept : Consistent adapter)
    (knows : adapter.Knows next) : Consistent { adapter with owner := next } where
  knows := by cases next <;> exact knows
  registered := kept.registered
  mounted := kept.mounted
  context := kept.context
  running := kept.running
  reached := kept.reached
  failed := kept.failed
  signalled := kept.signalled

private theorem Consistent.ownerNext {next : OwnerPlace} (kept : Consistent adapter)
    (moved : adapter.owner.Next adapter next) : adapter.Knows next := by
  have knows := kept.knows
  generalize adapter.owner = place at moved knows
  cases moved with
  | initialized known => exact known
  | wait unknown => exact ⟨knows, unknown⟩
  | failed error => exact ⟨knows, kept.failed error⟩
  | works | returned | registered | flushed => exact knows
  | rethrow finished | joined finished => exact finished
  | thrown => exact kept.signalled knows
  | unregistered none =>
      have unregistered := kept.registered.symm.trans none
      exact ⟨knows, .inr (FusePlace.rank_le_of_not_registers unregistered (kept.reached knows))⟩

private theorem Consistent.late (kept : Consistent adapter) (known : adapter.initialized = true)
    (gone : adapter.fuse.registers = false) : adapter.fuse.rank ≤ 4 :=
  FusePlace.rank_le_of_not_registers gone (kept.reached known)

private theorem Consistent.triggered {next : FuseAdapter} (kept : Consistent adapter)
    (triggered : adapter.Triggered next) : Consistent next := by
  have knows := kept.knows
  cases triggered with
  | exit place there =>
      rw [place] at knows
      exact { kept with knows := ⟨knows, .inl rfl⟩ }
  | danglingExit place gone =>
      rw [place] at knows
      exact { kept with
        knows := ⟨knows, .inr (kept.late knows (kept.registered.symm.trans gone))⟩ }
  | unmounted place there =>
      rw [place] at knows
      exact { kept with knows := ⟨knows.1, knows.2.imp_left fun told => ⟨told, .inl rfl⟩⟩ }
  | unmountFailed place there =>
      rw [place] at knows
      exact { kept with knows := ⟨knows.1, knows.2.imp_left fun told => ⟨told, .inr rfl⟩⟩ }
  | danglingUnmount place gone =>
      rw [place] at knows
      have unregistered := FusePlace.registers_of_not_mounts (kept.mounted.symm.trans gone)
      exact { kept with knows := ⟨knows.1, .inr (kept.late knows.1 unregistered)⟩ }

private theorem Consistent.ownerStep (kept : Consistent adapter) (fails : Bool) :
    Consistent (adapter.ownerStep fails) := by
  have knows := kept.knows
  rcases ownerStep_cases adapter fails with same | ⟨place, same⟩ | ⟨next, moved, same⟩ | triggered
  · rw [same]
    exact kept
  · rw [place] at knows
    have idle : adapter.fuse = .notStarted := knows
    rw [same]
    exact {
      knows := nofun
      registered := by rw [kept.registered, idle]; rfl
      mounted := by rw [kept.mounted, idle]; rfl
      context := by rw [kept.context, idle]; rfl
      running := fun running => absurd ((kept.running running).symm.trans idle) nofun
      reached := fun known => by
        have late := kept.reached known
        rw [idle] at late
        exact absurd late (by decide)
      failed := fun error => by
        have late := kept.failed error
        rw [idle] at late
        exact absurd late (by decide)
      signalled := nofun }
  · rw [same]
    exact kept.relocate (kept.ownerNext moved)
  · exact kept.triggered triggered

private theorem Consistent.work (kept : Consistent adapter) {operations : Nat}
    {woken unmounted : Bool}
    (running : operations ≠ 0 → adapter.operations ≠ 0 ∨ adapter.fuse = .loop)
    (still : adapter.unmounted = true → unmounted = true) :
    Consistent
      { adapter with operations := operations, woken := woken, unmounted := unmounted } where
  knows := by
    have knows := kept.knows
    cases place : adapter.owner with
    | join =>
        rw [place] at knows
        exact ⟨knows.1, knows.2.imp_left (And.imp_right (Or.imp_left still))⟩
    | _ =>
        rw [place] at knows
        exact knows
  registered := kept.registered
  mounted := kept.mounted
  context := kept.context
  running left := (running left).elim kept.running id
  reached := kept.reached
  failed := kept.failed
  signalled := kept.signalled

private theorem Consistent.step (kept : Consistent adapter) (action : Action) :
    Consistent (adapter.step action) := by
  rcases step_cases adapter action with same | ⟨fails, _, same⟩ | ⟨fails, _, same⟩ |
    ⟨_, waiting, same⟩ | ⟨_, loop, same⟩ | ⟨operations, woken, unmounted, running, still, same⟩
  · rw [same]
    exact kept
  · rw [same]
    exact kept.ownerStep fails
  · rw [same]
    exact kept.fuseStep fails
  · have knows := kept.knows
    rw [waiting] at knows
    rw [same]
    exact kept.relocate knows.1
  · have late : adapter.fuse.rank ≤ 6 := by
      rw [loop]
      decide
    rw [same]
    have running (_ : adapter.operations + 1 ≠ 0) :
        adapter.signalInit.operations ≠ 0 ∨ adapter.signalInit.fuse = .loop := .inr loop
    exact (kept.signalInit late).work running id
  · rw [same]
    exact kept.work running still

private theorem Consistent.run (kept : Consistent adapter) (actions : List Action) :
    Consistent (adapter.run actions) := by
  induction actions generalizing adapter with
  | nil => exact kept
  | cons action rest ih => exact ih (kept.step action)

/-- Nothing of the FUSE thread is left. -/
structure Released (adapter : FuseAdapter) : Prop where
  finished : adapter.fuse = .finished
  fuseMount : adapter.fuseMount = false
  mounted : adapter.mounted = false
  context : adapter.context = false
  operations : adapter.operations = 0

private theorem Consistent.released (kept : Consistent adapter)
    (finished : adapter.fuse = .finished) :
    Released adapter where
  finished := finished
  fuseMount := by rw [kept.registered, finished]; rfl
  mounted := by rw [kept.mounted, finished]; rfl
  context := by rw [kept.context, finished]; rfl
  operations := Decidable.byContradiction fun running =>
    absurd ((kept.running running).symm.trans finished) nofun

/-- In any run, the owner does not wait for an initialization that is past; `StartFuse` returns after
it, and throws after the FUSE thread; and the destructor waits only for a loop that was told to stop
or is over, and flushes when nothing of the FUSE thread is left. -/
theorem run_lifecycle (actions : List Action) :
    ((init.run actions).owner = .waiting →
      (init.run actions).initialized = false ∧ (init.run actions).fuse ≠ .finished) ∧
    ((init.run actions).owner = .returned → (init.run actions).initialized = true) ∧
    ((init.run actions).owner = .thrown → Released (init.run actions)) ∧
    ((init.run actions).owner = .join →
      (init.run actions).exit = true ∨ (init.run actions).fuse.rank ≤ 4) ∧
    ((init.run actions).owner = .flush ∨ (init.run actions).owner = .gone →
      Released (init.run actions)) := by
  have kept := consistent_init.run actions
  have knows {place : OwnerPlace} (at_place : (init.run actions).owner = place) :
      (init.run actions).Knows place := at_place ▸ kept.knows
  refine ⟨fun waiting => ⟨(knows waiting).2, fun finished => ?_⟩, fun returned => knows returned,
    fun thrown => kept.released (knows thrown), fun joining => (knows joining).2.imp_left And.left, fun ended => ?_⟩
  · have known := kept.signalled finished
    rw [(knows waiting).2] at known
    cases known
  · rcases ended with flush | gone
    · exact kept.released (knows flush)
    · exact kept.released (knows gone)

/-! A start and an end take a bounded number of steps. -/

/-- What is left of a start and an end. -/
def left (adapter : FuseAdapter) : Nat :=
  adapter.owner.rank + adapter.fuse.rank + if adapter.initialized then 0 else 1

private theorem signalInit_left (kept : Consistent adapter) :
    adapter.signalInit.left ≤ adapter.left := by
  have knows := kept.knows
  by_cases waiting : adapter.owner = .waiting
  · rw [waiting] at knows
    simp only [signalInit, left, waiting, knows.2, OwnerPlace.rank, if_true, Bool.false_eq_true,
      if_false]
    omega
  · simp only [signalInit, left, waiting, if_true, if_false]
    omega

private theorem fuseStep_left (kept : Consistent adapter) (fails : Bool)
    (moved : adapter.fuseStep fails ≠ adapter) : (adapter.fuseStep fails).left < adapter.left := by
  rcases fuseStep_cases kept fails with same | ⟨next, error, moved, _, _, same⟩ | ⟨place, same⟩
  · exact absurd same moved
  · rw [same]
    exact Nat.add_lt_add_right (Nat.add_lt_add_left moved.lower _) _
  · have less := signalInit_left kept
    have last : adapter.signalInit.fuse.rank = 1 := congrArg FusePlace.rank place
    rw [same]
    refine Nat.lt_of_lt_of_le ?_ less
    unfold left
    rw [last]
    exact Nat.add_lt_add_right (Nat.add_lt_add_left Nat.zero_lt_one _) _

private theorem Triggered.left {next : FuseAdapter} (triggered : adapter.Triggered next) :
    next.left < adapter.left := by
  cases triggered with
  | exit place | danglingExit place =>
      simp only [FuseAdapter.left, place, OwnerPlace.rank]
      omega
  | unmounted place | unmountFailed place | danglingUnmount place =>
      simp only [FuseAdapter.left, place, OwnerPlace.rank]
      omega

private theorem ownerStep_left (kept : Consistent adapter) (fails : Bool)
    (moved : adapter.ownerStep fails ≠ adapter) :
    (adapter.ownerStep fails).left < adapter.left := by
  have knows := kept.knows
  rcases ownerStep_cases adapter fails with same | ⟨place, same⟩ | ⟨next, moved, same⟩ | triggered
  · exact absurd same moved
  · rw [place] at knows
    have idle : adapter.fuse = .notStarted := knows
    rw [same]
    simp only [left, place, idle, OwnerPlace.rank, FusePlace.rank]
    omega
  · rw [same]
    exact Nat.add_lt_add_right (Nat.add_lt_add_right moved.lower _) _
  · exact triggered.left

/-- Whether an action is a step of one of the threads that is to be had. -/
def Moves (adapter : FuseAdapter) : Action → Prop
  | .owner fails => adapter.ownerStep fails ≠ adapter
  | .fuse fails => adapter.fuseStep fails ≠ adapter
  | _ => False

instance (adapter : FuseAdapter) : ∀ action, Decidable (adapter.Moves action)
  | .owner fails => inferInstanceAs (Decidable (adapter.ownerStep fails ≠ adapter))
  | .fuse fails => inferInstanceAs (Decidable (adapter.fuseStep fails ≠ adapter))
  | .wake | .init | .beginOperation | .endOperation | .unmounted =>
    inferInstanceAs (Decidable False)

/-- The steps of the threads in a run. -/
def moves (adapter : FuseAdapter) : List Action → Nat
  | [] => 0
  | action :: rest => (if adapter.Moves action then 1 else 0) + (adapter.step action).moves rest

private theorem step_left (kept : Consistent adapter) (action : Action) :
    (if adapter.Moves action then 1 else 0) + (adapter.step action).left ≤
      adapter.left + if action = .wake then 1 else 0 := by
  by_cases moved : adapter.Moves action
  · rw [if_pos moved]
    cases action with
    | owner fails =>
        have less := ownerStep_left kept fails moved
        change 1 + (adapter.ownerStep fails).left ≤ _
        omega
    | fuse fails =>
        have less := fuseStep_left kept fails moved
        change 1 + (adapter.fuseStep fails).left ≤ _
        omega
    | wake | init | beginOperation | endOperation | unmounted => exact moved.elim
  · rw [if_neg moved, Nat.zero_add]
    rcases step_cases adapter action with same | ⟨fails, rfl, same⟩ | ⟨fails, rfl, same⟩ |
      ⟨rfl, waiting, same⟩ | ⟨_, _, same⟩ | ⟨operations, woken, unmounted, _, _, same⟩
    · rw [same]
      exact Nat.le_add_right _ _
    · rw [same, Decidable.not_not.mp moved]
      exact Nat.le_add_right _ _
    · rw [same, Decidable.not_not.mp moved]
      exact Nat.le_add_right _ _
    · rw [same, if_pos rfl]
      simp only [left, waiting, OwnerPlace.rank]
      omega
    · rw [same]
      exact Nat.le_trans (signalInit_left kept) (Nat.le_add_right _ _)
    · rw [same]
      exact Nat.le_add_right adapter.left _

private theorem run_left (kept : Consistent adapter) (actions : List Action) :
    adapter.moves actions + (adapter.run actions).left ≤ adapter.left + actions.count .wake := by
  induction actions generalizing adapter with
  | nil => exact Nat.le_of_eq (Nat.zero_add _)
  | cons action rest ih =>
      have first := step_left kept action
      have later := ih (kept.step action)
      unfold moves
      rw [List.count_cons]
      simp only [beq_iff_eq]
      change _ + ((adapter.step action).run rest).left ≤ _
      omega

/-- No operation is running, and the loop waits for the next one. -/
structure Blocked (adapter : FuseAdapter) : Prop where
  loop : adapter.fuse = .loop
  operations : adapter.operations = 0
  unmounted : adapter.unmounted = false
  woken : adapter.woken = false

/-- Until its end the FUSE thread has a step, when no operation is running and the loop does not
wait for one. -/
private theorem moves_fuse (idle : adapter.operations = 0) (started : adapter.fuse ≠ .notStarted)
    (present : adapter.fuse ≠ .finished) :
    Blocked adapter ∨ ∀ fails, adapter.Moves (.fuse fails) := by
  have other {next : FuseAdapter} (moved : next.fuse ≠ adapter.fuse) : next ≠ adapter :=
    fun same => moved (congrArg FuseAdapter.fuse same)
  cases place : adapter.fuse with
  | notStarted => exact absurd place started
  | finished => exact absurd place present
  | loop =>
      by_cases event : adapter.unmounted = true ∨ adapter.woken = true
      · refine .inr fun fails => other ?_
        simp [FuseAdapter.fuseStep, place, idle, event]
      · obtain ⟨mounted, asleep⟩ := not_or.mp event
        exact .inl ⟨place, idle, eq_false_of_ne_true mounted, eq_false_of_ne_true asleep⟩
  | arguments =>
      refine .inr fun fails => other ?_
      cases fails <;> simp [FuseAdapter.fuseStep, place]
  | context =>
      refine .inr fun fails => other ?_
      cases fails <;> simp [FuseAdapter.fuseStep, place]
  | mount =>
      refine .inr fun fails => other ?_
      cases fails <;> simp [FuseAdapter.fuseStep, place]
  | destroy thrown =>
      refine .inr fun fails => other ?_
      cases thrown <;> simp [FuseAdapter.fuseStep, place]
  | _ =>
      refine .inr fun fails => other ?_
      simp [FuseAdapter.fuseStep, place]

private theorem moves_owner (present : adapter.owner ≠ .gone) (awake : adapter.owner ≠ .waiting)
    (finished : adapter.owner = .joinError ∨ adapter.owner = .join → adapter.fuse = .finished)
    (fails : Bool) : adapter.Moves (.owner fails) := by
  have other {next : FuseAdapter} (moved : next.owner ≠ adapter.owner) : next ≠ adapter :=
    fun same => moved (congrArg FuseAdapter.owner same)
  refine other ?_
  cases place : adapter.owner with
  | gone => exact absurd place present
  | waiting => exact absurd place awake
  | joinError => simp [FuseAdapter.ownerStep, place, finished (.inl place)]
  | join => simp [FuseAdapter.ownerStep, place, finished (.inr place)]
  | checking => cases known : adapter.initialized <;> simp [FuseAdapter.ownerStep, place, known]
  | checkError => cases error : adapter.initError <;> simp [FuseAdapter.ownerStep, place, error]
  | destructor => cases there : adapter.fuseMount <;> simp [FuseAdapter.ownerStep, place, there]
  | trigger => cases there : adapter.fuseMount <;> simp [FuseAdapter.ownerStep, place, there]
  | systemUnmount =>
      cases there : adapter.mounted with
      | false => simp [FuseAdapter.ownerStep, place, there]
      | true => cases fails <;> simp [FuseAdapter.ownerStep, place, there]
  | _ => simp [FuseAdapter.ownerStep, place]

/-- The owner waits for the `init` operation, or in its destructor for any operation, which then
lets it go on. -/
inductive Awaits (adapter : FuseAdapter) : Prop where
  | init (place : adapter.owner = .waiting)
      (next : ∀ fails, (adapter.step .init).Moves (.owner fails))
  | operation (place : adapter.owner = .join) (told : adapter.exit = true)
      (failed : adapter.unmountFailed = true)
      (next : ∀ fails, ((adapter.step .beginOperation).step .endOperation).Moves (.fuse fails))

private theorem Blocked.awaits_init (blocked : Blocked adapter) (place : adapter.owner = .waiting) :
    Awaits adapter := by
  refine .init place fun fails => moves_owner ?_ ?_ ?_ fails
  · simp [step, signalInit, blocked.loop, place]
  · simp [step, signalInit, blocked.loop, place]
  · simp [step, signalInit, blocked.loop, place]

private theorem Blocked.awaits_operation (blocked : Blocked adapter) (place : adapter.owner = .join)
    (told : adapter.exit = true) (failed : adapter.unmountFailed = true) : Awaits adapter := by
  have stepped : (adapter.step .beginOperation).step .endOperation =
      { adapter with operations := adapter.operations, woken := true } := by
    simp [step, blocked.loop, told]
  refine .operation place told failed fun fails => ?_
  rw [stepped]
  have moves : Blocked { adapter with operations := adapter.operations, woken := true } ∨ _ :=
    moves_fuse blocked.operations (fun same => absurd (blocked.loop.symm.trans same) nofun)
      fun same => absurd (blocked.loop.symm.trans same) nofun
  exact moves.resolve_left (fun still => absurd still.woken nofun) fails

/-- Until the owner is gone, one of the threads has a step when no operation is running, unless both
wait for an operation. -/
private theorem Consistent.progress (kept : Consistent adapter) (idle : adapter.operations = 0)
    (present : adapter.owner ≠ .gone) :
    (∀ fails, adapter.Moves (.owner fails)) ∨ (∀ fails, adapter.Moves (.fuse fails)) ∨
      Blocked adapter ∧ Awaits adapter := by
  have knows := kept.knows
  by_cases finished : adapter.fuse = .finished
  · refine .inl (moves_owner present (fun waiting => ?_) fun _ => finished)
    rw [waiting] at knows
    exact absurd (knows.2.symm.trans (kept.signalled finished)) nofun
  · by_cases started : adapter.fuse = .notStarted
    · have early (known : adapter.initialized = true) : False := by
        have late := kept.reached known
        rw [started] at late
        exact absurd late (by decide)
      refine .inl (moves_owner present (fun waiting => ?_) fun joining => ?_)
      · rw [waiting] at knows
        exact knows.1 started
      · rcases joining with place | place
        · rw [place] at knows
          exact (early knows.1).elim
        · rw [place] at knows
          exact (early knows.1).elim
    · rcases moves_fuse idle started finished with blocked | moves
      · by_cases waiting : adapter.owner = .waiting
        · exact .inr (.inr ⟨blocked, blocked.awaits_init waiting⟩)
        · by_cases joining : adapter.owner = .join
          · rw [joining] at knows
            obtain ⟨told, event⟩ := knows.2.resolve_right fun late => by
              rw [blocked.loop] at late
              exact absurd late (by decide)
            have failed := event.resolve_left fun unmounted =>
              absurd (unmounted.symm.trans blocked.unmounted) nofun
            exact .inr (.inr ⟨blocked, blocked.awaits_operation joining told failed⟩)
          · refine .inl (moves_owner present waiting fun either => ?_)
            have place := either.resolve_right joining
            rw [place] at knows
            have late := knows.2
            rw [blocked.loop] at late
            exact absurd late (by decide)
      · exact .inr (.inl moves)

/-- In any run there are at most twenty-three steps of the threads and one more for each wakeup
without a notification; and as long as the owner is not gone and no operation is running, there is a
next one, except where the loop waits for the operation that the owner waits for. -/
theorem run_ends (actions : List Action) :
    init.moves actions ≤ 23 + actions.count .wake ∧
      ((init.run actions).operations = 0 → (init.run actions).owner ≠ .gone →
        (∀ fails, (init.run actions).Moves (.owner fails)) ∨
          (∀ fails, (init.run actions).Moves (.fuse fails)) ∨
            Blocked (init.run actions) ∧ Awaits (init.run actions)) := by
  constructor
  · exact Nat.le_trans (Nat.le_add_right _ _) (run_left consistent_init actions)
  · exact (consistent_init.run actions).progress

/-! The mount that the destructor uses. -/

/-- The loop ends only when the owner is at a place or past it. -/
def EndsFrom (place : OwnerPlace) (adapter : FuseAdapter) : Action → Prop
  | .fuse fails => adapter.fuse = .loop → (adapter.fuseStep fails).fuse ≠ .loop →
    adapter.owner.rank ≤ place.rank
  | _ => True

instance (place : OwnerPlace) (adapter : FuseAdapter) :
    ∀ action, Decidable (adapter.EndsFrom place action)
  | .fuse fails =>
    inferInstanceAs (Decidable (adapter.fuse = .loop → (adapter.fuseStep fails).fuse ≠ .loop →
      adapter.owner.rank ≤ place.rank))
  | .owner _ | .wake | .init | .beginOperation | .endOperation | .unmounted =>
    inferInstanceAs (Decidable True)

/-- Until the owner is past its use of the mount, the loop is not over. -/
structure Patient (place : OwnerPlace) (adapter : FuseAdapter) : Prop where
  leaves : ∀ thrown, adapter.fuse = .unregister thrown → adapter.owner.rank ≤ place.rank
  loop : adapter.owner = .trigger ∨ adapter.owner = .systemUnmount →
    place.rank < adapter.owner.rank → adapter.fuse = .loop
  exit : adapter.danglingExit = false
  unmount : place.rank < OwnerPlace.systemUnmount.rank → adapter.danglingUnmount = false

variable {place : OwnerPlace}

private theorem patient_init : Patient place init := by
  constructor <;> simp [init]

private theorem Patient.eq_loop (kept : Consistent adapter) (patient : Patient place adapter)
    (there : adapter.fuseMount = true) (early : place.rank < adapter.owner.rank) :
    adapter.fuse = .loop := by
  have registered := kept.registered.symm.trans there
  cases fuse : adapter.fuse with
  | loop => rfl
  | unregister thrown => exact absurd (patient.leaves thrown fuse) (Nat.not_le.mpr early)
  | _ =>
      rw [fuse] at registered
      cases registered

private theorem Patient.ownerNext {next : OwnerPlace} (kept : Consistent adapter)
    (patient : Patient place adapter) (moved : adapter.owner.Next adapter next) :
    Patient place { adapter with owner := next } where
  leaves thrown left := Nat.le_trans (Nat.le_of_lt moved.lower) (patient.leaves thrown left)
  loop here early := by
    have higher : place.rank < adapter.owner.rank := Nat.lt_trans early moved.lower
    have registered (there : adapter.fuseMount = true) : adapter.fuse = .loop :=
      patient.eq_loop kept there higher
    generalize owner : adapter.owner = current at moved
    cases moved with
    | registered there => exact registered there
    | initialized | wait | failed | works | rethrow | returned | thrown | unregistered | joined
    | flushed => rcases here with here | here <;> cases here
  exit := patient.exit
  unmount := patient.unmount

private theorem Patient.triggered (late : place.rank ≤ OwnerPlace.systemUnmount.rank)
    (kept : Consistent adapter) (patient : Patient place adapter) {next : FuseAdapter}
    (triggered : adapter.Triggered next) : Patient place next := by
  have used (owner : adapter.owner = .trigger ∨ adapter.owner = .systemUnmount)
      (early : place.rank < adapter.owner.rank) :
      adapter.fuseMount = true ∧ adapter.mounted = true := by
    rw [kept.registered, kept.mounted, patient.loop owner early]
    exact ⟨rfl, rfl⟩
  cases triggered with
  | exit owner there =>
      have early : place.rank < adapter.owner.rank := by
        rw [owner]
        exact Nat.lt_succ_of_le late
      have loop := patient.loop (.inl owner) early
      exact ⟨fun thrown left => absurd (loop.symm.trans left) nofun, fun _ _ => loop, patient.exit,
        patient.unmount⟩
  | danglingExit owner gone =>
      have early : place.rank < adapter.owner.rank := by
        rw [owner]
        exact Nat.lt_succ_of_le late
      exact absurd ((used (.inl owner) early).1.symm.trans gone) nofun
  | unmounted owner there | unmountFailed owner there =>
      refine ⟨fun thrown left => ?_, nofun, patient.exit, patient.unmount⟩
      by_cases early : place.rank < adapter.owner.rank
      · exact absurd ((patient.loop (.inr owner) early).symm.trans left) nofun
      · rw [owner] at early
        exact Nat.le_of_succ_le (Nat.not_lt.mp early)
  | danglingUnmount owner gone =>
      have notEarly : ¬ place.rank < adapter.owner.rank := fun early =>
        absurd ((used (.inr owner) early).2.symm.trans gone) nofun
      rw [owner] at notEarly
      exact ⟨fun _ _ => Nat.le_of_succ_le (Nat.not_lt.mp notEarly), nofun, patient.exit,
        fun early => absurd early notEarly⟩

private theorem Patient.ownerStep (late : place.rank ≤ OwnerPlace.systemUnmount.rank)
    (kept : Consistent adapter) (patient : Patient place adapter) (fails : Bool) :
    Patient place (adapter.ownerStep fails) := by
  rcases ownerStep_cases adapter fails with same | ⟨owner, same⟩ | ⟨next, moved, same⟩ | triggered
  · rw [same]
    exact patient
  · rw [same]
    exact ⟨nofun, nofun, patient.exit, patient.unmount⟩
  · rw [same]
    exact patient.ownerNext kept moved
  · exact patient.triggered late kept triggered

private theorem Patient.signalInit (patient : Patient place adapter)
    (within : ∀ thrown, adapter.fuse ≠ .unregister thrown) : Patient place adapter.signalInit where
  leaves thrown left := absurd left (within thrown)
  loop here := by
    unfold FuseAdapter.signalInit at here ⊢
    by_cases waiting : adapter.owner = .waiting
    · rw [if_pos waiting] at here
      rcases here with here | here <;> cases here
    · rw [if_neg waiting] at here ⊢
      exact patient.loop here
  exit := patient.exit
  unmount := patient.unmount

private theorem Patient.fuseStep (kept : Consistent adapter) (patient : Patient place adapter)
    (fails : Bool) (condition : adapter.EndsFrom place (.fuse fails)) :
    Patient place (adapter.fuseStep fails) := by
  rcases fuseStep_cases kept fails with same | ⟨next, error, moved, _, _, same⟩ | ⟨fuse, same⟩
  · rw [same]
    exact patient
  · have past (loop : adapter.fuse = .loop) : adapter.owner.rank ≤ place.rank := by
      refine condition loop ?_
      rw [same]
      rintro rfl
      rw [loop] at moved
      cases moved
    rw [same]
    refine ⟨fun thrown left => ?_, fun here early => ?_, patient.exit, patient.unmount⟩
    · have left : next = .unregister thrown := left
      rw [left] at moved
      exact past moved.eq_loop
    · exact absurd (past (patient.loop here early)) (Nat.not_le.mpr early)
  · have signalled : Patient place adapter.signalInit :=
      patient.signalInit fun thrown left => absurd (fuse.symm.trans left) nofun
    rw [same]
    refine ⟨nofun, fun here early => ?_, signalled.exit, signalled.unmount⟩
    have loop : adapter.fuse = .loop := signalled.loop here early
    exact absurd (loop.symm.trans fuse) nofun

private theorem Patient.step (late : place.rank ≤ OwnerPlace.systemUnmount.rank)
    (kept : Consistent adapter) (patient : Patient place adapter) {action : Action}
    (condition : adapter.EndsFrom place action) : Patient place (adapter.step action) := by
  rcases step_cases adapter action with same | ⟨fails, _, same⟩ | ⟨fails, rfl, same⟩ |
    ⟨_, waiting, same⟩ | ⟨_, loop, same⟩ | ⟨operations, woken, unmounted, _, _, same⟩
  · rw [same]
    exact patient
  · rw [same]
    exact patient.ownerStep late kept fails
  · rw [same]
    exact patient.fuseStep kept fails condition
  · rw [same]
    refine ⟨fun thrown left => ?_, nofun, patient.exit, patient.unmount⟩
    have past := patient.leaves thrown left
    rw [waiting] at past
    exact absurd (Nat.le_trans past late) (by decide)
  · have signalled : Patient place adapter.signalInit :=
      patient.signalInit fun thrown left => absurd (loop.symm.trans left) nofun
    rw [same]
    exact ⟨signalled.leaves, signalled.loop, signalled.exit, signalled.unmount⟩
  · rw [same]
    exact ⟨patient.leaves, patient.loop, patient.exit, patient.unmount⟩

private theorem patient_run (late : place.rank ≤ OwnerPlace.systemUnmount.rank)
    {actions : List Action}
    (each : EachStep step (EndsFrom place) init actions) : Patient place (init.run actions) := by
  have keep (adapter : FuseAdapter) (action : Action) (condition : adapter.EndsFrom place action)
      (held : Consistent adapter ∧ Patient place adapter) :
      Consistent (adapter.step action) ∧ Patient place (adapter.step action) :=
    ⟨held.1.step action, held.2.step late held.1 condition⟩
  exact (run_preserves keep ⟨consistent_init, patient_init⟩ each).2

/-- In a run whose loop ends only after `fuse_exit`, the destructor does not call it of a mount that
is gone; and where the loop ends only after the system unmount, no part of `TriggerUnmount` uses
one. -/
theorem run_alive (actions : List Action) :
    (EachStep step (EndsFrom .systemUnmount) init actions →
      (init.run actions).danglingExit = false) ∧
    (EachStep step (EndsFrom .join) init actions →
      (init.run actions).danglingExit = false ∧ (init.run actions).danglingUnmount = false) := by
  refine ⟨fun each => (patient_run (Nat.le_refl _) each).exit, fun each => ?_⟩
  have patient : Patient .join (init.run actions) := patient_run (by decide) each
  exact ⟨patient.exit, patient.unmount (by decide)⟩

namespace Scenario

/-- A start whose wait is woken too early, an operation, and an end. -/
def stopped : List Action :=
  [.owner false, .owner false, .wake, .fuse false, .owner false, .fuse false, .fuse false,
    .fuse false, .init, .endOperation, .owner false, .owner false, .beginOperation, .owner false,
    .owner false, .endOperation, .owner true, .owner false, .fuse false, .fuse false, .fuse false,
    .fuse false, .fuse false, .owner false, .owner false]

theorem run_alive_stopped : (init.run stopped).owner = .gone ∧
    (init.run stopped).danglingExit = false ∧ (init.run stopped).danglingUnmount = false :=
  ⟨by decide, (run_alive stopped).2 (by decide)⟩

/-- An operation ends between `fuse_exit` and the system unmount, and the loop with it. -/
example : (init.run [.owner false, .fuse false, .fuse false, .fuse false, .fuse false, .init,
    .owner false, .owner false, .owner false, .owner false, .owner false, .endOperation,
    .fuse false, .fuse false, .fuse false, .owner false]).danglingUnmount = true := by
  decide

end Scenario

end FuseAdapter

end Andromeda.Fuse
