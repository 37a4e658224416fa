import Andromeda.Backend.RunnerPool
import Andromeda.Library.Lookup

/-! Each runner is held by one thread at most, and no wakeup is lost. -/

set_option autoImplicit false

namespace Andromeda.Backend.RunnerPool

open Andromeda.Library

variable {τ : Type}

/-- The locked runners are those of the holders, each of one. -/
structure Owned (pool : RunnerPool τ) : Prop where
  locked {index : Nat} : pool.locked index = true ↔ ∃ thread, pool.Holds thread index
  unique {index : Nat} {thread other : τ} :
    pool.Holds thread index → pool.Holds other index → thread = other
  nodup (thread : τ) : (pool.held thread).Nodup
  apart {thread : τ} {index : Nat} : pool.places thread = .found index → index ∉ pool.held thread

/-- The mutex is with the thread whose place says so. -/
def Inside (pool : RunnerPool τ) : Prop :=
  ∀ thread, (pool.places thread).hasMutex = true ↔ pool.mutex = some thread

/-- A scan has passed runners that exist. Those of them that are free by now have been unlocked
by a thread that needs the mutex to signal. -/
def Scanned (pool : RunnerPool τ) : Prop :=
  ∀ thread index, pool.places thread = .scanning index →
    (index < pool.size ∨ pool.size = 0) ∧
      ∀ passed, passed < index → pool.created passed = true ∧
        (pool.locked passed = false → ∃ other, pool.places other = .unlocked passed)

section

variable [Fintype τ]

/-- The threads that are going to try a runner's lock. -/
def scanners (pool : RunnerPool τ) : Nat :=
  count Finset.univ Place.isScanner pool.places

/-- While a thread sleeps, all runners exist, and each free one is about to be signalled or
tried. -/
def Roused (pool : RunnerPool τ) : Prop :=
  (∃ thread, pool.places thread = .sleeping) →
    0 < pool.size ∧ (∀ index, index < pool.size → pool.created index = true) ∧
      pool.freeRunners ≤ pool.releasing + pool.scanners

/-- The invariant of every interleaving. -/
structure Valid (pool : RunnerPool τ) : Prop where
  owned : Owned pool
  inside : Inside pool
  existing {thread : τ} {index : Nat} : index ∈ pool.held thread → pool.created index = true
  scanned : Scanned pool
  roused : Roused pool

private theorem valid_init (size : Nat) : Valid (init size : RunnerPool τ) where
  owned := ⟨by simp [init, Holds], by simp [init, Holds], by simp [init], by simp [init]⟩
  inside := by simp [Inside, init, Place.hasMutex]
  existing := by simp [init]
  scanned := by simp [Scanned, init]
  roused := by simp [Roused, init]

end

variable {pool after : RunnerPool τ} {thread : τ}

private theorem Inside.unique (inside : Inside pool) {other : τ}
    (has : (pool.places thread).hasMutex = true)
    (otherHas : (pool.places other).hasMutex = true) : other = thread := by
  have first := (inside thread).mp has
  rw [(inside other).mp otherHas] at first
  exact Option.some.inj first

private theorem Owned.keep (owned : Owned pool) (locked : after.locked = pool.locked)
    (held : after.held = pool.held)
    (found : ∀ thread index, after.places thread = .found index ↔
      pool.places thread = .found index) : Owned after := by
  have holds (thread : τ) (index : Nat) : after.Holds thread index ↔ pool.Holds thread index := by
    unfold Holds
    rw [held, found]
  constructor
  · intro index
    simp only [locked, holds, owned.locked]
  · intro index thread other first second
    exact owned.unique ((holds _ _).mp first) ((holds _ _).mp second)
  · intro thread
    rw [held]
    exact owned.nodup thread
  · intro thread index at_
    rw [held]
    exact owned.apart ((found _ _).mp at_)

private theorem Owned.drop (owned : Owned pool) {index : Nat}
    (locked : after.locked = Function.update pool.locked index false)
    (holds : ∀ other runner, after.Holds other runner ↔
      pool.Holds other runner ∧ runner ≠ index)
    (nodup : ∀ other, (after.held other).Nodup)
    (apart : ∀ {other runner}, after.places other = .found runner →
      runner ∉ after.held other) : Owned after := by
  constructor
  · intro runner
    by_cases same : runner = index
    · subst same
      simp [locked, holds]
    · simp only [locked, Function.update_of_ne same, owned.locked, holds, ne_eq, same,
        not_false_eq_true, and_true]
  · intro runner first second firstHolds secondHolds
    exact owned.unique ((holds _ _).mp firstHolds).1 ((holds _ _).mp secondHolds).1
  · exact nodup
  · exact apart

private theorem Scanned.of_none (none : ∀ thread index, after.places thread ≠ .scanning index) :
    Scanned after :=
  fun thread index scanning => absurd scanning (none thread index)

/-- A step outside the mutex: it starts no scan, loses no unlocked runner and unlocks none
without saying so. -/
private theorem Scanned.keep (scanned : Scanned pool) (size : after.size = pool.size)
    (created : after.created = pool.created)
    (freed : ∀ index, after.locked index = false →
      pool.locked index = false ∨ ∃ other, after.places other = .unlocked index)
    (scans : ∀ thread index, after.places thread = .scanning index →
      pool.places thread = .scanning index)
    (unlocked : ∀ thread index, pool.places thread = .unlocked index →
      after.places thread = .unlocked index) : Scanned after := by
  intro thread index scanning
  obtain ⟨bound, passed⟩ := scanned thread index (scans thread index scanning)
  constructor
  · rw [size]
    exact bound
  · intro runner below
    obtain ⟨exists_, signalled⟩ := passed runner below
    constructor
    · rw [created]
      exact exists_
    · intro free
      rcases freed runner free with before | announced
      · obtain ⟨other, at_⟩ := signalled before
        exact ⟨other, unlocked other runner at_⟩
      · exact announced

variable [DecidableEq τ]

@[simp] theorem places_goTo (pool : RunnerPool τ) (thread : τ) (place : Place) :
    (pool.goTo thread place).places = Function.update pool.places thread place := rfl

@[simp] theorem places_release (pool : RunnerPool τ) (thread : τ) (place : Place) :
    (pool.release thread place).places = Function.update pool.places thread place := rfl

@[simp] theorem held_goTo (pool : RunnerPool τ) (thread : τ) (place : Place) :
    (pool.goTo thread place).held = pool.held := rfl

@[simp] theorem held_release (pool : RunnerPool τ) (thread : τ) (place : Place) :
    (pool.release thread place).held = pool.held := rfl

private theorem goTo_eq_iff (other : τ) {place at_ : Place} (away : place ≠ at_)
    (before : pool.places thread ≠ at_) :
    (pool.goTo thread place).places other = at_ ↔ pool.places other = at_ := by
  by_cases same : other = thread
  · subst same
    simp [away, before]
  · rw [places_goTo, Function.update_of_ne same]

private theorem sleeping_of_goTo {place : Place} (awake : place ≠ .sleeping)
    (sleeps : ∃ other, (pool.goTo thread place).places other = .sleeping) :
    ∃ other, pool.places other = .sleeping := by
  obtain ⟨other, sleeping⟩ := sleeps
  rcases update_cases sleeping with ⟨_, same⟩ | ⟨_, was⟩
  · exact absurd same.symm awake
  · exact ⟨other, was⟩

private theorem Inside.goTo (inside : Inside pool) {place : Place}
    (same : place.hasMutex = (pool.places thread).hasMutex) : Inside (pool.goTo thread place) := by
  intro other
  by_cases own : other = thread
  · subst own
    simp only [places_goTo, Function.update_self, same]
    exact inside other
  · simp only [places_goTo, Function.update_of_ne own]
    exact inside other

private theorem Inside.acquire (inside : Inside pool) (free : pool.mutex = none) {place : Place}
    (has : place.hasMutex = true) :
    Inside { pool.goTo thread place with mutex := some thread } := by
  intro other
  by_cases own : other = thread
  · subst own
    simp [has]
  · have without : (pool.places other).hasMutex = false := by
      rw [Bool.eq_false_iff]
      intro has
      rw [(inside other).mp has] at free
      cases free
    simp [Function.update_of_ne own, without, Ne.symm own]

private theorem Inside.release (inside : Inside pool) (has : (pool.places thread).hasMutex = true)
    {place : Place} (without : place.hasMutex = false) : Inside (pool.release thread place) := by
  intro other
  by_cases own : other = thread
  · subst own
    simp [RunnerPool.release, without]
  · have others : (pool.places other).hasMutex = false := by
      rw [Bool.eq_false_iff]
      intro otherHas
      exact own (inside.unique has otherHas)
    simp [RunnerPool.release, Function.update_of_ne own, others]

private theorem acquire_eq (pool : RunnerPool τ) (thread : τ) (place : Place) :
    pool.acquire thread place = pool ∨ pool.mutex = none ∧
      pool.acquire thread place = { pool.goTo thread place with mutex := some thread } := by
  unfold RunnerPool.acquire
  cases free : pool.mutex with
  | some other => exact .inl rfl
  | none => exact .inr ⟨rfl, rfl⟩

private theorem Owned.take (owned : Owned pool) {index : Nat} (free : pool.locked index = false)
    (scans : ∀ other, pool.places thread ≠ .found other) :
    Owned (pool.lockRunner thread index) := by
  have nobody (other : τ) : ¬pool.Holds other index := by
    intro holds
    rw [owned.locked.mpr ⟨other, holds⟩] at free
    cases free
  have holds (other : τ) (runner : Nat) :
      (pool.lockRunner thread index).Holds other runner ↔
        pool.Holds other runner ∨ other = thread ∧ runner = index := by
    unfold Holds lockRunner
    by_cases own : other = thread
    · subst own
      simp [scans, eq_comm]
    · simp [own]
  constructor
  · intro runner
    simp only [holds]
    by_cases same : runner = index
    · subst same
      simp [lockRunner]
    · simp only [lockRunner, Function.update_of_ne same, owned.locked, same, and_false, or_false]
  · intro runner first second firstHolds secondHolds
    rcases (holds first runner).mp firstHolds with old | ⟨rfl, rfl⟩
    · rcases (holds second runner).mp secondHolds with other | ⟨rfl, rfl⟩
      · exact owned.unique old other
      · exact absurd old (nobody first)
    · rcases (holds second runner).mp secondHolds with other | ⟨same, _⟩
      · exact absurd other (nobody second)
      · exact same.symm
  · exact owned.nodup
  · intro other runner at_
    by_cases own : other = thread
    · subst own
      simp only [lockRunner, places_goTo, Function.update_self, Place.found.injEq] at at_
      subst at_
      exact fun inHeld => nobody other (.inl inHeld)
    · simp only [lockRunner, places_goTo, Function.update_of_ne own] at at_
      exact owned.apart at_

private theorem Owned.handOut (owned : Owned pool) {index : Nat}
    (found : pool.places thread = .found index) : Owned (pool.handOut thread index) := by
  have holds (other : τ) (runner : Nat) :
      (pool.handOut thread index).Holds other runner ↔ pool.Holds other runner := by
    unfold Holds RunnerPool.handOut
    by_cases own : other = thread
    · subst own
      simp [found, or_comm, eq_comm]
    · simp [own]
  constructor
  · intro runner
    simp only [holds]
    exact owned.locked
  · intro runner first second firstHolds secondHolds
    exact owned.unique ((holds _ _).mp firstHolds) ((holds _ _).mp secondHolds)
  · intro other
    by_cases own : other = thread
    · subst own
      simp only [RunnerPool.handOut, Function.update_self, List.nodup_cons]
      exact ⟨owned.apart found, owned.nodup other⟩
    · simp only [RunnerPool.handOut, Function.update_of_ne own]
      exact owned.nodup other
  · intro other runner at_
    by_cases own : other = thread
    · subst own
      simp [RunnerPool.handOut] at at_
    · simp only [RunnerPool.handOut, places_release, Function.update_of_ne own] at at_
      simp only [RunnerPool.handOut, Function.update_of_ne own]
      exact owned.apart at_

omit [DecidableEq τ] in
private theorem freeRunners_update {index : Nat} (below : index < pool.size) (locked : Bool) :
    count (Finset.range pool.size) (fun locked => !locked)
        (Function.update pool.locked index locked) + (!pool.locked index).toNat =
      pool.freeRunners + (!locked).toNat :=
  count_update (Finset.mem_range.mpr below) locked

omit [DecidableEq τ] in
private theorem freeRunners_unlock (pool : RunnerPool τ) (index : Nat) :
    count (Finset.range pool.size) (fun locked => !locked)
        (Function.update pool.locked index false) ≤ pool.freeRunners + 1 := by
  by_cases below : index < pool.size
  · have changed := freeRunners_update below false
    simp only [Bool.not_false, Bool.toNat_true] at changed
    omega
  · have same : count (Finset.range pool.size) (fun locked => !locked)
        (Function.update pool.locked index false) = pool.freeRunners :=
      count_update_of_notMem (mt Finset.mem_range.mp below) false
    omega

variable [Fintype τ]

omit [Fintype τ] in
private theorem notifyOne_some (pool : RunnerPool τ) (other : τ) :
    pool.notifyOne (some other) = pool.goTo other .notified := rfl

private theorem releasing_goTo (pool : RunnerPool τ) (thread : τ) (place : Place) :
    (pool.goTo thread place).releasing + (pool.places thread).isReleasing.toNat =
      pool.releasing + place.isReleasing.toNat :=
  count_update (Finset.mem_univ thread) place

private theorem scanners_goTo (pool : RunnerPool τ) (thread : τ) (place : Place) :
    (pool.goTo thread place).scanners + (pool.places thread).isScanner.toNat =
      pool.scanners + place.isScanner.toNat :=
  count_update (Finset.mem_univ thread) place

omit [DecidableEq τ] in
/-- Steps that put nobody to sleep and free no more runners than threads that take care of
them. -/
private theorem Roused.keep (roused : Roused pool) (size : after.size = pool.size)
    (created : ∀ index, pool.created index = true → after.created index = true)
    (sleeps : (∃ thread, after.places thread = .sleeping) →
      ∃ thread, pool.places thread = .sleeping)
    (counts : 0 < pool.size → after.freeRunners + pool.releasing + pool.scanners ≤
      pool.freeRunners + after.releasing + after.scanners) : Roused after := by
  intro sleeping
  obtain ⟨some, exist, enough⟩ := roused (sleeps sleeping)
  have enough := counts some
  refine ⟨size ▸ some, fun index below => ?_, by omega⟩
  rw [size] at below
  exact created index (exist index below)

private theorem Roused.goTo (roused : Roused pool) {place : Place} (awake : place ≠ .sleeping)
    (counts : (pool.places thread).isReleasing.toNat + (pool.places thread).isScanner.toNat ≤
      place.isReleasing.toNat + place.isScanner.toNat) : Roused (pool.goTo thread place) := by
  have releasing := releasing_goTo pool thread place
  have scanners := scanners_goTo pool thread place
  have free : (pool.goTo thread place).freeRunners = pool.freeRunners := rfl
  exact roused.keep rfl (fun _ exists_ => exists_) (sleeping_of_goTo awake)
    fun _ => by omega

private theorem Valid.goTo (valid : Valid pool) {place : Place}
    (before : (pool.places thread).hasMutex =
    false) (unlocks : ∀ index, pool.places thread ≠ .unlocked index)
    (mutex : place.hasMutex = false) (awake : place ≠ .sleeping)
    (counts : (pool.places thread).isReleasing.toNat + (pool.places thread).isScanner.toNat ≤
      place.isReleasing.toNat + place.isScanner.toNat)
    (unlocked : ∀ index, place ≠ .unlocked index) : Valid (pool.goTo thread place) := by
  have founds (other : τ) (index : Nat) : (pool.goTo thread place).places other = .found index ↔
      pool.places other = .found index := by
    apply goTo_eq_iff other
    · rintro rfl
      cases mutex
    · intro found
      rw [found] at before
      cases before
  have scans (other : τ) (index : Nat) :
      (pool.goTo thread place).places other = .scanning index ↔
        pool.places other = .scanning index := by
    apply goTo_eq_iff other
    · rintro rfl
      cases mutex
    · intro scanning
      rw [scanning] at before
      cases before
  exact {
    owned := valid.owned.keep rfl rfl founds
    inside := valid.inside.goTo (by rw [mutex, before])
    existing := valid.existing
    scanned := valid.scanned.keep rfl rfl (fun _ => .inl) (fun other index => (scans other index).mp)
      fun other index => (goTo_eq_iff other (unlocked index) (unlocks index)).mpr
    roused := valid.roused.goTo awake counts }

private theorem Valid.acquire (valid : Valid pool) {place : Place} (has : place.hasMutex = true)
    (found : ∀ index, place ≠ .found index) (first : ∀ index, place = .scanning index → index = 0)
    (counts : (pool.places thread).isReleasing.toNat + (pool.places thread).isScanner.toNat ≤
      place.isReleasing.toNat + place.isScanner.toNat) : Valid (pool.acquire thread place) := by
  rcases acquire_eq pool thread place with same | ⟨free, same⟩
  · rw [same]
    exact valid
  rw [same]
  have without (other : τ) : (pool.places other).hasMutex = false := by
    rw [Bool.eq_false_iff]
    intro otherHas
    rw [(valid.inside other).mp otherHas] at free
    cases free
  have awake : place ≠ .sleeping := by
    rintro rfl
    cases has
  have roused := valid.roused.goTo awake counts
  refine ⟨valid.owned.keep rfl rfl fun other index => ?_, valid.inside.acquire free has,
    valid.existing, fun other index scanning => ?_, roused⟩
  · apply goTo_eq_iff other (found index)
    intro at_
    have no := without thread
    rw [at_] at no
    cases no
  · rw [places_goTo] at scanning
    rcases update_cases scanning with ⟨rfl, now⟩ | ⟨_, was⟩
    · rw [first index now.symm]
      exact ⟨by omega, fun passed below => absurd below (Nat.not_lt_zero _)⟩
    · have no := without other
      rw [was] at no
      cases no

omit [Fintype τ] in
private theorem not_scanning_release (inside : Inside pool)
    (has : (pool.places thread).hasMutex = true) {place : Place}
    (without : place.hasMutex = false) (other : τ) (index : Nat) :
    (pool.release thread place).places other ≠ .scanning index := by
  intro scanning
  have otherHas : ((pool.release thread place).places other).hasMutex = true := by
    rw [scanning]
    rfl
  cases ((inside.release has without) other).mp otherHas

private theorem Valid.leave (valid : Valid pool) (signalled : pool.places thread = .signalled) :
    Valid (pool.release thread .outside) where
  owned := valid.owned.keep rfl rfl fun other index =>
    goTo_eq_iff other nofun (by rw [signalled]; exact nofun)
  inside := valid.inside.release (by rw [signalled]; rfl) rfl
  existing := valid.existing
  scanned := .of_none (not_scanning_release valid.inside (by rw [signalled]; rfl) rfl)
  roused := valid.roused.goTo nofun (by rw [signalled]; decide)

omit [DecidableEq τ] in
/-- The runners a scan has passed and the busy last one: the free ones are about to be
signalled. -/
private theorem Valid.free_le_releasing (valid : Valid pool) {index : Nat}
    (scanning : pool.places thread = .scanning index) (busy : pool.locked index = true)
    (last : index + 1 = pool.size) : pool.freeRunners ≤ pool.releasing := by
  obtain ⟨_, passed⟩ := valid.scanned thread index scanning
  let runnerOf : Place → Nat
    | .unlocked runner => runner
    | _ => 0
  apply count_le_of_images fun other => runnerOf (pool.places other)
  intro runner below free
  rw [Finset.mem_range] at below
  rw [Bool.not_eq_true'] at free
  have before : runner < index := by
    by_contra notBefore
    have same : runner = index := by omega
    rw [same, busy] at free
    cases free
  obtain ⟨other, unlocked⟩ := (passed runner before).2 free
  refine ⟨other, Finset.mem_univ other, ?_, ?_⟩
  · rw [unlocked]
    rfl
  · simp only [unlocked, runnerOf]

omit [DecidableEq τ] in
private theorem Valid.created_of_busy (valid : Valid pool) {index : Nat}
    (scanning : pool.places thread = .scanning index) (busy : pool.locked index = true)
    {runner : Nat} (below : runner < index + 1) : pool.created runner = true := by
  rcases Nat.lt_succ_iff_lt_or_eq.mp below with passed | rfl
  · exact ((valid.scanned thread index scanning).2 runner passed).1
  · obtain ⟨other, held | found⟩ := valid.owned.locked.mp busy
    · exact valid.existing held
    · have same : other = thread := by
        apply valid.inside.unique
        · rw [scanning]
          rfl
        · rw [found]
          rfl
      rw [same, scanning] at found
      cases found

private theorem Valid.sleep (valid : Valid pool) {index : Nat}
    (scanning : pool.places thread = .scanning index) (busy : pool.locked index = true)
    (last : index + 1 = pool.size) : Valid (pool.release thread .sleeping) where
  owned := valid.owned.keep rfl rfl fun other runner =>
    goTo_eq_iff other nofun (by rw [scanning]; exact nofun)
  inside := valid.inside.release (by rw [scanning]; rfl) rfl
  existing := valid.existing
  scanned := .of_none (not_scanning_release valid.inside (by rw [scanning]; rfl) rfl)
  roused := by
    have free := valid.free_le_releasing scanning busy last
    have releasing := releasing_goTo pool thread .sleeping
    rw [scanning] at releasing
    refine fun _ => ⟨by show 0 < pool.size; omega,
      fun runner below => valid.created_of_busy scanning busy (last ▸ below), ?_⟩
    show pool.freeRunners ≤
      (pool.goTo thread .sleeping).releasing + (pool.goTo thread .sleeping).scanners
    simp only [Place.isReleasing, Bool.toNat_false] at releasing
    omega

private theorem Valid.next (valid : Valid pool) {index : Nat}
    (scanning : pool.places thread = .scanning index) (busy : pool.locked index = true)
    (more : index + 1 ≠ pool.size) : Valid (pool.goTo thread (.scanning (index + 1))) where
  owned := valid.owned.keep rfl rfl fun other runner =>
    goTo_eq_iff other nofun (by rw [scanning]; exact nofun)
  inside := valid.inside.goTo (by rw [scanning]; rfl)
  existing := valid.existing
  scanned := by
    obtain ⟨bound, passed⟩ := valid.scanned thread index scanning
    intro other reached at_
    have inside : Inside (pool.goTo thread (.scanning (index + 1))) :=
      valid.inside.goTo (by rw [scanning]; rfl)
    have same : other = thread := by
      apply inside.unique
      · rw [places_goTo, Function.update_self]
        rfl
      · rw [at_]
        rfl
    subst same
    rw [places_goTo, Function.update_self, Place.scanning.injEq] at at_
    subst at_
    refine ⟨by show index + 1 < pool.size ∨ pool.size = 0; omega, fun runner below =>
      ⟨valid.created_of_busy scanning busy below, fun free => ?_⟩⟩
    have before : runner < index := by
      by_contra notBefore
      have same : runner = index := by omega
      rw [same] at free
      cases busy.symm.trans free
    obtain ⟨owner, unlocked⟩ := (passed runner before).2 free
    refine ⟨owner, (goTo_eq_iff owner ?_ ?_).mpr unlocked⟩
    · exact nofun
    · rw [scanning]
      exact nofun
  roused := valid.roused.goTo nofun (by rw [scanning]; exact Nat.le_refl _)

private theorem Valid.lockRunner (valid : Valid pool) {index : Nat}
    (scanning : pool.places thread = .scanning index) (free : pool.locked index = false) :
    Valid (pool.lockRunner thread index) where
  owned := valid.owned.take free (by rw [scanning]; exact nofun)
  inside := valid.inside.goTo (by rw [scanning]; rfl)
  existing := valid.existing
  scanned := by
    apply Scanned.of_none
    intro other runner at_
    have inside : Inside (pool.goTo thread (.found index)) :=
      valid.inside.goTo (by rw [scanning]; rfl)
    change (pool.goTo thread (.found index)).places other = .scanning runner at at_
    have same : other = thread := by
      apply inside.unique
      · rw [places_goTo, Function.update_self]
        rfl
      · rw [at_]
        rfl
    rw [same, places_goTo, Function.update_self] at at_
    cases at_
  roused := by
    have releasing := releasing_goTo pool thread (.found index)
    have scanners := scanners_goTo pool thread (.found index)
    rw [scanning] at releasing scanners
    simp only [Place.isReleasing, Place.isScanner, Bool.toNat_false, Bool.toNat_true]
      at releasing scanners
    have sleeps : (∃ other, (pool.lockRunner thread index).places other = .sleeping) →
        ∃ other, pool.places other = .sleeping := sleeping_of_goTo nofun
    refine valid.roused.keep rfl (fun _ exists_ => exists_) sleeps fun some => ?_
    have below : index < pool.size := by
      rcases (valid.scanned thread index scanning).1 with below | empty
      · exact below
      · omega
    have fewer := freeRunners_update below true
    simp only [free, Bool.not_false, Bool.not_true, Bool.toNat_true, Bool.toNat_false] at fewer
    show count (Finset.range pool.size) (fun locked => !locked)
        (Function.update pool.locked index true) + pool.releasing + pool.scanners ≤
      pool.freeRunners + (pool.goTo thread (.found index)).releasing +
        (pool.goTo thread (.found index)).scanners
    omega

private theorem Valid.tryRunner (valid : Valid pool) {index : Nat}
    (scanning : pool.places thread = .scanning index) : Valid (pool.tryRunner thread index) := by
  unfold RunnerPool.tryRunner
  split
  · next busy =>
    split
    · next last => exact valid.sleep scanning busy last
    · next more => exact valid.next scanning busy more
  · next free => exact valid.lockRunner scanning (Bool.not_eq_true _ ▸ free)

private theorem Valid.handOut (valid : Valid pool) {index : Nat}
    (found : pool.places thread = .found index) : Valid (pool.handOut thread index) where
  owned := valid.owned.handOut found
  inside := valid.inside.release (by rw [found]; rfl) rfl
  existing := by
    intro other runner held
    by_cases same : runner = index
    · subst same
      exact Function.update_self ..
    · show Function.update pool.created index true runner = true
      rw [Function.update_of_ne same]
      by_cases own : other = thread
      · subst own
        simp only [RunnerPool.handOut, Function.update_self, List.mem_cons, same,
          false_or] at held
        exact valid.existing held
      · simp only [RunnerPool.handOut, Function.update_of_ne own] at held
        exact valid.existing held
  scanned := .of_none (not_scanning_release valid.inside (by rw [found]; rfl) rfl)
  roused := by
    have moved : Roused (pool.release thread .outside) :=
      valid.roused.goTo nofun (by rw [found]; exact Nat.le_refl _)
    refine moved.keep rfl (fun runner exists_ => ?_) id fun _ => Nat.le_refl _
    by_cases same : runner = index
    · subst same
      exact Function.update_self ..
    · exact (Function.update_of_ne same ..).trans exists_

private theorem Valid.cloneFailed (valid : Valid pool) {index : Nat}
    (found : pool.places thread = .found index) (missing : pool.created index = false) :
    Valid (pool.cloneFailed thread index) where
  owned := by
    have away (other : τ) (runner : Nat) :
        (pool.cloneFailed thread index).places other = .found runner ↔
          pool.places other = .found runner ∧ other ≠ thread := by
      unfold RunnerPool.cloneFailed
      by_cases own : other = thread
      · subst own
        simp
      · simp [own]
    refine valid.owned.drop rfl (fun other runner => ?_) valid.owned.nodup fun at_ =>
      valid.owned.apart ((away _ _).mp at_).1
    have same : (pool.cloneFailed thread index).held = pool.held := rfl
    unfold Holds
    rw [same, away]
    constructor
    · rintro (held | ⟨at_, other⟩)
      · refine ⟨.inl held, ?_⟩
        rintro rfl
        rw [valid.existing held] at missing
        cases missing
      · refine ⟨.inr at_, ?_⟩
        rintro rfl
        exact other (valid.owned.unique (.inr at_) (.inr found))
    · rintro ⟨held | at_, different⟩
      · exact .inl held
      · refine .inr ⟨at_, ?_⟩
        rintro rfl
        rw [found, Place.found.injEq] at at_
        exact different at_.symm
  inside := valid.inside.release (by rw [found]; rfl) rfl
  existing := valid.existing
  scanned := .of_none (not_scanning_release valid.inside (by rw [found]; rfl) rfl)
  roused := by
    have sleeps : (∃ other, (pool.cloneFailed thread index).places other = .sleeping) →
        ∃ other, pool.places other = .sleeping := sleeping_of_goTo nofun
    have moved : Roused (pool.release thread .outside) :=
      valid.roused.goTo nofun (by rw [found]; exact Nat.le_refl _)
    intro sleeping
    obtain ⟨some, exist, enough⟩ := moved sleeping
    refine ⟨some, exist, ?_⟩
    have beyond : index ∉ Finset.range pool.size := by
      rw [Finset.mem_range]
      intro below
      have exists_ := exist index below
      rw [show (pool.release thread .outside).created = pool.created from rfl, missing] at exists_
      cases exists_
    have same : (pool.cloneFailed thread index).freeRunners = pool.freeRunners :=
      count_update_of_notMem beyond false
    rw [same]
    exact enough

private theorem Valid.destroy (valid : Valid pool) (outside : pool.places thread = .outside)
    {index : Nat}
    (held : index ∈ pool.held thread) : Valid (pool.destroy thread index) where
  owned := by
    have away (other : τ) (runner : Nat) :
        (pool.destroy thread index).places other = .found runner ↔
          pool.places other = .found runner :=
      goTo_eq_iff other nofun (by rw [outside]; exact nofun)
    have rest (other : τ) (runner : Nat) : runner ∈ (pool.destroy thread index).held other ↔
        runner ∈ pool.held other ∧ (other = thread → runner ≠ index) := by
      unfold RunnerPool.destroy
      by_cases own : other = thread
      · subst own
        simp [(valid.owned.nodup other).mem_erase_iff, and_comm]
      · simp [own]
    refine valid.owned.drop rfl (fun other runner => ?_) (fun other => ?_) fun at_ inHeld =>
      valid.owned.apart ((away _ _).mp at_) ((rest _ _).mp inHeld).1
    · unfold Holds
      rw [rest, away]
      constructor
      · rintro (⟨still, different⟩ | at_)
        · refine ⟨.inl still, ?_⟩
          rintro rfl
          exact different (valid.owned.unique (.inl still) (.inl held)) rfl
        · refine ⟨.inr at_, ?_⟩
          rintro rfl
          rw [valid.owned.unique (.inr at_) (.inl held), outside] at at_
          cases at_
      · rintro ⟨still | at_, different⟩
        · exact .inl ⟨still, fun _ => different⟩
        · exact .inr at_
    · unfold RunnerPool.destroy
      by_cases own : other = thread
      · subst own
        simp only [Function.update_self]
        exact (valid.owned.nodup other).erase index
      · simp only [Function.update_of_ne own]
        exact valid.owned.nodup other
  inside := valid.inside.goTo (by rw [outside]; rfl)
  existing := by
    intro other runner inHeld
    unfold RunnerPool.destroy at inHeld
    by_cases own : other = thread
    · subst own
      simp only [Function.update_self] at inHeld
      exact valid.existing (List.mem_of_mem_erase inHeld)
    · simp only [Function.update_of_ne own] at inHeld
      exact valid.existing inHeld
  scanned := by
    have scans (other : τ) (runner : Nat) :
        (pool.destroy thread index).places other = .scanning runner ↔
          pool.places other = .scanning runner :=
      goTo_eq_iff other nofun (by rw [outside]; exact nofun)
    refine valid.scanned.keep rfl rfl (fun runner free => ?_)
      (fun other runner => (scans other runner).mp) fun other runner unlocked => ?_
    · by_cases same : runner = index
      · subst same
        refine .inr ⟨thread, ?_⟩
        show (pool.goTo thread (.unlocked runner)).places thread = _
        rw [places_goTo, Function.update_self]
      · change Function.update pool.locked index false runner = false at free
        rw [Function.update_of_ne same] at free
        exact .inl free
    · show (pool.goTo thread (.unlocked index)).places other = _
      rw [places_goTo, Function.update_of_ne, unlocked]
      rintro rfl
      rw [outside] at unlocked
      cases unlocked
  roused := by
    have moved := releasing_goTo pool thread (.unlocked index)
    have scanners := scanners_goTo pool thread (.unlocked index)
    rw [outside] at moved scanners
    simp only [Place.isReleasing, Place.isScanner, Bool.toNat_false, Bool.toNat_true]
      at moved scanners
    have sleeps : (∃ other, (pool.destroy thread index).places other = .sleeping) →
        ∃ other, pool.places other = .sleeping := sleeping_of_goTo nofun
    refine valid.roused.keep rfl (fun _ exists_ => exists_) sleeps fun _ => ?_
    have more := freeRunners_unlock pool index
    show count (Finset.range pool.size) (fun locked => !locked)
        (Function.update pool.locked index false) + pool.releasing + pool.scanners ≤
      pool.freeRunners + (pool.goTo thread (.unlocked index)).releasing +
        (pool.goTo thread (.unlocked index)).scanners
    omega

private theorem Valid.wake (valid : Valid pool) (sleeping : pool.places thread = .sleeping) :
    Valid (pool.goTo thread .notified) := by
  apply valid.goTo
  · rw [sleeping]
    rfl
  · rw [sleeping]
    exact nofun
  · rfl
  · exact nofun
  · rw [sleeping]
    decide
  · exact nofun

private theorem Valid.notify (valid : Valid pool) {index : Nat}
    (signalling : pool.places thread = .signalling index) {target : Option τ}
    (may : pool.canNotify target = true) :
    Valid ((pool.notifyOne target).goTo thread .signalled) := by
  have at_ : (pool.notifyOne target).places thread = .signalling index := by
    cases target with
    | none => exact signalling
    | some other =>
        have sleeping := of_decide_eq_true may
        rw [notifyOne, places_goTo, Function.update_of_ne, signalling]
        rintro rfl
        rw [signalling] at sleeping
        cases sleeping
  have notified : Valid (pool.notifyOne target) := by
    cases target with
    | none => exact valid
    | some other => exact valid.wake (of_decide_eq_true may)
  have counts : Roused ((pool.notifyOne target).goTo thread .signalled) := by
    intro sleeps
    have releasing := releasing_goTo (pool.notifyOne target) thread .signalled
    have scanners := scanners_goTo (pool.notifyOne target) thread .signalled
    rw [at_] at releasing scanners
    simp only [Place.isReleasing, Place.isScanner, Bool.toNat_false, Bool.toNat_true]
      at releasing scanners
    have before : ∃ other, (pool.notifyOne target).places other = .sleeping :=
      sleeping_of_goTo (by decide) sleeps
    cases target with
    | none =>
        obtain ⟨other, sleeping⟩ := before
        exact absurd sleeping (of_decide_eq_true may other)
    | some other =>
        have sleeping := of_decide_eq_true may
        have woken := scanners_goTo pool other .notified
        have same := releasing_goTo pool other .notified
        rw [sleeping] at woken same
        simp only [Place.isReleasing, Place.isScanner, Bool.toNat_false, Bool.toNat_true]
          at woken same
        obtain ⟨some, exist, enough⟩ := valid.roused ⟨other, sleeping⟩
        refine ⟨some, exist, ?_⟩
        show pool.freeRunners ≤ ((pool.goTo other .notified).goTo thread .signalled).releasing +
          ((pool.goTo other .notified).goTo thread .signalled).scanners
        rw [notifyOne_some] at releasing scanners
        omega
  have founds (other : τ) (runner : Nat) :
      ((pool.notifyOne target).goTo thread .signalled).places other = .found runner ↔
        (pool.notifyOne target).places other = .found runner :=
    goTo_eq_iff other nofun (by rw [at_]; exact nofun)
  have scans (other : τ) (runner : Nat) :
      ((pool.notifyOne target).goTo thread .signalled).places other = .scanning runner ↔
        (pool.notifyOne target).places other = .scanning runner :=
    goTo_eq_iff other nofun (by rw [at_]; exact nofun)
  have unlocks (other : τ) (runner : Nat) :
      ((pool.notifyOne target).goTo thread .signalled).places other = .unlocked runner ↔
        (pool.notifyOne target).places other = .unlocked runner :=
    goTo_eq_iff other nofun (by rw [at_]; exact nofun)
  exact ⟨notified.owned.keep rfl rfl founds, notified.inside.goTo (by rw [at_]; rfl),
    notified.existing, notified.scanned.keep rfl rfl (fun _ => .inl)
      (fun other runner => (scans other runner).mp)
      fun other runner => (unlocks other runner).mpr, counts⟩

private theorem Valid.step (valid : Valid pool) (move : τ × RunnerAction τ) :
    Valid (pool.step move) := by
  obtain ⟨thread, action⟩ := move
  unfold RunnerPool.step
  dsimp only
  split
  · next outside =>
    apply valid.goTo
    · rw [outside]
      rfl
    · rw [outside]
      exact nofun
    · rfl
    · exact nofun
    · rw [outside]
      decide
    · exact nofun
  · next entering =>
    apply valid.acquire rfl
    · intro index
      exact nofun
    · exact fun _ same => (Place.scanning.inj same).symm
    · rw [entering]
      decide
  · next notified =>
    apply valid.acquire rfl
    · intro index
      exact nofun
    · exact fun _ same => (Place.scanning.inj same).symm
    · rw [notified]
      decide
  · next scanning => exact valid.tryRunner scanning
  · next found =>
    unfold RunnerPool.finish
    split
    · next missing => exact valid.cloneFailed found missing.1
    · exact valid.handOut found
  · next sleeping => exact valid.wake sleeping
  · next outside =>
    split
    · next held => exact valid.destroy outside held
    · exact valid
  · next unlocked =>
    apply valid.acquire rfl
    · intro index
      exact nofun
    · intro index
      exact nofun
    · rw [unlocked]
      exact Nat.le_refl _
  · next signalling =>
    split
    · next may => exact valid.notify signalling may
    · exact valid
  · next signalled => exact valid.leave signalled
  · exact valid

private theorem Valid.run (valid : Valid pool) (moves : List (τ × RunnerAction τ)) :
    Valid (pool.run moves) := by
  induction moves generalizing pool with
  | nil => exact valid
  | cons move rest ih => exact ih (valid.step move)

omit [DecidableEq τ] in
private theorem scanners_le_awake (pool : RunnerPool τ) : pool.scanners ≤ pool.awake := by
  apply count_le_of_images id
  intro thread _ scanner
  refine ⟨thread, Finset.mem_univ thread, ?_, rfl⟩
  generalize pool.places thread = place at scanner ⊢
  cases place with
  | entering => rfl
  | scanning index => rfl
  | notified => rfl
  | _ => cases scanner

/-- In every interleaving each runner is held by one thread at most, once, and while a thread
sleeps there are no more free runners than threads that are about to signal or to look. -/
theorem run_exclusive (size : Nat) (moves : List (τ × RunnerAction τ)) :
    let pool := (init size : RunnerPool τ).run moves
    (∀ index thread other, pool.Holds thread index → pool.Holds other index → thread = other) ∧
      (∀ thread, (pool.held thread).Nodup) ∧
      ((∃ thread, pool.places thread = .sleeping) →
        pool.freeRunners ≤ pool.releasing + pool.awake) := by
  intro pool
  have valid : Valid pool := (valid_init size).run moves
  refine ⟨fun index thread other => valid.owned.unique, valid.owned.nodup, fun sleeping => ?_⟩
  obtain ⟨_, _, enough⟩ := valid.roused sleeping
  have more := pool.scanners_le_awake
  omega

end Andromeda.Backend.RunnerPool
