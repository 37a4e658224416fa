import Andromeda.Database.UniqueDelete
import Andromeda.Database.IdentityProperties

/-! Deleting the one object that a query matches deletes all that match, and only then tells that
there were several. -/

set_option autoImplicit false
set_option linter.unusedSectionVars false

namespace Andromeda.Database.Notified

open Andromeda.Library

section

variable {δ ω : Type} [DecidableEq δ] [Zero δ] {codec : Codec δ ω}
  {surroundings : Surroundings δ ω} {world : World δ ω} {log : List Notification}
  {objectClass : TableClass δ ω} {selection : Selection}

private theorem notify_iff {notification : Notification} {Returned : Unit → State δ ω → Prop}
    {Thrown : Exception → State δ ω → Prop} :
    Outcome (notify notification) (world, log) Returned Thrown ↔
      Returned () (world, log ++ [notification]) := Iff.rfl

private theorem eraseLoaded_rows {key : String} : (world.eraseLoaded key).rows = world.rows := by
  unfold World.eraseLoaded
  split
  · rfl
  · rfl

private theorem constructObject_grown (mapped : Mapped world) (unsaved : Unsaved world)
    {id : String}
    {row : Row δ} (there : world.rows (objectClass.name, id) = some row) :
    Outcome (constructObject codec surroundings objectClass id row) world
      (fun pointer final => Mapped final ∧ Grown world final ∧
        RegisteredAt final (objectClass.name, id) pointer)
      (fun _ final => Grown world final) := by
  by_cases readable : ∃ fields, initFields codec row objectClass.fields = .ok fields
  · exact (constructObject_spec mapped unsaved objectClass there readable).mono
      (fun _ _ held => held) fun _ _ => False.elim
  · unfold constructObject
    simp only [Outcome.bind_iff, Outcome.get_iff]
    cases found : world.find (objkey id objectClass.name) with
    | some pointer =>
      have registered := (mapped.find_iff objectClass.plain pointer).mp found
      exact ⟨mapped, Grown.refl world, registered⟩
    | none =>
      cases read : initFields codec row objectClass.fields with
      | ok fields => exact absurd ⟨fields, read⟩ readable
      | error exception =>
        have notes := noted_spec world (surroundings.address world)
          (objectClass.fields.any fun field => field.2.construct.2)
        simp only [Outcome.bind_iff, Outcome.set_iff, Outcome.throw_iff]
        revert notes
        generalize (if (objectClass.fields.any fun field => field.2.construct.2) = true
          then world.notifyModified (surroundings.address world) else world) = noted
        rintro ⟨rows, objects, created, loaded, begun, _⟩
        refine ⟨rows, created, begun, fun _ _ => by rw [objects], ?_⟩
        intro pointer
        rw [loaded, objects]
        constructor
        · exact .inl
        · rintro (member | ⟨none_, some_⟩)
          · exact member
          · rw [none_] at some_
            cases some_

private theorem constructObjects_grown (rows : List (String × Row δ)) {world : World δ ω}
    (mapped : Mapped world) (unsaved : Unsaved world)
    (there : ∀ entry ∈ rows, world.rows (objectClass.name, entry.1) = some entry.2) :
    Outcome (constructObjects codec surroundings objectClass rows) world
      (fun pointers final => Mapped final ∧ Grown world final ∧
        List.Forall₂ (fun entry pointer =>
          RegisteredAt final (objectClass.name, entry.1) pointer) rows pointers)
      (fun _ final => Grown world final) := by
  induction rows generalizing world with
  | nil => exact ⟨mapped, Grown.refl world, .nil⟩
  | cons entry rest ih =>
      unfold constructObjects
      simp only [Outcome.bind_iff, Outcome.pure_iff]
      apply (constructObject_grown mapped unsaved (there entry List.mem_cons_self)).mono
      · rintro pointer middle ⟨middleMapped, grown, registered⟩
        have later : ∀ other ∈ rest, middle.rows (objectClass.name, other.1) = some other.2 := by
          intro other member
          rw [grown.rows]
          exact there other (List.mem_cons_of_mem _ member)
        apply (ih middleMapped (unsaved.of_grown mapped grown) later).mono
        · rintro pointers final ⟨finalMapped, more, all⟩
          exact ⟨finalMapped, grown.trans more, .cons (RegisteredAt.grown registered more) all⟩
        · exact fun _ final more => grown.trans more
      · exact fun _ _ => id

private theorem loadObjectsByQuery_grown (mapped : Mapped world) (unsaved : Unsaved world) :
    Outcome (loadObjectsByQuery codec surroundings objectClass selection) world
      (fun pointers final => Mapped final ∧ Grown world final ∧
        List.Forall₂ (fun entry pointer =>
            RegisteredAt final (objectClass.name, entry.1) pointer)
          (world.select objectClass.name selection) pointers)
      (fun _ final => Grown world final) := by
  unfold loadObjectsByQuery
  simp only [Outcome.bind_iff, Outcome.get_iff, Outcome.ite_iff, Outcome.throw_iff]
  exact ⟨fun _ => Grown.refl world, fun _ => constructObjects_grown _ mapped unsaved
    fun _ => select_spec world objectClass.name selection⟩

private theorem deleteObject_registered (surroundings : Surroundings δ ω) (log : List Notification)
    (mapped : Mapped world) {key : RowKey} {pointer : Nat}
    (registered : RegisteredAt world key pointer) (there : (world.rows key).isSome = true) :
    Outcome (deleteObject surroundings pointer) (world, log)
      (fun _ final => surroundings.deleteFault world key = false ∧ final.1.rows key = none ∧
        final.2 = log ++ [.preDeleted pointer] ++ [.postDeleted pointer])
      (fun _ final => surroundings.deleteFault world key = true ∧
        final.2 = log ++ [.preDeleted pointer]) := by
  obtain ⟨loaded, object, found, rfl⟩ := registered
  have absent : world.created.contains pointer = false := by
    rw [Bool.eq_false_iff]
    intro created
    exact mapped.apart pointer (by simpa using created) loaded
  obtain ⟨row, held⟩ := Option.isSome_iff_exists.mp there
  unfold deleteObject
  simp only [Outcome.bind_iff, Outcome.get_iff, found, notify_iff, absent, Bool.false_eq_true,
    if_false, onFirst_iff, deleteQuery, Outcome.ite_iff, Outcome.throw_iff, held, Outcome.set_iff,
    Outcome.pure_iff]
  constructor
  · exact fun fault => ⟨fault, trivial⟩
  · intro fault
    refine ⟨fun one => absurd rfl one, fun _ => ?_⟩
    refine ⟨Bool.eq_false_iff.mpr fault, ?_, trivial⟩
    rw [eraseLoaded_rows]
    exact Function.update_self ..

/-- The notifications so far. -/
def Noted (log : List Notification) (state : State δ ω) : Prop := log <+: state.2

private theorem deleteObject_noted (pointer : Nat) :
    Keeps (Noted (δ := δ) (ω := ω) log) (deleteObject surroundings pointer) := by
  rintro ⟨world, notes⟩ (before : log <+: notes)
  unfold deleteObject
  simp only [Outcome.bind_iff, Outcome.get_iff]
  cases world.objects pointer with
  | none => exact before
  | some object =>
    simp only [Outcome.bind_iff, notify_iff, Outcome.ite_iff, onFirst_iff, Outcome.throw_iff,
      Outcome.set_iff, Outcome.modify_iff]
    have pre : log <+: notes ++ [.preDeleted pointer] := before.trans (List.prefix_append ..)
    have post : log <+: notes ++ [.preDeleted pointer] ++ [.postDeleted pointer] :=
      pre.trans (List.prefix_append ..)
    refine ⟨fun _ => post, fun _ => ?_⟩
    apply (Outcome.ran _ _).mono
    · exact fun _ _ _ => ⟨fun _ => pre, fun _ => post⟩
    · exact fun _ _ _ => pre

private theorem deleteObjects_notified (surroundings : Surroundings δ ω) (log : List Notification)
    (rest : List Nat) (mapped : Mapped world) {key : RowKey} {pointer : Nat}
    (registered : RegisteredAt world key pointer) (there : (world.rows key).isSome = true) :
    Outcome (forM (pointer :: rest) (deleteObject surroundings) : Exec δ ω PUnit) (world, log)
      (fun _ final => final.2 ≠ log) (fun _ final => final.2 ≠ log) := by
  have longer {final : List Notification} (more : log ++ [.preDeleted pointer] <+: final) :
      final ≠ log := by
    rintro rfl
    have length := more.length_le
    simp only [List.length_append, List.length_singleton] at length
    omega
  rw [List.forM_cons, Outcome.bind_iff]
  apply (deleteObject_registered surroundings log mapped registered there).mono
  · rintro _ ⟨middle, notes⟩ ⟨_, _, rfl⟩
    have start : Noted (log ++ [.preDeleted pointer])
        (middle, log ++ [.preDeleted pointer] ++ [.postDeleted pointer]) := List.prefix_append ..
    exact (keeps_forM deleteObject_noted _ start).mono (fun _ _ => longer) fun _ _ => longer
  · rintro _ final ⟨_, same⟩
    exact longer (same ▸ List.prefix_rfl)

private theorem untouched_of_grown {final : World δ ω} (grown : Grown world final) :
    Untouched (world, log) (final, log) where
  rows := grown.rows
  objects := grown.kept
  created pointer member := by
    rw [grown.created]
    exact member
  loaded pointer member := (grown.loaded pointer).mpr (.inl member)
  notified := rfl

private theorem deletes_iff (mapped : Mapped world) {key : (String × Row δ) → RowKey}
    {matching : List (String × Row δ)} {pointers : List Nat} {before : State δ ω}
    (notes : before.2 = log)
    (registered : List.Forall₂ (fun entry pointer => RegisteredAt world (key entry) pointer)
      matching pointers)
    (there : ∀ entry ∈ matching, (world.rows (key entry)).isSome = true) :
    Outcome (forM pointers (deleteObject surroundings) : Exec δ ω PUnit) (world, log)
        (fun _ final => Outcome (if pointers.length > 1 then throw .database
            else pure (pointers.length != 0) : Exec δ ω Bool) final
          (fun found final => (found = true ↔ matching.length = 1) ∧
            ∀ entry ∈ matching, final.1.rows (key entry) = none)
          (fun _ final => Untouched before final))
        (fun _ final => Untouched before final) ↔
      matching.length ≤ 1 ∧
        ∀ entry ∈ matching, surroundings.deleteFault world (key entry) = false := by
  cases registered with
  | nil => simp
  | @cons entry pointer matching pointers here rest =>
    have row := there entry List.mem_cons_self
    cases rest with
    | nil =>
      have deleted := deleteObject_registered surroundings log mapped here row
      simp only [List.forM_cons, List.forM_nil, Outcome.bind_iff, Outcome.pure_iff,
        List.length_singleton, Nat.lt_irrefl, if_false, List.mem_singleton, forall_eq, Nat.le_refl,
        true_and]
      constructor
      · intro atomic
        cases ran : deleteObject surroundings pointer (world, log) with
        | ok value final => exact (deleted.of_ok ran).1
        | error exception final =>
          have kept := (atomic.of_error ran).notified
          rw [(deleted.of_error ran).2, notes] at kept
          simp at kept
      · intro allowed
        apply deleted.mono
        · rintro _ final ⟨_, gone, _⟩
          exact ⟨by simp, gone⟩
        · rintro _ final ⟨fault, _⟩
          rw [allowed] at fault
          cases fault
    | @cons _ second _ others _ _ =>
      have notified := deleteObjects_notified surroundings log (second :: others) mapped here row
      constructor
      · intro atomic
        cases ran : (forM (pointer :: second :: others) (deleteObject surroundings) :
            Exec δ ω PUnit) (world, log) with
        | ok value final =>
          have thrown := atomic.of_ok ran
          rw [if_pos (by simp)] at thrown
          exact absurd (thrown.notified.trans notes) (notified.of_ok ran)
        | error exception final =>
          exact absurd ((atomic.of_error ran).notified.trans notes) (notified.of_error ran)
      · rintro ⟨few, _⟩
        simp at few

/-- A deletion of the only object that a query matches is done as a whole or not at all exactly if
the load throws, or at most one row matches and can be deleted. -/
theorem tryDeleteUniqueByQuery_atomic_iff (codec : Codec δ ω) (surroundings : Surroundings δ ω)
    (objectClass : TableClass δ ω) (selection : Selection) (world : World δ ω)
    (log : List Notification) (mapped : Mapped world) (unsaved : Unsaved world) :
    Atomic codec surroundings objectClass selection (world, log) ↔
      Deletable codec surroundings objectClass selection world := by
  have load := @loadObjectsByQuery_grown _ _ _ _ codec surroundings world objectClass selection
    mapped unsaved
  unfold Atomic Deletable tryDeleteUniqueByQuery deleteObjectsByQuery
  simp only [Outcome.bind_iff, onFirst_iff, Outcome.pure_iff]
  cases ran : loadObjectsByQuery codec surroundings objectClass selection world with
  | error exception final =>
    have grown := load.of_error ran
    simp only [Outcome, ran]
    exact iff_of_true (untouched_of_grown grown) trivial
  | ok pointers loaded =>
    obtain ⟨loadedMapped, grown, registered⟩ := load.of_ok ran
    have there : ∀ entry ∈ world.select objectClass.name selection,
        (loaded.rows (objectClass.name, entry.1)).isSome = true := by
      intro entry member
      rw [grown.rows, select_spec world objectClass.name selection member]
      rfl
    have deletes := @deletes_iff _ _ _ _ surroundings loaded log loadedMapped
      (fun entry => (objectClass.name, entry.1)) _ _ (world, log) rfl registered there
    simp only [Outcome, ran] at deletes ⊢
    exact deletes

end

open Scenario

/-- Two rows. -/
def twoRows : Contents Int := fun key =>
  if key = ("settings", "a") ∨ key = ("settings", "b") then some fun _ => .null else none

theorem atomic_single :
    Atomic codec calm table ⟨["a"], by decide⟩ (World.opened twoRows, []) ↔
      Deletable codec calm table ⟨["a"], by decide⟩ (World.opened twoRows) :=
  tryDeleteUniqueByQuery_atomic_iff codec calm table ⟨["a"], by decide⟩ (World.opened twoRows) []
    (Tracked.opened_right twoRows).identified.mapped
    (Tracked.opened_right twoRows).identified.unsaved

/-- The notifications of a deletion that threw. -/
def thrownNotes (result : EStateM.Result Exception (State Int Json) Bool) :
    Option (List Notification) :=
  match result with
  | .ok _ _ => none
  | .error _ final => some final.2

/-- Where two rows match, both are deleted before that is refused. -/
theorem two_not_atomic :
    thrownNotes (tryDeleteUniqueByQuery codec calm table ⟨["a", "b"], by decide⟩
        (World.opened twoRows, [])) =
      some [.preDeleted 1, .postDeleted 1, .preDeleted 2, .postDeleted 2] ∧
      ¬ Atomic codec calm table ⟨["a", "b"], by decide⟩ (World.opened twoRows, []) := by
  have notes : thrownNotes (tryDeleteUniqueByQuery codec calm table ⟨["a", "b"], by decide⟩
      (World.opened twoRows, [])) =
      some [.preDeleted 1, .postDeleted 1, .preDeleted 2, .postDeleted 2] := by
    decide +kernel
  refine ⟨notes, fun atomic => ?_⟩
  unfold thrownNotes at notes
  split at notes
  · cases notes
  · rename_i exception final ran
    have kept : final.2 = [] := (atomic.of_error ran).notified
    rw [kept] at notes
    cases notes

end Andromeda.Database.Notified
