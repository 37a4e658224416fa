import Andromeda.Database.Scenario

/-! A save that throws: queries change the rows only, and the transaction takes them back if
it handles the exception. -/

set_option autoImplicit false

namespace Andromeda.Database

open Andromeda.Library

section

variable {δ ω : Type} [DecidableEq δ] {codec : Codec δ ω} {env : Env δ ω}

/-- Only rows have changed. -/
def RowsOnly (before after : World δ ω) : Prop := after = { before with rows := after.rows }

omit [DecidableEq δ] in
theorem RowsOnly.trans {first second third : World δ ω} (left : RowsOnly first second)
    (right : RowsOnly second third) : RowsOnly first third := by
  unfold RowsOnly at *
  rw [left] at right
  exact right

omit [DecidableEq δ] in
/-- A query inside the transaction changes rows, or throws and changes nothing. -/
theorem rowQuery_spec {world : World δ ω} {sent : Query δ} (notBegin : sent ≠ .begin)
    (notCommit : sent ≠ .commit) :
    Outcome (query codec env sent) world (fun _ final => RowsOnly world final)
      (fun _ final => final = world) := by
  simp only [query, Outcome.bind_iff, Outcome.get_iff]
  cases env.fault world sent with
  | true => exact rfl
  | false =>
      rw [if_neg (by simp)]
      cases sent with
      | begin => exact absurd rfl notBegin
      | commit => exact absurd rfl notCommit
      | update key sets =>
          dsimp only
          cases world.rows key with
          | none => exact rfl
          | some row =>
              simp only [Outcome.bind_iff, Outcome.set_iff, Outcome.pure_iff]
              exact rfl
      | insert table columns =>
          dsimp only
          split
          · simp only [Outcome.ite_iff, Outcome.throw_iff, Outcome.bind_iff, Outcome.set_iff,
              Outcome.pure_iff]
            exact ⟨fun _ => trivial, fun _ => rfl⟩
          · exact rfl

omit [DecidableEq δ] in
private theorem orThrow_spec {α : Type} (result : Except Exception α) (world : World δ ω) :
    Outcome (orThrow result) world (fun value final => final = world ∧ result = .ok value)
      (fun _ final => final = world) := by
  cases result with
  | ok value => exact ⟨rfl, rfl⟩
  | error exception => exact rfl

/-- The query of a save changes rows, or throws and changes nothing but rows. -/
theorem saveQuery_rows (pointer : Nat) (world : World δ ω) :
    Outcome (saveQuery codec env pointer) world (fun _ final => RowsOnly world final)
      (fun _ final => RowsOnly world final) := by
  simp only [saveQuery, Outcome.bind_iff, Outcome.get_iff]
  cases world.objects pointer with
  | none => exact rfl
  | some object =>
      dsimp only
      have checked (sent : Query δ) (notBegin : sent ≠ .begin) (notCommit : sent ≠ .commit) :
          Outcome (query codec env sent >>= fun changed =>
              if changed ≠ 1 then throw .database else pure ()) world
            (fun _ final => RowsOnly world final) (fun _ final => RowsOnly world final) := by
        rw [Outcome.bind_iff]
        refine (rowQuery_spec notBegin notCommit).mono ?_ ?_
        · intro changed final rows
          rw [Outcome.ite_iff]
          exact ⟨fun _ => rows, fun _ => rows⟩
        · rintro _ final rfl
          exact rfl
      rw [Outcome.ite_iff]
      constructor
      · intro _
        rw [insertObjectQuery, Outcome.bind_iff]
        refine (orThrow_spec _ world).mono ?_ ?_
        · rintro values final ⟨rfl, _⟩
          exact checked _ (by simp) (by simp)
        · rintro _ final rfl
          exact rfl
      · intro _
        rw [updateObjectQuery, Outcome.bind_iff]
        refine (orThrow_spec _ world).mono ?_ ?_
        · rintro values final ⟨rfl, _⟩
          rw [Outcome.ite_iff]
          exact ⟨fun _ => rfl, fun _ => checked _ (by simp) (by simp)⟩
        · rintro _ final rfl
          exact rfl

private theorem keeps_saveQuery (before : World δ ω) (pointer : Nat) :
    Keeps (RowsOnly before) (saveQuery codec env pointer) := by
  intro world rows
  exact (saveQuery_rows pointer world).mono (fun _ _ => rows.trans) fun _ _ => rows.trans

private theorem keeps_saveAll (before : World δ ω) :
    Keeps (RowsOnly before) (saveAll codec env) := by
  refine keeps_get_bind fun world _ => keeps_bind (keeps_forM fun pointer =>
    keeps_saveQuery before pointer) fun _ => keeps_get_bind fun world _ =>
      keeps_forM fun pointer => keeps_get_bind fun world _ => ?_
  exact keeps_ite (fun _ => keeps_saveQuery before pointer) fun _ => keeps_pure _

omit [DecidableEq δ] in
private theorem query_thrown (sent : Query δ) (world : World δ ω) :
    Outcome (query codec env sent) world (fun _ _ => True)
      (fun exception _ => exception = .database) := by
  simp only [query, Outcome.bind_iff, Outcome.get_iff, Outcome.ite_iff, Outcome.throw_iff]
  refine ⟨fun _ => trivial, fun _ => ?_⟩
  cases sent with
  | begin => exact trivial
  | commit => exact trivial
  | update key sets =>
      dsimp only
      cases world.rows key with
      | none => exact trivial
      | some row => exact trivial
  | insert table columns =>
      dsimp only
      split
      · rw [Outcome.ite_iff]
        exact ⟨fun _ => rfl, fun _ => trivial⟩
      · exact rfl

/-- The query of a save throws the exception of another library exactly if that is what the
conversion of the fields to save throws. -/
private theorem saveQuery_other (pointer : Nat) (world : World δ ω) :
    (∃ stop, saveQuery codec env pointer world = .error .other stop) ↔
      ∃ object, world.objects pointer = some object ∧
        dbValues codec object.modifiedFields = .error .other := by
  have checked (sent : Query δ) : Outcome (query codec env sent >>= fun changed =>
      if changed ≠ 1 then throw .database else pure ()) world (fun _ _ => True)
        (fun exception _ => exception = .database) := by
    rw [Outcome.bind_iff]
    refine (query_thrown sent world).mono ?_ fun _ _ => id
    intro changed final _
    rw [Outcome.ite_iff]
    exact ⟨fun _ => rfl, fun _ => trivial⟩
  constructor
  · rintro ⟨stop, thrown⟩
    have outcome : Outcome (saveQuery codec env pointer) world (fun _ _ => True)
        (fun exception _ => exception = .other → ∃ object,
          world.objects pointer = some object ∧
            dbValues codec object.modifiedFields = .error .other) := by
      simp only [saveQuery, Outcome.bind_iff, Outcome.get_iff]
      cases found : world.objects pointer with
      | none => exact trivial
      | some object =>
          dsimp only
          rw [Outcome.ite_iff]
          cases converted : dbValues codec object.modifiedFields with
          | error exception =>
              simp only [insertObjectQuery, updateObjectQuery, converted, orThrow,
                Outcome.bind_iff, Outcome.throw_iff]
              have : exception = .other → ∃ saved, some object = some saved ∧
                  dbValues codec saved.modifiedFields = .error .other := by
                rintro rfl
                exact ⟨object, rfl, converted⟩
              exact ⟨fun _ => this, fun _ => this⟩
          | ok values =>
              simp only [insertObjectQuery, updateObjectQuery, converted, orThrow]
              have never {exception : Exception} (isDatabase : exception = .database) :
                  exception = .other → ∃ saved, some object = some saved ∧
                    dbValues codec saved.modifiedFields = .error .other := by
                rintro rfl
                cases isDatabase
              refine ⟨fun _ => ?_, fun _ => ?_⟩
              · rw [Outcome.bind_iff, Outcome.pure_iff]
                exact (checked _).mono (fun _ _ => id) fun _ _ => never
              · rw [Outcome.bind_iff, Outcome.pure_iff, Outcome.ite_iff]
                exact ⟨fun _ => trivial, fun _ =>
                  (checked _).mono (fun _ _ => id) fun _ _ => never⟩
    exact outcome.of_error thrown rfl
  · rintro ⟨object, found, converted⟩
    refine ⟨world, ?_⟩
    simp only [saveQuery, bind, EStateM.bind, run_get, found,
      insertObjectQuery, updateObjectQuery, converted, orThrow]
    split <;> rfl

private theorem keeps_saveQueries (before : World δ ω) (pointers : List Nat) :
    Keeps (RowsOnly before) (forM pointers (saveQuery codec env) : Exec δ ω PUnit) :=
  keeps_forM fun pointer => keeps_saveQuery before pointer

/-- The objects `SaveObjects` saves, in its order. -/
def World.saveOrder (world : World δ ω) : List Nat :=
  world.created ++ world.modified.filter fun pointer => !world.created.contains pointer

/-- The saves are one loop over the objects, as no query changes the sets. -/
theorem saveAll_eq (world : World δ ω) :
    saveAll codec env world =
      (forM world.saveOrder (saveQuery codec env) : Exec δ ω PUnit) world := by
  have guarded (pointers : List Nat) (middle : World δ ω) (rows : RowsOnly world middle) :
      (forM pointers (fun pointer => do
          if !(← get).created.contains pointer then saveQuery codec env pointer) :
        Exec δ ω PUnit) middle =
      (forM (pointers.filter fun pointer => !world.created.contains pointer)
        (saveQuery codec env) : Exec δ ω PUnit) middle := by
    induction pointers generalizing middle with
    | nil => rfl
    | cons pointer rest ih =>
        have sameCreated : middle.created = world.created := by rw [rows]
        simp only [List.forM_cons, bind, EStateM.bind, run_get, sameCreated, List.filter_cons]
        cases world.created.contains pointer with
        | true => exact ih middle rows
        | false =>
            simp only [Bool.not_false, if_true, List.forM_cons, bind, EStateM.bind]
            cases ran : saveQuery codec env pointer middle with
            | error exception stop => rfl
            | ok value final =>
                exact ih final (((keeps_saveQuery world pointer) middle rows).of_ok ran)
  rw [World.saveOrder, List.forM_append]
  simp only [saveAll, bind, EStateM.bind, run_get]
  cases ran : (forM world.created (saveQuery codec env) : Exec δ ω PUnit) world with
  | error exception stop => rfl
  | ok value middle =>
      have rows : RowsOnly world middle :=
        (keeps_saveQueries world world.created world rfl).of_ok ran
      have sameModified : middle.modified = world.modified := by rw [rows]
      show (forM middle.modified _ : Exec δ ω PUnit) middle = _
      rw [sameModified]
      exact guarded world.modified middle rows

/-- What `SaveObjects` runs between the BEGIN and the end of its transaction. -/
def transactionBody (codec : Codec δ ω) (env : Env δ ω) : Exec δ ω Unit := do
  saveAll codec env
  let _ ← query codec env .commit

/-- The world inside a transaction just begun. -/
def World.inTransaction (world : World δ ω) : World δ ω :=
  { world with begun := some world.rows }

theorem transactionBody_spec (world : World δ ω) :
    Outcome (transactionBody codec env) world
      (fun _ final => final = { world with rows := final.rows, begun := none })
      (fun _ final => RowsOnly world final) := by
  rw [transactionBody, Outcome.bind_iff]
  refine (keeps_saveAll world world rfl).mono ?_ fun _ _ => id
  intro _ saved rows
  simp only [query, Outcome.bind_iff, Outcome.get_iff]
  cases env.fault saved .commit with
  | true => exact rows
  | false =>
      rw [if_neg (by simp)]
      simp only [Outcome.bind_iff, Outcome.set_iff, Outcome.pure_iff]
      rw [rows]

private theorem transactionBody_other (world : World δ ω) :
    (∃ stop, transactionBody codec env world = .error .other stop) ↔
      ∃ stop, saveAll codec env world = .error .other stop := by
  simp only [transactionBody, bind, EStateM.bind]
  cases saveAll codec env world with
  | error exception stop => exact Iff.rfl
  | ok value middle =>
      have outcome : Outcome (query codec env .commit) middle (fun _ _ => True)
          (fun exception _ => exception = .database) := query_thrown .commit middle
      constructor
      · rintro ⟨stop, thrown⟩
        cases ran : query codec env .commit middle with
        | ok value final =>
            simp only [ran] at thrown
            cases thrown
        | error exception final =>
            simp only [ran] at thrown
            cases thrown
            cases outcome.of_error ran
      · rintro ⟨stop, thrown⟩
        cases thrown

/-- No transaction is open, and no field is reached whose conversion makes another library
throw: at every object saved after those before it, the fields to save can be converted, or the
first that cannot throws a database exception. -/
def ConversionsSafe (codec : Codec δ ω) (env : Env δ ω) (world : World δ ω) : Prop :=
  world.begun = none ∧ (env.fault world .begin = false →
    ∀ earlier pointer later reached object,
      world.saveOrder = earlier ++ pointer :: later →
      (forM earlier (saveQuery codec env) : Exec δ ω PUnit) world.inTransaction =
        .ok ⟨⟩ reached →
      world.objects pointer = some object →
      dbValues codec object.modifiedFields ≠ .error .other)

private theorem conversionsSafe_iff (world : World δ ω) (begun : world.begun = none)
    (started : env.fault world .begin = false) :
    ConversionsSafe codec env world ↔
      ¬ ∃ stop, transactionBody codec env world.inTransaction = .error .other stop := by
  rw [transactionBody_other, saveAll_eq, Outcome.forM_thrown_iff]
  have objectsKept {earlier : List Nat} {reached : World δ ω}
      (ran : (forM earlier (saveQuery codec env) : Exec δ ω PUnit) world.inTransaction =
        .ok ⟨⟩ reached) : reached.objects = world.objects := by
    have rows : RowsOnly world.inTransaction reached :=
      (keeps_saveQueries world.inTransaction earlier world.inTransaction rfl).of_ok ran
    rw [rows]
    rfl
  constructor
  · rintro ⟨-, safe⟩ ⟨earlier, pointer, later, reached, stop, split, ran, thrown⟩
    obtain ⟨object, found, failed⟩ := (saveQuery_other pointer reached).mp ⟨stop, thrown⟩
    rw [objectsKept ran] at found
    exact safe started earlier pointer later reached object split ran found failed
  · intro never
    refine ⟨begun, fun _ earlier pointer later reached object split ran found failed => never ?_⟩
    rw [← objectsKept ran] at found
    obtain ⟨stop, thrown⟩ := (saveQuery_other pointer reached).mpr ⟨object, found, failed⟩
    exact ⟨earlier, pointer, later, reached, stop, split, ran, thrown⟩

theorem saveObjects_thrown (codec : Codec δ ω) (env : Env δ ω) (world : World δ ω) :
    Outcome (saveObjects codec env) world (fun _ _ => True) (fun _ final =>
      (final = world ∧ final.begun = none ↔ ConversionsSafe codec env world) ∧
        (final = world ∨ final.begun.isSome = true)) := by
  rw [saveObjects, Outcome.bind_iff, transaction, Outcome.bind_iff, Outcome.get_iff]
  cases begun : world.begun with
  | some contents =>
      have notNone : ¬ world.begun = none := by rw [begun]; simp
      exact ⟨⟨fun restored => absurd restored.2 notNone, fun failure => absurd failure.1 notNone⟩,
        .inl rfl⟩
  | none =>
      rw [if_neg (by simp), Outcome.bind_iff]
      simp only [query, Outcome.bind_iff, Outcome.get_iff]
      cases fault : env.fault world .begin with
      | true =>
          refine ⟨⟨fun _ => ⟨begun, fun noFault => ?_⟩, fun _ => ⟨rfl, begun⟩⟩, .inl rfl⟩
          rw [fault] at noFault
          cases noFault
      | false =>
          rw [if_neg (by simp)]
          simp only [Outcome.bind_iff, Outcome.set_iff, Outcome.pure_iff]
          rw [Outcome.tryCatch_iff, conversionsSafe_iff world begun fault]
          show Outcome (transactionBody codec env) world.inTransaction _ _
          refine ((transactionBody_spec world.inTransaction).and (.ran _ _)).mono
            (fun _ _ _ => trivial) ?_
          rintro exception stop ⟨rows, ran⟩
          have open_ : stop.begun = some world.rows := by
            rw [rows]
            rfl
          cases exception with
          | database =>
              rw [if_pos rfl, Outcome.bind_iff, rollback, Outcome.modify_iff, Outcome.throw_iff]
              have restored : { stop with rows := stop.begun.getD stop.rows, begun := none } =
                  world := by
                rw [open_, rows]
                exact congrArg (fun begun => { world with begun }) begun.symm
              refine ⟨⟨fun _ => ?_, fun _ => ⟨restored, rfl⟩⟩, .inl restored⟩
              rintro ⟨otherStop, otherRan⟩
              rw [ran] at otherRan
              cases otherRan
          | other =>
              rw [if_neg (by simp), Outcome.throw_iff]
              have stuck : ¬ stop.begun = none := by
                rw [open_]
                exact Option.some_ne_none _
              refine ⟨⟨fun restored => absurd restored.2 stuck, fun never =>
                absurd ⟨stop, ran⟩ never⟩, .inr ?_⟩
              rw [open_]
              rfl

/-- A save that throws leaves the database outside the transaction with its contents, and the
objects and their sets, as they were, exactly if the transaction was not open before and it
reaches no field whose conversion makes another library throw. -/
theorem saveObjects_restored (codec : Codec δ ω) (env : Env δ ω) (world final : World δ ω)
    (exception : Exception) (thrown : saveObjects codec env world = .error exception final) :
    final = world ∧ final.begun = none ↔ ConversionsSafe codec env world :=
  ((saveObjects_thrown codec env world).of_error thrown).1

end

namespace Scenario

/-- A new object whose insertion SQLite refuses. -/
theorem noInserts_restored : ∃ world final, world.begun = none ∧
    saveObjects codec noInserts world = .error .database final ∧
      (final = world ∧ final.begun = none ↔ ConversionsSafe codec noInserts world) := by
  have ran : thrown (saveObjects codec noInserts (after [.create 0 settings "a" (by decide)])) =
      some (.database, false) := by decide +kernel
  obtain ⟨final, ran, -⟩ := of_thrown ran
  exact ⟨_, final, rfl, ran, saveObjects_restored codec noInserts _ final .database ran⟩

/-- A new object with a JSON field that cannot be dumped: the transaction stays open. -/
theorem invalidText_staysOpen : ∃ world final, world.begun = none ∧
    saveObjects codec env world = .error .other final ∧ final.begun ≠ none := by
  have ran : thrown (saveObjects codec env (after [.create 0 settings "a" (by decide),
      .modify 0 "value" (.setJson (some .invalidText))])) = some (.other, true) := by
    decide +kernel
  obtain ⟨final, ran, isOpen⟩ := of_thrown ran
  exact ⟨_, final, rfl, ran, Option.isSome_iff_ne_none.mp isOpen⟩

end Scenario

end Andromeda.Database
