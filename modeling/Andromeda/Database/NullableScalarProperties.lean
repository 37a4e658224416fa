import Andromeda.Database.NullableScalar
import Andromeda.Library.Run

/-! A nullable scalar field keeps what its history means it to, unless a null field is assigned the
value that its null flag hides. -/

set_option autoImplicit false

namespace Andromeda.Database.NullableScalar

open Library

section Assignments

variable {T : Type} {type : ValueType T} {field : NullScalarType T} {value : T} {isTemp : Bool}

/-- Where values are compared by equality, the field is the one of the object database. -/
theorem setValue_ofDecidable [DecidableEq T] {zero : T} :
    setValue (ValueType.ofDecidable zero) field value isTemp = field.setValue value isTemp := by
  cases isTemp <;> by_cases same : field.realValue = value <;>
    simp [setValue, NullScalarType.setValue, ValueType.ofDecidable, same]

theorem setNull_eq : setNull field isTemp = field.setNull isTemp := by
  cases isTemp <;> cases isNull : field.realNull <;>
    simp [setNull, NullScalarType.setNull, isNull]

@[simp] theorem setValue_shown :
    tryGetValue (setValue type field value isTemp).1 true = some value := by
  dsimp only [setValue]
  split <;> simp [tryGetValue]

@[simp] theorem setNull_shown : tryGetValue (setNull field isTemp).1 true = none := by
  dsimp only [setNull]
  split <;> simp [tryGetValue]

@[simp] theorem setValue_temp_stored :
    tryGetValue (setValue type field value true).1 false = tryGetValue field false := by
  simp [setValue, tryGetValue]

@[simp] theorem setNull_temp_stored :
    tryGetValue (setNull field true).1 false = tryGetValue field false := by
  simp [setNull, tryGetValue]

@[simp] theorem setNull_stored : tryGetValue (setNull field false).1 false = none := by
  cases isNull : field.realNull <;> simp [setNull, tryGetValue, isNull]

private theorem setValue_stored (differs : type.equals field.realValue value = false) :
    tryGetValue (setValue type field value false).1 false = some value := by
  simp [setValue, tryGetValue, differs]

private theorem setValue_same (same : type.equals field.realValue value = true) :
    tryGetValue (setValue type field value false).1 false = tryGetValue field false := by
  simp [setValue, tryGetValue, same]

private theorem setValue_delta :
    (setValue type field value isTemp).1.delta =
      field.delta + if isTemp = false ∧ type.equals field.realValue value = false then 1 else 0 := by
  cases isTemp <;> cases same : type.equals field.realValue value <;> simp [setValue, same]

private theorem setNull_delta :
    (setNull field isTemp).1.delta =
      field.delta + if isTemp = false ∧ field.realNull = false then 1 else 0 := by
  cases isTemp <;> cases isNull : field.realNull <;> simp [setNull, isNull]

end Assignments

section Values

variable {T : Type} {type : ValueType T} {value given : Option T}

private theorem Meant.Gives.none_iff (gives : Meant.Gives type value given) :
    value = none ↔ given = none := by
  cases value <;> cases given <;> simp_all [Meant.Gives]

private theorem Meant.Gives.refl : Meant.Gives type value value := by
  cases value with
  | none => trivial
  | some value => exact Or.inl rfl

private theorem Meant.Gives.differs_eq (gives : Meant.Gives type value given) (next : Option T) :
    Meant.differs type value next = Meant.differs type given next := by
  cases value with
  | none =>
    have none_given := gives.none_iff.mp rfl
    rw [none_given]
  | some value =>
    cases given with
    | none => exact gives.elim
    | some given =>
      cases next with
      | none => rfl
      | some next =>
        rcases gives with same | equal
        · rw [same]
        · have agree : type.equals value next = type.equals given next :=
            Bool.eq_iff_iff.mpr
              ⟨fun left => type.trans _ _ _ equal left,
                fun left => type.trans _ _ _ (type.symm _ _ equal) left⟩
          simp only [Meant.differs, agree]

private theorem gives_assigned_iff {field : NullScalarType T} {assigned : T} :
    Meant.Gives type (some assigned) (tryGetValue (setValue type field assigned false).1 false) ↔
      (field.realNull = true → type.equals field.realValue assigned = false) := by
  cases same : type.equals field.realValue assigned with
  | false =>
    rw [setValue_stored same]
    exact ⟨fun _ _ => rfl, fun _ => Meant.Gives.refl⟩
  | true =>
    rw [setValue_same same]
    cases isNull : field.realNull <;> simp [Meant.Gives, tryGetValue, isNull, same]

end Values

variable {δ : Type} {sqlite : Sqlite δ} {double : ValueType δ} {kind : ScalarKind}
  {field : NullScalarType (kind.Data δ)} {meant : Meant (kind.Data δ)}

private theorem getDBValue_eq :
    NullScalarType.getDBValue kind field = (tryGetValue field false).elim .null kind.toMixed := by
  unfold NullScalarType.getDBValue tryGetValue
  cases field.realNull <;> rfl

/-- A correct field, whose count of modifications is not negative. -/
structure Kept (double : ValueType δ) (state : State δ kind) : Prop where
  correct : Correct double kind state.1 state.2
  delta_nonneg : 0 ≤ state.1.delta

private theorem Correct.of_stored (shown : tryGetValue field true = meant.shown)
    (stored : Meant.Gives (kind.valueType double) meant.last (tryGetValue field false))
    (modified : isModified field = meant.changed) : Correct double kind field meant :=
  ⟨shown, stored, ⟨_, stored, getDBValue_eq⟩, modified⟩

private theorem ColumnValue.run_initDBValue (double : ValueType δ)
    (field : NullScalarType (kind.Data δ))
    (column : ColumnValue sqlite kind) :
    tryGetValue ((Call.initDBValue column).run sqlite double kind field) true = column.data ∧
      tryGetValue ((Call.initDBValue column).run sqlite double kind field) false = column.data ∧
      ((Call.initDBValue column).run sqlite double kind field).delta = 0 := by
  unfold Call.run NullScalarType.initDBValue ColumnValue.data
  cases isNull : column.value.isNull sqlite with
  | true => simp [tryGetValue, isNull]
  | false =>
    obtain ⟨data, read⟩ := column.readable isNull
    simp [tryGetValue, isNull, read, Except.toOption]

private theorem isModified_assign {next : NullScalarType (kind.Data δ)}
    {value : Option (kind.Data δ)}
    {counted : Prop} [Decidable counted] (kept : Kept double (field, meant))
    (delta : next.delta = field.delta + if counted then 1 else 0)
    (differs : Meant.differs (kind.valueType double) (tryGetValue field false) value = true ↔
      counted) :
    isModified next = (meant.changed || Meant.differs (kind.valueType double) meant.last value) := by
  have nonneg : 0 ≤ field.delta := kept.delta_nonneg
  have modified : decide (0 < field.delta) = meant.changed := kept.correct.modified
  rw [kept.correct.stored.differs_eq value, ← modified]
  unfold isModified
  by_cases happens : counted
  · rw [differs.mpr happens, delta, if_pos happens]
    simp only [Bool.or_true, decide_eq_true_eq]
    omega
  · have unchanged :
        Meant.differs (kind.valueType double) (tryGetValue field false) value = false :=
      Bool.eq_false_iff.mpr fun changed => happens (differs.mp changed)
    rw [unchanged, delta, if_neg happens]
    simp

private theorem differs_some_iff {value : kind.Data δ} (allowed : field.realNull = true →
      (kind.valueType double).equals field.realValue value = false) :
    Meant.differs (kind.valueType double) (tryGetValue field false) (some value) = true ↔
      (kind.valueType double).equals field.realValue value = false := by
  unfold tryGetValue
  cases isNull : field.realNull with
  | false => simp [Meant.differs]
  | true => simpa [Meant.differs] using allowed isNull

private theorem differs_none_iff :
    Meant.differs (kind.valueType double) (tryGetValue field false) none = true ↔
      field.realNull = false := by
  unfold tryGetValue
  cases field.realNull <;> simp [Meant.differs]

private theorem begin_correct_iff {value : Option (kind.Data δ)} :
    Correct double kind (begin_ double kind value).1 (begin_ double kind value).2 ↔
      ∀ assigned, value = some assigned →
        (kind.valueType double).equals (kind.valueType double).zero assigned = false := by
  cases value with
  | none => exact ⟨by simp, fun _ => Correct.of_stored rfl trivial rfl⟩
  | some value =>
    simp only [Option.some.injEq, forall_eq']
    constructor
    · intro correct
      exact gives_assigned_iff.mp correct.stored rfl
    · intro differs
      apply Correct.of_stored
      · exact setValue_shown
      · exact gives_assigned_iff.mpr fun _ => differs
      · simp [begin_, construct, isModified, setValue_delta, differs, Meant.construct, Meant.assign,
          Meant.differs]

private theorem begin_delta_nonneg {value : Option (kind.Data δ)} :
    0 ≤ (begin_ double kind value).1.delta := by
  cases value with
  | none => exact Int.le_refl 0
  | some value =>
    simp only [begin_, construct, setValue_delta]
    split <;> omega

private theorem step_correct_iff {state : State δ kind} {call : Call sqlite kind}
    (kept : Kept double state) :
    Correct double kind (step sqlite double kind state call).1
        (step sqlite double kind state call).2 ↔ NotHidden sqlite double kind state call := by
  obtain ⟨field, meant⟩ := state
  cases call with
  | initDBValue column =>
    obtain ⟨shown, stored, delta⟩ :=
      ColumnValue.run_initDBValue double field column
    constructor
    · exact fun _ => trivial
    · intro _
      apply Correct.of_stored
      · exact shown
      · simp only [step, stored]
        exact Meant.Gives.refl
      · simp only [step, isModified, delta]
        rfl
  | setValue value isTemp =>
    cases isTemp with
    | true =>
      constructor
      · exact fun _ => trivial
      · intro _
        apply Correct.of_stored
        · exact setValue_shown
        · simp only [step, Call.run, setValue_temp_stored]
          exact kept.correct.stored
        · have same : (setValue (kind.valueType double) field value true).1.delta = field.delta := by
            simp [setValue_delta]
          simp only [step, Call.run, isModified, same]
          exact kept.correct.modified
    | false =>
      constructor
      · exact fun correct => gives_assigned_iff.mp correct.stored
      · intro allowed
        have delta : (setValue (kind.valueType double) field value false).1.delta = field.delta +
            if (kind.valueType double).equals field.realValue value = false then 1 else 0 := by
          simp [setValue_delta]
        apply Correct.of_stored
        · exact setValue_shown
        · exact gives_assigned_iff.mpr allowed
        · exact isModified_assign kept delta (differs_some_iff allowed)
  | setNull isTemp =>
    constructor
    · exact fun _ => trivial
    · intro _
      cases isTemp with
      | true =>
        apply Correct.of_stored
        · exact setNull_shown
        · simp only [step, Call.run, setNull_temp_stored]
          exact kept.correct.stored
        · have same : (setNull field true).1.delta = field.delta := by simp [setNull_delta]
          simp only [step, Call.run, isModified, same]
          exact kept.correct.modified
      | false =>
        have delta : (setNull field false).1.delta =
            field.delta + if field.realNull = false then 1 else 0 := by simp [setNull_delta]
        apply Correct.of_stored
        · exact setNull_shown
        · simp only [step, Call.run, setNull_stored]
          trivial
        · exact isModified_assign kept delta differs_none_iff
  | setUnmodified =>
    exact ⟨fun _ => trivial,
      fun _ => Correct.of_stored kept.correct.shown kept.correct.stored rfl⟩

private theorem step_kept {state : State δ kind} {call : Call sqlite kind}
    (kept : Kept double state)
    (correct : Correct double kind (step sqlite double kind state call).1
      (step sqlite double kind state call).2) :
    Kept double (step sqlite double kind state call) := by
  have nonneg := kept.delta_nonneg
  constructor
  · exact correct
  · cases call with
    | initDBValue column =>
      exact Int.le_of_eq (ColumnValue.run_initDBValue double state.1 column).2.2.symm
    | setValue value isTemp =>
      simp only [step, Call.run, setValue_delta]
      split <;> omega
    | setNull isTemp =>
      simp only [step, Call.run, setNull_delta]
      split <;> omega
    | setUnmodified => exact Int.le_refl 0

/-- A nullable scalar field gives back what was assigned to it, and knows whether that was a
change, at every point of a run exactly if its default value is not the zero one and no step assigns
to it, while it is null, the value that it held before. -/
theorem nullableScalar_correct_iff (sqlite : Sqlite δ) (double : ValueType δ) (kind : ScalarKind)
    (value : Option (kind.Data δ)) (calls : List (Call sqlite kind)) :
    (Correct double kind (begin_ double kind value).1 (begin_ double kind value).2 ∧
      EachStep (step sqlite double kind)
        (fun state call => Correct double kind (step sqlite double kind state call).1
          (step sqlite double kind state call).2) (begin_ double kind value) calls) ↔
    ((∀ assigned, value = some assigned →
        (kind.valueType double).equals (kind.valueType double).zero assigned = false) ∧
      EachStep (step sqlite double kind) (NotHidden sqlite double kind) (begin_ double kind value)
        calls) := by
  rw [begin_correct_iff]
  apply and_congr_right
  intro allowed
  have start : Kept double (begin_ double kind value) :=
    ⟨begin_correct_iff.mpr allowed, begin_delta_nonneg⟩
  exact EachStep.iff_of_invariant (fun _ _ kept => step_correct_iff kept)
    (fun _ _ kept correct => step_kept kept correct) start

/-- A new integer field is assigned zero and stays null. -/
theorem zero_stays_null :
    let type := ScalarKind.valueType (δ := Int) (ValueType.ofDecidable 0) .int
    let field := (setValue type (construct type none) (0 : Int32) false).1
    tryGetValue field false = none ∧ isModified field = false ∧
      ¬ Correct (ValueType.ofDecidable 0) .int field ⟨some 0, some 0, true⟩ := by
  constructor
  · decide
  · constructor
    · decide
    · intro correct
      have modified := correct.modified
      revert modified
      decide

end Andromeda.Database.NullableScalar
