import Andromeda.Database.Session

/-! What a field has recorded of the difference between itself and its column, and that
writing a modified field makes the column read as the field shows. -/

set_option autoImplicit false

namespace Andromeda.Database

/-- The documented behaviour of SQLite and of the JSON library. -/
structure Lawful {δ ω : Type} (codec : Codec δ ω) : Prop where
  stored_null : codec.stored .null = .null
  stored_integer : ∀ value, codec.stored (.integer value) = .integer value
  toText_text : ∀ data, codec.toText (.text data) = data
  toText_ne : ∀ value : Value δ, value.isNull = false → codec.toText value ≠ ""
  toInteger_integer : ∀ value, codec.toInteger (.integer value) = value
  toReal_real : ∀ value, codec.toReal (.real value) = value
  toInteger_null : codec.toInteger .null = 0
  add_integer : ∀ value delta, codec.add (.integer value) delta = .integer (value + delta)
  dump_parse : ∀ value data, codec.finite value = true → codec.dump value = some data →
    data ≠ "" ∧ codec.parse data = some value

set_option linter.unusedSectionVars false

variable {δ ω : Type} [DecidableEq δ] [Zero δ] {codec : Codec δ ω}

private theorem Lawful.getTo_toValue (lawful : Lawful codec) (kind : Kind) (data : kind.Data δ) :
    kind.getTo codec (kind.toValue data) = data := by
  cases kind with
  | text => exact lawful.toText_text data
  | integer => exact lawful.toInteger_integer data
  | real => exact lawful.toReal_real data

/-- What is written for a value is stored as it is and not read again as null. -/
def Kind.Storable (codec : Codec δ ω) (kind : Kind) (data : kind.Data δ) : Prop :=
  codec.stored (kind.toValue data) = kind.toValue data ∧ (kind.toValue data).isNull = false

namespace Field

/-- The temporary value is the real one. -/
def Wellformed : Field δ ω → Prop
  | .scalar _ field => field.tempInitd = field.realInitd ∧
      (field.realInitd = true → field.tempValue = field.realValue)
  | .nullScalar _ field => field.tempNull = field.realNull ∧
      (field.realNull = false → field.tempValue = field.realValue)
  | _ => True

/-- The difference to the column is recorded: in a counter's delta, and elsewhere in that the
delta is not zero. -/
def Recorded (codec : Codec δ ω) (column : Value δ) : Field δ ω → Prop
  | .counter field => codec.toInteger column + field.delta = field.value
  | field => 0 ≤ field.delta ∧ (field.delta = 0 → field.reread codec column = field.shown)

/-- A field next to its column in the database. -/
structure Tracks (codec : Codec δ ω) (column : Value δ) (field : Field δ ω) : Prop where
  wellformed : field.Wellformed
  recorded : field.Recorded codec column

/-- A field that is not nullable has a value, the value to be written is storable, and a counter
did not go down since the last save. -/
def Writable (codec : Codec δ ω) : Field δ ω → Prop
  | .scalar kind field =>
    field.realInitd = true ∧ (0 < field.delta → kind.Storable codec field.realValue)
  | .nullScalar kind field =>
    field.realNull = false → 0 < field.delta → kind.Storable codec field.realValue
  | .counter field => 0 ≤ field.delta
  | .json field => 0 < field.delta → ∀ value, field.json = some value →
    codec.finite value = true ∧
      ∀ data, codec.dump value = some data → codec.stored (.text data) = .text data
  | .objectRef field =>
    field.objId ≠ "" ∧ (0 < field.delta → codec.stored (.text field.objId) = .text field.objId)
  | .nullObjectRef field =>
    field.objId ≠ "" → 0 < field.delta → codec.stored (.text field.objId) = .text field.objId

/-- A counter that is to be increased has a number in its column. -/
def Increasable (column : Value δ) : Field δ ω → Prop
  | .counter field => 0 < field.delta → ∃ value, column = .integer value
  | _ => True

@[simp] theorem shown_setUnmodified (field : Field δ ω) :
    field.setUnmodified.shown = field.shown := by
  cases field <;> rfl

@[simp] theorem reread_setUnmodified (field : Field δ ω) (column : Value δ) :
    field.setUnmodified.reread codec column = field.reread codec column := by
  cases field <;> rfl

@[simp] theorem delta_setUnmodified (field : Field δ ω) : field.setUnmodified.delta = 0 := by
  cases field <;> rfl

@[simp] theorem isInitialized_setUnmodified (field : Field δ ω) :
    field.setUnmodified.isInitialized = field.isInitialized := by
  cases field <;> rfl

theorem Writable.isInitialized {field : Field δ ω} (wellformed : field.Wellformed)
    (writable : field.Writable codec) : field.isInitialized = true := by
  cases field with
  | scalar kind field => exact wellformed.1.trans writable.1
  | objectRef field => exact decide_eq_true writable.1
  | nullScalar kind field => rfl
  | counter field => rfl
  | json field => rfl
  | nullObjectRef field => rfl

/-- A counter reads as its column's number. -/
theorem reread_counter (field : CounterType) (column : Value δ) :
    (Field.counter field : Field δ ω).reread codec column =
      .ok (.counter (codec.toInteger column)) := rfl

/-- A field with a delta has recorded that it differs. -/
theorem recorded_of_modified {column : Value δ} {field : Field δ ω}
    (notCounter : field.useDBIncrement = false) (modified : 0 < field.delta) :
    field.Recorded codec column := by
  have recorded : 0 ≤ field.delta ∧
      (field.delta = 0 → field.reread codec column = field.shown) :=
    ⟨Int.le_of_lt modified, fun none => absurd none (by omega)⟩
  cases field with
  | counter field => cases notCounter
  | scalar kind field => exact recorded
  | nullScalar kind field => exact recorded
  | json field => exact recorded
  | objectRef field => exact recorded
  | nullObjectRef field => exact recorded

/-- A field that is not modified reads as it shows. -/
theorem Tracks.unmodified {column : Value δ} {field : Field δ ω}
    (tracks : field.Tracks codec column) (noDelta : field.delta = 0) :
    field.reread codec column = field.shown := by
  cases field with
  | counter field =>
      have recorded : codec.toInteger column + field.delta = field.value := tracks.recorded
      have none : field.delta = 0 := noDelta
      rw [reread_counter, shown, ← recorded, none, add_zero]
  | scalar kind field => exact tracks.recorded.2 noDelta
  | nullScalar kind field => exact tracks.recorded.2 noDelta
  | json field => exact tracks.recorded.2 noDelta
  | objectRef field => exact tracks.recorded.2 noDelta
  | nullObjectRef field => exact tracks.recorded.2 noDelta

/-- A field that reads as it shows tracks its column once it is marked unmodified. -/
theorem Tracks.setUnmodified {column : Value δ} {field : Field δ ω}
    (wellformed : field.Wellformed) (same : field.reread codec column = field.shown) :
    field.setUnmodified.Tracks codec column := by
  have written : field.setUnmodified.reread codec column = field.setUnmodified.shown := by
    simpa using same
  cases field with
  | counter field =>
      refine ⟨trivial, ?_⟩
      have value : codec.toInteger column = field.value := by
        rw [reread_counter, shown] at same
        exact Shown.counter.inj (Except.ok.inj same)
      show codec.toInteger column + 0 = field.value
      rw [value, add_zero]
  | scalar kind field =>
      exact ⟨wellformed, Int.le_refl 0, fun _ => written⟩
  | nullScalar kind field =>
      exact ⟨wellformed, Int.le_refl 0, fun _ => written⟩
  | json field => exact ⟨trivial, Int.le_refl 0, fun _ => written⟩
  | objectRef field => exact ⟨trivial, Int.le_refl 0, fun _ => written⟩
  | nullObjectRef field => exact ⟨trivial, Int.le_refl 0, fun _ => written⟩

private theorem stored_getDBValue (lawful : Lawful codec) {field : Field δ ω} {value : Value δ}
    (writable : field.Writable codec) (modified : 0 < field.delta)
    (converted : field.getDBValue codec = .ok value) : codec.stored value = value := by
  cases field with
  | counter field =>
      cases converted
      exact lawful.stored_integer field.delta
  | scalar kind field =>
      simp only [getDBValue, writable.1, if_true, Except.ok.injEq] at converted
      subst converted
      exact (writable.2 modified).1
  | nullScalar kind field =>
      simp only [getDBValue, Except.ok.injEq] at converted
      subst converted
      cases isNull : field.realNull with
      | true => exact lawful.stored_null
      | false => exact (writable isNull modified).1
  | json field =>
      simp only [getDBValue] at converted
      split at converted
      · cases converted
        exact lawful.stored_null
      · next data held =>
          split at converted
          · next text dumped =>
              cases converted
              exact (writable modified data held).2 text dumped
          · cases converted
  | objectRef field =>
      simp only [getDBValue, if_neg writable.1, Except.ok.injEq] at converted
      subst converted
      exact writable.2 modified
  | nullObjectRef field =>
      simp only [getDBValue, Except.ok.injEq] at converted
      subst converted
      by_cases empty : field.objId = ""
      · rw [if_pos empty]
        exact lawful.stored_null
      · rw [if_neg empty]
        exact writable empty modified

private theorem reread_getDBValue (lawful : Lawful codec) {field : Field δ ω} {value : Value δ}
    (wellformed : field.Wellformed) (writable : field.Writable codec) (modified : 0 < field.delta)
    (notCounter : field.useDBIncrement = false) (converted : field.getDBValue codec = .ok value) :
    field.reread codec value = field.shown := by
  cases field with
  | counter field => cases notCounter
  | scalar kind field =>
      simp only [getDBValue] at converted
      split at converted
      · next initd =>
          cases converted
          have same := wellformed.2 initd
          have notNull : (kind.toValue field.realValue).isNull = false := (writable.2 modified).2
          have tempInitd : field.tempInitd = true := wellformed.1.trans initd
          simp only [reread, blank, initDBValue, notNull, shown, tempInitd, same,
            lawful.getTo_toValue, Bool.false_eq_true, if_false, if_true]
      · cases converted
  | nullScalar kind field =>
      simp only [getDBValue, Except.ok.injEq] at converted
      subst converted
      have tempNull := wellformed.1
      cases isNull : field.realNull with
      | true =>
          rw [isNull] at tempNull
          simp only [reread, blank, initDBValue, Value.isNull, shown, tempNull, if_true]
      | false =>
          rw [isNull] at tempNull
          have same := wellformed.2 isNull
          have notNull : (kind.toValue field.realValue).isNull = false :=
            (writable isNull modified).2
          simp only [reread, blank, initDBValue, notNull, shown, tempNull, same,
            lawful.getTo_toValue, Bool.false_eq_true, if_false]
  | json field =>
      simp only [getDBValue] at converted
      split at converted
      · next empty =>
          cases converted
          simp only [reread, blank, initDBValue, Value.isNull, shown, empty, if_true]
      · next data held =>
          split at converted
          · next text dumped =>
              cases converted
              obtain ⟨notEmpty, parsed⟩ :=
                lawful.dump_parse data text (writable modified data held).1 dumped
              have notNull : (Value.text text : Value δ).isNull = false := by
                simpa [Value.isNull] using notEmpty
              simp only [reread, blank, initDBValue, notNull, lawful.toText_text, parsed, shown,
                held, Bool.false_eq_true, if_false, Option.elim_some]
          · cases converted
  | objectRef field =>
      simp only [getDBValue] at converted
      split at converted
      · cases converted
      · next notEmpty =>
          cases converted
          have notNull : (Value.text field.objId : Value δ).isNull = false := by
            simpa [Value.isNull] using notEmpty
          simp only [reread, blank, initDBValue, notNull, lawful.toText_text, shown, notEmpty,
            Bool.false_eq_true, if_false]
  | nullObjectRef field =>
      simp only [getDBValue, Except.ok.injEq] at converted
      subst converted
      by_cases empty : field.objId = ""
      · simp only [reread, blank, initDBValue, empty, Value.isNull, shown, if_true]
      · have notNull : (Value.text field.objId : Value δ).isNull = false := by
          simpa [Value.isNull] using empty
        simp only [reread, blank, initDBValue, empty, notNull, lawful.toText_text, shown,
          Bool.false_eq_true, if_false]

/-- A field written by an UPDATE, or left out of it, reads as it shows. -/
theorem Tracks.updated (lawful : Lawful codec) {column : Value δ} {field : Field δ ω}
    (tracks : field.Tracks codec column) (writable : field.Writable codec)
    (increasable : field.Increasable column) {value : Value δ}
    (modified : 0 < field.delta) (converted : field.getDBValue codec = .ok value) :
    field.reread codec ((setterOf field value).apply codec column) = field.shown := by
  cases counted : field.useDBIncrement with
  | false =>
      have assigned : (setterOf field value).apply codec column = value := by
        simp only [setterOf, counted, Bool.false_eq_true, if_false]
        split
        · next isNull => rw [isNull, Setter.apply, lawful.stored_null]
        · exact stored_getDBValue lawful writable modified converted
      rw [assigned]
      exact reread_getDBValue lawful tracks.wellformed writable modified counted converted
  | true =>
      cases field with
      | counter field =>
          obtain ⟨number, rfl⟩ := increasable modified
          cases converted
          have recorded : codec.toInteger (.integer number) + field.delta = field.value :=
            tracks.recorded
          have written : (setterOf (.counter field : Field δ ω) (.integer field.delta)).apply codec
              (.integer number) = .integer (number + field.delta) :=
            lawful.add_integer number field.delta
          rw [written, reread_counter, lawful.toInteger_integer, shown, ← recorded,
            lawful.toInteger_integer]
      | scalar kind field => cases counted
      | nullScalar kind field => cases counted
      | json field => cases counted
      | objectRef field => cases counted
      | nullObjectRef field => cases counted

/-- A field written by an INSERT reads as it shows. -/
theorem Tracks.inserted (lawful : Lawful codec) {field : Field δ ω} {value : Value δ}
    (tracks : field.Tracks codec .null) (writable : field.Writable codec)
    (modified : 0 < field.delta) (converted : field.getDBValue codec = .ok value) :
    field.reread codec (codec.stored value) = field.shown := by
  rw [stored_getDBValue lawful writable modified converted]
  cases counted : field.useDBIncrement with
  | false => exact reread_getDBValue lawful tracks.wellformed writable modified counted converted
  | true =>
      cases field with
      | counter field =>
          cases converted
          have recorded : codec.toInteger .null + field.delta = field.value := tracks.recorded
          rw [lawful.toInteger_null, zero_add] at recorded
          rw [reread_counter, lawful.toInteger_integer, shown, recorded]
      | scalar kind field => cases counted
      | nullScalar kind field => cases counted
      | json field => cases counted
      | objectRef field => cases counted
      | nullObjectRef field => cases counted

/-- A field with nothing recorded to write is not modified. -/
theorem Tracks.delta_eq_zero {column : Value δ} {field : Field δ ω}
    (tracks : field.Tracks codec column) (writable : field.Writable codec)
    (notModified : field.isModified = false) : field.delta = 0 := by
  have notPositive : ¬ 0 < field.delta := of_decide_eq_false notModified
  have notNegative : 0 ≤ field.delta := by
    cases field with
    | counter field => exact writable
    | scalar kind field => exact tracks.recorded.1
    | nullScalar kind field => exact tracks.recorded.1
    | json field => exact tracks.recorded.1
    | objectRef field => exact tracks.recorded.1
    | nullObjectRef field => exact tracks.recorded.1
  omega

end Field

/-- The default of a nullable scalar is recorded if it is not the type's zero. -/
def FieldSpec.Recordable : FieldSpec δ ω → Prop
  | .nullScalar kind (some value) => value ≠ kind.zero
  | _ => True

/-- A field initialised from its column tracks it, with nothing recorded. -/
theorem FieldSpec.initDBValue_tracks {spec : FieldSpec δ ω} {column : Value δ}
    {field : Field δ ω} (read : spec.construct.1.initDBValue codec column = .ok field) :
    field.Tracks codec column ∧ field.delta = 0 := by
  cases spec with
  | scalar kind value =>
      simp only [FieldSpec.construct, Field.initDBValue] at read
      split at read
      · cases read
      · next notNull =>
          cases read
          refine ⟨⟨⟨rfl, fun _ => rfl⟩, Int.le_refl 0, fun _ => ?_⟩, rfl⟩
          simp only [Field.reread, Field.blank, Field.initDBValue, if_neg notNull]
  | nullScalar kind value =>
      simp only [FieldSpec.construct, Field.initDBValue, Except.ok.injEq] at read
      subst read
      cases isNull : column.isNull with
      | true =>
          refine ⟨⟨⟨rfl, fun notNull => absurd notNull (by simp)⟩, Int.le_refl 0, fun _ => ?_⟩, rfl⟩
          simp only [Field.reread, Field.blank, Field.initDBValue, isNull, if_true, Field.shown]
      | false =>
          refine ⟨⟨⟨rfl, fun _ => rfl⟩, Int.le_refl 0, fun _ => ?_⟩, rfl⟩
          simp only [Field.reread, Field.blank, Field.initDBValue, isNull, Bool.false_eq_true,
            if_false]
  | counter =>
      cases read
      exact ⟨⟨trivial, add_zero _⟩, rfl⟩
  | json value =>
      simp only [FieldSpec.construct, Field.initDBValue] at read
      split at read
      · next isNull =>
          cases read
          refine ⟨⟨trivial, Int.le_refl 0, fun _ => ?_⟩, rfl⟩
          simp only [Field.reread, Field.blank, Field.initDBValue, isNull, if_true]
      · next notNull =>
          split at read
          · next parsed found =>
              cases read
              refine ⟨⟨trivial, Int.le_refl 0, fun _ => ?_⟩, rfl⟩
              simp only [Field.reread, Field.blank, Field.initDBValue, if_neg notNull, found]
          · cases read
  | objectRef =>
      simp only [FieldSpec.construct, Field.initDBValue] at read
      split at read
      · cases read
      · next notNull =>
          cases read
          refine ⟨⟨trivial, Int.le_refl 0, fun _ => ?_⟩, rfl⟩
          simp only [Field.reread, Field.blank, Field.initDBValue, if_neg notNull]
  | nullObjectRef =>
      simp only [FieldSpec.construct, Field.initDBValue, Except.ok.injEq] at read
      subst read
      cases isNull : column.isNull with
      | true =>
          refine ⟨⟨trivial, Int.le_refl 0, fun _ => ?_⟩, rfl⟩
          simp only [Field.reread, Field.blank, Field.initDBValue, isNull, if_true]
      | false =>
          refine ⟨⟨trivial, Int.le_refl 0, fun _ => ?_⟩, rfl⟩
          simp only [Field.reread, Field.blank, Field.initDBValue, isNull, Bool.false_eq_true,
            if_false]

/-- A nullable scalar is not set to the value it still holds while it is null. -/
def Change.Recordable (change : Change δ ω) (field : Field δ ω) : Prop :=
  match change, field with
  | .setValue kind value, .nullScalar fieldKind field =>
    ∀ same : kind = fieldKind, field.realNull = true → field.realValue ≠ same ▸ value
  | _, _ => True

/-- A field before and after a call tracks its column, and is modified only with a notification. -/
def Field.Follows (codec : Codec δ ω) (column : Value δ) (before after : Field δ ω)
    (notified : Bool) : Prop :=
  after.Tracks codec column ∧ (notified = false → after.delta = before.delta)

section Setters

variable {column : Value δ}

private theorem Field.Follows.same {field : Field δ ω} (tracks : field.Tracks codec column) :
    Field.Follows codec column field field false :=
  ⟨tracks, fun _ => rfl⟩

private theorem Field.Follows.set {before after : Field δ ω} (tracks : before.Tracks codec column)
    (notCounter : before.useDBIncrement = false) (sameKind : after.useDBIncrement = false)
    (wellformed : after.Wellformed) (delta : after.delta = before.delta + 1) :
    Field.Follows codec column before after true := by
  have notNegative : 0 ≤ before.delta := by
    cases before with
    | counter field => cases notCounter
    | scalar kind field => exact tracks.recorded.1
    | nullScalar kind field => exact tracks.recorded.1
    | json field => exact tracks.recorded.1
    | objectRef field => exact tracks.recorded.1
    | nullObjectRef field => exact tracks.recorded.1
  have modified : 0 < after.delta := by omega
  exact ⟨⟨wellformed, Field.recorded_of_modified sameKind modified⟩, fun quiet => by cases quiet⟩

private theorem ScalarType.setValue_follows {kind : Kind} {field : ScalarType (kind.Data δ)}
    (tracks : (Field.scalar kind field : Field δ ω).Tracks codec column) (value : kind.Data δ) :
    Field.Follows codec column (.scalar kind field) (.scalar kind (field.setValue value false).1)
      (field.setValue value false).2 := by
  unfold ScalarType.setValue
  dsimp only
  split
  · exact .set tracks rfl rfl ⟨rfl, fun _ => rfl⟩ rfl
  · next known =>
      have initd : field.realInitd = true := by
        cases initd : field.realInitd with
        | true => rfl
        | false => exact absurd ⟨rfl, .inl initd⟩ known
      have same : field.realValue = value := by
        by_contra differs
        exact known ⟨rfl, .inr differs⟩
      have kept : (⟨true, value, field.realInitd, field.realValue, field.delta⟩ :
          ScalarType (kind.Data δ)) = field := by
        have tempInitd := tracks.wellformed.1
        have tempValue := tracks.wellformed.2 initd
        cases field
        simp_all
      rw [kept]
      exact .same tracks

private theorem NullScalarType.setValue_follows {kind : Kind} {field : NullScalarType (kind.Data δ)}
    (tracks : (Field.nullScalar kind field : Field δ ω).Tracks codec column) {value : kind.Data δ}
    (notHidden : field.realNull = true → field.realValue ≠ value) :
    Field.Follows codec column (.nullScalar kind field)
      (.nullScalar kind (field.setValue value false).1) (field.setValue value false).2 := by
  unfold NullScalarType.setValue
  dsimp only
  split
  · exact .set tracks rfl rfl ⟨rfl, fun _ => rfl⟩ rfl
  · next known =>
      have same : field.realValue = value := by
        by_contra differs
        exact known ⟨rfl, differs⟩
      have notNull : field.realNull = false := by
        cases isNull : field.realNull with
        | false => rfl
        | true => exact absurd same (notHidden isNull)
      have kept : (⟨false, value, field.realNull, field.realValue, field.delta⟩ :
          NullScalarType (kind.Data δ)) = field := by
        have tempNull := tracks.wellformed.1
        have tempValue := tracks.wellformed.2 notNull
        cases field
        simp_all
      rw [kept]
      exact .same tracks

private theorem NullScalarType.setNull_follows {kind : Kind} {field : NullScalarType (kind.Data δ)}
    (tracks : (Field.nullScalar kind field : Field δ ω).Tracks codec column) :
    Field.Follows codec column (.nullScalar kind field)
      (.nullScalar kind (field.setNull false).1) (field.setNull false).2 := by
  unfold NullScalarType.setNull
  dsimp only
  split
  · exact .set tracks rfl rfl ⟨rfl, fun notNull => by cases notNull⟩ rfl
  · next known =>
      have isNull : field.realNull = true := by
        cases isNull : field.realNull with
        | true => rfl
        | false => exact absurd ⟨rfl, isNull⟩ known
      have kept : (⟨true, field.tempValue, field.realNull, field.realValue, field.delta⟩ :
          NullScalarType (kind.Data δ)) = field := by
        have tempNull := tracks.wellformed.1
        cases field
        simp_all
      rw [kept]
      exact .same tracks

private theorem CounterType.deltaValue_follows {field : CounterType}
    (tracks : (Field.counter field : Field δ ω).Tracks codec column) (delta : Int) :
    Field.Follows codec column (.counter field) (.counter (field.deltaValue delta).1)
      (field.deltaValue delta).2 := by
  unfold CounterType.deltaValue
  split
  · exact .same tracks
  · have recorded : codec.toInteger column + field.delta = field.value := tracks.recorded
    refine ⟨⟨trivial, ?_⟩, fun quiet => by cases quiet⟩
    show codec.toInteger column + (field.delta + delta) = field.value + delta
    omega

private theorem ObjectRef.setObject_follows {field : ObjectRef} (refer : ObjectRef → Field δ ω)
    (tracks : (refer field).Tracks codec column)
    (notCounter : ∀ field, (refer field).useDBIncrement = false)
    (wellformed : ∀ field, (refer field).Wellformed)
    (delta : ∀ field, (refer field).delta = field.delta) (objId : String) :
    Field.Follows codec column (refer field) (refer (field.setObject objId).1)
      (field.setObject objId).2 := by
  unfold ObjectRef.setObject
  split
  · exact .same tracks
  · exact .set tracks (notCounter _) (notCounter _) (wellformed _) (by rw [delta, delta])

end Setters

/-- A change is recorded, and not recorded without a notification. -/
theorem Change.apply_tracks {change : Change δ ω} {column : Value δ} {field : Field δ ω}
    (tracks : field.Tracks codec column) (recordable : change.Recordable field) :
    (change.apply field).1.Tracks codec column ∧
      ((change.apply field).2 = false → (change.apply field).1.delta = field.delta) := by
  have unchanged : Field.Follows codec column field field false := .same tracks
  cases field with
  | scalar fieldKind field =>
      cases change with
      | setValue kind value =>
          by_cases same : kind = fieldKind
          · subst same
            simp only [Change.apply, dif_pos]
            exact ScalarType.setValue_follows tracks value
          · simp only [Change.apply, dif_neg same]
            exact ⟨tracks, fun _ => trivial⟩
      | setNull => exact unchanged
      | deltaValue delta => exact unchanged
      | setJson json => exact unchanged
      | setObject objId named => exact unchanged
      | clearObject => exact unchanged
  | nullScalar fieldKind field =>
      cases change with
      | setValue kind value =>
          by_cases same : kind = fieldKind
          · subst same
            simp only [Change.apply, dif_pos]
            exact NullScalarType.setValue_follows tracks (recordable rfl)
          · simp only [Change.apply, dif_neg same]
            exact ⟨tracks, fun _ => trivial⟩
      | setNull => exact NullScalarType.setNull_follows tracks
      | deltaValue delta => exact unchanged
      | setJson json => exact unchanged
      | setObject objId named => exact unchanged
      | clearObject => exact unchanged
  | counter field =>
      cases change with
      | deltaValue delta => exact CounterType.deltaValue_follows tracks delta
      | setValue kind value => exact unchanged
      | setNull => exact unchanged
      | setJson json => exact unchanged
      | setObject objId named => exact unchanged
      | clearObject => exact unchanged
  | json field =>
      cases change with
      | setJson json => exact Field.Follows.set tracks rfl rfl trivial rfl
      | setValue kind value => exact unchanged
      | setNull => exact unchanged
      | deltaValue delta => exact unchanged
      | setObject objId named => exact unchanged
      | clearObject => exact unchanged
  | objectRef field =>
      have set (objId : String) := ObjectRef.setObject_follows Field.objectRef tracks
        (fun _ => rfl) (fun _ => trivial) (fun _ => rfl) objId
      cases change with
      | setObject objId named => exact set objId
      | setValue kind value => exact unchanged
      | setNull => exact unchanged
      | deltaValue delta => exact unchanged
      | setJson json => exact unchanged
      | clearObject => exact unchanged
  | nullObjectRef field =>
      have set (objId : String) := ObjectRef.setObject_follows Field.nullObjectRef tracks
        (fun _ => rfl) (fun _ => trivial) (fun _ => rfl) objId
      cases change with
      | setObject objId named => exact set objId
      | clearObject => exact set ""
      | setValue kind value => exact unchanged
      | setNull => exact unchanged
      | deltaValue delta => exact unchanged
      | setJson json => exact unchanged

/-- A field that has a value keeps one. -/
theorem Change.apply_isInitialized {change : Change δ ω} {field : Field δ ω}
    (initialized : field.isInitialized = true) :
    (change.apply field).1.isInitialized = true := by
  cases field with
  | scalar fieldKind field =>
      cases change with
      | setValue kind value =>
          by_cases same : kind = fieldKind
          · subst same
            simp only [Change.apply, dif_pos, ScalarType.setValue]
            split <;> rfl
          · simp only [Change.apply, dif_neg same]
            exact initialized
      | setNull => exact initialized
      | deltaValue delta => exact initialized
      | setJson json => exact initialized
      | setObject objId named => exact initialized
      | clearObject => exact initialized
  | objectRef field =>
      cases change with
      | setObject objId named =>
          simp only [Change.apply, ObjectRef.setObject]
          split
          · exact initialized
          · exact decide_eq_true named
      | setValue kind value => exact initialized
      | setNull => exact initialized
      | deltaValue delta => exact initialized
      | setJson json => exact initialized
      | clearObject => exact initialized
  | nullScalar fieldKind field =>
      cases change with
      | setValue kind value =>
          simp only [Change.apply]
          split <;> rfl
      | setNull => rfl
      | deltaValue delta => rfl
      | setJson json => rfl
      | setObject objId named => rfl
      | clearObject => rfl
  | counter field => cases change <;> rfl
  | json field => cases change <;> rfl
  | nullObjectRef field => cases change <;> rfl

end Andromeda.Database
