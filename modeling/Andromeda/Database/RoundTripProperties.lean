import Andromeda.Database.StoredFields
import Mathlib.Data.Nat.Digits.Defs

/-! Which values come back from the database as they were assigned. -/

set_option autoImplicit false
set_option linter.unusedSectionVars false

namespace Andromeda.Database

section

variable {δ ω : Type} {sqlite : Sqlite δ} {json : JsonLibrary ω}

/-- What the JSON library's `dump` gives is not empty and, for a finite value, parsed as the same
value, unlike its beginnings. No text is parsed as a value that is not finite. -/
structure JsonLibrary.Lawful (json : JsonLibrary ω) : Prop where
  dump_ne {value : ω} {text : StdString} : json.dump value = some text → text ≠ []
  parse_dump {value : ω} {text : StdString} : json.finite value = true →
    json.dump value = some text → json.parse text = some value
  parse_finite {value : ω} {text : StdString} :
    json.parse text = some value → json.finite value = true
  whole {value : ω} {text part : StdString} :
    json.dump value = some text → part <+: text → json.parse part = some value → part = text

private theorem sizeToInt_eq {size : Nat} (small : size < 2 ^ 31) : sizeToInt size = size := by
  unfold sizeToInt
  rw [BitVec.toInt_eq_toNat_of_lt]
  · rw [BitVec.toNat_ofNat, Nat.mod_eq_of_lt (by omega)]
  · rw [BitVec.toNat_ofNat, Nat.mod_eq_of_lt (by omega)]
    omega

theorem bindBlob_whole (bytes : StdString) :
    bindBlob sqlite bytes (sizeToInt bytes.length) = some (.blob bytes) ↔
      bytes.length ≤ sqlite.limit := by
  have limit := sqlite.limit_lt
  unfold bindBlob
  constructor
  · intro bound
    split at bound
    · cases bound
    · next fits =>
      have whole : bytes.take (sizeToInt bytes.length).toNat = bytes := by simpa using bound
      have length := congrArg List.length whole
      rw [List.length_take] at length
      omega
  · intro fits
    rw [sizeToInt_eq (by omega), if_neg (by omega), Int.toNat_natCast, List.take_length]

namespace ScalarKind

/-- The values of a scalar type that are stored as such. -/
def Fits (sqlite : Sqlite δ) : (kind : ScalarKind) → kind.Data δ → Prop
  | .string, bytes => bytes ≠ [] ∧ bytes.length ≤ sqlite.limit
  | .int, _ => True
  | .int64, _ => True
  | .double, value => sqlite.isNaN value = false

private theorem blobOf_bound {bytes : StdString} {column : SqliteValue δ}
    (bound : MixedValue.bind sqlite (.string bytes) = some column) :
    ∃ part, column = .blob part ∧ part <+: bytes := by
  change bindBlob sqlite bytes _ = some column at bound
  unfold bindBlob at bound
  split at bound
  · cases bound
  · cases bound
    exact ⟨_, rfl, List.take_prefix _ _⟩

/-- A value is bound as one that is not null and read as the same value. -/
def ReadsBack (sqlite : Sqlite δ) (kind : ScalarKind) (value : kind.Data δ) : Prop :=
  ∃ column, (kind.toMixed value).bind sqlite = some column ∧
    (MixedValue.sqlite column).isNull sqlite = false ∧
      kind.getTo sqlite (.sqlite column) = .ok value

private theorem isNull_toMixed (kind : ScalarKind) (value : kind.Data δ) :
    (kind.toMixed value).isNull sqlite = false := by
  cases kind with
  | string => rfl
  | int => rfl
  | int64 => rfl
  | double => rfl

private theorem isNull_integer (value : Int64) :
    (MixedValue.sqlite (SqliteValue.integer (δ := δ) value)).isNull sqlite = false := by
  have some_ := sqlite.integerText_ne value
  simp [MixedValue.isNull, SqliteValue.bytes, SqliteValue.blobOf, some_]

private theorem isNull_real (value : δ) :
    (MixedValue.sqlite (SqliteValue.real value)).isNull sqlite = false := by
  have some_ := sqlite.realText_ne value
  simp [MixedValue.isNull, SqliteValue.bytes, SqliteValue.blobOf, some_]

private theorem isNull_blob (bytes : StdString) :
    (MixedValue.sqlite (SqliteValue.blob (δ := δ) bytes)).isNull sqlite = false ↔ bytes ≠ [] := by
  simp [MixedValue.isNull, SqliteValue.bytes, SqliteValue.blobOf]

private theorem readsBack_string (bytes : StdString) :
    ReadsBack sqlite .string bytes ↔ Fits sqlite .string bytes := by
  constructor
  · rintro ⟨column, bound, notNull, reads⟩
    obtain ⟨part, rfl, _⟩ := blobOf_bound bound
    cases reads
    exact ⟨(isNull_blob part).mp notNull, (bindBlob_whole part).mp bound⟩
  · rintro ⟨nonempty, fits⟩
    exact ⟨.blob bytes, (bindBlob_whole bytes).mpr fits, (isNull_blob bytes).mpr nonempty, rfl⟩

private theorem readsBack_iff (kind : ScalarKind) (value : kind.Data δ) :
    ReadsBack sqlite kind value ↔ Fits sqlite kind value := by
  cases kind with
  | string => exact readsBack_string value
  | int =>
      have reads : (SqliteValue.integer (δ := δ) value.toInt64).intOf sqlite = value := by
        simp [SqliteValue.intOf, SqliteValue.int64Of]
      exact iff_of_true ⟨.integer value.toInt64, rfl, isNull_integer _, congrArg _ reads⟩ trivial
  | int64 => exact iff_of_true ⟨.integer value, rfl, isNull_integer value, rfl⟩ trivial
  | double =>
      change (∃ column, some (bindDouble sqlite value) = some column ∧ _ ∧ _) ↔
        sqlite.isNaN value = false
      cases nan : sqlite.isNaN value with
      | true =>
          have bound : bindDouble sqlite value = .null := by simp [bindDouble, nan]
          rw [bound]
          apply iff_of_false
          · rintro ⟨column, same, notNull, _⟩
            cases same
            cases notNull
          · exact Bool.noConfusion
      | false =>
          have bound : bindDouble sqlite value = .real value := by simp [bindDouble, nan]
          rw [bound]
          exact iff_of_true ⟨.real value, rfl, isNull_real value, rfl⟩ rfl

end ScalarKind

/-- A value that is not null is written as it is bound. -/
theorem Statement.write_eq (statement : Statement δ) {value : MixedValue δ}
    (notNull : value.isNull sqlite = false) :
    statement.write sqlite false value =
      match value.bind sqlite with
      | none => .error .database
      | some bound => .ok bound := by
  unfold Statement.write
  rw [notNull, if_neg Bool.false_ne_true]
  cases value.bind sqlite with
  | none => rfl
  | some bound => cases statement <;> rfl

namespace Assignment

variable [DecidableEq δ] [Zero δ] (statement : Statement δ)

/-- The values that come back: strings are not empty and within the limit, doubles are numbers, a
nullable scalar that is null is not assigned the value it held before, a counter is not changed on
a column that is null, and a JSON value is finite and has a text within the limit. -/
def Storable (sqlite : Sqlite δ) (json : JsonLibrary ω) : Assignment δ ω → Prop
  | .scalar kind _ value => kind.Fits sqlite value
  | .nullScalar kind field (some value) =>
    kind.Fits sqlite value ∧ ¬ (field.realNull = true ∧ field.realValue = value)
  | .nullScalar _ _ none => True
  | .counter loaded delta => loaded = some none → delta = 0
  | .json _ none => True
  | .json _ (some value) => json.finite value = true ∧
    ∃ text, json.dump value = some text ∧ text.length ≤ sqlite.limit
  | .objectRef _ objId _ => objId.length ≤ sqlite.limit
  | .nullObjectRef _ objId => objId.length ≤ sqlite.limit

private theorem getDBValue_setValue (kind : ScalarKind) (field : ScalarType (kind.Data δ))
    (value : kind.Data δ) :
    ScalarType.getDBValue kind (field.setValue value false).1 = .ok (kind.toMixed value) := by
  unfold ScalarType.setValue ScalarType.getDBValue
  by_cases changed : field.realInitd = false ∨ field.realValue ≠ value
  · simp [changed]
  · simp only [not_or, Bool.not_eq_false, not_not, ne_eq] at changed
    simp [changed]

private theorem getDBValue_setValue_null (kind : ScalarKind) (field : NullScalarType (kind.Data δ))
    (value : kind.Data δ) :
    NullScalarType.getDBValue kind (field.setValue value false).1 =
      if field.realNull = true ∧ field.realValue = value then .null else kind.toMixed value := by
  unfold NullScalarType.setValue NullScalarType.getDBValue
  by_cases same : field.realValue = value
  · simp [same]
  · simp [same]

private theorem getDBValue_setNull (kind : ScalarKind) (field : NullScalarType (kind.Data δ)) :
    NullScalarType.getDBValue kind (field.setNull false).1 = .null := by
  unfold NullScalarType.setNull NullScalarType.getDBValue
  cases null : field.realNull with
  | true => simp
  | false => simp

theorem column_scalar (kind : ScalarKind) (field : ScalarType (kind.Data δ))
    (value : kind.Data δ) :
    (Assignment.scalar (ω := ω) kind field value).column sqlite json statement =
      match (kind.toMixed value).bind sqlite with
      | none => .error .database
      | some bound => .ok bound := by
  simp only [column, getDBValue_setValue]
  exact statement.write_eq (ScalarKind.isNull_toMixed kind value)

theorem column_nullScalar (kind : ScalarKind) (field : NullScalarType (kind.Data δ))
    (value : kind.Data δ) (kept : ¬ (field.realNull = true ∧ field.realValue = value)) :
    (Assignment.nullScalar (ω := ω) kind field (some value)).column sqlite json statement =
      match (kind.toMixed value).bind sqlite with
      | none => .error .database
      | some bound => .ok bound := by
  simp only [column, getDBValue_setValue_null, if_neg kept]
  exact statement.write_eq (ScalarKind.isNull_toMixed kind value)

/-- A value set on a null field that still holds it is not saved. -/
theorem column_stale (kind : ScalarKind) (field : NullScalarType (kind.Data δ))
    (value : kind.Data δ) (stale : field.realNull = true ∧ field.realValue = value) :
    (Assignment.nullScalar (ω := ω) kind field (some value)).column sqlite json statement =
      .ok .null := by
  simp only [column, getDBValue_setValue_null, if_pos stale]
  rfl

private theorem reload_scalar_iff (kind : ScalarKind) (field : ScalarType (kind.Data δ))
    (value : kind.Data δ) :
    (Assignment.scalar (ω := ω) kind field value).reload sqlite json statement =
        .ok (.scalar kind value) ↔ kind.Fits sqlite value := by
  rw [← ScalarKind.readsBack_iff, reload, column_scalar]
  unfold ScalarKind.ReadsBack
  cases (kind.toMixed value).bind sqlite with
  | none => simp
  | some column =>
      simp only [load, ScalarType.initDBValue, Option.some.injEq, exists_eq_left']
      cases (MixedValue.sqlite column).isNull sqlite with
      | true => simp [Except.map]
      | false =>
          cases kind.getTo sqlite (.sqlite column) with
          | error exception => simp [Except.map]
          | ok data => simp [Except.map, ScalarType.shown]

private theorem reload_nullScalar_iff (kind : ScalarKind) (field : NullScalarType (kind.Data δ))
    (value : kind.Data δ) :
    (Assignment.nullScalar (ω := ω) kind field (some value)).reload sqlite json statement =
        .ok (.scalar kind value) ↔
      kind.Fits sqlite value ∧ ¬ (field.realNull = true ∧ field.realValue = value) := by
  by_cases stale : field.realNull = true ∧ field.realValue = value
  · rw [reload, column_stale statement kind field value stale]
    apply iff_of_false
    · intro same
      cases same
    · exact fun both => both.2 stale
  · rw [and_iff_left stale, ← ScalarKind.readsBack_iff, reload,
      column_nullScalar statement kind field value stale]
    unfold ScalarKind.ReadsBack
    cases (kind.toMixed value).bind sqlite with
    | none => simp
    | some column =>
        simp only [load, NullScalarType.initDBValue, Option.some.injEq, exists_eq_left']
        cases (MixedValue.sqlite column).isNull sqlite with
        | true => simp [Except.map, NullScalarType.shown]
        | false =>
            cases kind.getTo sqlite (.sqlite column) with
            | error exception => simp [Except.map]
            | ok data => simp [Except.map, NullScalarType.shown]

private theorem reload_setNull (kind : ScalarKind) (field : NullScalarType (kind.Data δ)) :
    (Assignment.nullScalar (ω := ω) kind field none).reload sqlite json statement = .ok .null := by
  simp only [reload, column, getDBValue_setNull]
  rfl

private theorem column_counter (loaded : Option (Option Int32)) (delta : Int32) :
    (Assignment.counter (ω := ω) loaded delta).column sqlite json statement =
      match loaded with
      | none => .ok (.integer delta.toInt64)
      | some none => .ok .null
      | some (some value) => .ok (.integer (value.toInt64 + delta.toInt64)) := by
  have changed (value : Int32) : (Counter.deltaValue ⟨value, 0⟩ delta).delta = delta := by
    unfold Counter.deltaValue
    split
    · next zero => exact zero.symm
    · exact Int32.zero_add delta
  cases loaded with
  | none =>
      simp only [column, counterBefore, counterStatement, Counter.getDBValue, changed]
      rfl
  | some held =>
      cases held with
      | none =>
          simp only [column, counterBefore, counterStatement, Counter.getDBValue,
            Counter.initDBValue, MixedValue.getInt, changed]
          rfl
      | some value =>
          have small := value.le_toInt
          have large := value.toInt_lt
          have deltaSmall := delta.le_toInt
          have deltaLarge := delta.toInt_lt
          simp only [column, counterBefore, counterStatement, Counter.getDBValue,
            Counter.initDBValue, MixedValue.getInt, changed, Statement.write, MixedValue.isNull,
            MixedValue.bind, SqliteValue.plus, Int32.toInt_toInt64, Bool.false_eq_true, if_false]
          rw [if_pos (by omega)]

private theorem reload_counter_iff (loaded : Option (Option Int32)) (delta : Int32) :
    (Assignment.counter (ω := ω) loaded delta).reload sqlite json statement =
        .ok (.scalar .int ((loaded.join).getD 0 + delta : Int32)) ↔
      (loaded = some none → delta = 0) := by
  rw [reload, column_counter]
  rcases loaded with _ | _ | value
  · simp [load, Counter.initDBValue, MixedValue.getInt, SqliteValue.intOf, SqliteValue.int64Of,
      Except.map]
  · simp [load, Counter.initDBValue, MixedValue.getInt, SqliteValue.intOf, SqliteValue.int64Of,
      Except.map, eq_comm]
  · simp [load, Counter.initDBValue, MixedValue.getInt, SqliteValue.intOf, SqliteValue.int64Of,
      Except.map]

private theorem write_string_iff {bytes : StdString} (nonempty : bytes ≠ []) :
    (∃ column, statement.write sqlite false (.string bytes) = .ok column ∧
        (MixedValue.sqlite column).isNull sqlite = false ∧ column.blobOf sqlite = bytes) ↔
      bytes.length ≤ sqlite.limit := by
  have fits : ScalarKind.Fits sqlite .string bytes ↔ bytes.length ≤ sqlite.limit :=
    and_iff_right nonempty
  rw [← fits, ← ScalarKind.readsBack_iff, statement.write_eq rfl]
  unfold ScalarKind.ReadsBack
  change _ ↔ ∃ column, MixedValue.bind sqlite (.string bytes) = some column ∧ _ ∧
    Except.ok (column.blobOf sqlite) = Except.ok bytes
  cases MixedValue.bind sqlite (.string bytes) with
  | none => simp
  | some column => simp

private theorem reload_json_iff (lawful : json.Lawful) (field : JsonType ω) (value : ω) :
    (Assignment.json (δ := δ) field (some value)).reload sqlite json statement =
        .ok (.json value) ↔
      json.finite value = true ∧
        ∃ text, json.dump value = some text ∧ text.length ≤ sqlite.limit := by
  simp only [reload, column, JsonType.setJson, JsonType.getDBValue]
  cases dumped : json.dump value with
  | none => simp
  | some text =>
      have nonempty := lawful.dump_ne dumped
      simp only [Option.some.injEq, exists_eq_left', ← write_string_iff statement nonempty]
      rw [statement.write_eq rfl]
      cases bound : MixedValue.bind sqlite (.string text) with
      | none => simp
      | some column =>
          obtain ⟨part, rfl, first⟩ := ScalarKind.blobOf_bound bound
          simp only [load, JsonType.initDBValue, MixedValue.getString, Except.ok.injEq,
            exists_eq_left', SqliteValue.blobOf]
          cases null : (MixedValue.sqlite (SqliteValue.blob part)).isNull sqlite with
          | true => simp [Except.map, JsonType.shown]
          | false =>
              simp only [Bool.false_eq_true, if_false, true_and]
              constructor
              · intro same
                cases again : json.parse part with
                | none =>
                    rw [again] at same
                    cases same
                | some other =>
                    rw [again] at same
                    cases same
                    exact ⟨lawful.parse_finite again, lawful.whole dumped first again⟩
              · rintro ⟨finite, rfl⟩
                rw [lawful.parse_dump finite dumped]
                rfl

theorem getDBValue_setObject (field : Reference) {objId : StdString} (named : objId ≠ []) :
    (field.setObject objId).getDBValue (δ := δ) = .ok (.string objId) := by
  unfold Reference.setObject Reference.getDBValue
  split
  · next same => rw [same, if_neg named]
  · rfl

theorem getDBValueNull_setObject (field : Reference) (objId : StdString) :
    (field.setObject objId).getDBValueNull (δ := δ) =
      if objId = [] then .null else .string objId := by
  unfold Reference.setObject Reference.getDBValueNull
  split
  · next same => rw [same]
  · rfl

private theorem reload_objectRef_iff (field : Reference) {objId : StdString} (named : objId ≠ []) :
    (Assignment.objectRef (ω := ω) field objId named).reload sqlite json statement =
        .ok (.object objId) ↔ objId.length ≤ sqlite.limit := by
  rw [← write_string_iff statement named]
  simp only [reload, column, getDBValue_setObject field named]
  cases statement.write sqlite false (.string objId) with
  | error exception => simp
  | ok column =>
      simp only [load, Reference.initDBValue, MixedValue.getString, Except.ok.injEq,
        exists_eq_left']
      cases (MixedValue.sqlite column).isNull sqlite with
      | true => simp [Except.map]
      | false =>
          simp only [Bool.false_eq_true, if_false, true_and, Except.map, Reference.shown]
          constructor
          · intro same
            split at same
            · cases same
            · cases same
              rfl
          · rintro rfl
            rw [if_neg named]

private theorem reload_nullObjectRef_iff (field : Reference) (objId : StdString) :
    (Assignment.nullObjectRef (ω := ω) field objId).reload sqlite json statement =
        .ok (if objId = [] then .null else .object objId) ↔ objId.length ≤ sqlite.limit := by
  by_cases named : objId = []
  · subst named
    simp only [reload, column, getDBValueNull_setObject]
    exact iff_of_true rfl (Nat.zero_le _)
  · rw [if_neg named, ← write_string_iff statement named]
    simp only [reload, column, getDBValueNull_setObject, if_neg named]
    cases statement.write sqlite false (.string objId) with
    | error exception => simp
    | ok column =>
        simp only [load, Reference.initDBValueNull, MixedValue.getString, Except.ok.injEq,
          exists_eq_left']
        cases (MixedValue.sqlite column).isNull sqlite with
        | true => simp [Except.map, Reference.shown]
        | false =>
            simp only [Bool.false_eq_true, if_false, true_and, Except.map, Reference.shown]
            constructor
            · intro same
              split at same
              · cases same
              · cases same
                rfl
            · rintro rfl
              rw [if_neg named]

/-- A value that is assigned, saved and loaded comes back exactly if it is storable. -/
theorem reload_iff (lawful : json.Lawful) (statement : Statement δ)
    (assignment : Assignment δ ω) :
    assignment.reload sqlite json statement = .ok assignment.value ↔
      assignment.Storable sqlite json := by
  cases assignment with
  | scalar kind field value => exact reload_scalar_iff statement kind field value
  | nullScalar kind field value =>
      cases value with
      | none => exact iff_of_true (reload_setNull statement kind field) trivial
      | some value => exact reload_nullScalar_iff statement kind field value
  | counter loaded delta => exact reload_counter_iff statement loaded delta
  | json field value =>
      cases value with
      | none => exact iff_of_true rfl trivial
      | some value => exact reload_json_iff statement lawful field value
  | objectRef field objId named => exact reload_objectRef_iff statement field named
  | nullObjectRef field objId => exact reload_nullObjectRef_iff statement field objId

end Assignment

end

namespace Scenario

/-- The digits of a number as text. -/
def digits (value : Int) : StdString :=
  if value = 0 then [48]
  else (if value < 0 then [45] else []) ++
    (Nat.digits 10 value.natAbs).reverse.map fun digit => (48 + digit).toUInt8

private theorem digits_ne (value : Int) : digits value ≠ [] := by
  unfold digits
  split
  · exact List.cons_ne_nil _ _
  · next nonzero =>
    apply List.append_ne_nil_of_right_ne_nil
    simp only [ne_eq, List.map_eq_nil_iff, List.reverse_eq_nil_iff]
    exact Nat.digits_ne_nil_iff_ne_zero.mpr (Int.natAbs_ne_zero.mpr nonzero)

/-- SQLite with the usual limit, for whole doubles. -/
def sqlite : Sqlite Int where
  limit := 1000000000
  limit_lt := by decide
  isNaN _ := false
  integerText value := digits value.toInt
  integerText_ne value := digits_ne value.toInt
  realText value := digits value ++ [46, 48]
  realText_ne value := List.append_ne_nil_of_left_ne_nil (digits_ne value) _
  parseInteger _ := 0
  parseReal _ := 0
  realToInteger value := Int64.ofInt value
  integerToReal value := value.toInt
  addOther value _ := value

/-- The JSON values `true` and `false`. -/
def booleans : JsonLibrary Bool where
  dump
    | true => some [116, 114, 117, 101]
    | false => some [102, 97, 108, 115, 101]
  parse text :=
    if text = [116, 114, 117, 101] then some true
    else if text = [102, 97, 108, 115, 101] then some false
    else none
  finite _ := true

private theorem booleans_lawful : booleans.Lawful where
  dump_ne {value text} dumped := by
    cases value with
    | true =>
        cases dumped
        exact List.cons_ne_nil _ _
    | false =>
        cases dumped
        exact List.cons_ne_nil _ _
  parse_finite _ := rfl
  parse_dump {value text} _ dumped := by
    cases value with
    | true =>
        cases dumped
        rfl
    | false =>
        cases dumped
        rfl
  whole {value text part} dumped _ parsed := by
    simp only [booleans] at parsed
    split at parsed
    · next same =>
      cases parsed
      cases dumped
      exact same
    · split at parsed
      · next same =>
        cases parsed
        cases dumped
        exact same
      · cases parsed

/-- `true` comes back from an INSERT. -/
theorem true_reload :
    (Assignment.json (δ := Int) ⟨none, 0⟩ (some true)).reload sqlite booleans .insert =
        .ok (.json true) ↔
      booleans.finite true = true ∧
        ∃ text, booleans.dump true = some text ∧ text.length ≤ sqlite.limit :=
  Assignment.reload_iff booleans_lawful .insert (.json ⟨none, 0⟩ (some true))

/-- The empty text of a nullable field comes back as null. -/
theorem empty_reload :
    let assignment : Assignment Int Bool :=
      .nullScalar .string ⟨false, [97], false, [97], 0⟩ (some [])
    assignment.value = .scalar .string [] ∧
      assignment.reload sqlite booleans (.update (.blob [97])) = .ok .null :=
  ⟨rfl, rfl⟩

end Scenario

end Andromeda.Database
