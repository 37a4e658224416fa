import Andromeda.Database.QueryBuilder
import Andromeda.Database.RoundTripProperties

/-! When a query for a value finds the rows it was saved to. -/

set_option autoImplicit false
set_option linter.unusedSectionVars false

namespace Andromeda.Database

section

variable {δ ω : Type} [DecidableEq δ] [Zero δ] {sqlite : Sqlite δ} {json : JsonLibrary ω}
  {statement : Statement δ} {assignment : Assignment δ ω} {kind : ScalarKind}
  {column : SqliteValue δ}

/-- A value of a field's kind as a query gets it. Strings come in two types. -/
inductive Operand (δ : Type) : ScalarKind → Type where
  | same (kind : ScalarKind) (value : kind.Data δ) : Operand δ kind
  | chars (text : CString) : Operand δ .string

namespace Operand

def toMixed {kind : ScalarKind} : Operand δ kind → MixedValue δ
  | .same kind value => kind.toMixed value
  | .chars text => .chars text

def data {kind : ScalarKind} : Operand δ kind → kind.Data δ
  | .same _ value => value
  | .chars text => text.bytes

/-- Whether the value is given as `const char*`. -/
def IsChars {kind : ScalarKind} : Operand δ kind → Prop
  | .same _ _ => False
  | .chars _ => True

end Operand

/-- `==` of C++: NaN differs from itself. -/
def ScalarKind.Equal (sqlite : Sqlite δ) : (kind : ScalarKind) → kind.Data δ → kind.Data δ → Prop
  | .double, left, right => left = right ∧ sqlite.isNaN left = false
  | .string, left, right => left = right
  | .int, left, right => left = right
  | .int64, left, right => left = right

/-- The part of a string that is bound. -/
def boundPart (bytes : StdString) : StdString := bytes.take (sizeToInt bytes.length).toNat

/-- Different strings that are bound alike, since the size of one does not fit an `int`. -/
def Collide (sqlite : Sqlite δ) : (kind : ScalarKind) → kind.Data δ → Operand δ kind → Prop
  | .string, value, .same _ bytes => bytes ≠ value ∧ 0 ≤ sizeToInt bytes.length ∧
    sizeToInt bytes.length ≤ sqlite.limit ∧ boundPart bytes = boundPart value
  | _, _, _ => False

/-- A value that is a string. -/
def ScalarKind.stringOf : (kind : ScalarKind) → kind.Data δ → Option StdString
  | .string, value => some value
  | _, _ => none

namespace Assignment

/-- The string or number that is assigned. A reference is assigned the ID of an object. -/
inductive Holds : Assignment δ ω → (kind : ScalarKind) → kind.Data δ → Prop where
  | scalar {kind field value} : Holds (.scalar kind field value) kind value
  | nullScalar {kind field value} : Holds (.nullScalar kind field (some value)) kind value
  | objectRef {field objId named} : Holds (.objectRef field objId named) .string objId
  | nullObjectRef {field objId} : objId ≠ [] → Holds (.nullObjectRef field objId) .string objId

/-- A nullable scalar that is null is not assigned the value it held before. -/
def Kept : Assignment δ ω → Prop
  | .nullScalar _ field (some value) => ¬ (field.realNull = true ∧ field.realValue = value)
  | _ => True

private theorem bind_of_write {mixed : MixedValue δ}
    (written : (match mixed.bind sqlite with
      | none => .error .database
      | some bound => .ok bound) = (Except.ok column : Except Exception _)) :
    mixed.bind sqlite = some column := by
  cases result : mixed.bind sqlite with
  | none =>
      rw [result] at written
      cases written
  | some bound =>
      rw [result] at written
      cases written
      rfl

private theorem column_kept {value : kind.Data δ} (holds : assignment.Holds kind value)
    (kept : assignment.Kept) (saved : assignment.column sqlite json statement = .ok column) :
    (kind.toMixed value).bind sqlite = some column := by
  cases holds with
  | scalar =>
      rw [column_scalar] at saved
      exact bind_of_write saved
  | nullScalar =>
      rw [column_nullScalar _ _ _ _ kept] at saved
      exact bind_of_write saved
  | @objectRef field objId named =>
      simp only [Assignment.column, getDBValue_setObject field named] at saved
      rw [statement.write_eq rfl] at saved
      exact bind_of_write saved
  | @nullObjectRef field objId named =>
      simp only [Assignment.column, getDBValueNull_setObject, if_neg named] at saved
      rw [statement.write_eq rfl] at saved
      exact bind_of_write saved

private theorem column_lost {value : kind.Data δ} (holds : assignment.Holds kind value)
    (lost : ¬ assignment.Kept) (saved : assignment.column sqlite json statement = .ok column) :
    column = .null := by
  cases holds with
  | scalar => exact absurd trivial lost
  | nullScalar =>
      rw [column_stale _ _ _ _ (not_not.mp lost), Except.ok.injEq] at saved
      exact saved.symm
  | objectRef => exact absurd trivial lost
  | nullObjectRef _ => exact absurd trivial lost

end Assignment

private theorem equals_matches (key : String) (value : MixedValue δ)
    (row : String → SqliteValue δ) :
    findsEqual sqlite row key value = true ↔
      ∃ bound, value.bind sqlite = some bound ∧ (row key).eqv sqlite bound = some true := by
  simp only [findsEqual, QueryBuilder.equals, QueryBuilder.addParam, Condition.matches, List.lookup_nil,
    Option.isSome_none, Bool.false_eq_true, if_false, List.nil_append, bindAll]
  cases value.bind sqlite with
  | none => simp
  | some bound => simp [Condition.eval, Comparison.eval]

private theorem boundPart_of_bound {bytes : StdString} {column : SqliteValue δ} :
    MixedValue.bind sqlite (.string bytes) = some column ↔
      (0 ≤ sizeToInt bytes.length ∧ sizeToInt bytes.length ≤ sqlite.limit) ∧
        column = .blob (boundPart bytes) := by
  change bindBlob sqlite bytes _ = some column ↔ _
  unfold bindBlob boundPart
  split
  · next refused =>
    apply iff_of_false
    · exact Option.some_ne_none column ∘ Eq.symm
    · omega
  · next accepted =>
    rw [Option.some.injEq, eq_comm, and_iff_right]
    omega

private theorem eqv_bindDouble (left right : δ) :
    (bindDouble sqlite left).eqv sqlite (bindDouble sqlite right) = some true ↔
      right = left ∧ sqlite.isNaN right = false := by
  unfold bindDouble
  cases leftNaN : sqlite.isNaN left with
  | true =>
      apply iff_of_false
      · cases sqlite.isNaN right with
        | true => exact Option.some_ne_none true ∘ Eq.symm
        | false => exact Option.some_ne_none true ∘ Eq.symm
      · rintro ⟨rfl, number⟩
        rw [leftNaN] at number
        cases number
  | false =>
      cases rightNaN : sqlite.isNaN right with
      | true =>
          apply iff_of_false
          · exact Option.some_ne_none true ∘ Eq.symm
          · exact fun both => Bool.noConfusion both.2
      | false => simp [SqliteValue.eqv, eq_comm]

private theorem eqv_bound (kind : ScalarKind) (value : kind.Data δ) (operand : Operand δ kind)
    (saved : (kind.toMixed value).bind sqlite = some column) :
    (∃ bound, operand.toMixed.bind sqlite = some bound ∧ column.eqv sqlite bound = some true) ↔
      ¬ operand.IsChars ∧ kind.Equal sqlite operand.data value ∨
        Collide sqlite kind value operand := by
  cases operand with
  | chars text =>
      obtain ⟨_, rfl⟩ := boundPart_of_bound.mp saved
      apply iff_of_false
      · rintro ⟨bound, result, equal⟩
        change bindText sqlite text = some bound at result
        unfold bindText at result
        split at result
        · cases result
        · cases result
          cases equal
      · rintro (⟨given, _⟩ | collide)
        · exact given trivial
        · exact collide
  | same _ other =>
      have given : ¬ (Operand.same kind other).IsChars := id
      rw [and_iff_right given]
      cases kind with
      | string =>
          obtain ⟨accepted, rfl⟩ := boundPart_of_bound.mp saved
          change (∃ bound, MixedValue.bind sqlite (.string other) = some bound ∧ _) ↔
            other = value ∨ (other ≠ value ∧ 0 ≤ sizeToInt other.length ∧
              sizeToInt other.length ≤ sqlite.limit ∧ boundPart other = boundPart value)
          simp only [boundPart_of_bound]
          constructor
          · rintro ⟨bound, ⟨fits, rfl⟩, equal⟩
            simp only [SqliteValue.eqv, Option.some.injEq, decide_eq_true_eq] at equal
            by_cases same : other = value
            · exact .inl same
            · exact .inr ⟨same, fits.1, fits.2, equal.symm⟩
          · rintro (rfl | ⟨_, low, high, same⟩)
            · exact ⟨_, ⟨accepted, rfl⟩, by simp [SqliteValue.eqv]⟩
            · exact ⟨_, ⟨⟨low, high⟩, rfl⟩, by simp [SqliteValue.eqv, same]⟩
      | int =>
          cases saved
          have injective : value.toInt64 = other.toInt64 ↔ other = value := by
            constructor
            · intro same
              have back := congrArg Int64.toInt32 same
              rw [Int32.toInt32_toInt64, Int32.toInt32_toInt64] at back
              exact back.symm
            · rintro rfl
              rfl
          simp [Operand.toMixed, ScalarKind.toMixed, MixedValue.bind, SqliteValue.eqv,
            ScalarKind.Equal, Operand.data, Collide, injective]
      | int64 =>
          cases saved
          simp [Operand.toMixed, ScalarKind.toMixed, MixedValue.bind, SqliteValue.eqv,
            ScalarKind.Equal, Operand.data, Collide, eq_comm]
      | double =>
          cases saved
          simp only [Operand.toMixed, ScalarKind.toMixed, MixedValue.bind, Option.some.injEq,
            exists_eq_left', eqv_bindDouble, ScalarKind.Equal, Operand.data, Collide, or_false]

private theorem orElse_true (left right : Option Bool) :
    orElse left right = some true ↔ left = some true ∨ right = some true := by
  rcases left with _ | _ | _
  all_goals
    rcases right with _ | _ | _
    all_goals simp [orElse]

private theorem eval_anyOf {params : List (String × SqliteValue δ)} {row : String → SqliteValue δ}
    {comparisons : List Comparison}
    (holds : (Condition.anyOf comparisons).eval sqlite params row = some true) :
    ∃ comparison ∈ comparisons, comparison.eval sqlite params row = some true := by
  induction comparisons with
  | nil => simp [Condition.eval] at holds
  | cons comparison rest ih =>
      change orElse (comparison.eval sqlite params row)
        ((Condition.anyOf rest).eval sqlite params row) = some true at holds
      rcases (orElse_true _ _).mp holds with first | later
      · exact ⟨comparison, List.mem_cons_self, first⟩
      · obtain ⟨found, member, equal⟩ := ih later
        exact ⟨found, List.mem_cons_of_mem _ member, equal⟩

private theorem manyEquals_spec (key : String) (values : List CString) {builder : QueryBuilder δ}
    (texts : ∀ param ∈ builder.params, ∃ text, param.2 = .chars text) :
    (∀ comparison ∈ (builder.manyEquals key values).1, ∃ param, comparison = .equals key param) ∧
      ∀ param ∈ (builder.manyEquals key values).2.params, ∃ text, param.2 = .chars text := by
  induction values generalizing builder with
  | nil => exact ⟨fun comparison member => absurd member List.not_mem_nil, texts⟩
  | cons value rest ih =>
      have added : ∀ param ∈ (builder.equals key (.chars value)).2.params,
          ∃ text, param.2 = .chars text := by
        intro param member
        unfold QueryBuilder.equals QueryBuilder.addParam at member
        dsimp only at member
        split at member
        · exact texts param member
        · rcases List.mem_append.mp member with old | new
          · exact texts param old
          · rw [List.mem_singleton] at new
            exact ⟨value, congrArg Prod.snd new⟩
      obtain ⟨comparisons, params⟩ := ih added
      refine ⟨fun comparison member => ?_, params⟩
      rcases List.mem_cons.mp member with rfl | later
      · exact ⟨_, rfl⟩
      · exact comparisons comparison later

private theorem bindAll_texts {params : List (String × MixedValue δ)}
    {bound : List (String × SqliteValue δ)} (result : bindAll sqlite params = some bound)
    (texts : ∀ param ∈ params, ∃ text, param.2 = .chars text) :
    ∀ param ∈ bound, ∃ bytes, param.2 = .text bytes := by
  induction params generalizing bound with
  | nil =>
      cases result
      exact fun param member => absurd member List.not_mem_nil
  | cons param rest ih =>
      obtain ⟨name, value⟩ := param
      obtain ⟨text, same⟩ := texts _ List.mem_cons_self
      change value = .chars text at same
      subst same
      unfold bindAll at result
      split at result
      · next first others firstBound othersBound =>
        cases result
        intro param member
        rcases List.mem_cons.mp member with rfl | later
        · change bindText sqlite text = some first at firstBound
          unfold bindText at firstBound
          split at firstBound
          · cases firstBound
          · cases firstBound
            exact ⟨_, rfl⟩
        · exact ih othersBound (fun param member => texts param (List.mem_cons_of_mem _ member))
            param later
      · cases result

/-- A condition finds a row only if its parameters can be bound. -/
theorem Condition.matches_iff {condition : Condition} {params : List (String × MixedValue δ)}
    {row : String → SqliteValue δ} :
    condition.matches sqlite params row = true ↔ ∃ bound, bindAll sqlite params = some bound ∧
      condition.eval sqlite bound row = some true := by
  rw [Condition.matches]
  cases bindAll sqlite params with
  | none => simp
  | some bound => simp

private theorem manyEqualsOr_ne (key : String) (values : List CString)
    (row : String → SqliteValue δ)
    (stored : row key = .null ∨ ∃ bytes, row key = .blob bytes) :
    findsAny sqlite row key values ≠ true := by
  intro found
  have none_ : ∀ param ∈ (⟨0, []⟩ : QueryBuilder δ).params, ∃ text, param.2 = .chars text :=
    fun param member => absurd member List.not_mem_nil
  obtain ⟨comparisons, texts⟩ := manyEquals_spec key values none_
  obtain ⟨bound, result, anyOf⟩ := Condition.matches_iff.mp found
  obtain ⟨comparison, member, equal⟩ := eval_anyOf anyOf
  obtain ⟨name, rfl⟩ := comparisons comparison member
  have other : (bound.lookup name).getD .null = .null ∨
      ∃ bytes, (bound.lookup name).getD .null = .text bytes := by
    cases there : bound.lookup name with
    | none => exact .inl rfl
    | some value =>
        obtain ⟨before, after, split, _⟩ := List.lookup_eq_some_iff.mp there
        have member : (name, value) ∈ bound := by
          rw [split]
          simp
        exact .inr (bindAll_texts result texts _ member)
  change (row key).eqv sqlite ((bound.lookup name).getD .null) = some true at equal
  rcases stored with null | ⟨bytes, blob⟩
  · rw [null] at equal
    rcases other with null' | ⟨text, isText⟩
    · rw [null'] at equal
      cases equal
    · rw [isText] at equal
      cases equal
  · rw [blob] at equal
    rcases other with null' | ⟨text, isText⟩
    · rw [null'] at equal
      cases equal
    · rw [isText] at equal
      cases equal

/-- A query finds a saved value by the values that are equal to it, alone and in a list. -/
structure Agrees (sqlite : Sqlite δ) (row : String → SqliteValue δ) (key : String)
    (kind : ScalarKind) (value : kind.Data δ) (operand : Operand δ kind)
    (values : List CString) : Prop where
  equals : findsEqual sqlite row key operand.toMixed = true ↔ kind.Equal sqlite operand.data value
  manyEqualsOr (bytes : StdString) : kind.stringOf value = some bytes →
    (findsAny sqlite row key values = true ↔ ∃ text ∈ values, text.bytes = bytes)

/-- A query agrees with what was saved exactly if no equal value is given as `const char*`, the
value is kept, and no other is bound alike. -/
theorem query_agrees_iff (statement : Statement δ) {value : kind.Data δ}
    (holds : assignment.Holds kind value) {row : String → SqliteValue δ} {key : String}
    (saved : assignment.column sqlite json statement = .ok (row key)) (operand : Operand δ kind)
    (values : List CString) :
    Agrees sqlite row key kind value operand values ↔
      (kind.Equal sqlite operand.data value → assignment.Kept ∧ ¬ operand.IsChars) ∧
        (assignment.Kept → ¬ Collide sqlite kind value operand) ∧
          ∀ bytes, kind.stringOf value = some bytes → ∀ text ∈ values, text.bytes ≠ bytes := by
  have stored : kind.stringOf value = none ∨ row key = .null ∨ ∃ bytes, row key = .blob bytes := by
    cases kind with
    | string =>
        by_cases kept : assignment.Kept
        · obtain ⟨_, blob⟩ := boundPart_of_bound.mp (Assignment.column_kept holds kept saved)
          exact .inr (.inr ⟨_, blob⟩)
        · exact .inr (.inl (Assignment.column_lost holds kept saved))
    | int => exact .inl rfl
    | int64 => exact .inl rfl
    | double => exact .inl rfl
  have found : findsEqual sqlite row key operand.toMixed = true ↔
      assignment.Kept ∧ (¬ operand.IsChars ∧ kind.Equal sqlite operand.data value ∨
        Collide sqlite kind value operand) := by
    rw [equals_matches]
    by_cases kept : assignment.Kept
    · rw [and_iff_right kept]
      exact eqv_bound kind value operand (Assignment.column_kept holds kept saved)
    · rw [Assignment.column_lost holds kept saved]
      apply iff_of_false
      · rintro ⟨bound, _, equal⟩
        cases equal
      · exact fun both => kept both.1
  have collide : Collide sqlite kind value operand → ¬ kind.Equal sqlite operand.data value := by
    intro both equal
    cases kind with
    | string =>
        cases operand with
        | same _ bytes => exact both.1 equal
        | chars text => exact both
    | int => exact both
    | int64 => exact both
    | double => exact both
  constructor
  · rintro ⟨equals, many⟩
    rw [found] at equals
    refine ⟨fun equal => ?_, fun kept both => ?_, fun bytes isString text member same => ?_⟩
    · rcases equals.mpr equal with ⟨kept, given | both⟩
      · exact ⟨kept, given.1⟩
      · exact absurd equal (collide both)
    · exact collide both (equals.mp ⟨kept, .inr both⟩)
    · have matched := (many bytes isString).mpr ⟨text, member, same⟩
      rcases stored with notString | ofString
      · rw [isString] at notString
        cases notString
      · exact manyEqualsOr_ne key values row ofString matched
  · rintro ⟨given, apart, none_⟩
    constructor
    · rw [found]
      constructor
      · rintro ⟨kept, ⟨_, equal⟩ | both⟩
        · exact equal
        · exact absurd both (apart kept)
      · intro equal
        exact ⟨(given equal).1, .inl ⟨(given equal).2, equal⟩⟩
    · intro bytes isString
      rcases stored with notString | ofString
      · rw [isString] at notString
        cases notString
      · apply iff_of_false
        · exact manyEqualsOr_ne key values row ofString
        · rintro ⟨text, member, same⟩
          exact none_ bytes isString text member same

end

namespace Scenario

/-- The name `ab`. -/
def ab : CString := ⟨[97, 98], by decide⟩

/-- A text field set to `ab`. -/
def named : Assignment Int Bool := .scalar .string ⟨false, [], false, [], 0⟩ ab.bytes

/-- The name is found when it is given as a `std::string`. -/
theorem named_agrees :
    Agrees sqlite (fun _ => .blob ab.bytes) "name" .string ab.bytes (.same .string ab.bytes) [] ↔
      (ScalarKind.Equal sqlite .string ab.bytes ab.bytes →
        named.Kept ∧ ¬ (Operand.same (δ := Int) .string ab.bytes).IsChars) ∧
      (named.Kept → ¬ Collide sqlite .string ab.bytes (.same .string ab.bytes)) ∧
        ∀ bytes, ScalarKind.stringOf (δ := Int) .string ab.bytes = some bytes →
          ∀ text ∈ ([] : List CString), text.bytes ≠ bytes := by
  have holds : named.Holds .string ab.bytes := .scalar
  have saved : named.column sqlite booleans .insert = .ok (.blob ab.bytes) := rfl
  exact query_agrees_iff .insert holds saved (.same .string ab.bytes) []

/-- The name is not found when it is given as a `const char*`. -/
theorem named_not_found :
    named.value = .scalar .string ab.bytes ∧
      named.column sqlite booleans .insert = .ok (.blob ab.bytes) ∧
      findsEqual sqlite (fun _ => .blob ab.bytes) "name" (.chars ab) = false ∧
      findsAny sqlite (fun _ => .blob ab.bytes) "name" [ab] = false :=
  ⟨rfl, rfl, rfl, rfl⟩

end Scenario

end Andromeda.Database
