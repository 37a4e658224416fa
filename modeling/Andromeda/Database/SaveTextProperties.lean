import Andromeda.Database.PlaceholderProperties
import Andromeda.Database.SaveText
import Andromeda.Library.Lookup

/-! The queries that objects are saved with set the columns of the fields that are saved, and nothing
else. -/

set_option autoImplicit false
set_option linter.unusedSectionVars false

namespace Andromeda.Database

open Andromeda.Library

variable {δ ω : Type} [DecidableEq δ] [Zero δ] {codec : Codec δ ω}

/-- A field with its value and, unless that is null, the number of its placeholder. -/
structure NumberedField (δ ω : Type) where
  name : Sql.Name
  field : Field δ ω
  val : Value δ
  number : Option Nat

namespace NumberedField

variable (numbered : NumberedField δ ω)

/-- The part of an UPDATE for a field. -/
def setText : List Char :=
  let key := numbered.name.text
  match numbered.number with
  | none => key ++ "=NULL".toList
  | some i =>
    if numbered.field.useDBIncrement then
      key ++ "=".toList ++ key ++ "+:d".toList ++ (toString i).toList
    else key ++ "=:d".toList ++ (toString i).toList

/-- The part of the values of an INSERT for a field. -/
def indexText : List Char :=
  match numbered.number with
  | none => "NULL".toList
  | some i => (":d" ++ toString i).toList

/-- The parameter of a field. -/
def param : Option (String × Value δ) :=
  numbered.number.map fun i => (":d" ++ toString i, numbered.val)

end NumberedField

/-- The fields with the numbers that their placeholders get, from a number on. -/
def numberFields (codec : Codec δ ω) : List (Sql.Name × Field δ ω) → Nat →
    Except Exception (List (NumberedField δ ω))
  | [], _ => .ok []
  | (name, field) :: rest, i =>
    match field.getDBValue codec with
    | .error exception => .error exception
    | .ok val =>
      if val = .null then
        (numberFields codec rest i).map fun others => ⟨name, field, val, none⟩ :: others
      else
        (numberFields codec rest (i + 1)).map fun others => ⟨name, field, val, some i⟩ :: others

/-- What the numbers are: each field with a value that is not null has one of its own. -/
structure Numbering (codec : Codec δ ω) (fields : List (Sql.Name × Field δ ω)) (i : Nat)
    (all : List (NumberedField δ ω)) : Prop where
  fields : all.map (fun numbered => (numbered.name, numbered.field)) = fields
  value : ∀ numbered ∈ all, numbered.field.getDBValue codec = .ok numbered.val
  null : ∀ numbered ∈ all, numbered.number = none ↔ numbered.val = .null
  ascending : (all.filterMap NumberedField.number).Pairwise (· < ·)
  from_ : ∀ number ∈ all.filterMap NumberedField.number, i ≤ number

private theorem Numbering.nil (i : Nat) :
    Numbering codec ([] : List (Sql.Name × Field δ ω)) i [] where
  fields := rfl
  value := List.forall_mem_nil _
  null := List.forall_mem_nil _
  ascending := List.Pairwise.nil
  from_ := List.forall_mem_nil _

section Cons

variable {fields : List (Sql.Name × Field δ ω)} {i : Nat} {all : List (NumberedField δ ω)}
  {name : Sql.Name} {field : Field δ ω} {val : Value δ}

private theorem Numbering.cons_null (numbering : Numbering codec fields i all)
    (got : field.getDBValue codec = .ok val) (null : val = .null) :
    Numbering codec ((name, field) :: fields) i (⟨name, field, val, none⟩ :: all) where
  fields := congrArg ((name, field) :: ·) numbering.fields
  value := List.forall_mem_cons.mpr ⟨got, numbering.value⟩
  null := List.forall_mem_cons.mpr ⟨⟨fun _ => null, fun _ => rfl⟩, numbering.null⟩
  ascending := numbering.ascending
  from_ := numbering.from_

private theorem Numbering.cons_number (numbering : Numbering codec fields (i + 1) all)
    (got : field.getDBValue codec = .ok val) (filled : val ≠ .null) :
    Numbering codec ((name, field) :: fields) i (⟨name, field, val, some i⟩ :: all) where
  fields := congrArg ((name, field) :: ·) numbering.fields
  value := List.forall_mem_cons.mpr ⟨got, numbering.value⟩
  null := List.forall_mem_cons.mpr
    ⟨⟨fun none_ => (by cases none_), fun null => absurd null filled⟩, numbering.null⟩
  ascending := List.pairwise_cons.mpr ⟨numbering.from_, numbering.ascending⟩
  from_ := List.forall_mem_cons.mpr
    ⟨Nat.le_refl i, fun number member => Nat.le_of_succ_le (numbering.from_ number member)⟩

end Cons

theorem numberFields_spec (codec : Codec δ ω) (fields : List (Sql.Name × Field δ ω)) (i : Nat) :
    match numberFields codec fields i with
    | .error exception => ∃ entry ∈ fields, entry.2.getDBValue codec = .error exception
    | .ok all => Numbering codec fields i all := by
  induction fields generalizing i with
  | nil => exact Numbering.nil i
  | cons entry rest ih =>
      obtain ⟨name, field⟩ := entry
      unfold numberFields
      cases got : field.getDBValue codec with
      | error exception => exact ⟨_, List.mem_cons_self, got⟩
      | ok val =>
          dsimp only
          by_cases null : val = .null
          · rw [if_pos null]
            have spec := ih i
            cases others : numberFields codec rest i with
            | error exception =>
                rw [others] at spec
                obtain ⟨other, member, thrown⟩ := spec
                exact ⟨other, List.mem_cons_of_mem _ member, thrown⟩
            | ok others =>
                rw [others] at spec
                exact spec.cons_null got null
          · rw [if_neg null]
            have spec := ih (i + 1)
            cases others : numberFields codec rest (i + 1) with
            | error exception =>
                rw [others] at spec
                obtain ⟨other, member, thrown⟩ := spec
                exact ⟨other, List.mem_cons_of_mem _ member, thrown⟩
            | ok others =>
                rw [others] at spec
                exact spec.cons_number got null

/-- No placeholder from a number on is bound. -/
def Unbound (data : Params δ) (i : Nat) : Prop :=
  ∀ number, i ≤ number → data.lookup (":d" ++ toString number) = none

private theorem Unbound.emplace {data : Params δ} {i : Nat} (unbound : Unbound data i)
    (val : Value δ) :
    data.emplace (":d" ++ toString i) val = data ++ [(":d" ++ toString i, val)] ∧
      Unbound (data ++ [(":d" ++ toString i, val)]) (i + 1) := by
  constructor
  · unfold Params.emplace
    rw [unbound i (Nat.le_refl i)]
    rfl
  · intro number above
    have differ : ":d" ++ toString number ≠ ":d" ++ toString i := fun same =>
      Nat.ne_of_gt above (placeholder_inj same)
    rw [List.lookup_append, unbound number (Nat.le_of_succ_le above), List.lookup_cons,
      beq_eq_false_iff_ne.mpr differ]
    rfl

/-- The loop of an UPDATE, field by field. -/
theorem updateLoop_eq (fields : List (Sql.Name × Field δ ω)) (sets : List (List Char))
    (data : Params δ) (i : Nat) (unbound : Unbound data i) :
    updateLoop codec fields sets data i =
      (numberFields codec fields i).map fun all =>
        (sets ++ all.map NumberedField.setText, data ++ all.filterMap NumberedField.param) := by
  induction fields generalizing sets data i with
  | nil => simp [updateLoop, numberFields, Except.map]
  | cons entry rest ih =>
      obtain ⟨name, field⟩ := entry
      unfold updateLoop numberFields
      cases field.getDBValue codec with
      | error exception => rfl
      | ok val =>
          dsimp only
          by_cases null : val = .null
          · rw [if_pos null, if_pos null, ih _ _ _ unbound]
            cases numberFields codec rest i with
            | error exception => rfl
            | ok others => simp [Except.map, NumberedField.setText, NumberedField.param]
          · obtain ⟨added, later⟩ := unbound.emplace val
            rw [if_neg null, if_neg null, added]
            split
            · next increments =>
              rw [ih _ _ _ later]
              cases numberFields codec rest (i + 1) with
              | error exception => rfl
              | ok others =>
                  simp [Except.map, NumberedField.setText, NumberedField.param, increments]
            · next increments =>
              rw [ih _ _ _ later]
              cases numberFields codec rest (i + 1) with
              | error exception => rfl
              | ok others =>
                  simp [Except.map, NumberedField.setText, NumberedField.param, increments]

/-- The loop of an INSERT, field by field. -/
theorem insertLoop_eq (fields : List (Sql.Name × Field δ ω)) (columns indexes : List (List Char))
    (data : Params δ) (i : Nat) (unbound : Unbound data i) :
    insertLoop codec fields columns indexes data i =
      (numberFields codec fields i).map fun all =>
        (columns ++ all.map (fun numbered => numbered.name.text),
          indexes ++ all.map NumberedField.indexText,
          data ++ all.filterMap NumberedField.param) := by
  induction fields generalizing columns indexes data i with
  | nil => simp [insertLoop, numberFields, Except.map]
  | cons entry rest ih =>
      obtain ⟨name, field⟩ := entry
      unfold insertLoop numberFields
      cases field.getDBValue codec with
      | error exception => rfl
      | ok val =>
          dsimp only
          by_cases null : val = .null
          · rw [if_pos null, if_pos null, ih _ _ _ _ unbound]
            cases numberFields codec rest i with
            | error exception => rfl
            | ok others => simp [Except.map, NumberedField.indexText, NumberedField.param]
          · obtain ⟨added, later⟩ := unbound.emplace val
            rw [if_neg null, if_neg null, added, ih _ _ _ _ later]
            cases numberFields codec rest (i + 1) with
            | error exception => rfl
            | ok others => simp [Except.map, NumberedField.indexText, NumberedField.param]

namespace NumberedField

variable (numbered : NumberedField δ ω)

/-- The tokens and the expression of a value that is given. -/
def valueReading : Sql.Reading :=
  match numbered.number with
  | none => ([.keyword .null], .null)
  | some i => ([.param (placeholderName i)], .param (placeholderName i))

/-- The tokens and the expression that a column is set to. -/
def setReading : Sql.Reading :=
  match numbered.number with
  | none => ([.keyword .null], .null)
  | some i =>
    if numbered.field.useDBIncrement then
      ([.name numbered.name.text, .symbol .plus, .param (placeholderName i)],
        .add (.column numbered.name.text) (.param (placeholderName i)))
    else ([.param (placeholderName i)], .param (placeholderName i))

theorem valueReading_whole : Sql.ReadsWhole numbered.valueReading.1 numbered.valueReading.2 := by
  unfold valueReading
  cases numbered.number with
  | none => exact Sql.reads_null
  | some i => exact Sql.reads_param _

theorem setReading_whole : Sql.ReadsWhole numbered.setReading.1 numbered.setReading.2 := by
  unfold setReading
  cases numbered.number with
  | none => exact Sql.reads_null
  | some i =>
      dsimp only
      split
      · exact Sql.reads_add _ _
      · exact Sql.reads_param _

theorem indexText_lexes : Sql.Lexes numbered.indexText numbered.valueReading.1 := by
  unfold indexText valueReading
  cases numbered.number with
  | none =>
      have written : Sql.feed .blank "NULL".toList = some ([], .word "NULL".toList) := by decide
      exact Sql.lexes_of_word written
  | some i => exact lexes_placeholder i

theorem setText_lexes : Sql.Lexes numbered.setText
    (.name numbered.name.text :: .symbol .equals :: numbered.setReading.1) := by
  have key := numbered.name.lexes
  have equals : Sql.Closed "=".toList [.symbol .equals] := by decide
  have plus : Sql.Closed "+".toList [.symbol .plus] := by decide
  have equalsEnds (rest : List Char) : Sql.Bounded ("=".toList ++ rest) := ⟨'=', rfl, by decide⟩
  have plusEnds (rest : List Char) : Sql.Bounded ("+".toList ++ rest) := ⟨'+', rfl, by decide⟩
  unfold setText setReading
  cases numbered.number with
  | none =>
      have written : Sql.feed .blank "=NULL".toList =
          some ([.symbol .equals], .word "NULL".toList) := by decide
      exact key.append (Sql.lexes_of_word written) ⟨'=', rfl, by decide⟩
  | some i =>
      have placeholder := lexes_placeholder i
      rw [String.toList_append] at placeholder
      dsimp only
      split
      · have text : numbered.name.text ++ "=".toList ++ numbered.name.text ++ "+:d".toList ++
            (toString i).toList = numbered.name.text ++ ("=".toList ++ (numbered.name.text ++
              ("+".toList ++ (":d".toList ++ (toString i).toList)))) := by
          simp only [List.append_assoc]
          rfl
        rw [text]
        exact key.append (equals.append_lexes (key.append (plus.append_lexes placeholder)
          (plusEnds _))) (equalsEnds _)
      · have text : numbered.name.text ++ "=:d".toList ++ (toString i).toList =
            numbered.name.text ++ ("=".toList ++ (":d".toList ++ (toString i).toList)) := by
          simp only [List.append_assoc]
          rfl
        rw [text]
        exact key.append (equals.append_lexes placeholder) (equalsEnds _)

/-- The placeholders of the tokens are the one that is numbered. -/
theorem placeholders_value :
    Sql.placeholders numbered.valueReading.1 = (numbered.number.map placeholderName).toList := by
  unfold valueReading
  cases numbered.number <;> rfl

theorem placeholders_set :
    Sql.placeholders numbered.setReading.1 = (numbered.number.map placeholderName).toList := by
  unfold setReading
  cases numbered.number with
  | none => rfl
  | some i =>
      dsimp only
      split <;> rfl

end NumberedField

section Values

variable {ν : Type} {operators : Sql.Operators ν} {bind : Value δ → ν} {data : Params δ}
  {fields : List (Sql.Name × Field δ ω)} {all : List (NumberedField δ ω)}

theorem params_names (all : List (NumberedField δ ω)) :
    (all.filterMap NumberedField.param).map Prod.fst =
      (all.filterMap NumberedField.number).map fun i => ":d" ++ toString i := by
  rw [List.map_filterMap, List.map_filterMap]
  congr 1
  funext numbered
  unfold NumberedField.param
  cases numbered.number <;> rfl

theorem Numbering.names_nodup (numbering : Numbering codec fields 0 all) :
    ((all.filterMap NumberedField.param).map Prod.fst).Nodup := by
  rw [params_names]
  apply List.Nodup.map
  · exact fun _ _ same => placeholder_inj same
  · exact numbering.ascending.imp Nat.ne_of_lt

private theorem Numbering.paramValue_eq (numbering : Numbering codec fields 0 all)
    (unbound : Unbound data 0)
    {numbered : NumberedField δ ω} (member : numbered ∈ all) {i : Nat}
    (number : numbered.number = some i) :
    paramValue operators bind (data ++ all.filterMap NumberedField.param) (placeholderName i) =
      bind numbered.val := by
  have param : (":d" ++ toString i, numbered.val) ∈ all.filterMap NumberedField.param := by
    apply List.mem_filterMap.mpr
    exact ⟨numbered, member, by rw [NumberedField.param, number]; rfl⟩
  unfold paramValue
  rw [placeholder_ofList, List.lookup_append, unbound i (Nat.zero_le i), Option.none_or,
    lookup_of_mem numbering.names_nodup param]
  rfl

private theorem updatedValue_eq {field : Field δ ω} {val : Value δ}
    (got : field.getDBValue codec = .ok val)
    (old : ν) :
    updatedValue operators bind field val old =
      if val = .null then operators.null
      else if field.useDBIncrement then operators.add old (bind val)
      else bind val := by
  cases field with
  | counter counter =>
      have delta : Value.integer counter.delta = val := Except.ok.inj got
      subst delta
      rfl
  | scalar kind field => rfl
  | nullScalar kind field => rfl
  | json field => rfl
  | objectRef field => rfl
  | nullObjectRef field => rfl

theorem insertedValue_eq {field : Field δ ω} {val : Value δ}
    (got : field.getDBValue codec = .ok val) :
    insertedValue operators bind field val = savedValue operators bind val := by
  cases field with
  | counter counter =>
      have delta : Value.integer counter.delta = val := Except.ok.inj got
      subst delta
      rfl
  | scalar kind field => rfl
  | nullScalar kind field => rfl
  | json field => rfl
  | objectRef field => rfl
  | nullObjectRef field => rfl

private theorem Numbering.not_null (numbering : Numbering codec fields 0 all)
    {numbered : NumberedField δ ω} (member : numbered ∈ all) {i : Nat}
    (number : numbered.number = some i) : numbered.val ≠ .null := by
  intro null
  rw [(numbering.null numbered member).mpr null] at number
  cases number

/-- What a column is set to. -/
theorem Numbering.eval_set (numbering : Numbering codec fields 0 all) (unbound : Unbound data 0)
    {numbered : NumberedField δ ω} (member : numbered ∈ all) (row : List Char → ν) :
    (numbered.setReading.2.map (paramValue operators bind
        (data ++ all.filterMap NumberedField.param))).eval operators row =
      updatedValue operators bind numbered.field numbered.val (row numbered.name.text) := by
  rw [updatedValue_eq (numbering.value numbered member)]
  unfold NumberedField.setReading
  cases number : numbered.number with
  | none =>
      rw [if_pos ((numbering.null numbered member).mp number)]
      rfl
  | some i =>
      have bound : paramValue operators bind (data ++ all.filterMap NumberedField.param)
          (placeholderName i) = bind numbered.val :=
        numbering.paramValue_eq unbound member number
      rw [if_neg (numbering.not_null member number)]
      dsimp only
      split
      · simp only [Sql.Expression.map, Sql.Expression.eval, bound]
      · simp only [Sql.Expression.map, Sql.Expression.eval, bound]

/-- The value that a column is given. -/
theorem Numbering.eval_value (numbering : Numbering codec fields 0 all) (unbound : Unbound data 0)
    {numbered : NumberedField δ ω} (member : numbered ∈ all) (row : List Char → ν) :
    (numbered.valueReading.2.map (paramValue operators bind
        (data ++ all.filterMap NumberedField.param))).eval operators row =
      insertedValue operators bind numbered.field numbered.val := by
  rw [insertedValue_eq (numbering.value numbered member)]
  unfold NumberedField.valueReading savedValue
  cases number : numbered.number with
  | none =>
      rw [if_pos ((numbering.null numbered member).mp number)]
      rfl
  | some i =>
      rw [if_neg (numbering.not_null member number)]
      exact numbering.paramValue_eq unbound member number

end Values

end Andromeda.Database
