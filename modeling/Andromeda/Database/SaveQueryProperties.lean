import Andromeda.Database.SaveTextProperties

/-! The queries that objects are saved with: their tokens, the statements that they are read as, and
what these do to the tables. -/

set_option autoImplicit false
set_option linter.unusedSectionVars false

namespace Andromeda.Database

open Andromeda.Library

variable {δ ω : Type} [DecidableEq δ] [Zero δ] {codec : Codec δ ω}

private theorem length_le_flatMap {α β : Type} (list : List α) (f : α → List β)
    (filled : ∀ element ∈ list, f element ≠ []) : list.length ≤ (list.flatMap f).length := by
  induction list with
  | nil => exact Nat.zero_le 0
  | cons first rest ih =>
      obtain ⟨head, tail⟩ := List.forall_mem_cons.mp filled
      have shorter := ih tail
      have positive := List.length_pos_of_ne_nil head
      rw [List.flatMap_cons, List.length_append, List.length_cons]
      omega

private theorem placeholders_parts (all : List (NumberedField δ ω))
    (tokens : NumberedField δ ω → List Sql.Token)
    (each : ∀ numbered, Sql.placeholders (tokens numbered) =
      (numbered.number.map placeholderName).toList) :
    Sql.placeholders (all.flatMap tokens) =
      (all.filterMap NumberedField.number).map placeholderName := by
  rw [Sql.placeholders_flatMap]
  simp only [each]
  rw [List.map_filterMap, List.filterMap_eq_flatMap_toList]

section Update

variable (table : Sql.Name) (first : NumberedField δ ω) (rest : List (NumberedField δ ω))

/-- The tokens of the condition of an UPDATE. -/
def conditionTokens : List Sql.Token :=
  [.name "id".toList, .symbol .equals, .param "id".toList]

/-- The tokens of an UPDATE after its `SET`. -/
def setTokens : List Sql.Token :=
  .name first.name.text :: .symbol .equals :: (first.setReading.1 ++
    (rest.flatMap fun other =>
      .symbol .comma :: .name other.name.text :: .symbol .equals :: other.setReading.1) ++
    .keyword .where_ :: conditionTokens)

/-- The tokens of an UPDATE. -/
def updateTokens : List Sql.Token :=
  .keyword .update :: .name table.text :: .keyword .set :: setTokens first rest

/-- The statement that an UPDATE is. -/
def updateStatement (all : List (NumberedField δ ω)) : Sql.Statement (List Char) :=
  .update table.text (all.map fun numbered => (numbered.name.text, numbered.setReading.2))
    (.compare .equals (.column "id".toList) (.param "id".toList))

private theorem updateText_lexes :
    Sql.Lexes ("UPDATE ".toList ++ table.text ++ " SET ".toList ++
        Text.implode ", ".toList ((first :: rest).map NumberedField.setText) ++
        " WHERE id=:id".toList) (updateTokens table first rest) := by
  have command : Sql.Closed "UPDATE ".toList [.keyword .update] := by decide
  have set : Sql.Closed " SET ".toList [.keyword .set] := by decide
  have comma : Sql.Closed ", ".toList [.symbol .comma] := by decide
  have condition : Sql.feed .blank " WHERE id=:id".toList =
      some ([.keyword .where_, .name "id".toList, .symbol .equals], .param "id".toList) := by decide
  have sets := first.setText_lexes.join comma ⟨',', rfl, by decide⟩
    (rest.map fun other =>
      (other.setText, .name other.name.text :: .symbol .equals :: other.setReading.1))
    (List.forall_mem_map.mpr fun other _ => other.setText_lexes)
  have ended := sets.append (Sql.lexes_of_param condition) ⟨' ', rfl, by decide⟩
  have lexes := command.append_lexes
    (table.lexes.append (set.append_lexes ended) ⟨' ', rfl, by decide⟩)
  simp only [List.flatMap_map, List.append_assoc, List.cons_append, List.nil_append] at lexes
  simp only [updateTokens, setTokens, conditionTokens, Text.implode, List.map_cons,
    List.flatMap_map, List.append_assoc]
  exact lexes

private theorem updateTokens_parse
    (distinct : ((first :: rest).map fun numbered => numbered.name.text).Nodup) :
    Sql.parseStatement (updateTokens table first rest) =
      some (updateStatement table (first :: rest)) := by
  have condition : Sql.ReadsWhole conditionTokens
      (.compare .equals (.column "id".toList) (.param "id".toList)) :=
    (Sql.reads_comparison rfl).whole
  have shorter : rest.length < (setTokens first rest).length := by
    have parts := length_le_flatMap rest (fun other =>
      Sql.Token.symbol .comma :: .name other.name.text :: .symbol .equals :: other.setReading.1)
      fun other _ => List.cons_ne_nil _ _
    simp only [setTokens, List.length_cons, List.length_append]
    omega
  have sets := Sql.parseSets_reads first.name.text first.setReading
    (rest.map fun other => (other.name.text, other.setReading)) first.setReading_whole
    (List.forall_mem_map.mpr fun other _ => other.setReading_whole) (setTokens first rest).length
    (by rwa [List.length_map]) conditionTokens
  simp only [List.flatMap_map, List.map_map] at sets
  have columns : ((first.name.text, first.setReading.2) :: rest.map
      ((fun other => (other.1, other.2.2)) ∘ fun other => (other.name.text, other.setReading))).map
        Prod.fst = (first :: rest).map fun numbered => numbered.name.text := by
    rw [List.map_cons, List.map_map]
    rfl
  unfold updateTokens Sql.parseStatement
  dsimp only
  have read : Sql.parseSets (setTokens first rest).length (setTokens first rest) = _ := sets
  rw [read]
  dsimp only
  rw [condition.parseWhere]
  dsimp only
  rw [columns, if_pos distinct]
  rfl

private theorem updateTokens_placeholders :
    Sql.placeholders (updateTokens table first rest) =
      ((first :: rest).filterMap NumberedField.number).map placeholderName ++ ["id".toList] := by
  have others := placeholders_parts rest (fun other =>
    .symbol .comma :: .name other.name.text :: .symbol .equals :: other.setReading.1)
    fun other => other.placeholders_set
  have split : Sql.placeholders (updateTokens table first rest) =
      Sql.placeholders (first.setReading.1 ++ (rest.flatMap fun other =>
        .symbol .comma :: .name other.name.text :: .symbol .equals :: other.setReading.1) ++
        .keyword .where_ :: conditionTokens) := rfl
  rw [split, Sql.placeholders_append, Sql.placeholders_append, others, first.placeholders_set]
  rw [List.filterMap_cons]
  cases first.number <;> rfl

end Update

section Insert

variable (table : Sql.Name) (first : NumberedField δ ω) (rest : List (NumberedField δ ω))

/-- The tokens of the values of an INSERT. -/
def valueTokens : List Sql.Token :=
  first.valueReading.1 ++ (rest.flatMap fun other => .symbol .comma :: other.valueReading.1) ++
    [.symbol .closing]

/-- The tokens of an INSERT. -/
def insertTokens : List Sql.Token :=
  .keyword .insert :: .keyword .into :: .name table.text :: .symbol .opening ::
    .name first.name.text :: ((rest.flatMap fun other =>
      [.symbol .comma, .name other.name.text]) ++
    .symbol .closing :: .keyword .values :: .symbol .opening :: valueTokens first rest)

/-- The statement that an INSERT is. -/
def insertStatement (all : List (NumberedField δ ω)) : Sql.Statement (List Char) :=
  .insert table.text (all.map fun numbered => numbered.name.text)
    (all.map fun numbered => numbered.valueReading.2)

private theorem insertText_lexes :
    Sql.Lexes ("INSERT INTO ".toList ++ table.text ++ " (".toList ++
        Text.implode ",".toList ((first :: rest).map fun numbered => numbered.name.text) ++
        ") VALUES (".toList ++
        Text.implode ",".toList ((first :: rest).map NumberedField.indexText) ++ ")".toList)
      (insertTokens table first rest) := by
  have command : Sql.Closed "INSERT INTO ".toList [.keyword .insert, .keyword .into] := by decide
  have opening : Sql.Closed " (".toList [.symbol .opening] := by decide
  have comma : Sql.Closed ",".toList [.symbol .comma] := by decide
  have middle : Sql.Closed ") VALUES (".toList
      [.symbol .closing, .keyword .values, .symbol .opening] := by decide
  have closing : Sql.Closed ")".toList [.symbol .closing] := by decide
  have columns := first.name.lexes.join comma ⟨',', rfl, by decide⟩
    (rest.map fun other => (other.name.text, [.name other.name.text]))
    (List.forall_mem_map.mpr fun other _ => other.name.lexes)
  have values := first.indexText_lexes.join comma ⟨',', rfl, by decide⟩
    (rest.map fun other => (other.indexText, other.valueReading.1))
    (List.forall_mem_map.mpr fun other _ => other.indexText_lexes)
  have ended := values.append closing.lexes ⟨')', rfl, by decide⟩
  have given := columns.append (middle.append_lexes ended) ⟨')', rfl, by decide⟩
  have lexes := command.append_lexes
    (table.lexes.append (opening.append_lexes given) ⟨' ', rfl, by decide⟩)
  simp only [List.flatMap_map, List.append_assoc, List.cons_append, List.nil_append] at lexes
  simp only [insertTokens, valueTokens, Text.implode, List.map_cons, List.flatMap_map,
    List.append_assoc]
  exact lexes

private theorem insertTokens_parse
    (distinct : ((first :: rest).map fun numbered => numbered.name.text).Nodup) :
    Sql.parseStatement (insertTokens table first rest) =
      some (insertStatement table (first :: rest)) := by
  have shorter : rest.length < (valueTokens first rest).length := by
    have parts := length_le_flatMap rest (fun other =>
      Sql.Token.symbol .comma :: other.valueReading.1) fun other _ => List.cons_ne_nil _ _
    simp only [valueTokens, List.length_cons, List.length_append, List.length_nil]
    omega
  have names := Sql.parseNames_reads first.name.text (rest.map fun other => other.name.text)
    (.keyword .values :: .symbol .opening :: valueTokens first rest)
  have values := Sql.parseValues_reads first.valueReading
    (rest.map NumberedField.valueReading) first.valueReading_whole
    (List.forall_mem_map.mpr fun other _ => other.valueReading_whole)
    (valueTokens first rest).length (by rwa [List.length_map]) []
  simp only [List.flatMap_map, List.map_map] at names values
  have read : Sql.parseValues (valueTokens first rest).length (valueTokens first rest) = _ := values
  unfold insertTokens Sql.parseStatement
  dsimp only
  rw [names]
  dsimp only
  rw [read]
  dsimp only
  rw [if_pos ⟨by simp, distinct⟩]
  rfl

private theorem insertTokens_placeholders :
    Sql.placeholders (insertTokens table first rest) =
      ((first :: rest).filterMap NumberedField.number).map placeholderName := by
  have names : Sql.placeholders (rest.flatMap fun other =>
      [.symbol .comma, .name other.name.text]) = [] := by
    rw [Sql.placeholders_flatMap]
    exact List.flatMap_eq_nil_iff.mpr fun _ _ => rfl
  have others := placeholders_parts rest (fun other => .symbol .comma :: other.valueReading.1)
    fun other => other.placeholders_value
  have split : Sql.placeholders (insertTokens table first rest) =
      Sql.placeholders ((rest.flatMap fun other => [.symbol .comma, .name other.name.text]) ++
        .symbol .closing :: .keyword .values :: .symbol .opening ::
          (first.valueReading.1 ++ (rest.flatMap fun other =>
            .symbol .comma :: other.valueReading.1) ++ [.symbol .closing])) := rfl
  have later : Sql.placeholders (.symbol .closing :: .keyword .values :: .symbol .opening ::
      (first.valueReading.1 ++ (rest.flatMap fun other =>
        .symbol .comma :: other.valueReading.1) ++ [.symbol .closing])) =
      Sql.placeholders (first.valueReading.1 ++ (rest.flatMap fun other =>
        .symbol .comma :: other.valueReading.1) ++ [.symbol .closing]) := rfl
  rw [split, Sql.placeholders_append, names, List.nil_append, later, Sql.placeholders_append,
    Sql.placeholders_append, others, first.placeholders_value, List.filterMap_cons]
  cases first.number <;> exact List.append_nil _

end Insert

section Runs

variable {ν κ : Type} [DecidableEq κ] {operators : Sql.Operators ν} {bind : Value δ → ν}
  {fields : List (Sql.Name × Field δ ω)} {all : List (NumberedField δ ω)}

private theorem unbound_nil (i : Nat) : Unbound ([] : Params δ) i := fun _ _ => rfl

private theorem placeholder_ne_id (i : Nat) : ":d" ++ toString i ≠ ":id" := by
  intro same
  have lists := congrArg String.toList same
  rw [placeholder_toList] at lists
  have second : 'd' = 'i' := (List.cons.inj (List.cons.inj lists).2).1
  cases second

private theorem unbound_id (id : String) (i : Nat) :
    Unbound ([(":id", .text id)] : Params δ) i := by
  intro number _
  rw [List.lookup_cons, beq_eq_false_iff_ne.mpr (placeholder_ne_id number)]
  rfl

private theorem Numbering.find?_fields (numbering : Numbering codec fields 0 all)
    (column : List Char) :
    fields.find? (fun field => field.1.text = column) =
      (all.find? fun numbered => numbered.name.text = column).map fun numbered =>
        (numbered.name, numbered.field) := by
  rw [← numbering.fields, List.find?_map]
  rfl

private theorem Numbering.updatedRow_eq (numbering : Numbering codec fields 0 all)
    (row : List Char → ν)
    (column : List Char) :
    updatedRow operators bind codec fields row column =
      match all.find? fun numbered => numbered.name.text = column with
      | none => row column
      | some numbered => updatedValue operators bind numbered.field numbered.val (row column) := by
  unfold updatedRow
  rw [numbering.find?_fields]
  cases found : all.find? fun numbered => numbered.name.text = column with
  | none => rfl
  | some numbered =>
      have got := numbering.value numbered (List.mem_of_find?_eq_some found)
      simp only [Option.map_some, got]

private theorem Numbering.insertedRow_eq (numbering : Numbering codec fields 0 all)
    (defaults : List Char → ν) (column : List Char) :
    insertedRow operators bind codec fields defaults column =
      match all.find? fun numbered => numbered.name.text = column with
      | none => defaults column
      | some numbered => insertedValue operators bind numbered.field numbered.val := by
  unfold insertedRow
  rw [numbering.find?_fields]
  cases found : all.find? fun numbered => numbered.name.text = column with
  | none => rfl
  | some numbered =>
      have got := numbering.value numbered (List.mem_of_find?_eq_some found)
      simp only [Option.map_some, got]

private theorem Numbering.run_update (numbering : Numbering codec fields 0 all) (table : Sql.Name)
    (id : String) (defaults : List Char → List Char → ν) (place : κ) (tables : Sql.Tables κ ν) :
    ((updateStatement table all).map (paramValue operators bind
        ([(":id", .text id)] ++ all.filterMap NumberedField.param))).run operators defaults place
          tables =
      updatedTables operators bind codec table.text id fields tables := by
  have idValue : paramValue operators bind
      ([(":id", .text id)] ++ all.filterMap NumberedField.param) "id".toList =
        bind (.text id) := by
    unfold paramValue
    rw [List.cons_append, List.lookup_cons]
    rfl
  funext name key
  unfold updatedTables updateStatement Sql.Statement.map Sql.Statement.run
  dsimp only
  by_cases own : name = table.text
  · rw [if_pos own, if_pos own]
    congr 1
    funext row
    have condition : (Sql.Expression.map (paramValue operators bind
        ([(":id", .text id)] ++ all.filterMap NumberedField.param))
          (.compare .equals (.column "id".toList) (.param "id".toList))).holds operators row =
        operators.compare .equals (row "id".toList) (bind (.text id)) := by
      rw [← idValue]
      exact operators.truth_ofTruth _
    rw [condition]
    congr 1
    funext column
    rw [numbering.updatedRow_eq, List.map_map]
    have lookup := lookup_map_eq_find? all (fun numbered => numbered.name.text)
      (fun numbered => numbered.setReading.2.map (paramValue operators bind
        ([(":id", .text id)] ++ all.filterMap NumberedField.param))) column
    have sets : (all.map ((fun set : List Char × Sql.Expression (List Char) =>
        (set.1, set.2.map (paramValue operators bind
          ([(":id", .text id)] ++ all.filterMap NumberedField.param)))) ∘
        fun numbered => (numbered.name.text, numbered.setReading.2))).lookup column = _ := lookup
    rw [sets]
    cases found : all.find? fun numbered => numbered.name.text = column with
    | none => rfl
    | some numbered =>
        have member := List.mem_of_find?_eq_some found
        have named : numbered.name.text = column := by simpa using List.find?_some found
        rw [← named]
        exact numbering.eval_set (unbound_id id 0) member row
  · rw [if_neg own, if_neg own]

private theorem Numbering.run_insert (numbering : Numbering codec fields 0 all) (table : Sql.Name)
    (defaults : List Char → List Char → ν) (place : κ) (tables : Sql.Tables κ ν) :
    ((insertStatement table all).map (paramValue operators bind
        ([] ++ all.filterMap NumberedField.param))).run operators defaults place tables =
      insertedTables operators bind codec defaults place table.text fields tables := by
  funext name key
  unfold insertedTables insertStatement Sql.Statement.map Sql.Statement.run
  dsimp only
  by_cases own : name = table.text ∧ key = place
  · rw [if_pos own, if_pos own]
    congr 1
    funext column
    rw [numbering.insertedRow_eq, List.map_map, List.zip_map', Function.comp_def]
    rw [lookup_map_eq_find?]
    cases found : all.find? fun numbered => numbered.name.text = column with
    | none => rfl
    | some numbered =>
        exact numbering.eval_value (unbound_nil 0) (List.mem_of_find?_eq_some found) _
  · rw [if_neg own, if_neg own]

private theorem Numbering.distinct (numbering : Numbering codec fields 0 all)
    (distinct : (fields.map fun field => field.1.text).Nodup) :
    (all.map fun numbered => numbered.name.text).Nodup := by
  rw [← numbering.fields, List.map_map] at distinct
  exact distinct

private theorem placeholders_params (all : List (NumberedField δ ω)) :
    ((all.filterMap NumberedField.number).map placeholderName).map
        (fun name => String.ofList (':' :: name)) =
      (all.filterMap NumberedField.param).map Prod.fst := by
  rw [params_names, List.map_map]
  exact List.map_congr_left fun i _ => placeholder_ofList i

/-- The UPDATE of an object sets the columns of its fields in its row, if there are any. -/
theorem updateObjectText_executes (codec : Codec δ ω) (operators : Sql.Operators ν)
    (bind : Value δ → ν) (saved : SavedClass) (id : String) (fields : FieldList δ ω)
    (defaults : List Char → List Char → ν) (place : κ) (tables : Sql.Tables κ ν) :
    match updateObjectText codec saved.className id fields.fields with
    | .error exception => ∃ entry ∈ fields.fields, entry.2.getDBValue codec = .error exception
    | .ok none => fields.fields = []
    | .ok (some sent) =>
      Executes operators bind defaults place tables sent
        (updatedTables operators bind codec saved.table.text id fields.fields tables) := by
  have spec := numberFields_spec codec fields.fields 0
  unfold updateObjectText
  rw [updateLoop_eq _ _ _ _ (unbound_id id 0)]
  cases numbered : numberFields codec fields.fields 0 with
  | error exception =>
      rw [numbered] at spec
      exact spec
  | ok all =>
      rw [numbered] at spec
      cases all with
      | nil => exact spec.fields.symm
      | cons first rest =>
          have lexes := updateText_lexes saved.table first rest
          rw [← saved.named] at lexes
          refine ⟨updateTokens saved.table first rest, updateStatement saved.table (first :: rest),
            lexes.lex, updateTokens_parse saved.table first rest (spec.distinct fields.distinct),
            ?_, ?_, spec.run_update saved.table id defaults place tables⟩
          · have absent : ":id" ∉ ((first :: rest).filterMap NumberedField.param).map Prod.fst := by
              rw [params_names]
              intro member
              obtain ⟨i, _, same⟩ := List.mem_map.mp member
              exact placeholder_ne_id i same
            exact List.nodup_cons.mpr ⟨absent, spec.names_nodup⟩
          · rw [updateTokens_placeholders, List.map_append, placeholders_params]
            exact List.perm_append_singleton _ _

private theorem parse_insert_nil (table : Sql.Name) :
    (Sql.lex ("INSERT INTO ".toList ++ table.text ++ " (".toList ++ [] ++ ") VALUES (".toList ++
      [] ++ ")".toList)).bind Sql.parseStatement = none := by
  have command : Sql.Closed "INSERT INTO ".toList [.keyword .insert, .keyword .into] := by decide
  have columns : Sql.Closed (" (".toList ++ ([] ++ (") VALUES (".toList ++ ([] ++ ")".toList))))
      [.symbol .opening, .symbol .closing, .keyword .values, .symbol .opening,
        .symbol .closing] := by decide
  have lexes := command.append_lexes (table.lexes.append columns.lexes ⟨' ', rfl, by decide⟩)
  simp only [List.append_assoc]
  rw [lexes.lex]
  rfl

/-- The INSERT of an object adds a row with the columns of its fields, if there are any. -/
theorem insertObjectText_executes (codec : Codec δ ω) (operators : Sql.Operators ν)
    (bind : Value δ → ν) (saved : SavedClass) (fields : FieldList δ ω)
    (defaults : List Char → List Char → ν) (place : κ) (tables : Sql.Tables κ ν) :
    match insertObjectText codec saved.className fields.fields with
    | .error exception => ∃ entry ∈ fields.fields, entry.2.getDBValue codec = .error exception
    | .ok sent =>
      match fields.fields with
      | [] => (Sql.lex sent.1).bind Sql.parseStatement = none
      | _ :: _ =>
        Executes operators bind defaults place tables sent
          (insertedTables operators bind codec defaults place saved.table.text fields.fields
            tables) := by
  obtain ⟨fields, distinct⟩ := fields
  have spec := numberFields_spec codec fields 0
  unfold insertObjectText
  rw [insertLoop_eq _ _ _ _ _ (unbound_nil 0)]
  cases numbered : numberFields codec fields 0 with
  | error exception =>
      rw [numbered] at spec
      exact spec
  | ok all =>
      rw [numbered] at spec
      cases fields with
      | nil =>
          obtain rfl := List.map_eq_nil_iff.mp spec.fields
          have parse := parse_insert_nil saved.table
          rw [← saved.named] at parse
          exact parse
      | cons field others =>
          cases all with
          | nil => cases spec.fields
          | cons first rest =>
              have lexes := insertText_lexes saved.table first rest
              rw [← saved.named] at lexes
              refine ⟨insertTokens saved.table first rest,
                insertStatement saved.table (first :: rest), lexes.lex,
                insertTokens_parse saved.table first rest (spec.distinct distinct),
                spec.names_nodup, ?_, spec.run_insert saved.table defaults place tables⟩
              rw [insertTokens_placeholders, placeholders_params]
              exact List.Perm.refl _

theorem CreatedObject.idField_mem (object : CreatedObject δ ω) :
    (idName, createdIdField object.id) ∈ object.modifiedFields.fields :=
  List.mem_filter.mpr ⟨object.idField, rfl⟩

private theorem CreatedObject.insertedRow_id (object : CreatedObject δ ω) (codec : Codec δ ω)
    (operators : Sql.Operators ν) (bind : Value δ → ν) (defaults : List Char → ν) :
    insertedRow operators bind codec object.modifiedFields.fields defaults "id".toList =
      bind (.text object.id) := by
  have entry : (idName.text, createdIdField object.id) ∈
      object.modifiedFields.fields.map fun field => (field.1.text, field.2) :=
    List.mem_map.mpr ⟨_, object.idField_mem, rfl⟩
  have keys : ((object.modifiedFields.fields.map fun field => (field.1.text, field.2)).map
      Prod.fst).Nodup := by
    rw [List.map_map]
    exact object.modifiedFields.distinct
  have lookup := lookup_of_mem keys entry
  rw [lookup_map_eq_find?] at lookup
  obtain ⟨⟨name, field⟩, found, same⟩ := Option.map_eq_some_iff.mp lookup
  obtain rfl : field = createdIdField object.id := same
  have find : object.modifiedFields.fields.find? (fun field => field.1.text = "id".toList) = _ :=
    found
  unfold insertedRow
  rw [find]
  rfl

/-- The queries that an object is saved with set the columns of the fields that are saved in the row
of the object, and change nothing else. -/
theorem saveObject_queries (codec : Codec δ ω) (operators : Sql.Operators ν) (bind : Value δ → ν)
    (saved : SavedClass) (id : String) (fields : FieldList δ ω) (created : CreatedObject δ ω)
    (defaults : List Char → List Char → ν) (place : κ) (tables : Sql.Tables κ ν) :
    (match updateObjectText codec saved.className id fields.fields with
      | .error exception => ∃ entry ∈ fields.fields, entry.2.getDBValue codec = .error exception
      | .ok none => fields.fields = []
      | .ok (some sent) =>
        Executes operators bind defaults place tables sent
          (updatedTables operators bind codec saved.table.text id fields.fields tables)) ∧
    (match insertObjectText codec saved.className fields.fields with
      | .error exception => ∃ entry ∈ fields.fields, entry.2.getDBValue codec = .error exception
      | .ok sent =>
        match fields.fields with
        | [] => (Sql.lex sent.1).bind Sql.parseStatement = none
        | _ :: _ =>
          Executes operators bind defaults place tables sent
            (insertedTables operators bind codec defaults place saved.table.text fields.fields
              tables)) ∧
    created.modifiedFields.fields ≠ [] ∧
    insertedRow operators bind codec created.modifiedFields.fields (defaults saved.table.text)
      "id".toList = bind (.text created.id) := by
  exact ⟨updateObjectText_executes codec operators bind saved id fields defaults place tables,
    insertObjectText_executes codec operators bind saved fields defaults place tables,
    List.ne_nil_of_mem created.idField_mem, created.insertedRow_id codec operators bind _⟩

end Runs

end Andromeda.Database
