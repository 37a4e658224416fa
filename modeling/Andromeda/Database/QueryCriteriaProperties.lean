import Andromeda.Database.PlaceholderProperties
import Andromeda.Database.QueryCriteria
import Andromeda.Text.BytesProperties
import Mathlib.Data.List.Forall2

/-! The text of a `QueryBuilder`, read as SQL with its parameters bound, is as true of a row as the
expressions that it was built for. -/

set_option autoImplicit false

namespace Andromeda.Database

open Andromeda.Library

section Expressions

variable {δ ν : Type}

/-- The SQL expression that a comparison stands for, with the values in the place of
placeholders. -/
def Leaf.expression : Leaf δ → Sql.Expression (MixedValue δ)
  | .isNull key => .isNull (.column key.text)
  | .like key val hasMatch =>
    .likeEscape (.column key.text) (.param (.string (likeValue val hasMatch))) (.text ['\\'])
  | .compare comparison key val => .compare comparison (.column key.text) (.param val)
  | .isTrue key => .compare .greater (.column key.text) (.param (.int 0))
  | .equalsNull key => .isNull (.column key.text)
  | .notEqualsNull key => .not (.isNull (.column key.text))
  | .manyEqualsOr key first rest =>
    Sql.Connective.or.chain (.compare .equals (.column key.text) (.param (.chars first)))
      (rest.map fun val => .compare .equals (.column key.text) (.param (.chars val)))

mutual

/-- The SQL expression that a criterion stands for. -/
def Criterion.expression : Criterion δ → Sql.Expression (MixedValue δ)
  | .leaf single => single.expression
  | .not criterion => .not criterion.expression
  | .connect connective first rest =>
    connective.chain first.expression (Criterion.expressions rest)

def Criterion.expressions : List (Criterion δ) → List (Sql.Expression (MixedValue δ))
  | [] => []
  | criterion :: rest => criterion.expression :: Criterion.expressions rest

end

private theorem Criterion.expressions_eq_map (criteria : List (Criterion δ)) :
    Criterion.expressions criteria = criteria.map Criterion.expression := by
  induction criteria with
  | nil => rfl
  | cons criterion rest ih => rw [Criterion.expressions, ih, List.map_cons]

private theorem Criterion.holdAll_eq_foldr (operators : Sql.Operators ν) (bind : MixedValue δ → ν)
    (row : List Char → ν) (connective : Sql.Connective) (criteria : List (Criterion δ)) :
    Criterion.holdAll operators bind row connective criteria =
      (criteria.map (Criterion.holds operators bind row)).foldr connective.truth
        connective.unit := by
  induction criteria with
  | nil => rfl
  | cons criterion rest ih => rw [Criterion.holdAll, ih, List.map_cons, List.foldr_cons]

variable (operators : Sql.Operators ν) (bind : MixedValue δ → ν) (row : List Char → ν)

private theorem Leaf.holds_expression (single : Leaf δ) :
    (single.expression.map bind).holds operators row = single.holds operators bind row := by
  cases single with
  | manyEqualsOr key first rest =>
      simp only [Leaf.expression, Leaf.holds, Sql.Connective.map_chain, Sql.Connective.holds_chain,
        List.map_map, List.map_cons, Sql.Connective.truth, Sql.Connective.unit]
      simp [Sql.Expression.map, Sql.Expression.holds, Sql.Expression.eval, Function.comp_def,
        operators.truth_ofTruth]
  | _ =>
      simp [Leaf.expression, Leaf.holds, Sql.Expression.map, Sql.Expression.holds,
        Sql.Expression.eval, operators.truth_ofTruth, Sql.Truth.not]

mutual

private theorem Criterion.holds_expression : ∀ criterion : Criterion δ,
    (criterion.expression.map bind).holds operators row = criterion.holds operators bind row
  | .leaf single => by
      rw [Criterion.expression, Criterion.holds, Leaf.holds_expression]
  | .not criterion => by
      have inner := Criterion.holds_expression criterion
      rw [Criterion.holds, ← inner]
      simp [Criterion.expression, Sql.Expression.map, Sql.Expression.holds, Sql.Expression.eval,
        operators.truth_ofTruth]
  | .connect connective first rest => by
      have head := Criterion.holds_expression first
      have tail := Criterion.holds_expressions rest
      rw [Criterion.expression, Criterion.holds, Sql.Connective.map_chain,
        Sql.Connective.holds_chain, List.map_cons, List.foldr_cons, head, tail,
        Criterion.holdAll_eq_foldr]

private theorem Criterion.holds_expressions : ∀ criteria : List (Criterion δ),
    ((Criterion.expressions criteria).map (Sql.Expression.map bind)).map
        (Sql.Expression.holds operators row) =
      criteria.map (Criterion.holds operators bind row)
  | [] => rfl
  | criterion :: rest => by
      have head := Criterion.holds_expression criterion
      have tail := Criterion.holds_expressions rest
      rw [Criterion.expressions, List.map_cons, List.map_cons, List.map_cons, head, tail]

end

end Expressions

section Placeholders

variable {δ : Type} {builder later : QueryBuilder δ}

/-- Only placeholders with smaller numbers are bound. -/
def Numbered (builder : QueryBuilder δ) : Prop :=
  ∀ entry ∈ builder.params, ∃ index < builder.paramIdx, entry.1 = ":d" ++ toString index

/-- What was bound stays bound. -/
def Keeping (builder later : QueryBuilder δ) : Prop :=
  ∀ name val, builder.value name = some val → later.value name = some val

private theorem Keeping.refl (builder : QueryBuilder δ) : Keeping builder builder := fun _ _ => id

private theorem Keeping.trans {last : QueryBuilder δ} (first : Keeping builder later)
    (second : Keeping later last) : Keeping builder last :=
  fun name val bound => second name val (first name val bound)

private theorem addParam_spec (numbered : Numbered builder) (val : MixedValue δ) :
    (builder.addParam val).1 = ":d" ++ toString builder.paramIdx ∧
      Numbered (builder.addParam val).2 ∧ Keeping builder (builder.addParam val).2 ∧
      (builder.addParam val).2.value (placeholderName builder.paramIdx) = some val := by
  have fresh : builder.params.lookup (":d" ++ toString builder.paramIdx) = none := by
    rw [List.lookup_eq_none_iff]
    intro entry member
    obtain ⟨index, small, name⟩ := numbered entry member
    rw [name, bne_iff_ne]
    exact fun same => Nat.ne_of_gt small (placeholder_inj same)
  have added : builder.addParam val = (":d" ++ toString builder.paramIdx,
      ⟨builder.paramIdx + 1,
        builder.params ++ [(":d" ++ toString builder.paramIdx, val)]⟩) := by
    unfold QueryBuilder.addParam
    simp only [fresh, Option.isSome_none, Bool.false_eq_true, if_false]
  rw [added]
  refine ⟨rfl, ?_, ?_, ?_⟩
  · intro entry member
    rcases List.mem_append.mp member with before | here
    · obtain ⟨index, small, name⟩ := numbered entry before
      exact ⟨index, Nat.lt_succ_of_lt small, name⟩
    · obtain rfl := List.mem_singleton.mp here
      exact ⟨builder.paramIdx, Nat.lt_succ_self _, rfl⟩
  · intro name other bound
    unfold QueryBuilder.value at bound ⊢
    rw [List.lookup_append, bound]
    rfl
  · unfold QueryBuilder.value
    rw [placeholder_ofList, List.lookup_append, fresh]
    simp

end Placeholders

section Texts

variable {δ : Type} {builder later : QueryBuilder δ} {text : List Char}
  {expression : Sql.Expression (MixedValue δ)}

/-- A text reads as an expression, with the values that its placeholders are bound to. -/
structure Stands (builder : QueryBuilder δ) (text : List Char)
    (expression : Sql.Expression (MixedValue δ)) : Prop where
  reading : ∃ tokens condition, Sql.Lexes text tokens ∧ Sql.Reads tokens condition ∧
    condition.map builder.value = expression.map some
  filled : text ≠ []
  last : ∀ symbol ∈ text.getLast?, Text.isSpace symbol = false

private theorem Stands.keeping (stands : Stands builder text expression)
    (keeping : Keeping builder later) : Stands later text expression := by
  obtain ⟨⟨tokens, condition, lexes, reads, bound⟩, filled, last⟩ := stands
  exact ⟨⟨tokens, condition, lexes, reads, Sql.Expression.map_some_mono keeping bound⟩, filled, last⟩

private theorem isSpace_of_isWordChar {symbol : Char} (word : Sql.isWordChar symbol = true) :
    Text.isSpace symbol = false := by
  cases space : Text.isSpace symbol with
  | false => rfl
  | true =>
      rw [← Char.ofNat_toNat symbol] at word
      simp only [Text.isSpace, Bool.or_eq_true, beq_iff_eq, Bool.and_eq_true,
        decide_eq_true_eq] at space
      have code : symbol.toNat = 32 ∨ symbol.toNat = 9 ∨ symbol.toNat = 10 ∨ symbol.toNat = 11 ∨
          symbol.toNat = 12 ∨ symbol.toNat = 13 := by
        rcases space with rfl | between
        · exact .inl rfl
        · omega
      revert word
      rcases code with same | same | same | same | same | same <;> rw [same] <;> decide

private theorem last_word {before word : List Char} (filled : word ≠ [])
    (all : ∀ symbol ∈ word, Sql.isWordChar symbol = true) :
    ∀ symbol ∈ (before ++ word).getLast?, Text.isSpace symbol = false := by
  intro symbol last
  rw [List.getLast?_append_of_ne_nil before filled] at last
  exact isSpace_of_isWordChar (all symbol (List.mem_of_getLast? last))

private theorem last_mark (before : List Char) {mark : List Char} {final : Char}
    (last : mark.getLast? = some final) (plain : Text.isSpace final = false) :
    ∀ symbol ∈ (before ++ mark).getLast?, Text.isSpace symbol = false := by
  intro symbol found
  rw [List.getLast?_append, last] at found
  cases found
  exact plain

/-- An operator after a blank. -/
structure OperatorText (operator : String) (symbol : Sql.Symbol) : Prop where
  closed : Sql.Closed operator.toList [.symbol symbol]
  blank : operator.toList.head? = some ' '

private theorem stands_compare (numbered : Numbered builder) {operator : String}
    {symbol : Sql.Symbol}
    {comparison : Sql.Comparison} {level : Nat} (written : OperatorText operator symbol)
    (found : Sql.comparison? symbol = some (comparison, level)) (key : Sql.Name)
    (val : MixedValue δ) :
    let result := QueryText.compare operator builder key.text val
    Numbered result.2 ∧ Keeping builder result.2 ∧
      Stands result.2 result.1 (.compare comparison (.column key.text) (.param val)) := by
  obtain ⟨name, later, keeping, bound⟩ := addParam_spec numbered val
  have tail := lexes_placeholder builder.paramIdx
  refine ⟨later, keeping, ⟨[.name key.text, .symbol symbol, .param (placeholderName builder.paramIdx)],
    _, ?_, Sql.reads_comparison found, ?_⟩, ?_, ?_⟩
  · unfold QueryText.compare
    dsimp only
    rw [name, List.append_assoc]
    exact key.lexes.append (written.closed.append_lexes tail)
      ⟨' ', by rw [List.head?_append, written.blank]; rfl, by decide⟩
  · change Sql.Expression.compare _ (.column key.text) (.param ((builder.addParam val).2.value _)) = _
    rw [bound]
    rfl
  · unfold QueryText.compare
    exact List.append_ne_nil_of_left_ne_nil (List.append_ne_nil_of_left_ne_nil key.filled _) _
  · unfold QueryText.compare
    dsimp only
    rw [name, placeholder_toList, List.append_cons]
    exact last_word (List.cons_ne_nil _ _) (placeholderName_word _)

private theorem stands_isNull (builder : QueryBuilder δ) (key : Sql.Name) :
    Stands builder (QueryText.isNull key.text) (.isNull (.column key.text)) := by
  have written : Sql.feed .blank " IS NULL".toList = some ([.keyword .is], .word "NULL".toList) := by
    decide
  refine ⟨⟨[.name key.text, .keyword .is, .keyword .null], _, ?_, Sql.reads_isNull, rfl⟩, ?_, ?_⟩
  · exact key.lexes.append (Sql.lexes_of_word written) ⟨' ', rfl, by decide⟩
  · exact List.append_ne_nil_of_left_ne_nil key.filled _
  · have split : QueryText.isNull key.text = (key.text ++ " IS ".toList) ++ "NULL".toList := by
      rw [List.append_assoc]
      rfl
    rw [split]
    exact last_word (by decide) (List.all_eq_true.mp (by decide))

private theorem stands_like (numbered : Numbered builder) (key : Sql.Name) (val : StdString)
    (hasMatch : Bool) :
    let result := QueryText.like builder key.text val hasMatch
    Numbered result.2 ∧ Keeping builder result.2 ∧ Stands result.2 result.1
      (.likeEscape (.column key.text) (.param (.string (likeValue val hasMatch)))
        (.text ['\\'])) := by
  obtain ⟨name, later, keeping, bound⟩ :=
    addParam_spec numbered (.string (likeValue val hasMatch))
  have operator : Sql.Closed " LIKE ".toList [.keyword .like] := by decide
  have escape : Sql.feed .blank " ESCAPE '\\'".toList =
      some ([.keyword .escape], .quote ['\\']) := by decide
  refine ⟨later, keeping, ⟨[.name key.text, .keyword .like,
    .param (placeholderName builder.paramIdx), .keyword .escape, .quoted ['\\']], _, ?_,
    Sql.reads_like, ?_⟩, ?_, ?_⟩
  · unfold QueryText.like
    dsimp only
    rw [name, List.append_assoc, List.append_assoc]
    have tail := (lexes_placeholder builder.paramIdx).append (Sql.lexes_of_quote escape)
      ⟨' ', rfl, by decide⟩
    exact key.lexes.append (operator.append_lexes tail) ⟨' ', rfl, by decide⟩
  · change Sql.Expression.likeEscape (.column key.text)
      (.param ((builder.addParam (.string (likeValue val hasMatch))).2.value _)) _ = _
    rw [bound]
    rfl
  · unfold QueryText.like
    dsimp only
    rw [List.append_assoc, List.append_assoc]
    exact List.append_ne_nil_of_left_ne_nil key.filled _
  · unfold QueryText.like
    dsimp only
    exact last_mark _ rfl (by decide)

private theorem Stands.not (stands : Stands builder text expression) :
    Stands builder (QueryText.not text) (.not expression) := by
  obtain ⟨⟨tokens, condition, lexes, reads, bound⟩, filled, last⟩ := stands
  have opening : Sql.Closed "(NOT ".toList [.symbol .opening, .keyword .not] := by decide
  have closing : Sql.Closed ")".toList [.symbol .closing] := by decide
  refine ⟨⟨_, .not condition, ?_, reads.not.parens, ?_⟩, ?_, ?_⟩
  · exact (opening.append (lexes.append_closed closing ⟨')', rfl, by decide⟩)).lexes
  · rw [Sql.Expression.map, bound]
    rfl
  · exact List.append_ne_nil_of_right_ne_nil _ (by decide)
  · unfold QueryText.not
    exact last_mark _ rfl (by decide)

/-- The words that join texts. -/
def glue : Sql.Connective → List Char
  | .and => " AND ".toList
  | .or => " OR ".toList

private theorem closed_glue (connective : Sql.Connective) :
    Sql.Closed (glue connective) [.keyword connective.keyword] := by
  cases connective <;> decide

private theorem bounded_glue (connective : Sql.Connective) : Sql.Bounded (glue connective) := by
  cases connective with
  | and => exact ⟨' ', rfl, by decide⟩
  | or => exact ⟨' ', rfl, by decide⟩

private theorem connectText_eq (connective : Sql.Connective) (first : List Char)
    (rest : List (List Char)) :
    connectText connective (first :: rest) =
      "(".toList ++ (first ++ rest.flatMap (glue connective ++ ·)) ++ ")".toList := by
  cases connective <;> rfl

private theorem stands_parts {texts : List (List Char)}
    {expressions : List (Sql.Expression (MixedValue δ))}
    (all : List.Forall₂ (Stands builder) texts expressions) :
    ∃ parts : List (List Char × List Sql.Token × Sql.Expression (List Char)),
      parts.map Prod.fst = texts ∧
      (∀ part ∈ parts, Sql.Lexes part.1 part.2.1 ∧ Sql.Reads part.2.1 part.2.2) ∧
      parts.map (fun part => part.2.2.map builder.value) =
        expressions.map (Sql.Expression.map some) := by
  induction all with
  | nil => exact ⟨[], rfl, List.forall_mem_nil _, rfl⟩
  | cons stands _ ih =>
      obtain ⟨⟨tokens, condition, lexes, reads, bound⟩, -, -⟩ := stands
      obtain ⟨parts, texts, each, values⟩ := ih
      refine ⟨(_, tokens, condition) :: parts, ?_, List.forall_mem_cons.mpr ⟨⟨lexes, reads⟩, each⟩, ?_⟩
      · rw [List.map_cons, texts]
      · rw [List.map_cons, List.map_cons, bound, values]

private theorem stands_connect (connective : Sql.Connective) {first : List Char}
    {rest : List (List Char)} {expressions : List (Sql.Expression (MixedValue δ))}
    (stands : Stands builder first expression)
    (all : List.Forall₂ (Stands builder) rest expressions) :
    Stands builder (connectText connective (first :: rest))
      (connective.chain expression expressions) := by
  obtain ⟨⟨tokens, condition, lexes, reads, bound⟩, -, -⟩ := stands
  obtain ⟨parts, rfl, each, values⟩ := stands_parts all
  have opening : Sql.Closed "(".toList [.symbol .opening] := by decide
  have closing : Sql.Closed ")".toList [.symbol .closing] := by decide
  have joined := lexes.join (closed_glue connective) (bounded_glue connective)
    (parts.map fun part => (part.1, part.2.1))
    (List.forall_mem_map.mpr fun part member => (each part member).1)
  have whole := reads.chain connective (parts.map Prod.snd)
    (List.forall_mem_map.mpr fun part member => (each part member).2)
  simp only [List.flatMap_map, List.cons_append, List.nil_append] at joined whole
  refine ⟨⟨_, _, ?_, whole.parens, ?_⟩, ?_, ?_⟩
  · rw [connectText_eq, List.append_assoc, List.flatMap_map]
    exact (opening.append (joined.append_closed closing ⟨')', rfl, by decide⟩)).lexes
  · rw [Sql.Connective.map_chain, Sql.Connective.map_chain, bound, ← values, List.map_map,
      List.map_map]
    rfl
  · rw [connectText_eq]
    exact List.append_ne_nil_of_right_ne_nil _ (by decide)
  · rw [connectText_eq]
    exact last_mark _ rfl (by decide)

private theorem manyEquals_stands (numbered : Numbered builder) (key : Sql.Name)
    (vals : List CString) :
    let result := QueryText.manyEquals builder key.text vals
    Numbered result.2 ∧ Keeping builder result.2 ∧
      List.Forall₂ (Stands result.2) result.1
        (vals.map fun val => .compare .equals (.column key.text) (.param (.chars val))) := by
  induction vals generalizing builder with
  | nil => exact ⟨numbered, Keeping.refl builder, .nil⟩
  | cons val rest ih =>
      have written : OperatorText " = " .equals := ⟨by decide, rfl⟩
      obtain ⟨middle, first, stands⟩ := stands_compare numbered written rfl key (.chars val)
      obtain ⟨last, others, all⟩ := ih middle
      exact ⟨last, first.trans others, .cons (stands.keeping others) all⟩

private theorem Leaf.build_stands (numbered : Numbered builder) (single : Leaf δ) :
    let result := single.build builder
    Numbered result.2 ∧ Keeping builder result.2 ∧ Stands result.2 result.1 single.expression := by
  have unchanged := Keeping.refl builder
  cases single with
  | isNull key => exact ⟨numbered, unchanged, stands_isNull builder key⟩
  | equalsNull key => exact ⟨numbered, unchanged, stands_isNull builder key⟩
  | notEqualsNull key => exact ⟨numbered, unchanged, (stands_isNull builder key).not⟩
  | like key val hasMatch => exact stands_like numbered key val hasMatch
  | isTrue key =>
      have written : OperatorText " > " .greater := ⟨by decide, rfl⟩
      exact stands_compare numbered written rfl key _
  | compare comparison key val =>
      cases comparison with
      | equals =>
          have written : OperatorText " = " .equals := ⟨by decide, rfl⟩
          exact stands_compare numbered written rfl key val
      | notEquals =>
          have written : OperatorText " <> " .notEquals := ⟨by decide, rfl⟩
          exact stands_compare numbered written rfl key val
      | less =>
          have written : OperatorText " < " .less := ⟨by decide, rfl⟩
          exact stands_compare numbered written rfl key val
      | lessEquals =>
          have written : OperatorText " <= " .lessEquals := ⟨by decide, rfl⟩
          exact stands_compare numbered written rfl key val
      | greater =>
          have written : OperatorText " > " .greater := ⟨by decide, rfl⟩
          exact stands_compare numbered written rfl key val
      | greaterEquals =>
          have written : OperatorText " >= " .greaterEquals := ⟨by decide, rfl⟩
          exact stands_compare numbered written rfl key val
  | manyEqualsOr key first rest =>
      obtain ⟨last, keeping, all⟩ := manyEquals_stands numbered key (first :: rest)
      obtain ⟨part, parts, stands, others, split⟩ := List.forall₂_cons_right_iff.mp all
      refine ⟨last, keeping, ?_⟩
      change Stands (QueryText.manyEquals builder key.text (first :: rest)).2
        (connectText .or (QueryText.manyEquals builder key.text (first :: rest)).1) _
      rw [split]
      exact stands_connect .or stands others

end Texts

section Building

variable {δ : Type} {building : Building δ}

/-- The `WHERE` string stands for all the criteria that it was set to. -/
def Filtering (clauses : QueryClauses δ) : List (Criterion δ) → Prop
  | [] => clauses.whereText = []
  | first :: rest =>
    Stands clauses.toQueryBuilder clauses.whereText
      (Sql.Connective.and.chain first.expression (rest.map Criterion.expression))

/-- Every text stands for what it was built for. -/
structure Building.Sound (building : Building δ) : Prop where
  numbered : Numbered building.clauses.toQueryBuilder
  built : ∀ part ∈ building.built,
    Stands building.clauses.toQueryBuilder part.text part.criterion.expression
  filtering : Filtering building.clauses building.criteria
  plain : building.clauses.orderBy = [] ∧ building.clauses.limit = none ∧
    building.clauses.offset = none

private theorem Filtering.keeping {clauses : QueryClauses δ} {criteria : List (Criterion δ)}
    {later : QueryBuilder δ} (filtering : Filtering clauses criteria)
    (keeping : Keeping clauses.toQueryBuilder later) :
    Filtering { clauses with toQueryBuilder := later } criteria := by
  cases criteria with
  | nil => exact filtering
  | cons first rest => exact Stands.keeping filtering keeping

private theorem Filtering.where_ {clauses : QueryClauses δ} {criteria : List (Criterion δ)}
    {text : List Char} {criterion : Criterion δ} (filtering : Filtering clauses criteria)
    (stands : Stands clauses.toQueryBuilder text criterion.expression) :
    Filtering (clauses.where_ text) (criteria ++ [criterion]) := by
  unfold QueryClauses.where_
  cases criteria with
  | nil =>
      have empty : clauses.whereText = [] := filtering
      rw [if_neg fun both => both.2 empty]
      exact stands
  | cons first rest =>
      have before : Stands clauses.toQueryBuilder clauses.whereText
        (Sql.Connective.and.chain first.expression (rest.map Criterion.expression)) := filtering
      rw [if_pos ⟨stands.filled, before.filled⟩]
      have joined := stands_connect .and before (.cons stands .nil)
      have chained : Sql.Connective.and.chain first.expression
          ((rest ++ [criterion]).map Criterion.expression) =
          Sql.Connective.and.chain (Sql.Connective.and.chain first.expression
            (rest.map Criterion.expression)) [criterion.expression] := by
        simp [Sql.Connective.chain]
      change Stands clauses.toQueryBuilder (connectText .and [clauses.whereText, text])
        (Sql.Connective.and.chain first.expression
          ((rest ++ [criterion]).map Criterion.expression))
      rw [chained]
      exact joined

private theorem Building.Sound.step (sound : building.Sound) (call : BuilderCall δ) :
    (building.step call).Sound := by
  obtain ⟨numbered, built, filtering, plain⟩ := sound
  have append {clauses : QueryClauses δ} {part : Built δ}
      (before : ∀ part ∈ building.built,
        Stands clauses.toQueryBuilder part.text part.criterion.expression)
      (stands : Stands clauses.toQueryBuilder part.text part.criterion.expression) :
      ∀ other ∈ building.built ++ [part],
        Stands clauses.toQueryBuilder other.text other.criterion.expression := by
    intro other member
    rcases List.mem_append.mp member with old | new
    · exact before other old
    · rw [List.mem_singleton.mp new]
      exact stands
  cases call with
  | leaf single =>
      obtain ⟨later, keeping, stands⟩ := single.build_stands numbered
      exact ⟨later, append (fun part member => (built part member).keeping keeping) stands,
        filtering.keeping keeping, plain⟩
  | not arg =>
      unfold Building.step
      dsimp only
      cases found : building.built[arg]? with
      | none => exact ⟨numbered, built, filtering, plain⟩
      | some part =>
          have stands := built part (List.mem_of_getElem? found)
          exact ⟨numbered, append built stands.not, filtering, plain⟩
  | connect connective first rest =>
      unfold Building.step
      dsimp only
      cases found : building.built[first]? with
      | none => exact ⟨numbered, built, filtering, plain⟩
      | some part =>
          have stands := built part (List.mem_of_getElem? found)
          have others : List.Forall₂ (Stands building.clauses.toQueryBuilder)
              ((rest.filterMap (building.built[·]?)).map Built.text)
              (((rest.filterMap (building.built[·]?)).map Built.criterion).map
                Criterion.expression) := by
            rw [List.map_map, List.forall₂_map_left_iff, List.forall₂_map_right_iff,
              List.forall₂_same]
            intro other member
            obtain ⟨place, -, there⟩ := List.mem_filterMap.mp member
            exact built other (List.mem_of_getElem? there)
          refine ⟨numbered, append built ?_, filtering, plain⟩
          have joined := stands_connect connective stands others
          rw [← Criterion.expressions_eq_map] at joined
          exact joined
  | where_ arg =>
      unfold Building.step
      dsimp only
      cases found : building.built[arg]? with
      | none => exact ⟨numbered, built, filtering, plain⟩
      | some part =>
          have stands := built part (List.mem_of_getElem? found)
          have kept : (building.clauses.where_ part.text).toQueryBuilder =
              building.clauses.toQueryBuilder ∧
              (building.clauses.where_ part.text).orderBy = building.clauses.orderBy ∧
              (building.clauses.where_ part.text).limit = building.clauses.limit ∧
              (building.clauses.where_ part.text).offset = building.clauses.offset := by
            unfold QueryClauses.where_
            split <;> exact ⟨rfl, rfl, rfl, rfl⟩
          obtain ⟨same, orderBy, limit, offset⟩ := kept
          refine ⟨?_, ?_, filtering.where_ stands, ?_⟩
          · dsimp only
            rw [same]
            exact numbered
          · dsimp only
            rw [same]
            exact built
          · dsimp only
            rw [orderBy, limit, offset]
            exact plain

private theorem Building.new_sound : (Building.new : Building δ).Sound where
  numbered _ member := by cases member
  built _ member := by cases member
  filtering := rfl
  plain := ⟨rfl, rfl, rfl⟩

private theorem Building.run_sound (calls : List (BuilderCall δ)) :
    (calls.foldl Building.step Building.new).Sound :=
  calls.foldlRecOn Building.step new_sound fun _ sound call _ => sound.step call

private theorem getText_filtering {clauses : QueryClauses δ}
    {expression : Sql.Expression (MixedValue δ)}
    (plain : clauses.orderBy = [] ∧ clauses.limit = none ∧ clauses.offset = none)
    (stands : Stands clauses.toQueryBuilder clauses.whereText expression) :
    clauses.getText = "WHERE ".toList ++ clauses.whereText := by
  obtain ⟨orderBy, limit, offset⟩ := plain
  have text : clauses.getText = Text.trim ([' '] ++ ("WHERE ".toList ++ clauses.whereText) ++ []) := by
    simp only [QueryClauses.getText, orderBy, limit, offset, if_pos stands.filled, ne_eq,
      not_true_eq_false, if_false, List.append_nil]
    rfl
  rw [text]
  apply Text.trim_eq
  · intro symbol member
    rw [List.mem_singleton.mp member]
    decide
  · exact List.forall_mem_nil _
  · exact List.append_ne_nil_of_left_ne_nil (by decide) _
  · constructor
    · intro symbol head
      obtain rfl : 'W' = symbol := Option.some.inj head
      decide
    · intro symbol last
      rw [List.getLast?_append_of_ne_nil _ stands.filled] at last
      exact stands.last symbol last

private theorem lexes_where {text : List Char} {tokens : List Sql.Token}
    (lexes : Sql.Lexes text tokens) :
    Sql.lex ("WHERE ".toList ++ text) = some (.keyword .where_ :: tokens) := by
  have opening : Sql.Closed "WHERE ".toList [.keyword .where_] := by decide
  exact (opening.append_lexes lexes).lex

/-- After any calls, the text is empty where no criterion was set, and else reads as a condition
whose placeholders are bound to the values of their comparisons, and which is as true of every row as
all the criteria together. -/
theorem getText_means {ν : Type} (calls : List (BuilderCall δ)) (operators : Sql.Operators ν)
    (bind : MixedValue δ → ν) (row : List Char → ν) :
    let final := calls.foldl Building.step Building.new
    match final.criteria with
    | [] => final.clauses.getText = []
    | first :: rest =>
      ∃ tokens condition, Sql.lex final.clauses.getText = some tokens ∧
        Sql.parseWhere tokens = some condition ∧
        condition.map final.clauses.value =
          (Sql.Connective.and.chain first.expression (rest.map Criterion.expression)).map some ∧
        (condition.map fun name => ((final.clauses.value name).map bind).getD operators.null).holds
            operators row =
          ((first :: rest).map (Criterion.holds operators bind row)).foldr Sql.Truth.and
            (some true) := by
  intro final
  have sound : final.Sound := Building.run_sound calls
  have filtering := sound.filtering
  split
  · next empty =>
    rw [empty] at filtering
    have none_ : final.clauses.whereText = [] := filtering
    obtain ⟨orderBy, limit, offset⟩ := sound.plain
    simp only [QueryClauses.getText, none_, orderBy, limit, offset, ne_eq, not_true_eq_false,
      if_false]
    rfl
  · next first rest criteria =>
    rw [criteria] at filtering
    have stands : Stands final.clauses.toQueryBuilder final.clauses.whereText
        (Sql.Connective.and.chain first.expression (rest.map Criterion.expression)) := filtering
    obtain ⟨tokens, condition, lexes, reads, bound⟩ := stands.reading
    refine ⟨.keyword .where_ :: tokens, condition, ?_, reads.whole.parseWhere, bound, ?_⟩
    · rw [getText_filtering sound.plain stands]
      exact lexes_where lexes
    · have valued : (condition.map fun name =>
          ((final.clauses.value name).map bind).getD operators.null) =
          (Sql.Connective.and.chain first.expression (rest.map Criterion.expression)).map bind := by
        rw [← Sql.Expression.map_map final.clauses.value
          (fun val => (val.map bind).getD operators.null) condition, bound, Sql.Expression.map_map]
        rfl
      rw [valued, Sql.Connective.map_chain, Sql.Connective.holds_chain, List.map_cons,
        Criterion.holds_expression, ← Criterion.expressions_eq_map, Criterion.holds_expressions]
      rfl

end Building

end Andromeda.Database
