import Andromeda.Arguments.CommandLine
import Andromeda.Text.ExplodeProperties
import Mathlib.Data.List.GetD
import Mathlib.Data.List.Induction
import Mathlib.Data.Finset.Max

/-! The parameters of the environment: each variable is a parameter with the value that it has,
unless a value is taken for the next key. -/

set_option autoImplicit false

namespace Andromeda.Arguments

open Library Text

/-- A key that stands for itself. -/
structure ParamKey (key : List Char) : Prop where
  filled : key ≠ []
  notBlank : ∀ initial ∈ key.head?, isSpace initial = false
  noEquals : '=' ∉ key
  ordinary : ∀ last ∈ key.getLast?, last ∉ ['@', '!', '%', '-']

/-- A variable of the environment. -/
def envVariable (key value : List Char) : List Char := "andromeda_".toList ++ key ++ '=' :: value

/-- The variables for the action, among all that the environment has. -/
structure Environs (environ : List (List Char)) (vars : Params) : Prop where
  named : ∀ var, (var ∈ environ ∧ startsWith var "andromeda_".toList) ↔
    ∃ key value, vars.find? key = some value ∧ var = envVariable key value
  keys : ∀ key value, vars.find? key = some value → ParamKey key

/-- Parameters, each as a key and its value. -/
def pairArgs (pairs : List (List Char × List Char)) : List (List Char) :=
  pairs.flatMap fun pair => ["--".toList ++ pair.1, pair.2]

section Rounds

variable {entries : List Char → Entry} {allowUnsafeUrl : Bool} {args : List (List Char)} {i : Nat}
  {parsed : Parsed} {key : List Char}

private theorem getNextValue_bare (bare : '=' ∉ args.getD i []) :
    getNextValue args i =
      if i + 1 < args.length ∧ ¬ startsWith (args.getD (i + 1) []) "--".toList then
        (args.getD (i + 1) [], i + 1)
      else ([], i) := by
  rw [getNextValue, if_neg fun both => bare both.2]

private theorem plainParam_private (param : List Char) :
    plainParam allowUnsafeUrl true args param i parsed =
      .ok ((getNextValue args i).2,
        { parsed with dataParams := parsed.dataParams.insert param (getNextValue args i).1 }) := rfl

private theorem processArg_key (isKey : ParamKey key) (here : args.getD i [] = "--".toList ++ key) :
    processArg entries allowUnsafeUrl true args i parsed =
      .ok ((getNextValue args i).2,
        { parsed with dataParams := parsed.dataParams.insert key (getNextValue args i).1 }) := by
  obtain ⟨initial, others, rfl⟩ := List.exists_cons_of_ne_nil isKey.filled
  have named : ¬ (("--".toList ++ initial :: others).length < 2 ∨
      ¬ startsWith ("--".toList ++ initial :: others) "--".toList = true) := by
    have starts := startsWith_iff.mpr (List.prefix_append "--".toList (initial :: others))
    rintro (short | other)
    · have two : "--".toList.length = 2 := rfl
      rw [List.length_append, List.length_cons, two] at short
      omega
    · exact other starts
  have filled : ¬ (("--".toList ++ initial :: others).length < 3 ∨
      (("--".toList ++ initial :: others).drop 2).head?.any isSpace = true) := by
    simp [isKey.notBlank initial rfl]
  have bare : (split (("--".toList ++ initial :: others).drop 2) ['='] 0 false).1 =
      initial :: others := by
    have uncut := split_uncut (List.count_eq_zero.mpr isKey.noEquals).le
    simpa using congrArg Prod.fst uncut
  have last : (initial :: others).getLast? = some ((initial :: others).getLast (by simp)) :=
    List.getLast?_eq_some_getLast _
  have ordinary := isKey.ordinary _ last
  simp only [List.mem_cons, List.not_mem_nil, or_false, not_or] at ordinary
  simp only [processArg, here]
  rw [if_neg named, if_neg filled, bare, last]
  simp only [if_neg ordinary.1, if_neg ordinary.2.1, if_neg ordinary.2.2.1, if_neg ordinary.2.2.2,
    plainParam_private]

private theorem processLoop_step {j : Nat} {parsed' : Parsed} {isPriv : Bool}
    (inside : i < args.length)
    (round : processArg entries allowUnsafeUrl isPriv args i parsed = .ok (j, parsed')) :
    processLoop entries allowUnsafeUrl isPriv args i parsed =
      processLoop entries allowUnsafeUrl isPriv args (j + 1) parsed' := by
  conv_lhs => rw [processLoop, if_pos inside]
  split
  · next thrown =>
      rw [round] at thrown
      cases thrown
  · next other =>
      rw [round] at other
      cases other
      rfl

private theorem processLoop_end {isPriv : Bool} :
    processLoop entries allowUnsafeUrl isPriv args args.length parsed = .ok parsed := by
  rw [processLoop, if_neg (lt_irrefl _)]

private theorem processLoop_pairs (earlier : List (List Char × List Char))
    {pairs : List (List Char × List Char)}
    (shape : args = pairArgs earlier ++ pairArgs pairs) (keys : ∀ pair ∈ pairs, ParamKey pair.1)
    (values : ∀ pair ∈ pairs, ¬ "--".toList <+: pair.2) :
    processLoop entries allowUnsafeUrl true args (pairArgs earlier).length parsed =
      .ok { parsed with
        dataParams := pairs.foldl (fun map pair => map.insert pair.1 pair.2) parsed.dataParams } := by
  induction pairs generalizing earlier parsed with
  | nil =>
      have all : args.length = (pairArgs earlier).length := by
        rw [shape, show pairArgs [] = [] from rfl, List.append_nil]
      rw [← all, processLoop_end]
      rfl
  | cons pair pairs ih =>
      have rest : args = pairArgs earlier ++ ("--".toList ++ pair.1) :: pair.2 :: pairArgs pairs := shape
      have here : args.getD (pairArgs earlier).length [] = "--".toList ++ pair.1 := by
        simp [rest, List.getD_eq_getElem?_getD]
      have next : args.getD ((pairArgs earlier).length + 1) [] = pair.2 := by
        simp [rest, List.getD_eq_getElem?_getD]
      have inside : (pairArgs earlier).length + 1 < args.length := by
        simp only [rest, List.length_append, List.length_cons]
        omega
      have isKey := keys pair List.mem_cons_self
      have bare : '=' ∉ args.getD (pairArgs earlier).length [] := by
        rw [here]
        simpa using isKey.noEquals
      have value : ¬ startsWith (args.getD ((pairArgs earlier).length + 1) []) "--".toList = true := by
        rw [next, startsWith_iff]
        exact values pair List.mem_cons_self
      have taken : getNextValue args (pairArgs earlier).length =
          (pair.2, (pairArgs earlier).length + 1) := by
        rw [getNextValue_bare bare, if_pos ⟨inside, value⟩, next]
      have length : (pairArgs earlier).length + 1 + 1 = (pairArgs (earlier ++ [pair])).length := by
        simp [pairArgs]
      have more : args = pairArgs (earlier ++ [pair]) ++ pairArgs pairs := by
        simp [rest, pairArgs]
      rw [processLoop_step (Nat.lt_of_succ_lt inside) (processArg_key isKey here), taken, length,
        ih _ more (fun other member => keys other (List.mem_cons_of_mem _ member))
          fun other member => values other (List.mem_cons_of_mem _ member)]
      rfl

end Rounds

section Environment

variable {environ : List (List Char)} {vars : Params} {key value : List Char}

/-- A round of the loop of `GetEnvironment`. -/
def addVariable (start : List Char) (retval : Params) (var : List Char) : Params :=
  let pair := split var ['='] 0 false
  if start = [] ∨ startsWith pair.1 start then retval.emplace pair.1 pair.2 else retval

private theorem getEnvironment_eq (environ : List (List Char)) (start : List Char) :
    getEnvironment environ start = environ.foldl (addVariable start) .empty := rfl

private theorem split_envVariable (isKey : ParamKey key) :
    split (envVariable key value) ['='] 0 false = ("andromeda_".toList ++ key, value) := by
  apply split_forward
  rw [List.count_append, List.count_eq_zero.mpr isKey.noEquals]
  decide

private theorem split_name (key : List Char) :
    split ("andromeda_".toList ++ key) ['_'] 0 false = ("andromeda".toList, key) :=
  split_forward "andromeda".toList key (by decide)

private theorem addVariable_cases (environs : Environs environ vars) {var : List Char}
    (member : var ∈ environ)
    (retval : Params) :
    (∃ key value, vars.find? key = some value ∧ var = envVariable key value ∧
      addVariable "andromeda_".toList retval var =
        retval.emplace ("andromeda_".toList ++ key) value) ∨
    ((¬ ∃ key value, vars.find? key = some value ∧ var = envVariable key value) ∧
      addVariable "andromeda_".toList retval var = retval) := by
  by_cases starts : startsWith var "andromeda_".toList = true
  · obtain ⟨key, value, found, rfl⟩ := (environs.named var).mp ⟨member, starts⟩
    left
    refine ⟨key, value, found, rfl, ?_⟩
    have begins := startsWith_iff.mpr (List.prefix_append "andromeda_".toList key)
    simp only [addVariable, split_envVariable (environs.keys key value found)]
    exact if_pos (Or.inr begins)
  · right
    constructor
    · rintro ⟨key, value, found, rfl⟩
      exact starts ((environs.named _).mpr ⟨key, value, found, rfl⟩).2
    · have passed : ¬ ("andromeda_".toList = [] ∨
          startsWith (split var ['='] 0 false).1 "andromeda_".toList = true) := by
        rintro (empty | begins)
        · cases empty
        · exact starts (startsWith_iff.mpr
            ((startsWith_iff.mp begins).trans (split_isPrefix var '=')))
      exact if_neg passed

private theorem envVariable_name {other stored : List Char} (isKey : ParamKey key)
    (isOther : ParamKey other)
    (same : envVariable key value = envVariable other stored) : key = other := by
  have splits := congrArg (fun var => (split var ['='] 0 false).1) same
  simp only [split_envVariable isKey, split_envVariable isOther] at splits
  exact List.append_cancel_left splits

private theorem addVariables_find? (environs : Environs environ vars) {passed : List (List Char)}
    (within : passed ⊆ environ) (name value : List Char) :
    (passed.foldl (addVariable "andromeda_".toList) .empty).find? name = some value ↔
      ∃ key, name = "andromeda_".toList ++ key ∧ vars.find? key = some value ∧
        envVariable key value ∈ passed := by
  induction passed using List.reverseRecOn generalizing name value with
  | nil => simp
  | append_singleton passed var ih =>
      have before := ih fun other member => within (List.mem_append_left _ member)
      rw [List.foldl_append, List.foldl_cons, List.foldl_nil]
      rcases addVariable_cases environs (within (List.mem_append_right _ List.mem_cons_self))
        (passed.foldl (addVariable "andromeda_".toList) .empty) with
        ⟨key, stored, isVar, rfl, equal⟩ | ⟨noVar, equal⟩
      · rw [equal, KeyMap.find?_emplace]
        split_ifs with same
        · have kept : ((passed.foldl (addVariable "andromeda_".toList) .empty).find?
              ("andromeda_".toList ++ key)).getD stored = stored := by
            cases found : (passed.foldl (addVariable "andromeda_".toList) .empty).find?
              ("andromeda_".toList ++ key) with
            | none => rfl
            | some earlier =>
                obtain ⟨other, sameName, isOther, _⟩ := (before _ earlier).mp found
                rw [← List.append_cancel_left sameName, isVar] at isOther
                exact (Option.some.inj isOther).symm
          rw [kept, Option.some.injEq]
          constructor
          · rintro rfl
            exact ⟨key, same, isVar, by simp⟩
          · rintro ⟨other, sameName, isOther, _⟩
            rw [← List.append_cancel_left (same.symm.trans sameName), isVar] at isOther
            exact Option.some.inj isOther
        · rw [before name value]
          refine exists_congr fun other => and_congr_right fun sameName =>
            and_congr_right fun isOther => ?_
          rw [List.mem_append, List.mem_singleton]
          refine (or_iff_left ?_).symm
          intro equalVar
          have sameKey := envVariable_name (environs.keys other value isOther)
            (environs.keys key stored isVar) equalVar
          exact same (sameKey ▸ sameName)
      · rw [equal, before name value]
        refine exists_congr fun other => and_congr_right fun _ => and_congr_right fun isOther => ?_
        rw [List.mem_append, List.mem_singleton]
        exact (or_iff_left fun isVar => noVar ⟨other, value, isOther, isVar.symm⟩).symm

/-- The variables of the action as keys and values, in the order of the map. -/
def variablePairs (environment : Params) : List (List Char × List Char) :=
  environment.entries.map fun pair => ((split pair.1 ['_'] 0 false).2, pair.2)

private theorem mem_variablePairs (environs : Environs environ vars)
    {pair : List Char × List Char} :
    pair ∈ variablePairs (getEnvironment environ "andromeda_".toList) ↔
      vars.find? pair.1 = some pair.2 := by
  have stored (name value : List Char) :
      (name, value) ∈ (getEnvironment environ "andromeda_".toList).entries ↔
        ∃ key, name = "andromeda_".toList ++ key ∧ vars.find? key = some value := by
    rw [← KeyMap.find?_eq_some_iff, getEnvironment_eq,
      addVariables_find? environs (List.Subset.refl environ)]
    refine exists_congr fun key => and_congr_right fun _ => and_iff_left_of_imp fun found => ?_
    exact ((environs.named _).mpr ⟨key, value, found, rfl⟩).1
  simp only [variablePairs, List.mem_map, Prod.exists]
  constructor
  · rintro ⟨name, value, member, rfl⟩
    obtain ⟨key, rfl, found⟩ := (stored name value).mp member
    rw [split_name]
    exact found
  · intro found
    refine ⟨"andromeda_".toList ++ pair.1, pair.2, (stored _ _).mpr ⟨pair.1, rfl, found⟩, ?_⟩
    rw [split_name]

private theorem environmentArgs_eq (environs : Environs environ vars) :
    environmentArgs (getEnvironment environ "andromeda_".toList) =
      pairArgs (variablePairs (getEnvironment environ "andromeda_".toList)) := by
  rw [environmentArgs, pairArgs, variablePairs, List.flatMap_map]
  apply List.flatMap_congr
  intro pair member
  have isKey : ParamKey (split pair.1 ['_'] 0 false).2 :=
    environs.keys _ pair.2 ((mem_variablePairs environs).mp (List.mem_map_of_mem member))
  exact if_neg isKey.filled

end Environment

section Parameters

variable {pairs : List (List Char × List Char)} {start : Params} {key value : List Char}

private theorem insertPairs_find?
    (found : (pairs.foldl (fun map pair => map.insert pair.1 pair.2) start).find?
    key = some value) : (key, value) ∈ pairs ∨ start.find? key = some value := by
  induction pairs generalizing start with
  | nil => exact Or.inr found
  | cons pair pairs ih =>
      rcases ih found with member | earlier
      · exact Or.inl (List.mem_cons_of_mem _ member)
      · rw [KeyMap.find?_insert] at earlier
        split_ifs at earlier with same
        · cases earlier
          rw [same]
          exact Or.inl List.mem_cons_self
        · exact Or.inr earlier

private theorem insertPairs_isSome (known : (start.find? key).isSome ∨ (key, value) ∈ pairs) :
    ((pairs.foldl (fun map pair => map.insert pair.1 pair.2) start).find? key).isSome := by
  induction pairs generalizing start with
  | nil => exact known.resolve_right (List.not_mem_nil)
  | cons pair pairs ih =>
      apply ih
      rw [KeyMap.find?_insert]
      split_ifs with same
      · exact Or.inl rfl
      · refine known.imp_right fun member => (List.mem_cons.mp member).resolve_left ?_
        rintro rfl
        exact same rfl

private theorem insertPairs_eq {vars : Params}
    (entries : ∀ pair : List Char × List Char, pair ∈ pairs ↔ vars.find? pair.1 = some pair.2) :
    pairs.foldl (fun map pair => map.insert pair.1 pair.2) .empty = vars := by
  apply KeyMap.ext_find?
  intro key value
  constructor
  · intro found
    rcases insertPairs_find? found with member | none_
    · exact (entries (key, value)).mp member
    · cases none_
  · intro found
    have stored : ((pairs.foldl (fun map pair => map.insert pair.1 pair.2) .empty : Params).find?
        key).isSome := insertPairs_isSome (Or.inr ((entries (key, value)).mpr found))
    obtain ⟨other, isOther⟩ := Option.isSome_iff_exists.mp stored
    rcases insertPairs_find? isOther with member | none_
    · have same := (entries (key, other)).mp member
      rw [isOther, ← same, found]
    · cases none_

end Parameters

section Spelled

variable {entries : List Char → Entry} {allowUnsafeUrl isPriv : Bool} {args : List (List Char)}
  {i j : Nat} {parsed parsed' : Parsed}

private theorem processLoop_preserves {Invariant : Parsed → Prop}
    (round : ∀ i j parsed parsed',
      processArg entries allowUnsafeUrl isPriv args i parsed = .ok (j, parsed') →
        Invariant parsed → Invariant parsed')
    (ended : processLoop entries allowUnsafeUrl isPriv args i parsed = .ok parsed')
    (start : Invariant parsed) : Invariant parsed' := by
  induction i, parsed using processLoop.induct entries allowUnsafeUrl isPriv args with
  | case1 i parsed inside exception thrown =>
      rw [processLoop, if_pos inside] at ended
      split at ended
      · cases ended
      · next other =>
          rw [thrown] at other
          cases other
  | case2 i parsed inside j next returned ih =>
      rw [processLoop_step inside returned] at ended
      exact ih ended (round i j parsed next returned start)
  | case3 i parsed outside =>
      rw [processLoop, if_neg outside] at ended
      cases ended
      exact start

/-- Without files and input, a value that begins like a key stands in an argument with its key. -/
structure Spelled (args : List (List Char)) (parsed : Parsed) : Prop where
  noInput : parsed.input = []
  values : ∀ key value, parsed.dataParams.find? key = some value → "--".toList <+: value →
    "--".toList ++ key ++ '=' :: value ∈ args

private theorem getNextValue_spelled (filled : ¬ (args.getD i []).length < 2)
    (starts : "--".toList <+: args.getD i []) (value : "--".toList <+: (getNextValue args i).1) :
    "--".toList ++ (split ((args.getD i []).drop 2) ['='] 0 false).1 ++
      '=' :: (getNextValue args i).1 ∈ args := by
  have inside : i < args.length := by
    by_contra outside
    rw [List.getD_eq_default _ _ (Nat.le_of_not_lt outside)] at filled
    exact filled (by simp)
  have member : args.getD i [] ∈ args := by
    rw [List.getD_eq_getElem _ _ inside]
    exact List.getElem_mem inside
  obtain ⟨rest, shape⟩ := starts
  rw [← shape] at member
  unfold getNextValue at value ⊢
  split_ifs at value ⊢ with equals next
  · have equalsRest : '=' ∈ rest := by
      have equal := equals.2
      rw [← shape] at equal
      simpa using equal
    obtain ⟨joined, absent⟩ := split_joined equalsRest
    have whole : split ("--".toList ++ rest) ['='] 0 false =
        ("--".toList ++ (split rest ['='] 0 false).1, (split rest ['='] 0 false).2) := by
      conv_lhs => rw [← joined, ← List.append_assoc]
      apply split_forward
      rw [List.count_append, List.count_eq_zero.mpr absent]
      decide
    have after : ("--".toList ++ rest).drop 2 = rest := rfl
    rw [← shape, whole, after, List.append_assoc, joined]
    exact member
  · exact absurd (startsWith_iff.mpr value) next.2
  · cases List.prefix_nil.mp value

private theorem processArg_spelled
    (round : processArg (fun _ => .absent) allowUnsafeUrl true args i parsed = .ok (j, parsed'))
    (spelled : Spelled args parsed) : Spelled args parsed' := by
  simp only [processArg] at round
  split_ifs at round with notNamed notFilled
  split at round
  · cases round
  · split_ifs at round
    · obtain ⟨_, _, round⟩ := bind_eq_ok round
      obtain ⟨_, _, round⟩ := bind_eq_ok round
      cases round
    · obtain ⟨_, _, round⟩ := bind_eq_ok round
      cases round
      refine ⟨?_, fun key value found starts => ?_⟩
      · simp [spelled.noInput]
      · rw [KeyMap.find?_insert] at found
        split_ifs at found
        · cases found
          rw [spelled.noInput] at starts
          cases List.prefix_nil.mp starts
        · exact spelled.values key value found starts
    · obtain ⟨_, _, round⟩ := bind_eq_ok round
      obtain ⟨_, _, round⟩ := bind_eq_ok round
      cases round
    · obtain ⟨_, _, round⟩ := bind_eq_ok round
      cases round
      exact ⟨spelled.noInput, spelled.values⟩
    · rw [plainParam_private] at round
      injection round with round
      obtain ⟨-, rfl⟩ := Prod.mk.inj round
      refine ⟨spelled.noInput, fun key value found starts => ?_⟩
      rw [KeyMap.find?_insert] at found
      split_ifs at found with same
      · rw [not_or, not_not] at notNamed
        rw [← Option.some.inj found] at starts ⊢
        rw [same]
        exact getNextValue_spelled notNamed.1 (startsWith_iff.mp notNamed.2) starts
      · exact spelled.values key value found starts

/-- Among variables that all keep their values, none begins like a key: the longest of those would
stand in a longer one. -/
private theorem values_plain {environ : List (List Char)} {vars : Params}
    (environs : Environs environ vars)
    (spelled : ∀ key value, vars.find? key = some value → "--".toList <+: value →
      "--".toList ++ key ++ '=' :: value ∈
        environmentArgs (getEnvironment environ "andromeda_".toList))
    (key value : List Char) (found : vars.find? key = some value) : ¬ "--".toList <+: value := by
  intro starts
  obtain ⟨longest, isVar, greatest⟩ := (vars.entries.filter fun entry =>
    decide ("--".toList <+: entry.2)).toFinset.exists_max_image (fun entry => entry.2.length)
    ⟨(key, value), List.mem_toFinset.mpr (List.mem_filter.mpr
      ⟨KeyMap.find?_eq_some_iff.mp found, decide_eq_true starts⟩)⟩
  simp only [List.mem_toFinset, List.mem_filter, decide_eq_true_eq] at isVar greatest
  have written := spelled longest.1 longest.2 (KeyMap.find?_eq_some_iff.mpr isVar.1) isVar.2
  rw [environmentArgs_eq environs] at written
  obtain ⟨pair, member, inPair⟩ := List.mem_flatMap.mp written
  have isPair := (mem_variablePairs environs).mp member
  rw [List.mem_pair] at inPair
  rcases inPair with asKey | asValue
  · -- the names of variables have no `=`
    have noEquals := (environs.keys _ _ isPair).noEquals
    rw [List.append_assoc] at asKey
    rw [← List.append_cancel_left asKey] at noEquals
    simp at noEquals
  · have begins : "--".toList <+: pair.2 := by
      rw [← asValue, List.append_assoc]
      exact List.prefix_append _ _
    have longer := greatest pair ⟨KeyMap.find?_eq_some_iff.mp isPair, begins⟩
    rw [← asValue, List.length_append, List.length_cons] at longer
    omega

end Spelled

section Construct

variable {σ : Type} (options : CliOptions σ) {argv environ : List (List Char)} {vars : Params}
  {app action : List Char} {state read final : σ} {shift : Nat}

private theorem actionInput_environment {entries : List Char → Entry} {input : List Char}
    {result : Input}
    (ended : options.actionInput entries environ input app action [] state = .ok result) :
    ∃ parsed, processArgList entries (options.allowUnsafeUrl state) true
        (environmentArgs (getEnvironment environ "andromeda_".toList))
        ⟨.empty, .empty, .empty, input, []⟩ = .ok parsed ∧
      result.base.dataParams = parsed.dataParams := by
  obtain ⟨parsed, first, ended⟩ := bind_eq_ok ended
  have none_ : processArgList entries (options.allowUnsafeUrl state) false [] parsed = .ok parsed :=
    processLoop_end
  obtain ⟨_, second, ended⟩ := bind_eq_ok ended
  rw [none_] at second
  cases second
  refine ⟨parsed, first, ?_⟩
  split_ifs at ended
  all_goals
    cases ended
    rfl

private theorem actionInput_plain (environs : Environs environ vars) {result : Input}
    (ended : options.actionInput (fun _ => .absent) environ [] app action [] state = .ok result)
    (same : result.base.dataParams = vars) (key value : List Char)
    (found : vars.find? key = some value) : ¬ "--".toList <+: value := by
  obtain ⟨parsed, run, equal⟩ := actionInput_environment options ended
  have spelled : Spelled (environmentArgs (getEnvironment environ "andromeda_".toList)) parsed := by
    refine processLoop_preserves (fun i j _ _ => processArg_spelled) run ⟨rfl, ?_⟩
    intro key value none_
    cases none_
  refine values_plain environs (fun key value found => ?_) key value found
  rw [← same, equal] at found
  exact spelled.values key value found

private theorem actionInput_unchanged (environs : Environs environ vars)
    (entries : List Char → Entry)
    (input : List Char)
    (plain : ∀ key value, vars.find? key = some value → ¬ "--".toList <+: value) :
    ∃ result, options.actionInput entries environ input app action [] state = .ok result ∧
      result.base.dataParams = vars := by
  have entry (pair : List Char × List Char) :
      pair ∈ variablePairs (getEnvironment environ "andromeda_".toList) ↔
        vars.find? pair.1 = some pair.2 := mem_variablePairs environs
  have run : processArgList entries (options.allowUnsafeUrl state) true
      (environmentArgs (getEnvironment environ "andromeda_".toList))
      ⟨.empty, .empty, .empty, input, []⟩ = .ok ⟨.empty, vars, .empty, input, []⟩ := by
    rw [← insertPairs_eq entry]
    exact processLoop_pairs [] (environmentArgs_eq environs)
      (fun pair member => environs.keys _ _ ((entry pair).mp member))
      fun pair member => plain _ _ ((entry pair).mp member)
  have none_ (parsed : Parsed) :
      processArgList entries (options.allowUnsafeUrl state) false [] parsed = .ok parsed :=
    processLoop_end
  have noStreams : ¬ (KeyMap.empty : KeyMap (List Char) FileStream).entries ≠ [] :=
    not_not_intro rfl
  simp only [CliOptions.actionInput, bind, Except.bind, run, none_, if_neg noStreams]
  split_ifs
  · exact ⟨_, rfl, rfl⟩
  · exact ⟨_, rfl, rfl⟩

private theorem construct_eq (parsed : options.parseArgs argv true state = .ok shift read)
    (valid : options.validate read = .ok () final) (noParams : argv.drop shift = [app, action])
    (entries : List Char → Entry) (input : List Char) (result : Input) :
    options.construct entries environ input argv state = .ok result final ↔
      options.actionInput entries environ input app action [] final = .ok result := by
  have within : ¬ argv.length < shift := by
    intro beyond
    rw [List.drop_eq_nil_of_le beyond.le] at noParams
    cases noParams
  simp only [CliOptions.construct, parsed, valid, if_neg within, noParams]
  cases options.actionInput entries environ input app action [] final <;> simp

/-- The variables of the environment keep their values, whatever files and input there are, exactly
if none of the values begins like a key. -/
theorem environment_unchanged_iff (parsed : options.parseArgs argv true state = .ok shift read)
    (valid : options.validate read = .ok () final) (noParams : argv.drop shift = [app, action])
    (environs : Environs environ vars) :
    (∀ entries input, ∃ result,
      options.construct entries environ input argv state = .ok result final ∧
        result.base.dataParams = vars) ↔
      ∀ key value, vars.find? key = some value → ¬ "--".toList <+: value := by
  simp only [construct_eq options parsed valid noParams]
  constructor
  · intro unchanged
    obtain ⟨result, ended, same⟩ := unchanged (fun _ => .absent) []
    exact actionInput_plain options environs ended same
  · intro plain entries input
    exact actionInput_unchanged options environs entries input plain

end Construct

/-- Options of which there are none. -/
def noOptions : CliOptions Unit where
  addFlag _ := pure false
  addOption _ _ := pure false
  validate := pure ()
  isStreamOut _ := false
  allowUnsafeUrl _ := false

/-- `andromeda-cli -- app action` -/
def noParamsArgv : List (List Char) :=
  ["andromeda-cli".toList, "--".toList, "app".toList, "action".toList]

private theorem find?_single {key value other stored : List Char} :
    (KeyMap.empty.insert key value : Params).find? other = some stored ↔
      other = key ∧ stored = value := by
  rw [KeyMap.find?_eq_some_iff, KeyMap.mem_insert]
  exact or_iff_left fun none_ => List.not_mem_nil none_.2

private theorem environs_single {key : List Char} (value : List Char) (isKey : ParamKey key) :
    Environs ["HOME=/root".toList, envVariable key value] (KeyMap.empty.insert key value) := by
  have starts : startsWith (envVariable key value) "andromeda_".toList = true :=
    startsWith_iff.mpr ⟨key ++ '=' :: value, (List.append_assoc _ _ _).symm⟩
  constructor
  · intro var
    constructor
    · rintro ⟨member, begins⟩
      rcases List.mem_pair.mp member with rfl | rfl
      · exact absurd begins (by decide)
      · exact ⟨key, value, find?_single.mpr ⟨rfl, rfl⟩, rfl⟩
    · rintro ⟨other, stored, found, rfl⟩
      obtain ⟨rfl, rfl⟩ := find?_single.mp found
      exact ⟨List.mem_pair.mpr (Or.inr rfl), starts⟩
  · intro other stored found
    exact (find?_single.mp found).1 ▸ isKey

private theorem paramKey_x : ParamKey ['x'] := ⟨by decide, by simp [isSpace], by decide, by simp⟩

theorem environment_unchanged_five :
    (∀ entries input, ∃ result,
      noOptions.construct entries ["HOME=/root".toList, "andromeda_x=5".toList] input noParamsArgv () =
          .ok result () ∧
        result.base.dataParams = KeyMap.empty.insert ['x'] ['5']) ↔
      ∀ key value, (KeyMap.empty.insert ['x'] ['5'] : Params).find? key = some value →
        ¬ "--".toList <+: value :=
  environment_unchanged_iff noOptions
    (show noOptions.parseArgs noParamsArgv true () = .ok 2 () from rfl) rfl rfl
    (environs_single ['5'] paramKey_x)

/-- With `andromeda_x=--y` the parameter does not get this value. -/
theorem environment_changed :
    ¬ ∃ result final,
      noOptions.construct (fun _ => .absent) ["HOME=/root".toList, "andromeda_x=--y".toList] []
          noParamsArgv () = .ok result final ∧
        result.base.dataParams = KeyMap.empty.insert ['x'] "--y".toList := by
  rintro ⟨result, final, ended, same⟩
  have environs := environs_single "--y".toList paramKey_x
  have parsed : noOptions.parseArgs noParamsArgv true () = .ok 2 () := rfl
  have ended := (construct_eq noOptions parsed rfl rfl _ [] result).mp ended
  exact actionInput_plain noOptions environs ended same ['x'] "--y".toList
    (find?_single.mpr ⟨rfl, rfl⟩) (by decide)

end Andromeda.Arguments
