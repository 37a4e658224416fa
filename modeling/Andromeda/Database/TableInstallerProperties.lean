import Andromeda.Database.TableInstaller
import Andromeda.Library.Interruption
import Andromeda.Library.Outcome
import Mathlib.Tactic.ByContra

/-! An installation that stops at the first query of a step is taken up where it stopped. One that
stops within a step is not: the step starts again and what it created is in its way. -/

set_option autoImplicit false

namespace Andromeda.Database.TableInstaller

open Library Library.Interruption

/-! ### Queries one after another -/

def execs (effects : List Effect) : Exec Unit := forM effects query

private theorem execs_cons (effect : Effect) (effects : List Effect) :
    execs (effect :: effects) = do { query effect; execs effects } := rfl

private theorem execs_one (effect : Effect) : execs [effect] = query effect := by
  simp only [execs, List.forM_cons, List.forM_nil, bind_pure_unit]

private theorem execs_append (first second : List Effect) :
    execs (first ++ second) = do { execs first; execs second } := by
  simp only [execs, List.forM_append]

private theorem query_free (effect : Effect) (store : Store) :
    query effect ⟨store, none⟩ = match effect store with
      | .ok reached => .ok () ⟨reached, none⟩
      | .error exception => .error exception ⟨store, none⟩ := by
  unfold query
  cases result : effect store with
  | error exception => simp [bind, EStateM.bind, run_get, result,
      run_throw]
  | ok reached => simp [bind, EStateM.bind, run_get, result,
      run_set]

private theorem query_thrown (effect : Effect) (store : Store) :
    query effect ⟨store, some 0⟩ = .error .query ⟨store, some 0⟩ := by
  simp [query, bind, EStateM.bind, run_get,
      run_throw]

private theorem query_before {effect : Effect} {store reached : Store}
    (done : effect store = .ok reached)
    (position : Nat) :
    query effect ⟨store, some (position + 1)⟩ = .ok () ⟨reached, some position⟩ := by
  simp [query, bind, EStateM.bind, run_get, done, run_set]

private theorem execs_free_iff (effects : List Effect) (store final : Store) :
    execs effects ⟨store, none⟩ = .ok () ⟨final, none⟩ ↔ applyAll effects store = .ok final := by
  induction effects generalizing store with
  | nil => simp [execs, pure, EStateM.pure]
  | cons effect effects induction =>
      rw [execs_cons, applyAll_cons]
      show EStateM.bind _ _ _ = _ ↔ Except.bind _ _ = _
      cases result : effect store with
      | error exception => simp [EStateM.bind, Except.bind, query_free, result]
      | ok reached => simpa [EStateM.bind, Except.bind, query_free, result] using induction reached

private theorem execs_interrupted (effects : List Effect) (store final : Store) (position : Nat)
    (applied : applyAll effects store = .ok final) (inside : position < effects.length) :
    ∃ after, applyAll (effects.take position) store = .ok after ∧
      execs effects ⟨store, some position⟩ = .error .query ⟨after, some 0⟩ := by
  induction effects generalizing store position with
  | nil => simp at inside
  | cons effect effects induction =>
      obtain ⟨reached, done, rest⟩ := applyAll_cons_ok applied
      rw [execs_cons]
      cases position with
      | zero =>
          refine ⟨store, rfl, ?_⟩
          show EStateM.bind _ _ _ = _
          simp only [EStateM.bind, query_thrown]
      | succ position =>
          obtain ⟨after, before, thrown⟩ := induction reached position rest (by simpa using inside)
          refine ⟨after, ?_, ?_⟩
          · rw [List.take_succ_cons, applyAll_cons_of_ok _ done]
            exact before
          · show EStateM.bind _ _ _ = _
            simpa only [EStateM.bind, query_before done] using thrown

private theorem query_done {effect : Effect} {connection reached : Connection}
    (done : query effect connection = .ok () reached) :
    effect connection.store = .ok reached.store := by
  obtain ⟨store, fault⟩ := connection
  by_cases now : fault = some 0
  · rw [now, query_thrown] at done
    cases done
  · cases result : effect store with
    | error exception =>
        simp [query, bind, EStateM.bind, run_get, run_throw, result, now] at done
    | ok after =>
        simp [query, bind, EStateM.bind, run_get, run_set, result, now] at done
        rw [← done]

private theorem execs_keeps {Value : Type} (value : Store → Value) {effects : List Effect}
    (keeps : ∀ effect ∈ effects, ∀ store reached, effect store = .ok reached →
      value reached = value store) {connection reached : Connection}
    (done : execs effects connection = .ok () reached) :
    value reached.store = value connection.store := by
  induction effects generalizing connection with
  | nil =>
      cases done
      rfl
  | cons effect effects induction =>
      rw [execs_cons] at done
      replace done : EStateM.bind _ _ connection = _ := done
      cases first : query effect connection with
      | error exception stopped => simp [EStateM.bind, first] at done
      | ok nothing middle =>
          simp only [EStateM.bind, first] at done
          rw [induction (fun other member => keeps other (List.mem_cons_of_mem _ member)) done]
          exact keeps effect List.mem_cons_self _ _ (query_done first)

/-! ### What a query does -/

private theorem create_ok {statement : Statement} {store reached : Store}
    (done : create statement store = .ok reached) :
    reached = { store with schema := store.schema ++ [statement] } := by
  unfold create at done
  split at done
  · cases done
  · cases statement with
    | createTable table properties => exact (Except.ok.inj done).symm
    | createIndex table fields =>
        dsimp only at done
        split at done
        · exact (Except.ok.inj done).symm
        · cases done

private theorem create_again {statement other : Statement} {store : Store}
    (member : other ∈ store.schema)
    (named : other.name = statement.name) : create statement store = .error .sqlite := by
  have taken : (store.schema.any fun other => decide (other.name = statement.name)) = true :=
    List.any_eq_true.mpr ⟨other, member, decide_eq_true named⟩
  unfold create
  rw [if_pos taken]
  rfl

private theorem creates_ok {statements : List Statement} {store reached : Store}
    (done : applyAll (statements.map create) store = .ok reached) :
    reached = { store with schema := store.schema ++ statements } := by
  induction statements generalizing store with
  | nil =>
      cases done
      rw [List.append_nil]
  | cons statement statements induction =>
      obtain ⟨middle, first, rest⟩ := applyAll_cons_ok done
      rw [induction rest, create_ok first, List.append_assoc]
      rfl

private theorem selectEntry_ok {store reached : Store} (done : selectEntry store = .ok reached) :
    reached = store ∧ store.hasTable versionTable = true := by
  unfold selectEntry at done
  split at done
  · exact ⟨(Except.ok.inj done).symm, by assumption⟩
  · cases done

private theorem insertEntry_ok {version : Int} {store reached : Store}
    (done : insertEntry version store = .ok reached) :
    reached = { store with entry := some version } := by
  unfold insertEntry at done
  split at done
  · cases done
  · exact (Except.ok.inj done).symm

private theorem updateEntry_ok {version : Int} {store reached : Store}
    (done : updateEntry version store = .ok reached) :
    reached = { store with entry := some version } := by
  unfold updateEntry at done
  split at done
  · cases done
  · split at done
    · cases done
    · exact (Except.ok.inj done).symm

private theorem writeVersion_ok {version : Int} {store reached : Store}
    (done : writeVersion version store = .ok reached) :
    reached = { store with userVersion := version } := (Except.ok.inj done).symm

/-! ### The steps of an installation -/

/-- The queries of an installation or of an upgrade, and the one that records the version. -/
def stepOf (builder : TableBuilder) (record : Effect) : List Effect :=
  builder.getQueries.map create ++ [record]

def upgradeSteps (getTableUpgrade : Int → TableBuilder) (record : Int → Effect) :
    Nat → Int → List (List Effect)
  | 0, _ => []
  | left + 1, newVer =>
    stepOf (getTableUpgrade newVer) (record newVer) ::
      upgradeSteps getTableUpgrade record left (newVer + 1)

def constructSteps (dbVer : Int) : List (List Effect) :=
  if dbVer = 0 then [stepOf versionEntry.getTableInstall (writeVersion 1)]
  else upgradeSteps versionEntry.getTableUpgrade writeVersion (1 - dbVer).toNat (dbVer + 1)

def tableSteps (tableClass : TableClass) : Option Int → List (List Effect)
  | none => [stepOf tableClass.getTableInstall (insertEntry tableClass.getTableVersion)]
  | some version => upgradeSteps tableClass.getTableUpgrade updateEntry
      (tableClass.getTableVersion - version).toNat (version + 1)

/-- The steps of an installation: the two reads are steps of their own. -/
def steps (tableClass : TableClass) (store : Store) : List (List Effect) :=
  [pure] :: (constructSteps store.userVersion ++
    [selectEntry] :: tableSteps tableClass store.entry)

/-- Whether the database is not newer than the code. -/
def Store.Known (tableClass : TableClass) (store : Store) : Prop :=
  store.userVersion ≤ 1 ∧ ∀ version ∈ store.entry, version ≤ tableClass.getTableVersion

/-- What the two ways of recording a version have in common. -/
structure Records (record : Int → Effect) (recorded : Store → Option Int) : Prop where
  records : ∀ version store reached, record version store = .ok reached →
    recorded reached = some version
  schema : ∀ version store reached, record version store = .ok reached →
    reached.schema = store.schema
  created : ∀ store schema, recorded { store with schema := schema } = recorded store

private theorem writeVersion_records :
    Records writeVersion fun store => some store.userVersion where
  records version store reached done := by rw [writeVersion_ok done]
  schema version store reached done := by rw [writeVersion_ok done]
  created store schema := rfl

private theorem updateEntry_records : Records updateEntry Store.entry where
  records version store reached done := by rw [updateEntry_ok done]
  schema version store reached done := by rw [updateEntry_ok done]
  created store schema := rfl

private theorem stepOf_ok {builder : TableBuilder} {record : Effect} {store reached : Store}
    (done : applyAll (stepOf builder record) store = .ok reached) :
    record { store with schema := store.schema ++ builder.getQueries } = .ok reached := by
  obtain ⟨middle, created, recorded⟩ := applyAll_append_ok done
  obtain ⟨last, written, same⟩ := applyAll_cons_ok recorded
  cases same
  rwa [creates_ok created] at written

private theorem upgrade_recorded {getTableUpgrade : Int → TableBuilder} {record : Int → Effect}
    {recorded : Store → Option Int} (records : Records record recorded) {left : Nat} {newVer : Int}
    {store reached : Store} (upTo : recorded store = some (newVer - 1))
    (done : applyAll (upgradeSteps getTableUpgrade record left newVer).flatten store =
      .ok reached) : recorded reached = some (newVer - 1 + left) := by
  induction left generalizing newVer store with
  | zero =>
      cases done
      simpa using upTo
  | succ left induction =>
      obtain ⟨middle, first, rest⟩ := applyAll_append_ok done
      have now := records.records _ _ _ (stepOf_ok first)
      rw [induction (by rw [now]; congr 1; omega) rest]
      congr 1
      push_cast
      omega

private theorem upgrade_schema {getTableUpgrade : Int → TableBuilder} {record : Int → Effect}
    {recorded : Store → Option Int} (records : Records record recorded) {left : Nat} {newVer : Int}
    {store reached : Store}
    (done : applyAll (upgradeSteps getTableUpgrade record left newVer).flatten store =
      .ok reached) :
    reached.schema = store.schema ++
      (List.range left).flatMap fun upgrades : Nat =>
        (getTableUpgrade (newVer + upgrades)).getQueries := by
  induction left generalizing newVer store with
  | zero =>
      cases done
      simp
  | succ left induction =>
      obtain ⟨middle, first, rest⟩ := applyAll_append_ok done
      have shift (upgrades : Nat) : newVer + 1 + (upgrades : Int) =
          newVer + ((upgrades + 1 : Nat) : Int) := by
        push_cast
        omega
      rw [induction rest, records.schema _ _ _ (stepOf_ok first), List.range_succ_eq_map,
        List.flatMap_cons, List.flatMap_map, List.append_assoc]
      simp only [shift, Int.natCast_zero, Int.add_zero, Nat.succ_eq_add_one]

private theorem upgrade_split {getTableUpgrade : Int → TableBuilder} {record : Int → Effect}
    {left : Nat}
    {newVer : Int} {before after : List (List Effect)} {step : List Effect}
    (cut : upgradeSteps getTableUpgrade record left newVer = before ++ step :: after) :
    before.length < left ∧
      before = upgradeSteps getTableUpgrade record before.length newVer ∧
      step = stepOf (getTableUpgrade (newVer + before.length)) (record (newVer + before.length)) ∧
      step :: after =
        upgradeSteps getTableUpgrade record (left - before.length) (newVer + before.length) := by
  induction before generalizing left newVer with
  | nil =>
      cases left with
      | zero => cases cut
      | succ left =>
          have whole := cut
          simp only [upgradeSteps, List.nil_append, List.cons.injEq] at cut
          refine ⟨by simp, rfl, by simp [← cut.1], ?_⟩
          simpa using whole.symm
  | cons first before induction =>
      cases left with
      | zero => cases cut
      | succ left =>
          simp only [upgradeSteps, List.cons_append, List.cons.injEq] at cut
          obtain ⟨fewer, same, now, rest⟩ := induction cut.2
          have shift : newVer + ((before.length + 1 : Nat) : Int) = newVer + 1 + before.length := by
            push_cast
            omega
          simp only [List.length_cons, shift, Nat.add_sub_add_right]
          refine ⟨by omega, ?_, now, rest⟩
          rw [upgradeSteps, ← same, cut.1]

private theorem upgrade_member {getTableUpgrade : Int → TableBuilder} {record : Int → Effect}
    {left : Nat}
    {newVer : Int} {effect : Effect}
    (member : effect ∈ (upgradeSteps getTableUpgrade record left newVer).flatten) :
    (∃ statement, effect = create statement) ∨ ∃ version, effect = record version := by
  induction left generalizing newVer with
  | zero => simp [upgradeSteps] at member
  | succ left induction =>
      simp only [upgradeSteps, List.flatten_cons, stepOf, List.mem_append, List.mem_map,
        List.mem_singleton] at member
      rcases member with (⟨statement, _, same⟩ | same) | rest
      · exact .inl ⟨statement, same.symm⟩
      · exact .inr ⟨newVer, same⟩
      · exact induction rest

private theorem runQueries_execs (builder : TableBuilder) :
    runQueries builder = execs (builder.getQueries.map create) := by
  unfold runQueries execs
  induction builder.getQueries with
  | nil => rfl
  | cons statement statements induction =>
      rw [List.map_cons, List.forM_cons, List.forM_cons, induction]

private theorem upgrade_execs (getTableUpgrade : Int → TableBuilder) (record : Int → Effect)
    (left : Nat)
    (newVer : Int) :
    upgrade getTableUpgrade (fun version => query (record version)) left newVer =
      execs (upgradeSteps getTableUpgrade record left newVer).flatten := by
  induction left generalizing newVer with
  | zero => rfl
  | succ left induction =>
      simp only [upgrade, upgradeSteps, List.flatten_cons, stepOf, execs_append, execs_one,
        runQueries_execs, induction, bind_assoc]

private theorem read_execs {Value : Type} {effect : Effect} (reads : ∀ store reached,
      effect store = .ok reached → reached = store) (value : Store → Value)
    (next : Value → Exec Unit) (connection : Connection) :
    (do query effect; next (value (← get).store)) connection =
      (do query effect; next (value connection.store)) connection := by
  show EStateM.bind _ _ _ = EStateM.bind _ _ _
  cases first : query effect connection with
  | error exception stopped => simp only [EStateM.bind, first]
  | ok nothing reached =>
      have same := reads _ _ (query_done first)
      simp only [EStateM.bind, first, bind, run_get, same]

private theorem construct_execs {connection : Connection}
    (known : connection.store.userVersion ≤ 1) :
    construct connection =
      execs (pure :: (constructSteps connection.store.userVersion).flatten) connection := by
  have split : construct = (do query pure; constructFrom (← get).store.userVersion) := by
    simp only [construct, getVersion, bind_assoc, pure_bind]
  have reads : ∀ store reached : Store, (pure : Effect) store = .ok reached → reached = store :=
    fun _ _ done => (Except.ok.inj done).symm
  rw [split, read_execs reads Store.userVersion, execs_cons]
  unfold constructFrom constructSteps
  by_cases fresh : connection.store.userVersion = 0
  · simp only [fresh, if_true, List.flatten_cons, List.flatten_nil, List.append_nil, stepOf,
      runQueries_execs, execs_append, execs_one]
    rfl
  · have notNewer : ¬ versionEntry.getTableVersion < connection.store.userVersion := by
      have one : versionEntry.getTableVersion = 1 := rfl
      omega
    rw [if_neg fresh, if_neg notNewer, if_neg fresh]
    exact congrArg (fun next => (query pure >>= fun _ => next) connection)
      (upgrade_execs versionEntry.getTableUpgrade writeVersion _ _)

private theorem installTable_from (tableClass : TableClass) (connection : Connection) :
    installTable tableClass connection =
      (do query selectEntry; installTableFrom tableClass connection.store.entry) connection := by
  have split : installTable tableClass =
      (do query selectEntry; installTableFrom tableClass (← get).store.entry) := by
    simp only [installTable, tryLoadByTable, bind_assoc, pure_bind]
  rw [split, read_execs (fun _ _ done => (selectEntry_ok done).1) Store.entry]

private theorem installTable_execs (tableClass : TableClass) {connection : Connection}
    (known : ∀ version ∈ connection.store.entry, version ≤ tableClass.getTableVersion) :
    installTable tableClass connection =
      execs (selectEntry :: (tableSteps tableClass connection.store.entry).flatten)
        connection := by
  rw [installTable_from, execs_cons]
  cases entry : connection.store.entry with
  | none =>
      simp only [installTableFrom, tableSteps, List.flatten_cons, List.flatten_nil,
        List.append_nil, stepOf, runQueries_execs, execs_append, execs_one]
  | some version =>
      have below := known version entry
      simp only [installTableFrom, if_neg (by omega : ¬ tableClass.getTableVersion < version),
        tableSteps, upgrade_execs]

private theorem construct_member {dbVer : Int} {effect : Effect}
    (member : effect ∈ (constructSteps dbVer).flatten) :
    (∃ statement, effect = create statement) ∨ ∃ version, effect = writeVersion version := by
  unfold constructSteps at member
  split at member
  · simp only [List.flatten_cons, List.flatten_nil, List.append_nil, stepOf, List.mem_append,
      List.mem_map, List.mem_singleton] at member
    rcases member with ⟨statement, _, same⟩ | same
    · exact .inl ⟨statement, same.symm⟩
    · exact .inr ⟨1, same⟩
  · exact upgrade_member member

private theorem construct_keeps {dbVer : Int} {effect : Effect}
    (member : effect ∈ (pure :: (constructSteps dbVer).flatten : List Effect))
    (store reached : Store) (done : effect store = .ok reached) : reached.entry = store.entry := by
  rcases List.mem_cons.mp member with rfl | member
  · cases done
    rfl
  · rcases construct_member member with ⟨statement, rfl⟩ | ⟨version, rfl⟩
    · rw [create_ok done]
    · rw [writeVersion_ok done]

private theorem install_execs (tableClass : TableClass) {connection : Connection}
    (known : connection.store.Known tableClass) :
    install tableClass connection =
      execs (steps tableClass connection.store).flatten connection := by
  have cut : (steps tableClass connection.store).flatten =
      (pure :: (constructSteps connection.store.userVersion).flatten) ++
        (selectEntry :: (tableSteps tableClass connection.store.entry).flatten) := by
    simp only [steps, List.flatten_cons, List.flatten_append, List.cons_append, List.nil_append]
  rw [cut, execs_append]
  show EStateM.bind _ _ _ = EStateM.bind _ _ _
  simp only [EStateM.bind, construct_execs known.1]
  cases first : execs (pure :: (constructSteps connection.store.userVersion).flatten)
      connection with
  | error exception stopped => rfl
  | ok nothing reached =>
      have same := execs_keeps Store.entry (fun effect member => construct_keeps member) first
      dsimp only
      rw [installTable_execs tableClass (by rw [same]; exact known.2), same]

private theorem install_known {tableClass : TableClass} {store final : Store}
    (completes : install tableClass ⟨store, none⟩ = .ok () ⟨final, none⟩) :
    store.Known tableClass := by
  replace completes : EStateM.bind construct _ _ = _ := completes
  have constructs : construct ⟨store, none⟩ = constructFrom store.userVersion ⟨store, none⟩ := rfl
  have below : store.userVersion ≤ 1 := by
    by_contra newer
    have thrown : construct ⟨store, none⟩ = .error .tableVersion ⟨store, none⟩ := by
      have one : versionEntry.getTableVersion = 1 := rfl
      rw [constructs, constructFrom, if_neg (by omega), if_pos (by omega)]
      rfl
    simp only [EStateM.bind, thrown] at completes
    cases completes
  refine ⟨below, fun version found => ?_⟩
  by_contra newer
  cases first : construct ⟨store, none⟩ with
  | error exception stopped =>
      simp only [EStateM.bind, first] at completes
      cases completes
  | ok nothing reached =>
      have executed := (@construct_execs ⟨store, none⟩ below).symm.trans first
      have same := execs_keeps Store.entry (fun effect member => construct_keeps member) executed
      simp only [EStateM.bind, first, installTable_from, same, Option.mem_def.mp found,
        installTableFrom, if_pos (Int.not_le.mp newer)] at completes
      replace completes : EStateM.bind (query selectEntry) _ reached = _ := completes
      cases selected : query selectEntry reached with
      | error exception stopped =>
          simp only [EStateM.bind, selected] at completes
          cases completes
      | ok nothing after =>
          simp only [EStateM.bind, selected] at completes
          cases completes

/-! ### A step that is taken up again -/

private theorem step_partial {builder : TableBuilder} {record : Effect} {offset : Nat}
    {store after : Store} (begun : offset ≠ 0) (within : offset < (stepOf builder record).length)
    (done : applyAll ((stepOf builder record).take offset) store = .ok after) :
    after = { store with schema := store.schema ++ builder.getQueries.take offset } ∧
      ∀ rest, applyAll (stepOf builder record ++ rest) after = .error .sqlite := by
  have few : offset ≤ (builder.getQueries.map create).length := by
    simp only [stepOf, List.length_append, List.length_singleton] at within
    omega
  rw [stepOf, List.take_append_of_le_length few, ← List.map_take] at done
  have created := creates_ok done
  refine ⟨created, fun rest => ?_⟩
  cases queries : builder.getQueries with
  | nil => simp [queries] at few; omega
  | cons statement statements =>
      have member : statement ∈ after.schema := by
        rw [created, queries, ← Nat.succ_pred_eq_of_ne_zero begun, List.take_succ_cons]
        simp
      simp only [stepOf, queries, List.map_cons, List.cons_append, applyAll_cons,
        create_again member rfl]
      rfl

private theorem hasTable_append {store : Store} {table : String} (has : store.hasTable table = true)
    {schema : List Statement} : ({ store with schema := store.schema ++ schema } : Store).hasTable
      table = true := by
  simp only [Store.hasTable, List.any_append, Bool.or_eq_true] at has ⊢
  exact .inl has

private theorem construct_entry {dbVer : Int} {effects : List Effect} {store reached : Store}
    (part : ∀ effect ∈ effects, effect ∈ (constructSteps dbVer).flatten)
    (done : applyAll effects store = .ok reached) : reached.entry = store.entry :=
  applyAll_preserves (fun other : Store => other.entry = store.entry)
    (fun effect member _ _ same now =>
      (construct_keeps (List.mem_cons_of_mem _ (part effect member)) _ _ now).trans same) rfl done

private theorem construct_ok {store middle : Store} (below : store.userVersion ≤ 1)
    (done : applyAll (constructSteps store.userVersion).flatten store = .ok middle) :
    middle.userVersion = 1 ∧ middle.entry = store.entry ∧
      middle.schema = store.schema ++
        if store.userVersion = 0 then versionEntry.getTableInstall.getQueries else [] := by
  have entry := construct_entry (fun effect member => member) done
  unfold constructSteps at done
  by_cases fresh : store.userVersion = 0
  · rw [if_pos fresh, List.flatten_cons, List.flatten_nil, List.append_nil] at done
    rw [if_pos fresh]
    have written := writeVersion_ok (stepOf_ok done)
    exact ⟨by rw [written], entry, by rw [written]⟩
  · rw [if_neg fresh] at done
    rw [if_neg fresh]
    have recorded := upgrade_recorded writeVersion_records (by simp) done
    have created := upgrade_schema writeVersion_records done
    refine ⟨?_, entry, ?_⟩
    · simp only [Option.some.injEq] at recorded
      omega
    · have nothing : ∀ version, (versionEntry.getTableUpgrade version).getQueries = [] :=
        fun version => rfl
      rw [created, List.flatMap_eq_nil_iff.mpr fun version _ => nothing _]

/-- What `InstallTable` asks to create, in the order of the versions. -/
def tableInstalled (tableClass : TableClass) : Option Int → List Statement
  | none => tableClass.getTableInstall.getQueries
  | some version => (List.range (tableClass.getTableVersion - version).toNat).flatMap
      fun upgrades : Nat => (tableClass.getTableUpgrade (version + 1 + upgrades)).getQueries

/-- What an installation asks to create. -/
def installed (tableClass : TableClass) (store : Store) : List Statement :=
  (if store.userVersion = 0 then versionEntry.getTableInstall.getQueries else []) ++
    tableInstalled tableClass store.entry

private theorem table_schema {tableClass : TableClass} {store final : Store} {entry : Option Int}
    (done : applyAll (tableSteps tableClass entry).flatten store = .ok final) :
    final.schema = store.schema ++ tableInstalled tableClass entry := by
  cases entry with
  | none =>
      simp only [tableSteps, List.flatten_cons, List.flatten_nil, List.append_nil] at done
      rw [insertEntry_ok (stepOf_ok done), tableInstalled]
  | some version => exact upgrade_schema updateEntry_records done

private theorem install_phases {tableClass : TableClass} {store final : Store}
    (done : applyAll (steps tableClass store).flatten store = .ok final) :
    ∃ middle, applyAll (constructSteps store.userVersion).flatten store = .ok middle ∧
      middle.hasTable versionTable = true ∧
        applyAll (tableSteps tableClass store.entry).flatten middle = .ok final := by
  simp only [steps, List.flatten_cons, List.flatten_append, List.cons_append,
    List.nil_append] at done
  obtain ⟨same, read, done⟩ := applyAll_cons_ok done
  cases read
  obtain ⟨middle, constructed, done⟩ := applyAll_append_ok done
  obtain ⟨reached, selected, tables⟩ := applyAll_cons_ok done
  obtain ⟨rfl, has⟩ := selectEntry_ok selected
  exact ⟨reached, constructed, has, tables⟩

private theorem install_schema {tableClass : TableClass} {store final : Store}
    (below : store.userVersion ≤ 1)
    (done : applyAll (steps tableClass store).flatten store = .ok final) :
    final.schema = store.schema ++ installed tableClass store := by
  obtain ⟨middle, constructed, has, tables⟩ := install_phases done
  rw [table_schema tables, (construct_ok below constructed).2.2, List.append_assoc]
  rfl

/-! ### An installation that is run again -/

/-- The sizes of the steps of an installation. -/
def stepSizes (tableClass : TableClass) (store : Store) : List Nat :=
  (steps tableClass store).map List.length

private theorem install_free_iff {tableClass : TableClass} {store : Store}
    (known : store.Known tableClass)
    (final : Store) :
    install tableClass ⟨store, none⟩ = .ok () ⟨final, none⟩ ↔
      applyAll (steps tableClass store).flatten store = .ok final := by
  rw [install_execs tableClass known, execs_free_iff]

private theorem install_interrupted {tableClass : TableClass} {store final : Store} {position : Nat}
    (completes : install tableClass ⟨store, none⟩ = .ok () ⟨final, none⟩)
    (inside : position < (stepSizes tableClass store).sum) :
    install tableClass ⟨store, some position⟩ =
      .error .query ⟨interrupted tableClass store position, some 0⟩ ∧
        applyAll ((steps tableClass store).flatten.take position) store =
          .ok (interrupted tableClass store position) := by
  have known := install_known completes
  obtain ⟨after, before, thrown⟩ := execs_interrupted _ _ _ position
    ((install_free_iff known final).mp completes)
    (by simpa only [stepSizes, List.length_flatten] using inside)
  have stopped := (@install_execs tableClass ⟨store, some position⟩ known).trans
    thrown
  have left : interrupted tableClass store position = after := by
    simp only [interrupted, stopped]
  rw [left]
  exact ⟨stopped, before⟩

private theorem table_cut {tableClass : TableClass} {before rest : List (List Effect)}
    {step : List Effect} {middle reached : Store}
    (cut : tableSteps tableClass middle.entry = before ++ step :: rest)
    (done : applyAll before.flatten middle = .ok reached) :
    tableSteps tableClass reached.entry = step :: rest ∧
      (∃ builder record, step = stepOf builder record) ∧
        ∀ version ∈ reached.entry, version ≤ tableClass.getTableVersion := by
  cases entry : middle.entry with
  | none =>
      rw [entry, tableSteps] at cut
      have single : before = [] := by
        cases before with
        | nil => rfl
        | cons first before => simp at cut
      subst single
      cases done
      have shape : [stepOf tableClass.getTableInstall (insertEntry tableClass.getTableVersion)] =
        step :: rest := cut
      refine ⟨by rw [entry, tableSteps, shape], ⟨_, _, (List.cons.inj shape).1.symm⟩, ?_⟩
      simp [entry]
  | some version =>
      rw [entry, tableSteps] at cut
      obtain ⟨fewer, same, now, left⟩ := upgrade_split cut
      rw [same] at done
      have recorded := upgrade_recorded updateEntry_records (by rw [entry]; simp) done
      refine ⟨?_, ⟨_, _, now⟩, ?_⟩
      · rw [recorded, tableSteps, left]
        congr 1 <;> omega
      · intro found member
        rw [recorded] at member
        cases member
        omega

private theorem versionUpgrades_length (record : Int → Effect) (left : Nat) (newVer : Int) :
    (upgradeSteps versionEntry.getTableUpgrade record left newVer).flatten.length = left := by
  induction left generalizing newVer with
  | zero => rfl
  | succ left induction =>
      rw [upgradeSteps, List.flatten_cons, List.length_append, induction]
      show 1 + left = left + 1
      omega

private theorem construct_length {dbVer : Int} (old : dbVer ≠ 0) :
    (constructSteps dbVer).flatten.length = (1 - dbVer).toNat := by
  rw [constructSteps, if_neg old, versionUpgrades_length]

private theorem construct_cut {before rest : List (List Effect)} {step : List Effect}
    {store reached : Store} (old : store.userVersion ≠ 0)
    (cut : constructSteps store.userVersion = before ++ step :: rest)
    (done : applyAll before.flatten store = .ok reached) :
    before.length < (1 - store.userVersion).toNat ∧ before.flatten.length = before.length ∧
      step.length = 1 ∧ reached.userVersion = store.userVersion + before.length ∧
        reached.schema = store.schema ∧
          (reached.userVersion ≠ 0 → constructSteps reached.userVersion = step :: rest) := by
  rw [constructSteps, if_neg old] at cut
  obtain ⟨fewer, same, now, left⟩ := upgrade_split cut
  rw [same] at done
  have recorded := upgrade_recorded writeVersion_records (by simp) done
  simp only [Option.some.injEq] at recorded
  have created := upgrade_schema writeVersion_records done
  have nothing : ∀ version, (versionEntry.getTableUpgrade version).getQueries = [] :=
    fun version => rfl
  rw [List.flatMap_eq_nil_iff.mpr fun version _ => nothing _, List.append_nil] at created
  refine ⟨fewer, ?_, by rw [now]; rfl, by omega, created, fun more => ?_⟩
  · rw [same, versionUpgrades_length, ← same]
  · rw [constructSteps, if_neg more, left]
    congr 1 <;> omega

private theorem table_member {tableClass : TableClass} {entry : Option Int} {effect : Effect}
    (member : effect ∈ (tableSteps tableClass entry).flatten) :
    (∃ statement, effect = create statement) ∨ (∃ version, effect = insertEntry version) ∨
      ∃ version, effect = updateEntry version := by
  cases entry with
  | none =>
      simp only [tableSteps, List.flatten_cons, List.flatten_nil, List.append_nil, stepOf,
        List.mem_append, List.mem_map, List.mem_singleton] at member
      rcases member with ⟨statement, _, same⟩ | same
      · exact .inl ⟨statement, same.symm⟩
      · exact .inr (.inl ⟨_, same⟩)
  | some version =>
      rcases upgrade_member member with created | recorded
      · exact .inl created
      · exact .inr (.inr recorded)

/-- Whether the version table is there, in its newest version. -/
def Store.Versioned (store : Store) : Prop :=
  store.userVersion = 1 ∧ store.hasTable versionTable = true

private theorem table_versioned {tableClass : TableClass} {entry : Option Int} {effect : Effect}
    (member : effect ∈ (tableSteps tableClass entry).flatten) (store reached : Store)
    (versioned : store.Versioned) (done : effect store = .ok reached) : reached.Versioned := by
  rcases table_member member with ⟨statement, rfl⟩ | ⟨version, rfl⟩ | ⟨version, rfl⟩
  · rw [create_ok done]
    exact ⟨versioned.1, hasTable_append versioned.2⟩
  · rw [insertEntry_ok done]
    exact versioned
  · rw [updateEntry_ok done]
    exact versioned

private theorem retry_table {tableClass : TableClass} {store : Store} (versioned : store.Versioned)
    (known : ∀ version ∈ store.entry, version ≤ tableClass.getTableVersion) (final : Store) :
    install tableClass ⟨store, none⟩ = .ok () ⟨final, none⟩ ↔
      applyAll (tableSteps tableClass store.entry).flatten store = .ok final := by
  rw [install_free_iff ⟨Int.le_of_eq versioned.1, known⟩]
  have nothing : constructSteps store.userVersion = [] := by
    rw [versioned.1]
    rfl
  have read : (pure : Effect) store = .ok store := rfl
  have selected : selectEntry store = .ok store := if_pos versioned.2
  rw [steps, nothing, List.nil_append, List.flatten_cons, List.flatten_cons, List.singleton_append,
    List.singleton_append, applyAll_cons_of_ok _ read, applyAll_cons_of_ok _ selected]

private theorem versionTable_again {store : Store} (has : store.hasTable versionTable = true)
    (record : Effect) (rest : List Effect) :
    applyAll (stepOf versionEntry.getTableInstall record ++ rest) store = .error .sqlite := by
  obtain ⟨other, member, named⟩ := List.any_eq_true.mp has
  cases other with
  | createIndex table fields => cases named
  | createTable table properties =>
      have again : ∀ columns, create (.createTable versionTable columns) store = .error .sqlite :=
        fun columns => create_again member (of_decide_eq_true named)
      show applyAll (create (.createTable versionTable _) :: _) store = _
      rw [applyAll_cons, again]
      rfl

private theorem retry_within_table {tableClass : TableClass} {before rest : List (List Effect)}
    {step : List Effect} {middle reached after final : Store} {offset : Nat}
    (versioned : middle.Versioned)
    (cut : tableSteps tableClass middle.entry = before ++ step :: rest)
    (first : applyAll before.flatten middle = .ok reached)
    (remaining : applyAll (step :: rest).flatten reached = .ok final)
    (within : offset < step.length) (stopped : applyAll (step.take offset) reached = .ok after) :
    install tableClass ⟨after, none⟩ = .ok () ⟨final, none⟩ ↔ offset = 0 := by
  obtain ⟨left, ⟨builder, record, shape⟩, known⟩ := table_cut cut first
  have still : reached.Versioned := by
    refine applyAll_preserves Store.Versioned (fun effect member => ?_) versioned first
    refine @table_versioned tableClass middle.entry effect ?_
    rw [cut, List.flatten_append]
    exact List.mem_append_left _ member
  by_cases begun : offset = 0
  · subst begun
    cases stopped
    simp only [retry_table still known, left, remaining]
  · subst shape
    obtain ⟨created, fails⟩ := step_partial begun within stopped
    have versioned : after.Versioned := by
      rw [created]
      exact ⟨still.1, hasTable_append still.2⟩
    have entry : after.entry = reached.entry := by rw [created]
    rw [retry_table versioned (by rwa [entry]), entry, left, List.flatten_cons, fails]
    simp [begun]

private theorem install_of_phases {tableClass : TableClass} {store middle final : Store}
    (known : store.Known tableClass)
    (constructed : applyAll (constructSteps store.userVersion).flatten store = .ok middle)
    (has : middle.hasTable versionTable = true)
    (tables : applyAll (tableSteps tableClass store.entry).flatten middle = .ok final) :
    install tableClass ⟨store, none⟩ = .ok () ⟨final, none⟩ := by
  have read : (pure : Effect) store = .ok store := rfl
  have selected : selectEntry middle = .ok middle := if_pos has
  rw [install_free_iff known, steps, List.flatten_cons, List.flatten_append, List.flatten_cons,
    List.singleton_append, List.singleton_append, applyAll_cons_of_ok _ read,
    applyAll_append_of_ok _ constructed, applyAll_cons_of_ok _ selected]
  exact tables

private theorem install_not_constructed {tableClass : TableClass} {store final : Store}
    {exception : InstallException} (known : store.Known tableClass)
    (fails : applyAll (constructSteps store.userVersion).flatten store = .error exception) :
    ¬ install tableClass ⟨store, none⟩ = .ok () ⟨final, none⟩ := by
  rw [install_free_iff known]
  intro done
  obtain ⟨middle, constructed, _, _⟩ := install_phases done
  rw [fails] at constructed
  cases constructed

private theorem retry_within_install {tableClass : TableClass} {before rest : List (List Effect)}
    {step : List Effect} {store reached after final : Store} {offset : Nat}
    (known : store.Known tableClass) (fresh : store.userVersion = 0)
    (completes : install tableClass ⟨store, none⟩ = .ok () ⟨final, none⟩)
    (cut : constructSteps store.userVersion = before ++ step :: rest)
    (first : applyAll before.flatten store = .ok reached) (within : offset < step.length)
    (stopped : applyAll (step.take offset) reached = .ok after) :
    install tableClass ⟨after, none⟩ = .ok () ⟨final, none⟩ ↔ offset = 0 := by
  rw [constructSteps, if_pos fresh] at cut
  cases before with
  | cons other before => simp at cut
  | nil =>
      cases first
      obtain ⟨rfl, rfl⟩ := List.cons.inj cut
      by_cases begun : offset = 0
      · subst begun
        cases stopped
        simp only [completes]
      · obtain ⟨created, fails⟩ := step_partial begun within stopped
        have version : after.userVersion = 0 := by rw [created, fresh]
        have same : after.Known tableClass := by
          rw [created]
          exact known
        have again : applyAll (constructSteps after.userVersion).flatten after =
            .error .sqlite := by
          rw [version]
          exact fails []
        simpa [begun] using install_not_constructed same again

private theorem retry_within_upgrade {tableClass : TableClass} {before rest : List (List Effect)}
    {step : List Effect} {store middle reached after final : Store} {offset : Nat}
    (known : store.Known tableClass) (old : store.userVersion ≠ 0)
    (constructed : applyAll (constructSteps store.userVersion).flatten store = .ok middle)
    (has : middle.hasTable versionTable = true)
    (tables : applyAll (tableSteps tableClass store.entry).flatten middle = .ok final)
    (cut : constructSteps store.userVersion = before ++ step :: rest)
    (first : applyAll before.flatten store = .ok reached)
    (remaining : applyAll (step :: rest).flatten reached = .ok middle)
    (within : offset < step.length) (stopped : applyAll (step.take offset) reached = .ok after) :
    (install tableClass ⟨after, none⟩ = .ok () ⟨final, none⟩ ↔
      ((1 + (before.flatten.length + offset) : Nat) : Int) ≠ 1 - store.userVersion) ∧
        offset = 0 ∧ store.userVersion < 0 := by
  have entry : reached.entry = store.entry := by
    refine @construct_entry store.userVersion _ _ _ (fun effect member => ?_) first
    rw [cut, List.flatten_append]
    exact List.mem_append_left _ member
  obtain ⟨fewer, sizes, single, version, schema, left⟩ := construct_cut old cut first
  have begun : offset = 0 := by omega
  subst begun
  cases stopped
  have same : reached.Known tableClass := ⟨by omega, by rw [entry]; exact known.2⟩
  refine ⟨?_, rfl, by omega⟩
  by_cases zero : reached.userVersion = 0
  · have table : reached.hasTable versionTable = true := by
      have leaves := (construct_ok known.1 constructed).2.2
      rw [if_neg old, List.append_nil] at leaves
      rw [Store.hasTable, schema, ← leaves]
      exact has
    have again : applyAll (constructSteps reached.userVersion).flatten reached =
        .error .sqlite := by
      rw [zero]
      exact versionTable_again table _ []
    have fails := @install_not_constructed tableClass reached final _ same again
    simp only [fails, false_iff, not_not]
    omega
  · have completes := install_of_phases same (by rw [left zero]; exact remaining) has
      (by rw [entry]; exact tables)
    simp only [completes, true_iff]
    omega

/-- Running the installation again, after the query at the position threw, completes with the
database that an uninterrupted one leaves, in which everything was created once and in the order
of the versions. -/
def Retried (tableClass : TableClass) (store final : Store) (position : Nat) : Prop :=
  install tableClass ⟨interrupted tableClass store position, none⟩ = .ok () ⟨final, none⟩ ∧
    final.schema = store.schema ++ installed tableClass store

/-- An installation can be run again if and only if it was stopped at the first query of a step,
and not when a negative version had come to be 0. -/
theorem install_retried_iff (tableClass : TableClass) (store final : Store) (position : Nat)
    (completes : install tableClass ⟨store, none⟩ = .ok () ⟨final, none⟩)
    (inside : position < (stepSizes tableClass store).sum) :
    Retried tableClass store final position ↔
      StartsStep (stepSizes tableClass store) position ∧
        (store.userVersion < 0 → (position : Int) ≠ 1 - store.userVersion) := by
  have known := install_known completes
  have whole := (install_free_iff known final).mp completes
  obtain ⟨middle, constructed, has, tables⟩ := install_phases whole
  have stopped := (install_interrupted completes inside).2
  unfold Retried
  generalize interrupted tableClass store position = after at stopped ⊢
  obtain ⟨before, step, rest, offset, cut, place, within, starts⟩ :=
    position_step (steps tableClass store) position inside
  rw [cut] at whole
  obtain ⟨reached, first, remaining, taken⟩ := applyAll_position whole within
  rw [cut, place, taken] at stopped
  have schema := install_schema known.1 ((install_free_iff known final).mp completes)
  obtain ⟨version, entry, _⟩ := construct_ok known.1 constructed
  rw [and_iff_left schema, stepSizes, starts]
  have read : (pure : Effect) store = .ok store := rfl
  cases before with
  | nil =>
      obtain ⟨rfl, rfl⟩ := List.cons.inj cut
      have begun : offset = 0 := by simpa using within
      subst begun
      cases first
      cases stopped
      simp only [completes, true_iff]
      refine ⟨trivial, fun old => ?_⟩
      rw [place]
      simp only [List.flatten_nil, List.length_nil]
      omega
  | cons reading before =>
      obtain ⟨rfl, parts⟩ := List.cons.inj cut
      rw [List.flatten_cons, List.singleton_append, applyAll_cons_of_ok _ read] at first
      have here : position = 1 + (before.flatten.length + offset) := by
        rw [place, List.flatten_cons, List.length_append, List.length_singleton]
        omega
      clear place
      subst here
      rcases cut_cases parts with ⟨rest, inner, rfl⟩ | ⟨rfl, rfl, rfl⟩ | ⟨inner, rfl, inTable⟩
      · have remaining : applyAll (step :: rest).flatten reached = .ok middle := by
          rw [inner, List.flatten_append, applyAll_append_of_ok _ first] at constructed
          exact constructed
        by_cases fresh : store.userVersion = 0
        · rw [retry_within_install known fresh completes inner first within stopped]
          simp [fresh]
        · obtain ⟨again, begun, old⟩ := retry_within_upgrade known fresh constructed has tables
            inner first remaining within stopped
          rw [again]
          simp [begun, old]
      · have begun : offset = 0 := by simpa using within
        subst begun
        cases stopped
        cases first.symm.trans constructed
        have versioned : middle.Versioned := ⟨version, has⟩
        have retried := (retry_table versioned (by rw [entry]; exact known.2) final).mpr
          (by rw [entry]; exact tables)
        simp only [retried, true_iff]
        refine ⟨trivial, fun old => ?_⟩
        rw [construct_length (by omega)]
        omega
      · have selected : selectEntry middle = .ok middle := if_pos has
        rw [List.flatten_append, applyAll_append_of_ok _ constructed, List.flatten_cons,
          List.singleton_append, applyAll_cons_of_ok _ selected] at first
        rw [← entry] at inTable
        rw [retry_within_table ⟨version, has⟩ inTable first remaining within stopped]
        refine ⟨fun begun => ⟨begun, fun old => ?_⟩, And.left⟩
        rw [List.flatten_append, List.length_append, construct_length (by omega)]
        simp only [List.flatten_cons, List.length_append, List.length_singleton]
        omega

/-- What an installation leaves in an empty database. -/
def sessionsInstalled : Store :=
  ⟨versionEntry.getTableInstall.getQueries ++ sessionStore.getTableInstall.getQueries, 1, some 1⟩

theorem install_retried_table : Retried sessionStore ⟨[], 0, none⟩ sessionsInstalled 4 :=
  (install_retried_iff sessionStore ⟨[], 0, none⟩ sessionsInstalled 4 rfl (by decide)).mpr
    ⟨.inr ⟨by decide, .inr ⟨by decide, .inr ⟨by decide, .inl rfl⟩⟩⟩, fun old => by cases old⟩

/-- The version table has been created, the version is not recorded: every later installation
fails. -/
theorem version_table_in_the_way :
    install sessionStore ⟨⟨[], 0, none⟩, none⟩ = .ok () ⟨sessionsInstalled, none⟩ ∧
      2 < (stepSizes sessionStore ⟨[], 0, none⟩).sum ∧
        install sessionStore ⟨interrupted sessionStore ⟨[], 0, none⟩ 2, none⟩ =
          .error .sqlite ⟨interrupted sessionStore ⟨[], 0, none⟩ 2, none⟩ ∧
            ¬ Retried sessionStore ⟨[], 0, none⟩ sessionsInstalled 2 := by
  have fails : install sessionStore ⟨interrupted sessionStore ⟨[], 0, none⟩ 2, none⟩ =
      .error .sqlite ⟨interrupted sessionStore ⟨[], 0, none⟩ 2, none⟩ := rfl
  refine ⟨rfl, by decide, fails, fun retried => ?_⟩
  have completes := retried.1
  rw [fails] at completes
  cases completes

end Andromeda.Database.TableInstaller
