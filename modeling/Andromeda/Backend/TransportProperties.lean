import Andromeda.Backend.Transport
import Andromeda.Text.Base64Properties
import Mathlib.Data.List.TakeWhile

/-! What a server reads of a request on each of its ways, and when it is all that was asked. -/

set_option autoImplicit false

namespace Andromeda.Backend.Transport

open Library Text.Base64

/-- What is read of a request. A parameter that is given several times is not read. -/
structure Received where
  app : Option Bytes
  action : Option Bytes
  plain : Bytes → Option Bytes
  data : Bytes → Option Bytes
  file : Bytes → Option FileData

/-- Everything that was asked is read. -/
structure Delivered (received : Received) (input : RunnerInput Bytes)
    (files : KeyMap Bytes FileData) : Prop where
  app : received.app = some input.app
  action : received.action = some input.action
  plain : ∀ key value, input.plainParams.find? key = some value → received.plain key = some value
  data : ∀ key value, input.dataParams.find? key = some value → received.data key = some value
  file : ∀ key value, files.find? key = some value → received.file key = some value

/-! Over HTTP. -/

/-- The case of a header's name is not read. -/
def foldCase (name : Bytes) : Bytes :=
  name.map fun symbol => if 65 ≤ symbol ∧ symbol ≤ 90 then symbol + 32 else symbol

/-- The headers by what is read of their names. -/
def namedHeaders (headers : List (Bytes × Bytes)) : List (Bytes × Bytes) :=
  headers.map fun header => (foldCase header.1, header.2)

/-- The parts of a body without a file name. -/
def valueParts (parts : List UploadFormData) : List (Bytes × Bytes) :=
  (parts.filter fun part => part.filename = []).map fun part => (part.name, part.content)

/-- The parts of a body with a file name. -/
def fileParts (parts : List UploadFormData) : List (Bytes × FileData) :=
  (parts.filter fun part => part.filename ≠ []).map fun part =>
    (part.name, ⟨part.filename, part.content⟩)

/-- The query of a URL. -/
def urlQuery (url : Bytes) : Bytes := (url.dropWhile (· ≠ 63)).drop 1

section HTTP

variable (query : Bytes → List (Bytes × Bytes))

/-- A request as it is read: the query of the URL, and the body or, without one, the headers. -/
def HTTPRequest.received (request : HTTPRequest) : Received :=
  let params := query (urlQuery request.url)
  { app := Multimap.single? params (ascii "_app")
    action := Multimap.single? params (ascii "_act")
    plain := Multimap.single? params
    data := fun key =>
      match request.body with
      | none => (Multimap.single? (namedHeaders request.headers)
          (foldCase (headerKey key))).bind decode
      | some parts => Multimap.single? (valueParts parts) key
    file := fun key =>
      match request.body with
      | none => none
      | some parts => Multimap.single? (fileParts parts) key }

/-- The parameters that the base URL has of its own. -/
def HTTPRunner.baseParams (runner : HTTPRunner) : List (Bytes × Bytes) :=
  if 63 ∈ runner.baseURL then query (urlQuery runner.baseURL) else []

/-- A query is read as the parameters that it was written from, also behind another one. -/
structure ReadsBack (paramsToQueryStr : List (Bytes × Bytes) → Bytes)
    (params : List (Bytes × Bytes)) : Prop where
  alone : query (paramsToQueryStr params) = params
  behind : ∀ other, query (other ++ ascii "&" ++ paramsToQueryStr params) = query other ++ params

end HTTP

/-- The parameters of a URL that are not the caller's. -/
def reserved : List Bytes := [ascii "api", ascii "_app", ascii "_act"]

/-- No parameter of the caller has a name of the runner's own. -/
def PlainFree (input : RunnerInput Bytes) : Prop :=
  ∀ key ∈ reserved, input.plainParams.find? key = none

/-- The base URL has no parameter of the caller or of the runner. -/
structure BaseFree (baseParams : List (Bytes × Bytes)) (input : RunnerInput Bytes) : Prop where
  app : Multimap.values baseParams (ascii "_app") = []
  action : Multimap.values baseParams (ascii "_act") = []
  plain : ∀ key value, input.plainParams.find? key = some value →
    Multimap.values baseParams key = []

/-- No two parameters are told apart only by case or by `'_'` and `'-'`. -/
def DataApart (input : RunnerInput Bytes) : Prop :=
  ∀ key value other stored, input.dataParams.find? key = some value →
    input.dataParams.find? other = some stored →
      foldCase (headerKey other) = foldCase (headerKey key) → other = key

/-- Every file has a name. -/
def FilesNamed (files : KeyMap Bytes FileData) : Prop :=
  ∀ key file, files.find? key = some file → file.name ≠ []

section

variable {input : RunnerInput Bytes} {key value : Bytes}

private theorem urlParams_perm (input : RunnerInput Bytes) :
    (urlParams input).Perm ([(ascii "api", []), (ascii "_app", input.app),
      (ascii "_act", input.action)] ++ input.plainParams.entries) := by
  have perm := Multimap.foldl_emplace_perm ([(ascii "api", []), (ascii "_app", input.app),
    (ascii "_act", input.action)] ++ input.plainParams.entries) []
  rwa [List.append_nil] at perm

private theorem single?_urlParams_iff (baseParams : List (Bytes × Bytes)) :
    Multimap.single? (baseParams ++ urlParams input) key = some value ↔
      Multimap.values baseParams key ++ (Multimap.values [(ascii "api", []),
        (ascii "_app", input.app), (ascii "_act", input.action)] key ++
          (input.plainParams.find? key).toList) = [value] := by
  rw [Multimap.single?_perm ((urlParams_perm input).append_left baseParams), Multimap.single?_iff,
    Multimap.values_append, Multimap.values_append, Multimap.values_entries]

private theorem alone_of_append {first last : List Bytes} {value found : Bytes}
    (same : first ++ (found :: last) = [value]) : first = [] ∧ last = [] := by
  have length := congrArg List.length same
  simp only [List.length_append, List.length_cons, List.length_nil] at length
  exact ⟨List.length_eq_zero_iff.mp (by omega), List.length_eq_zero_iff.mp (by omega)⟩

/-- The parameters of a URL are read just when the caller's are none of the runner's own, and those
of the base URL none of either. -/
private theorem urlParams_iff (baseParams : List (Bytes × Bytes)) :
    (Multimap.single? (baseParams ++ urlParams input) (ascii "_app") = some input.app ∧
        Multimap.single? (baseParams ++ urlParams input) (ascii "_act") = some input.action ∧
          ∀ key value, input.plainParams.find? key = some value →
            Multimap.single? (baseParams ++ urlParams input) key = some value) ↔
      PlainFree input ∧ BaseFree baseParams input := by
  constructor
  · rintro ⟨app, action, plain⟩
    have appAlone := alone_of_append ((single?_urlParams_iff baseParams).mp app)
    have actionAlone := alone_of_append ((single?_urlParams_iff baseParams).mp action)
    refine ⟨fun key own => ?_, appAlone.1, actionAlone.1, fun key value found => ?_⟩
    · cases found : input.plainParams.find? key with
      | none => rfl
      | some value =>
          have twice := congrArg List.length
            ((single?_urlParams_iff baseParams).mp (plain key value found))
          rw [found, List.length_append, List.length_append] at twice
          have one : (Multimap.values [(ascii "api", []), (ascii "_app", input.app),
              (ascii "_act", input.action)] key).length = 1 := by
            simp only [reserved, List.mem_cons, List.not_mem_nil, or_false] at own
            rcases own with rfl | rfl | rfl
            · rfl
            · rfl
            · rfl
          rw [one] at twice
          simp only [Option.toList_some, List.length_cons, List.length_nil] at twice
          omega
    · have whole := (single?_urlParams_iff baseParams).mp (plain key value found)
      rw [found, Option.toList_some, ← List.append_assoc] at whole
      exact (List.append_eq_nil_iff.mp (alone_of_append whole).1).1
  · rintro ⟨free, base⟩
    refine ⟨(single?_urlParams_iff baseParams).mpr ?_, (single?_urlParams_iff baseParams).mpr ?_,
      fun key value found => (single?_urlParams_iff baseParams).mpr ?_⟩
    · rw [base.app, free _ (by decide)]
      rfl
    · rw [base.action, free _ (by decide)]
      rfl
    · have other : key ∉ reserved := by
        intro own
        rw [free key own] at found
        cases found
      rw [base.plain key value found, Multimap.values_of_notMem, found]
      · rfl
      · rintro entry member rfl
        simp only [List.mem_cons, List.not_mem_nil, or_false] at member
        rcases member with rfl | rfl | rfl
        · exact other (show ascii "api" ∈ reserved by decide)
        · exact other (show ascii "_app" ∈ reserved by decide)
        · exact other (show ascii "_act" ∈ reserved by decide)

private theorem headers_iff (userAgent : Bytes) :
    (∀ key value, input.dataParams.find? key = some value →
        (Multimap.single? (namedHeaders ((ascii "User-Agent", userAgent) ::
          input.dataParams.entries.map fun param => (headerKey param.1, encode param.2)))
            (foldCase (headerKey key))).bind decode = some value) ↔
      DataApart input := by
  have named : namedHeaders ((ascii "User-Agent", userAgent) ::
      input.dataParams.entries.map fun param => (headerKey param.1, encode param.2)) =
        [(foldCase (ascii "User-Agent"), userAgent)] ++
          input.dataParams.entries.map fun param =>
            (foldCase (headerKey param.1), encode param.2) := by
    unfold namedHeaders
    rw [List.map_cons, List.map_map]
    rfl
  have agent (key : Bytes) : foldCase (ascii "User-Agent") ≠ foldCase (headerKey key) := by
    intro same
    have first : some (117 : UInt8) = some 120 := congrArg List.head? same
    cases first
  have values (key : Bytes) : Multimap.values ([(foldCase (ascii "User-Agent"), userAgent)] ++
      input.dataParams.entries.map fun param => (foldCase (headerKey param.1), encode param.2))
        (foldCase (headerKey key)) =
      Multimap.values (input.dataParams.entries.map fun param =>
        (foldCase (headerKey param.1), encode param.2)) (foldCase (headerKey key)) := by
    rw [Multimap.values_append, Multimap.values_of_notMem, List.nil_append]
    intro entry member
    rw [List.mem_singleton.mp member]
    exact agent key
  rw [named]
  constructor
  · intro delivered key value other stored found there same
    obtain ⟨text, only, read⟩ := Option.bind_eq_some_iff.mp (delivered key value found)
    have alone := Multimap.single?_iff.mp only
    rw [values, ← encode_decode read] at alone
    exact (Multimap.values_renamed_iff input.dataParams (fun key => foldCase (headerKey key)) encode
      found).mp alone other stored there same
  · intro apart key value found
    rw [Multimap.single?_iff.mpr ((values key).trans
      ((Multimap.values_renamed_iff input.dataParams (fun key => foldCase (headerKey key)) encode
        found).mpr fun other stored there same => apart key value other stored found there same))]
    exact decode_encode value

variable {input : RunnerInputFilesIn}

private theorem valueParts_body (named : FilesNamed input.files) :
    valueParts (addFileParams input (addDataParams input.toRunnerInput [])) =
      input.dataParams.entries := by
  unfold valueParts addFileParams addDataParams
  rw [List.nil_append, List.filter_append, List.filter_eq_self.mpr, List.filter_eq_nil_iff.mpr,
    List.append_nil, List.map_map]
  · exact List.map_id _
  · intro part member
    obtain ⟨file, stored, rfl⟩ := List.mem_map.mp member
    simpa using named file.1 file.2 (KeyMap.find?_eq_some_iff.mpr stored)
  · intro part member
    obtain ⟨param, -, rfl⟩ := List.mem_map.mp member
    rfl

private theorem fileParts_body (named : FilesNamed input.files) :
    fileParts (addFileParams input (addDataParams input.toRunnerInput [])) =
      input.files.entries := by
  unfold fileParts addFileParams addDataParams
  rw [List.nil_append, List.filter_append, List.filter_eq_nil_iff.mpr, List.filter_eq_self.mpr,
    List.nil_append, List.map_map]
  · exact List.map_id _
  · intro part member
    obtain ⟨file, stored, rfl⟩ := List.mem_map.mp member
    simpa using named file.1 file.2 (KeyMap.find?_eq_some_iff.mpr stored)
  · intro part member
    obtain ⟨param, -, rfl⟩ := List.mem_map.mp member
    simp

private theorem fileParts_named {parts : List UploadFormData} {key : Bytes} {file : FileData}
    (found : Multimap.single? (fileParts parts) key = some file) : file.name ≠ [] := by
  have only := Multimap.single?_iff.mp found
  have member : file ∈ Multimap.values (fileParts parts) key := by
    rw [only]
    exact List.mem_singleton_self file
  obtain ⟨entry, there, rfl⟩ := List.mem_map.mp member
  obtain ⟨part, kept, rfl⟩ := List.mem_map.mp (List.mem_filter.mp there).1
  simpa using (List.mem_filter.mp kept).2

end

section

variable {paramsToQueryStr : List (Bytes × Bytes) → Bytes}
  {query : Bytes → List (Bytes × Bytes)} {runner : HTTPRunner}

private theorem urlQuery_of_notMem {base : Bytes} (none : 63 ∉ base) (rest : Bytes) :
    urlQuery (base ++ ascii "?" ++ rest) = rest := by
  have skipped : (base ++ ascii "?" ++ rest).dropWhile (· ≠ 63) = 63 :: rest := by
    rw [List.append_assoc, List.dropWhile_append_of_pos]
    · rfl
    · intro symbol member
      exact decide_eq_true fun same => none (same ▸ member)
  unfold urlQuery
  rw [skipped]
  rfl

private theorem urlQuery_of_mem {base : Bytes} (mark : 63 ∈ base) (rest : Bytes) :
    urlQuery (base ++ rest) = urlQuery base ++ rest := by
  induction base with
  | nil => cases mark
  | cons first base ih =>
      by_cases here : first = 63
      · simp [urlQuery, here]
      · have later := ih ((List.mem_cons.mp mark).resolve_left fun same => here same.symm)
        simpa [urlQuery, here] using later

private theorem query_setupRequest {input : RunnerInput Bytes} (dataParams : Bool)
    (read : ReadsBack query paramsToQueryStr (urlParams input)) :
    query (urlQuery (setupRequest paramsToQueryStr runner input dataParams).1) =
      runner.baseParams query ++ urlParams input := by
  simp only [setupRequest, HTTPRunner.baseParams]
  by_cases mark : 63 ∈ runner.baseURL
  · rw [if_pos mark, if_pos mark, List.append_assoc, urlQuery_of_mem mark, ← List.append_assoc,
      read.behind]
  · rw [if_neg mark, if_neg mark, urlQuery_of_notMem mark, read.alone, List.nil_append]

private theorem runActionRead_delivered_iff {input : RunnerInput Bytes}
    (read : ReadsBack query paramsToQueryStr (urlParams input)) :
    Delivered ((runner.runActionRead paramsToQueryStr input).received query) input .empty ↔
      (PlainFree input ∧ BaseFree (runner.baseParams query) input) ∧ DataApart input := by
  have params : query (urlQuery (runner.runActionRead paramsToQueryStr input).url) =
      runner.baseParams query ++ urlParams input := query_setupRequest true read
  constructor
  · intro delivered
    have app := delivered.app
    have action := delivered.action
    have plain := delivered.plain
    unfold HTTPRequest.received at app action plain
    rw [params] at app action plain
    exact ⟨(urlParams_iff _).mp ⟨app, action, plain⟩,
      (headers_iff runner.userAgent).mp delivered.data⟩
  · rintro ⟨free, apart⟩
    obtain ⟨app, action, plain⟩ := (urlParams_iff _).mpr free
    unfold HTTPRequest.received
    rw [params]
    exact ⟨app, action, plain, (headers_iff runner.userAgent).mpr apart, fun key value found => by
      cases found⟩

private theorem runActionFilesIn_delivered_iff (input : RunnerInputFilesIn)
    (read : ReadsBack query paramsToQueryStr (urlParams input.toRunnerInput)) :
    Delivered ((runner.runActionFilesIn paramsToQueryStr input).received query)
        input.toRunnerInput input.files ↔
      (PlainFree input.toRunnerInput ∧ BaseFree (runner.baseParams query) input.toRunnerInput) ∧
        FilesNamed input.files := by
  have params : query (urlQuery (runner.runActionFilesIn paramsToQueryStr input).url) =
      runner.baseParams query ++ urlParams input.toRunnerInput := query_setupRequest false read
  constructor
  · intro delivered
    have app := delivered.app
    have action := delivered.action
    have plain := delivered.plain
    unfold HTTPRequest.received at app action plain
    rw [params] at app action plain
    exact ⟨(urlParams_iff _).mp ⟨app, action, plain⟩, fun key file found =>
      fileParts_named (delivered.file key file found)⟩
  · rintro ⟨free, named⟩
    obtain ⟨app, action, plain⟩ := (urlParams_iff _).mpr free
    unfold HTTPRequest.received
    rw [params]
    refine ⟨app, action, plain, fun key value found => ?_, fun key file found => ?_⟩
    · change Multimap.single? (valueParts _) key = _
      rw [Multimap.single?_iff, valueParts_body named, Multimap.values_entries, found]
      rfl
    · change Multimap.single? (fileParts _) key = _
      rw [Multimap.single?_iff, fileParts_body named, Multimap.values_entries, found]
      rfl

private theorem runActionWrite_eq (input : RunnerInput Bytes) :
    runner.runActionWrite paramsToQueryStr input =
      runner.runActionFilesIn paramsToQueryStr ⟨input, .empty⟩ := by
  unfold HTTPRunner.runActionWrite HTTPRunner.runActionFilesIn addFileParams
  rw [show (KeyMap.empty : KeyMap Bytes FileData).entries = [] from rfl, List.map_nil,
    List.append_nil]

/-- Each of the requests is read whole just when the names it is given suit it. -/
theorem http_delivered_iff (runner : HTTPRunner) (input : RunnerInputFilesIn)
    (read : ReadsBack query paramsToQueryStr (urlParams input.toRunnerInput)) :
    (Delivered ((runner.runActionRead paramsToQueryStr input.toRunnerInput).received query)
        input.toRunnerInput .empty ↔
      (PlainFree input.toRunnerInput ∧ BaseFree (runner.baseParams query) input.toRunnerInput) ∧
        DataApart input.toRunnerInput) ∧
    (Delivered ((runner.runActionWrite paramsToQueryStr input.toRunnerInput).received query)
        input.toRunnerInput .empty ↔
      PlainFree input.toRunnerInput ∧ BaseFree (runner.baseParams query) input.toRunnerInput) ∧
    (Delivered ((runner.runActionFilesIn paramsToQueryStr input).received query)
        input.toRunnerInput input.files ↔
      (PlainFree input.toRunnerInput ∧ BaseFree (runner.baseParams query) input.toRunnerInput) ∧
        FilesNamed input.files) := by
  refine ⟨runActionRead_delivered_iff read, ?_, runActionFilesIn_delivered_iff input read⟩
  rw [runActionWrite_eq]
  have none : FilesNamed .empty := fun key file found => by cases found
  exact (runActionFilesIn_delivered_iff ⟨input.toRunnerInput, .empty⟩ read).trans
    (and_iff_left none)

end

/-! As a command. -/

/-- A string is whole for a process. -/
def Whole (text : Bytes) : Prop := 0 ∉ text

instance (text : Bytes) : Decidable (Whole text) := inferInstanceAs (Decidable (¬ _))

/-- The parameters behind the application and the action, with the file that is read from the
input. -/
def commandParams (input : RunnerInputFilesIn) : List (Bytes × Bytes) :=
  input.plainParams.entries ++
    input.files.entries.map fun file => (file.1 ++ ascii "-", file.2.name)

/-- What of a request comes to a process whole, and the name of a variable has an end. -/
structure Passable (input : RunnerInputFilesIn) : Prop where
  app : Whole input.app
  action : Whole input.action
  params : ∀ param ∈ commandParams input, Whole param.1 ∧ Whole param.2
  data : ∀ param ∈ input.dataParams.entries, Whole param.1 ∧ Whole param.2 ∧ 61 ∉ param.1

section

/-- The arguments that parameters are passed in. -/
def paramArguments (params : List (Bytes × Bytes)) : List Bytes :=
  params.flatMap fun param => [ascii "--" ++ param.1, param.2]

variable {runner : CLIRunner} {input : RunnerInputFilesIn} {command : Command}

/-- A request without files is one with none. -/
theorem runActionFilesIn_empty (input : RunnerInput Bytes) :
    runner.runActionFilesIn ⟨input, .empty⟩ = some (runner.runActionWrite input) := rfl

private theorem mem_emplaced (params : List (Bytes × Bytes)) (environment : Params)
    {entry : Bytes × Bytes}
    (member : entry ∈ (params.foldl (fun environment param =>
      environment.emplace (ascii "andromeda_" ++ param.1) param.2) environment).entries) :
    entry ∈ environment.entries ∨
      ∃ param ∈ params, entry = (ascii "andromeda_" ++ param.1, param.2) := by
  induction params generalizing environment with
  | nil => exact .inl member
  | cons param params ih =>
      rcases ih _ member with before | ⟨later, there, same⟩
      · dsimp only [KeyMap.emplace] at before
        split at before
        · exact .inl before
        · rcases KeyMap.mem_insert.mp before with ⟨name, value⟩ | ⟨_, kept⟩
          · exact .inr ⟨param, List.mem_cons_self, Prod.ext name value⟩
          · exact .inl kept
      · exact .inr ⟨later, List.mem_cons_of_mem _ there, same⟩

private theorem mem_getEnvironment {input : RunnerInput Bytes} {entry : Bytes × Bytes}
    (member : entry ∈ (getEnvironment input).entries) :
    ∃ param ∈ input.dataParams.entries, entry = (ascii "andromeda_" ++ param.1, param.2) :=
  (mem_emplaced input.dataParams.entries .empty member).resolve_left List.not_mem_nil

variable {other : RunnerInputFilesIn} {otherCommand : Command}

private theorem Passable.variable (passable : Passable input) {entry : Bytes × Bytes}
    (member : entry ∈ (getEnvironment input.toRunnerInput).entries) :
    Whole (entry.1 ++ ascii "=" ++ entry.2) ∧ 61 ∉ entry.1 := by
  obtain ⟨param, there, rfl⟩ := mem_getEnvironment member
  obtain ⟨name, value, ends⟩ := passable.data param there
  have prefix_free : (0 : UInt8) ∉ ascii "andromeda_" ∧ (61 : UInt8) ∉ ascii "andromeda_" := by
    decide
  refine ⟨?_, ?_⟩
  · rw [Whole, List.mem_append, List.mem_append, List.mem_append]
    rintro (((start | inName) | mark) | inValue)
    · exact prefix_free.1 start
    · exact name inName
    · exact absurd mark (by decide)
    · exact value inValue
  · rw [List.mem_append]
    rintro (start | inName)
    · exact prefix_free.2 start
    · exact ends inName

private theorem Passable.arguments (passable : Passable input) {argument : Bytes}
    (member : argument ∈ paramArguments (commandParams input)) : Whole argument := by
  obtain ⟨param, there, either⟩ := List.mem_flatMap.mp member
  obtain ⟨name, value⟩ := passable.params param there
  rcases List.mem_cons.mp either with rfl | second
  · rw [Whole, List.mem_append]
    rintro (start | inName)
    · exact absurd start (by decide)
    · exact name inName
  · rw [List.mem_singleton.mp second]
    exact value

end

section

variable {runner : CLIRunner} {input other : RunnerInputFilesIn} {command otherCommand : Command}

end

/-! An upload. -/

namespace Scenario

/-- `params_to_query_str`, where no character needs to be escaped. -/
def paramsToQueryStr (params : List (Bytes × Bytes)) : Bytes :=
  (ascii "&").intercalate (params.map fun param => param.1 ++ ascii "=" ++ param.2)

/-- The parameters of such a query. -/
def query (text : Bytes) : List (Bytes × Bytes) :=
  (text.splitOn 38).map fun param =>
    (param.takeWhile (· ≠ 61), (param.dropWhile (· ≠ 61)).drop 1)

/-- An upload in a session. -/
def upload : RunnerInputFilesIn where
  app := ascii "files"
  action := ascii "upload"
  plainParams := KeyMap.empty.insert (ascii "parent") (ascii "1f")
  dataParams := KeyMap.empty.insert (ascii "auth_sessionid") [208, 0, 61, 255]
  files := KeyMap.empty.insert (ascii "file") ⟨ascii "a.txt", [1, 2]⟩

private theorem upload_plain {key value : Bytes}
    (found : upload.plainParams.find? key = some value) :
    key = ascii "parent" := by
  have member := KeyMap.find?_eq_some_iff.mp found
  exact congrArg Prod.fst (List.mem_singleton.mp member)

private theorem upload_data {key value : Bytes} (found : upload.dataParams.find? key = some value) :
    key = ascii "auth_sessionid" := by
  have member := KeyMap.find?_eq_some_iff.mp found
  exact congrArg Prod.fst (List.mem_singleton.mp member)

private theorem upload_readsBack :
    ReadsBack query paramsToQueryStr (urlParams upload.toRunnerInput) := by
  have alone : query (paramsToQueryStr (urlParams upload.toRunnerInput)) =
      urlParams upload.toRunnerInput := by decide +kernel
  refine ⟨alone, fun other => ?_⟩
  have split : (other ++ ascii "&" ++ paramsToQueryStr (urlParams upload.toRunnerInput)).splitOn 38 =
      other.splitOn 38 ++ (paramsToQueryStr (urlParams upload.toRunnerInput)).splitOn 38 := by
    rw [List.append_assoc]
    exact List.splitOn_append_cons_self _ _
  refine (congrArg (List.map _) split).trans ?_
  rw [List.map_append]
  exact congrArg (query other ++ ·) alone

theorem http_delivered_upload :
    let runner : HTTPRunner := ⟨ascii "agent", ascii "/index.php?lang=en"⟩
    Delivered ((runner.runActionRead paramsToQueryStr upload.toRunnerInput).received query)
        upload.toRunnerInput .empty ∧
      Delivered ((runner.runActionFilesIn paramsToQueryStr upload).received query)
        upload.toRunnerInput upload.files := by
  intro runner
  have delivered := http_delivered_iff runner upload upload_readsBack
  have plain : PlainFree upload.toRunnerInput := by
    unfold PlainFree
    decide +kernel
  have base : BaseFree (runner.baseParams query) upload.toRunnerInput := by
    refine ⟨by decide +kernel, by decide +kernel, fun key value found => ?_⟩
    rw [upload_plain found]
    decide +kernel
  have free := And.intro plain base
  refine ⟨delivered.1.mpr ⟨free, ?_⟩, delivered.2.2.mpr ⟨free, ?_⟩⟩
  · intro key value other stored found there _
    rw [upload_data found, upload_data there]
  · intro key file found
    have member := KeyMap.find?_eq_some_iff.mp found
    cases List.mem_singleton.mp member
    decide

/-- An upload as a command. -/
def passed : RunnerInputFilesIn :=
  { upload with dataParams := KeyMap.empty.insert (ascii "auth_sessionid") [208, 61, 255] }

end Scenario

end Andromeda.Backend.Transport
