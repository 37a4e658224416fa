import Andromeda.Backend.ParseURL
import Andromeda.Text.ExplodeProperties

/-! A URL is split where it is meant to be exactly if its scheme can be told, and its path is there
and begins with one slash. -/

set_option autoImplicit false

namespace Andromeda.Backend

open Library Text

section Split

variable {str : List Char} {symbol : Char} {skip : Nat}

private theorem exists_cut (more : skip < str.count symbol) :
    ∃ first rest, str = first ++ symbol :: rest ∧ first.count symbol = skip := by
  induction str generalizing skip with
  | nil => simp at more
  | cons head rest ih =>
      rcases eq_or_ne head symbol with rfl | differs
      · cases skip with
        | zero => exact ⟨[], rest, rfl, rfl⟩
        | succ skip =>
          obtain ⟨first, tail, rfl, count⟩ := ih (by simpa using more)
          exact ⟨head :: first, tail, rfl, by simpa using count⟩
      · obtain ⟨first, tail, rfl, count⟩ := ih (by simpa [differs] using more)
        exact ⟨head :: first, tail, rfl, by simpa [differs] using count⟩

private theorem split_length (str : List Char) (symbol : Char) (skip : Nat) :
    (split str [symbol] skip false).1.length + (split str [symbol] skip false).2.length ≤
      str.length := by
  rcases Nat.lt_or_ge skip (str.count symbol) with more | few
  · obtain ⟨first, rest, rfl, count⟩ := exists_cut more
    rw [split_forward first rest count]
    simp only [List.length_append, List.length_cons]
    omega
  · rw [split_uncut few]
    exact Nat.le_refl _

end Split

section Parse

variable {text host rest : List Char}

private theorem schemeMark_isSome :
    (find schemeMark text).isSome = true ↔ schemeMark <:+: text := by
  rw [← Option.ne_none_iff_isSome, Ne, find_eq_none_iff, not_not]

private theorem parseURL_path (fuller : fullerURL text = host ++ '/' :: rest)
    (slashes : host.count '/' = 2) :
    parseURL text = if ['/'] <+: rest then ⟨host, rest⟩ else ⟨host, '/' :: rest⟩ := by
  unfold parseURL
  rw [fuller, split_forward host rest slashes]

private theorem parseURL_bare (slashes : (fullerURL text).count '/' ≤ 2) :
    parseURL text = ⟨fullerURL text, ['/']⟩ := by
  unfold parseURL
  rw [split_uncut slashes]
  simp

private theorem parseURL_length (scheme : schemeMark <:+: text) :
    (parseURL text).fullURL.length ≤ text.length + 1 := by
  have cut := split_length text '/' 2
  unfold parseURL fullerURL
  rw [if_pos (schemeMark_isSome.mpr scheme)]
  dsimp only
  split <;> simp only [Location.fullURL, List.length_append, List.length_cons] <;> omega

end Parse

section Redirect

variable {text path query : List Char} {host : List Char}

private theorem registerRedirect_eq (runner : Location) :
    registerRedirect runner text =
      ⟨(parseURL text).protoHost, removeParams (parseURL text).baseURL⟩ := by
  unfold registerRedirect
  obtain ⟨protoHost, baseURL⟩ := runner
  by_cases sameHost : (parseURL text).protoHost = protoHost <;>
    by_cases sameBase : removeParams (parseURL text).baseURL = baseURL <;>
      simp [sameHost, sameBase]

private theorem registerRedirect_path (parsed : parseURL text = ⟨host, path ++ query⟩)
    (plain : '?' ∉ path) (marked : query = [] ∨ ['?'] <+: query) (runner : Location) :
    registerRedirect runner text = ⟨host, path⟩ := by
  rw [registerRedirect_eq, parsed, removeParams]
  rcases marked with rfl | ⟨rest, rfl⟩
  · simp only [List.append_nil, find_singleton_eq_none plain]
  · simp only [List.singleton_append, find_singleton_append plain, List.take_left]

end Redirect

namespace URL

variable {url : URL}

private theorem queryText_marked (url : URL) : url.queryText = [] ∨ ['?'] <+: url.queryText := by
  unfold queryText
  cases url.query with
  | none => exact Or.inl rfl
  | some query => exact Or.inr ⟨query, rfl⟩

private theorem WellFormed.slashes (wellFormed : url.WellFormed) : url.protoHost.count '/' = 2 := by
  have authority : url.authority.count '/' = 0 := List.count_eq_zero.mpr wellFormed.authority.1
  have proto : (url.proto.getD ['h', 't', 't', 'p']).count '/' = 0 := by
    cases held : url.proto with
    | none => rfl
    | some proto => exact List.count_eq_zero.mpr (wellFormed.proto proto held)
  rw [protoHost, List.count_append, List.count_append, authority, proto]
  rfl

private theorem fullerURL_text (scheme : url.proto = none → ¬ schemeMark <:+: url.text) :
    fullerURL url.text = url.protoHost ++ url.pathText ++ url.queryText := by
  unfold fullerURL
  cases held : url.proto with
  | none =>
    have unmarked := scheme held
    rw [if_neg (by rwa [schemeMark_isSome])]
    simp [text, protoHost, held, schemeMark]
  | some proto =>
    have marked : schemeMark <:+: url.text :=
      ⟨proto, url.authority ++ url.pathText ++ url.queryText, by simp [text, held]⟩
    rw [if_pos (schemeMark_isSome.mpr marked)]
    simp [text, protoHost, held]

private theorem schemeMark_protoHost {rest : List Char} : schemeMark <:+: url.protoHost ++ rest :=
  ⟨url.proto.getD ['h', 't', 't', 'p'], url.authority ++ rest, by simp [protoHost]⟩

private theorem slash_isPrefix_iff {path : List Char} :
    ['/'] <+: path ++ url.queryText ↔ ['/'] <+: path := by
  cases path with
  | nil =>
    rcases queryText_marked url with none_ | ⟨query, marked⟩
    · rw [none_, List.append_nil]
    · simp [← marked]
  | cons head path => simp

private theorem parseURL_location (wellFormed : url.WellFormed)
    (plain : ∀ path, url.path = some path → ¬ ['/'] <+: path) :
    parseURL url.location.fullURL = url.location := by
  have single : ¬ ['/'] <+: url.path.getD [] := by
    cases held : url.path with
    | none => simp
    | some path => exact plain path held
  have fuller : fullerURL url.location.fullURL =
      url.protoHost ++ '/' :: (url.path.getD [] ++ url.queryText) := by
    have marked : schemeMark <:+: url.location.fullURL := schemeMark_protoHost
    rw [fullerURL, if_pos (schemeMark_isSome.mpr marked)]
    rfl
  rw [parseURL_path fuller wellFormed.slashes, if_neg (by rwa [slash_isPrefix_iff])]
  rfl

private theorem parseURL_query_ne {query : List Char}
    (fuller : fullerURL url.text = url.protoHost ++ '?' :: query) :
    parseURL url.text ≠ url.location := by
  intro parsed
  have host : (parseURL url.text).protoHost = url.protoHost := by rw [parsed]; rfl
  rcases Nat.lt_or_ge 2 ((fullerURL url.text).count '/') with more | few
  · obtain ⟨first, rest, cut, count⟩ := exists_cut more
    rw [parseURL_path cut count] at host
    have same : first = url.protoHost := by
      split at host <;> exact host
    rw [fuller, ← same, List.append_cancel_left_eq] at cut
    exact absurd (List.cons_eq_cons.mp cut).1 (by decide)
  · rw [parseURL_bare few, fuller] at host
    have length := congrArg List.length host
    simp at length

/-- A URL whose scheme can be told is parsed to its location exactly if it has a path that begins
with one slash, or no path and no query. -/
private theorem parseURL_eq_location_iff (wellFormed : url.WellFormed)
    (scheme : url.proto = none → ¬ schemeMark <:+: url.text) :
    parseURL url.text = url.location ↔
      (∀ path, url.path = some path → ¬ ['/'] <+: path) ∧ (url.path = none → url.query = none) := by
  have fuller := fullerURL_text scheme
  have slashes := wellFormed.slashes
  cases pathIs : url.path with
  | some path =>
    have shape : fullerURL url.text = url.protoHost ++ '/' :: (path ++ url.queryText) := by
      rw [fuller, pathText, pathIs]
      simp
    rw [parseURL_path shape slashes]
    have meant : url.location = ⟨url.protoHost, '/' :: (path ++ url.queryText)⟩ := by
      simp [location, pathOnly, pathIs]
    rw [meant]
    simp only [slash_isPrefix_iff, Option.some.injEq, forall_eq', reduceCtorEq, false_imp_iff,
      and_true]
    by_cases doubled : ['/'] <+: path
    · simp [doubled]
    · simp [doubled]
  | none =>
    simp only [reduceCtorEq, false_imp_iff, implies_true, true_and, forall_const]
    cases queryIs : url.query with
    | none =>
      have shape : fullerURL url.text = url.protoHost := by
        simp [fuller, pathText, queryText, pathIs, queryIs]
      rw [parseURL_bare (Nat.le_of_eq (shape ▸ slashes)), shape]
      simp [location, pathOnly, queryText, pathIs, queryIs]
    | some query =>
      have shape : fullerURL url.text = url.protoHost ++ '?' :: query := by
        simp [fuller, pathText, queryText, pathIs, queryIs]
      simpa using parseURL_query_ne shape

private theorem parseURL_scheme_ne (proto : url.proto = none) (marked : schemeMark <:+: url.text) :
    parseURL url.text ≠ url.location := by
  intro parsed
  have bounded := parseURL_length marked
  rw [parsed] at bounded
  simp only [Location.fullURL, location, protoHost, pathOnly, text, proto, pathText, schemeMark,
    Option.getD_none, Option.elim_none, List.length_append, List.length_cons, List.length_nil]
    at bounded
  cases pathIs : url.path <;> simp [pathIs] at bounded <;> omega

/-- A URL is split as it is meant to be exactly if it has a scheme or no scheme mark in it, and a path
that begins with one slash, or no path and no query. -/
theorem parsed_iff (url : URL) (wellFormed : url.WellFormed) : url.Parsed ↔ url.Plain := by
  constructor
  · intro parsed
    have scheme : url.proto = none → ¬ schemeMark <:+: url.text :=
      fun proto marked => parseURL_scheme_ne proto marked parsed.parsed
    obtain ⟨path, query⟩ := (parseURL_eq_location_iff wellFormed scheme).mp parsed.parsed
    exact ⟨scheme, path, query⟩
  · intro plain
    have parsed : parseURL url.text = url.location :=
      (parseURL_eq_location_iff wellFormed plain.scheme).mpr ⟨plain.path, plain.query⟩
    have unmarked : '?' ∉ url.pathOnly := by
      cases held : url.path with
      | none => simp [pathOnly, held]
      | some path => simpa [pathOnly, held] using wellFormed.path path held
    constructor
    · exact parsed
    · rw [parsed]
      exact parseURL_location wellFormed plain.path
    · exact fun runner => registerRedirect_path parsed unmarked url.queryText_marked runner

/-- The URL of a server, with a query. -/
theorem parsed_host_page :
    URL.Parsed ⟨none, "host".toList, some "8080".toList, some "page".toList, some "a".toList⟩ ↔
      URL.Plain ⟨none, "host".toList, some "8080".toList, some "page".toList, some "a".toList⟩ := by
  apply parsed_iff
  constructor
  · intro proto held
    cases held
  · decide
  · intro path held
    cases held
    decide

/-- The URL of a server with a query that holds a URL. -/
theorem not_parsed_query :
    parseURL "host/p?x=http://y".toList = ⟨"host/p?x=http:/".toList, "/y".toList⟩ ∧
      ¬ URL.Parsed ⟨none, "host".toList, none, some "p".toList, some "x=http://y".toList⟩ := by
  have fuller : fullerURL "host/p?x=http://y".toList = "host/p?x=http:/".toList ++ '/' :: ['y'] := by
    decide
  have parsed :
      parseURL "host/p?x=http://y".toList = ⟨"host/p?x=http:/".toList, "/y".toList⟩ := by
    rw [parseURL_path fuller (by decide)]
    decide
  refine ⟨parsed, fun meant => ?_⟩
  have location := meant.parsed
  have text : URL.text ⟨none, "host".toList, none, some "p".toList, some "x=http://y".toList⟩ =
      "host/p?x=http://y".toList := by decide
  rw [text, parsed] at location
  revert location
  decide

end URL

end Andromeda.Backend
