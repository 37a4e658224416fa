import Andromeda.Text.StringUtil

/-! The URL of a server, as the runner splits it into the host that a client connects to and the
base of its requests, and as a redirect sets it. -/

set_option autoImplicit false

namespace Andromeda.Backend

open Library Text

/-- Where a runner sends its requests: `mProtoHost` and `mBaseURL`. -/
structure Location where
  protoHost : List Char
  baseURL : List Char
  deriving DecidableEq

/-- The mark after a scheme. -/
def schemeMark : List Char := [':', '/', '/']

/-- A URL with a scheme. -/
def fullerURL (fullURL : List Char) : List Char :=
  if (find schemeMark fullURL).isSome then fullURL
  else ['h', 't', 't', 'p', ':', '/', '/'] ++ fullURL

/-- `ParseURL`. -/
def parseURL (fullURL : List Char) : Location :=
  let pair := split (fullerURL fullURL) ['/'] 2 false
  if ['/'] <+: pair.2 then ⟨pair.1, pair.2⟩ else ⟨pair.1, '/' :: pair.2⟩

/-- `GetFullURL`. -/
def Location.fullURL (location : Location) : List Char := location.protoHost ++ location.baseURL

/-- A URL without its parameters. -/
def removeParams (baseURL : List Char) : List Char :=
  match find ['?'] baseURL with
  | none => baseURL
  | some paramsPos => baseURL.take paramsPos

/-- `RegisterRedirect`. -/
def registerRedirect (runner : Location) (location : List Char) : Location :=
  let newPair := parseURL location
  let newBase := removeParams newPair.baseURL
  let runner :=
    if newPair.protoHost ≠ runner.protoHost then { runner with protoHost := newPair.protoHost }
    else runner
  if newBase ≠ runner.baseURL then { runner with baseURL := newBase } else runner

/-- The parts of a URL. A path is what follows its first slash. -/
structure URL where
  proto : Option (List Char)
  host : List Char
  port : Option (List Char)
  path : Option (List Char)
  query : Option (List Char)

namespace URL

variable (url : URL)

/-- The host with its port. -/
def authority : List Char := url.host ++ url.port.elim [] (':' :: ·)

/-- The path, with its slash. -/
def pathText : List Char := url.path.elim [] ('/' :: ·)

/-- The query, with its question mark. -/
def queryText : List Char := url.query.elim [] ('?' :: ·)

/-- The text of a URL. -/
def text : List Char :=
  url.proto.elim [] (· ++ schemeMark) ++ url.authority ++ url.pathText ++ url.queryText

/-- The host that a client is meant to connect to, over HTTP by default. -/
def protoHost : List Char := url.proto.getD ['h', 't', 't', 'p'] ++ schemeMark ++ url.authority

/-- The path that is meant, which is never empty. -/
def pathOnly : List Char := '/' :: url.path.getD []

/-- The location that is meant. -/
def location : Location := ⟨url.protoHost, url.pathOnly ++ url.queryText⟩

/-- A URL whose parts can be told apart: no slash in the scheme, none and no question mark in the
host and the port, and no question mark in the path. -/
structure WellFormed : Prop where
  proto : ∀ proto, url.proto = some proto → '/' ∉ proto
  authority : '/' ∉ url.authority ∧ '?' ∉ url.authority
  path : ∀ path, url.path = some path → '?' ∉ path

/-- What is meant to become of a URL: its location, which parses to itself, and which a redirect
sets without the query. -/
structure Parsed : Prop where
  parsed : parseURL url.text = url.location
  again : parseURL (parseURL url.text).fullURL = parseURL url.text
  redirect : ∀ runner, registerRedirect runner url.text = ⟨url.protoHost, url.pathOnly⟩

/-- A URL without a scheme has no scheme mark in it, and the path does not begin with a second slash
and is there if there is a query. -/
structure Plain : Prop where
  scheme : url.proto = none → ¬ schemeMark <:+: url.text
  path : ∀ path, url.path = some path → ¬ ['/'] <+: path
  query : url.path = none → url.query = none

end URL

end Andromeda.Backend
