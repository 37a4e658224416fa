import Mathlib.Data.List.Basic

/-! The tokens of SQL text: words, placeholders, strings and symbols. An automaton reads the text
character by character, so that what a text reads as depends on what comes before it only through a
mode. -/

set_option autoImplicit false

namespace Andromeda.Library.Sql

/-- The words that are no names. -/
inductive Keyword where
  | and
  | or
  | not
  | is
  | null
  | like
  | escape
  | where_
  | update
  | set
  | insert
  | into
  | values
  deriving DecidableEq

inductive Symbol where
  | opening
  | closing
  | comma
  | plus
  | equals
  | notEquals
  | less
  | lessEquals
  | greater
  | greaterEquals
  deriving DecidableEq

/-- A token. The name of a placeholder is without its colon. -/
inductive Token where
  | keyword (keyword : Keyword)
  | name (text : List Char)
  | param (name : List Char)
  | quoted (text : List Char)
  | symbol (symbol : Symbol)
  deriving DecidableEq

/-- The keywords, as they are written in upper case. -/
def keywords : List (List Char × Keyword) :=
  [("AND".toList, .and), ("OR".toList, .or), ("NOT".toList, .not), ("IS".toList, .is),
    ("NULL".toList, .null), ("LIKE".toList, .like), ("ESCAPE".toList, .escape),
    ("WHERE".toList, .where_), ("UPDATE".toList, .update), ("SET".toList, .set),
    ("INSERT".toList, .insert), ("INTO".toList, .into), ("VALUES".toList, .values)]

/-- The keyword that a word is, in upper or lower case. -/
def keyword? (word : List Char) : Option Keyword := keywords.lookup (word.map Char.toUpper)

def wordToken (word : List Char) : Token :=
  match keyword? word with
  | some keyword => .keyword keyword
  | none => .name word

/-- The characters of words. -/
def isWordChar (symbol : Char) : Bool :=
  symbol.isAlphanum || symbol == '_' || symbol == '$' || 128 ≤ symbol.toNat

/-- The characters that go on neither with a word nor with a string. -/
def isBoundary (symbol : Char) : Bool := !isWordChar symbol && symbol != '\''

/-- What the characters read last belong to. -/
inductive Mode where
  | blank
  | word (read : List Char)
  | param (read : List Char)
  | quoted (read : List Char)
  | quote (read : List Char)
  | less
  | greater
  deriving DecidableEq

/-- The tokens that a character completes, and the mode after it, at the beginning of a token. -/
def starts (symbol : Char) : Option (List Token × Mode) :=
  if isWordChar symbol then some ([], .word [symbol])
  else
    match symbol with
    | ' ' => some ([], .blank)
    | ':' => some ([], .param [])
    | '\'' => some ([], .quoted [])
    | '<' => some ([], .less)
    | '>' => some ([], .greater)
    | '=' => some ([.symbol .equals], .blank)
    | '+' => some ([.symbol .plus], .blank)
    | ',' => some ([.symbol .comma], .blank)
    | '(' => some ([.symbol .opening], .blank)
    | ')' => some ([.symbol .closing], .blank)
    | _ => none

/-- The token that is complete where nothing more belongs to it. -/
def finish : Mode → Option (List Token)
  | .blank => some []
  | .word read => some [wordToken read]
  | .param [] => none
  | .param read => some [.param read]
  | .quoted _ => none
  | .quote read => some [.quoted read]
  | .less => some [.symbol .less]
  | .greater => some [.symbol .greater]

/-- A character that begins a token after another one. -/
def after (mode : Mode) (symbol : Char) : Option (List Token × Mode) :=
  match finish mode, starts symbol with
  | some before, some (tokens, next) => some (before ++ tokens, next)
  | _, _ => none

/-- A character in a mode. In a string, two quotes are one. -/
def next : Mode → Char → Option (List Token × Mode)
  | .blank, symbol => starts symbol
  | .word read, symbol =>
    if isWordChar symbol then some ([], .word (read ++ [symbol])) else after (.word read) symbol
  | .param read, symbol =>
    if isWordChar symbol then some ([], .param (read ++ [symbol])) else after (.param read) symbol
  | .quoted read, symbol =>
    if symbol = '\'' then some ([], .quote read) else some ([], .quoted (read ++ [symbol]))
  | .quote read, symbol =>
    if symbol = '\'' then some ([], .quoted (read ++ [symbol])) else after (.quote read) symbol
  | .less, symbol =>
    if symbol = '=' then some ([.symbol .lessEquals], .blank)
    else if symbol = '>' then some ([.symbol .notEquals], .blank)
    else after .less symbol
  | .greater, symbol =>
    if symbol = '=' then some ([.symbol .greaterEquals], .blank) else after .greater symbol

/-- The tokens of a text from a mode on, and the mode after it. -/
def feed : Mode → List Char → Option (List Token × Mode)
  | mode, [] => some ([], mode)
  | mode, symbol :: rest =>
    match next mode symbol with
    | none => none
    | some (tokens, middle) =>
      match feed middle rest with
      | none => none
      | some (more, final) => some (tokens ++ more, final)

/-- The tokens of a text. -/
def lex (text : List Char) : Option (List Token) :=
  match feed .blank text with
  | none => none
  | some (tokens, mode) => (finish mode).map (tokens ++ ·)

/-- A text whose tokens are complete at its end, whatever follows. -/
def Closed (text : List Char) (tokens : List Token) : Prop := feed .blank text = some (tokens, .blank)

instance (text : List Char) (tokens : List Token) : Decidable (Closed text tokens) :=
  inferInstanceAs (Decidable (_ = _))

/-- A text whose last token is complete where neither a word nor a string goes on. -/
def Lexes (text : List Char) (tokens : List Token) : Prop :=
  ∃ before mode last, feed .blank text = some (before, mode) ∧ finish mode = some last ∧
    tokens = before ++ last ∧
      ∀ symbol, isBoundary symbol = true → next mode symbol = after mode symbol

/-- A text that goes on neither with a word nor with a string. -/
def Bounded (text : List Char) : Prop := ∃ symbol ∈ text.head?, isBoundary symbol = true

private theorem not_word_of_boundary {symbol : Char} (boundary : isBoundary symbol = true) :
    isWordChar symbol = false := by
  simp only [isBoundary, Bool.and_eq_true, Bool.not_eq_true'] at boundary
  exact boundary.1

private theorem ne_quote_of_boundary {symbol : Char} (boundary : isBoundary symbol = true) :
    symbol ≠ '\'' := by
  simp only [isBoundary, Bool.and_eq_true, bne_iff_ne] at boundary
  exact boundary.2

private theorem feed_append (mode : Mode) (first second : List Char) :
    feed mode (first ++ second) =
      match feed mode first with
      | none => none
      | some (tokens, middle) =>
        match feed middle second with
        | none => none
        | some (more, final) => some (tokens ++ more, final) := by
  induction first generalizing mode with
  | nil =>
      simp only [List.nil_append, feed]
      cases feed mode second <;> rfl
  | cons symbol rest ih =>
      simp only [List.cons_append, feed]
      cases next mode symbol with
      | none => rfl
      | some step =>
          obtain ⟨tokens, middle⟩ := step
          simp only [ih]
          cases feed middle rest with
          | none => rfl
          | some fed =>
              obtain ⟨more, final⟩ := fed
              dsimp only
              cases feed final second with
              | none => rfl
              | some last => simp

theorem Closed.lexes {text : List Char} {tokens : List Token} (closed : Closed text tokens) :
    Lexes text tokens :=
  ⟨tokens, .blank, [], closed, rfl, (List.append_nil tokens).symm, fun symbol _ => by
    simp only [next, after, finish]
    cases starts symbol <;> rfl⟩

theorem Lexes.lex {text : List Char} {tokens : List Token} (lexes : Lexes text tokens) :
    lex text = some tokens := by
  obtain ⟨before, mode, last, fed, finished, rfl, -⟩ := lexes
  simp [Sql.lex, fed, finished]

section Append

variable {first second : List Char} {left right : List Token}

theorem Closed.append (closed : Closed first left) (next : Closed second right) :
    Closed (first ++ second) (left ++ right) := by
  unfold Closed at *
  simp [feed_append, closed, next]

theorem Closed.append_lexes (closed : Closed first left) (lexes : Lexes second right) :
    Lexes (first ++ second) (left ++ right) := by
  obtain ⟨before, mode, last, fed, finished, rfl, ends⟩ := lexes
  refine ⟨left ++ before, mode, last, ?_, finished, (List.append_assoc ..).symm, ends⟩
  unfold Closed at closed
  simp [feed_append, closed, fed]

private theorem Lexes.feed_append {text rest : List Char} {tokens more : List Token} {final : Mode}
    (lexes : Lexes text tokens) (bounded : Bounded rest) (fed : feed .blank rest = some (more, final)) :
    feed .blank (text ++ rest) = some (tokens ++ more, final) := by
  obtain ⟨before, mode, last, ran, finished, rfl, ends⟩ := lexes
  obtain ⟨symbol, head, plain⟩ := bounded
  cases rest with
  | nil => cases head
  | cons first rest =>
      cases head
      rw [Sql.feed_append, ran]
      simp only [feed, next] at fed
      simp only [feed, ends symbol plain, after, finished]
      cases started : starts symbol with
      | none => simp [started] at fed
      | some step =>
          obtain ⟨begun, middle⟩ := step
          rw [started] at fed
          dsimp only at fed ⊢
          cases ran : feed middle rest with
          | none => simp [ran] at fed
          | some step =>
              rw [ran] at fed
              simp only [Option.some.injEq, Prod.mk.injEq] at fed
              simp [← fed.1, fed.2]

theorem Lexes.append_closed (lexes : Lexes first left) (closed : Closed second right)
    (bounded : Bounded second) : Closed (first ++ second) (left ++ right) :=
  lexes.feed_append bounded closed

theorem Lexes.append (lexes : Lexes first left) (next : Lexes second right)
    (bounded : Bounded second) : Lexes (first ++ second) (left ++ right) := by
  obtain ⟨before, mode, last, fed, finished, rfl, ends⟩ := next
  exact ⟨left ++ before, mode, last, lexes.feed_append bounded fed, finished,
    (List.append_assoc ..).symm, ends⟩

theorem Bounded.append {text : List Char} (bounded : Bounded text) (rest : List Char) :
    Bounded (text ++ rest) := by
  obtain ⟨symbol, head, boundary⟩ := bounded
  refine ⟨symbol, ?_, boundary⟩
  rw [List.head?_append, head]
  rfl

/-- Texts that are joined by one that stands for itself. -/
theorem Lexes.join {glue : List Char} {mark : List Token} (closed : Closed glue mark)
    (bounded : Bounded glue) (lexes : Lexes first left) (parts : List (List Char × List Token))
    (each : ∀ part ∈ parts, Lexes part.1 part.2) :
    Lexes (first ++ parts.flatMap fun part => glue ++ part.1)
      (left ++ parts.flatMap fun part => mark ++ part.2) := by
  induction parts generalizing first left with
  | nil => simpa using lexes
  | cons part rest ih =>
      obtain ⟨head, tail⟩ := List.forall_mem_cons.mp each
      have next := ih (lexes.append (closed.append_lexes head) (bounded.append _)) tail
      simpa only [List.flatMap_cons, List.append_assoc] using next

end Append

private theorem feed_word (read word : List Char)
    (all : ∀ symbol ∈ word, isWordChar symbol = true) :
    feed (.word read) word = some ([], .word (read ++ word)) := by
  induction word generalizing read with
  | nil => simp [feed]
  | cons symbol rest ih =>
      obtain ⟨head, tail⟩ := List.forall_mem_cons.mp all
      simp [feed, next, head, ih (read ++ [symbol]) tail]

private theorem feed_param (read word : List Char)
    (all : ∀ symbol ∈ word, isWordChar symbol = true) :
    feed (.param read) word = some ([], .param (read ++ word)) := by
  induction word generalizing read with
  | nil => simp [feed]
  | cons symbol rest ih =>
      obtain ⟨head, tail⟩ := List.forall_mem_cons.mp all
      simp [feed, next, head, ih (read ++ [symbol]) tail]

private theorem lexes_word {word : List Char} (filled : word ≠ [])
    (all : ∀ symbol ∈ word, isWordChar symbol = true) : Lexes word [wordToken word] := by
  cases word with
  | nil => exact absurd rfl filled
  | cons symbol rest =>
      obtain ⟨head, tail⟩ := List.forall_mem_cons.mp all
      refine ⟨[], .word (symbol :: rest), [wordToken (symbol :: rest)], ?_, rfl, rfl, ?_⟩
      · simp [feed, next, starts, head, feed_word [symbol] rest tail]
      · intro other boundary
        simp [next, not_word_of_boundary boundary]

/-- A placeholder is one token. -/
theorem lexes_param {word : List Char} (filled : word ≠ [])
    (all : ∀ symbol ∈ word, isWordChar symbol = true) : Lexes (':' :: word) [.param word] := by
  refine ⟨[], .param word, [.param word], ?_, ?_, rfl, ?_⟩
  · have colon : next .blank ':' = some ([], .param []) := by decide
    simp [feed, colon, feed_param [] word all]
  · cases word with
    | nil => exact absurd rfl filled
    | cons symbol rest => rfl
  · intro other boundary
    simp [next, not_word_of_boundary boundary]

/-- A text that ends with a word is complete there. -/
theorem lexes_of_word {text read : List Char} {before : List Token}
    (fed : feed .blank text = some (before, .word read)) :
    Lexes text (before ++ [wordToken read]) :=
  ⟨before, .word read, [wordToken read], fed, rfl, rfl, fun symbol boundary => by
    simp [next, not_word_of_boundary boundary]⟩

/-- A text that ends with a placeholder is complete there. -/
theorem lexes_of_param {text read : List Char} {symbol : Char} {before : List Token}
    (fed : feed .blank text = some (before, .param (symbol :: read))) :
    Lexes text (before ++ [.param (symbol :: read)]) :=
  ⟨before, .param (symbol :: read), [.param (symbol :: read)], fed, rfl, rfl, fun other boundary => by
    simp [next, not_word_of_boundary boundary]⟩

/-- A text that ends with a string is complete there. -/
theorem lexes_of_quote {text read : List Char} {before : List Token}
    (fed : feed .blank text = some (before, .quote read)) : Lexes text (before ++ [.quoted read]) :=
  ⟨before, .quote read, [.quoted read], fed, rfl, rfl, fun symbol boundary => by
    simp [next, ne_quote_of_boundary boundary]⟩

/-- A name: a word that does not begin with a digit and is no keyword. -/
structure Name where
  text : List Char
  filled : text ≠ []
  word : ∀ symbol ∈ text, isWordChar symbol = true
  notNumber : ∀ symbol ∈ text.head?, symbol.isDigit = false
  notKeyword : keyword? text = none

theorem Name.lexes (name : Name) : Lexes name.text [.name name.text] := by
  have lexes := lexes_word name.filled name.word
  rwa [wordToken, name.notKeyword] at lexes

end Andromeda.Library.Sql
