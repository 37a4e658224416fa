import Andromeda.Arguments.BaseOptions
import Andromeda.Text.ExplodeProperties
import Mathlib.Data.List.TakeWhile

/-! Reading options back: flags and options, each written as an argument in one of its forms or as
a line of a file, are those that the parsers hand over. -/

set_option autoImplicit false

namespace Andromeda.Arguments

open Text

/-- The name of a flag or of an option. -/
structure Key where
  initial : Char
  others : List Char
  notDash : initial ≠ '-'
  notBlank : isSpace initial = false
  noEquals : '=' ∉ initial :: others

namespace Key

def text (key : Key) : List Char := key.initial :: key.others

/-- A name of one character. -/
def Short (key : Key) : Prop := key.others = []

end Key

/-- A flag or an option in the form in which it is written. -/
inductive Item where
  /-- `--flag` -/
  | longFlag (flag : Key)
  /-- `-f` -/
  | shortFlag (flag : Key) (short : flag.Short)
  /-- `--key=value` -/
  | longEquals (key : Key) (value : List Char)
  /-- `-x=value` -/
  | shortEquals (key : Key) (short : key.Short) (value : List Char)
  /-- `-xvalue` -/
  | attached (key : Key) (short : key.Short) (value : List Char) (filled : value ≠ [])
      (noEquals : '=' ∉ value)
  /-- `--key value` -/
  | longSpaced (key : Key) (value : List Char) (notDash : value.head? ≠ some '-')
  /-- `-x value` -/
  | shortSpaced (key : Key) (short : key.Short) (value : List Char)
      (notDash : value.head? ≠ some '-')

namespace Item

/-- The arguments that an item is written as. -/
def args : Item → List (List Char)
  | longFlag flag => ['-' :: '-' :: flag.text]
  | shortFlag flag _ => ['-' :: flag.text]
  | longEquals key value => ['-' :: '-' :: key.text ++ '=' :: value]
  | shortEquals key _ value => ['-' :: key.text ++ '=' :: value]
  | attached key _ value _ _ => ['-' :: key.text ++ value]
  | longSpaced key value _ => ['-' :: '-' :: key.text, value]
  | shortSpaced key _ value _ => ['-' :: key.text, value]

def flags : Item → Flags
  | longFlag flag | shortFlag flag _ => [flag.text]
  | longEquals _ _ | shortEquals _ _ _ | attached _ _ _ _ _ | longSpaced _ _ _
  | shortSpaced _ _ _ _ => []

def options : Item → Options
  | longFlag _ | shortFlag _ _ => []
  | longEquals key value | shortEquals key _ value | attached key _ value _ _
  | longSpaced key value _ | shortSpaced key _ value _ => [(key.text, value)]

/-- The line of a file that an item is written as. -/
def line : Item → List Char
  | longFlag flag | shortFlag flag _ => flag.text
  | longEquals key value | shortEquals key _ value | attached key _ value _ _
  | longSpaced key value _ | shortSpaced key _ value _ => key.text ++ '=' :: value

/-- The line holds no line break, and is no comment. -/
structure FitsLine (item : Item) : Prop where
  oneLine : '\n' ∉ item.line
  noReturn : item.line.getLast? ≠ some '\r'
  noComment : item.line.head? ≠ some '#'

end Item

/-- All arguments of a command: its name, the items, and what follows `--` where that is given. -/
def commandArgs (program : List Char) (items : List Item) (trailing : Option (List (List Char))) :
    List (List Char) :=
  program :: items.flatMap Item.args ++ (trailing.map ("--".toList :: ·)).getD []

/-- The arguments up to `--`, with it. -/
def consumed (items : List Item) (trailing : Option (List (List Char))) : Nat :=
  1 + (items.flatMap Item.args).length + if trailing.isSome then 1 else 0

/-- How a line ends. -/
inductive LineEnd where
  | newline
  | returnNewline

def LineEnd.text : LineEnd → List Char
  | newline => ['\n']
  | returnNewline => ['\r', '\n']

/-- A file of lines, with a last one that does not end. -/
def fileText (lines : List (Item × LineEnd)) (last : Option Item) : List Char :=
  lines.flatMap (fun line => line.1.line ++ line.2.text) ++ (last.map Item.line).getD []

section Arguments

variable {stopmm ext : Bool} {argIdx : Nat} {flags : Flags} {options : Options}
  {rest : List (List Char)} {initial : Char} {text : List Char}

/-- What an argument begins with. -/
def dashes (ext : Bool) : List Char := if ext then ['-', '-'] else ['-']

private theorem parseLoop_name (notDash : initial ≠ '-') (notBlank : isSpace initial = false) :
    parseLoop stopmm argIdx ((dashes ext ++ initial :: text) :: rest) flags options =
      if '=' ∈ initial :: text then
        parseLoop stopmm (argIdx + 1) rest flags
          (emplace options (split (initial :: text) ['='] 0 false))
      else if ext = false ∧ text ≠ [] then
        parseLoop stopmm (argIdx + 1) rest flags (emplace options ([initial], text))
      else
        match rest with
        | [] => parseLoop stopmm (argIdx + 1) [] (flags ++ [initial :: text]) options
        | value :: others =>
          if value.head? ≠ some '-' then
            parseLoop stopmm (argIdx + 2) others flags (emplace options (initial :: text, value))
          else parseLoop stopmm (argIdx + 1) (value :: others) (flags ++ [initial :: text]) options := by
  have named : ¬ (initial :: text = [] ∨ (some initial).any isSpace = true) := by
    simp [notBlank]
  have longer : 1 < (initial :: text).length ↔ text ≠ [] := by
    simp [List.length_pos_iff]
  cases ext with
  | true =>
      rw [dashes, if_pos rfl]
      conv_lhs => rw [List.cons_append, parseLoop.eq_3, if_neg (not_not_intro rfl)]
      cases rest <;>
        simp only [List.cons_append, List.nil_append, List.head?_cons, ↓reduceIte, List.tail_cons,
          if_neg named, not_true_eq_false, false_and, Bool.true_eq_false]
  | false =>
      rw [dashes, if_neg Bool.false_ne_true]
      conv_lhs => rw [List.cons_append, parseLoop.eq_3, if_neg (not_not_intro rfl)]
      have plain : ¬ some initial = some '-' := by simpa using notDash
      cases rest <;>
        simp only [List.nil_append, List.head?_cons, plain, ↓reduceIte, if_neg named, longer,
          not_false_eq_true, true_and, List.take_succ_cons, List.take_zero, List.drop_succ_cons,
          List.drop_zero]

private theorem parseLoop_equals (ext : Bool) {key : Key} {value : List Char} :
    parseLoop stopmm argIdx ((dashes ext ++ (key.text ++ '=' :: value)) :: rest) flags options =
      parseLoop stopmm (argIdx + 1) rest flags (emplace options (key.text, value)) := by
  have cut : split (key.text ++ '=' :: value) ['='] 0 false = (key.text, value) :=
    split_forward key.text value (List.count_eq_zero.mpr key.noEquals)
  rw [Key.text, List.cons_append, parseLoop_name key.notDash key.notBlank, if_pos (by simp),
    ← List.cons_append]
  exact congrArg (fun option => parseLoop stopmm (argIdx + 1) rest flags (emplace options option)) cut

private theorem parseLoop_attached {key : Key} {value : List Char} (short : key.Short)
    (filled : value ≠ [])
    (noEquals : '=' ∉ value) :
    parseLoop stopmm argIdx ((dashes false ++ (key.text ++ value)) :: rest) flags options =
      parseLoop stopmm (argIdx + 1) rest flags (emplace options (key.text, value)) := by
  have one : key.text = [key.initial] := by rw [Key.text, short]
  have absent : '=' ∉ key.initial :: value := by
    have := key.noEquals
    simp_all
  rw [one, List.singleton_append, parseLoop_name key.notDash key.notBlank, if_neg absent,
    if_pos ⟨rfl, filled⟩]

private theorem parseLoop_alone {key : Key} (whole : ext = true ∨ key.Short) :
    parseLoop stopmm argIdx ((dashes ext ++ key.text) :: rest) flags options =
      match rest with
      | [] => parseLoop stopmm (argIdx + 1) [] (flags ++ [key.text]) options
      | value :: others =>
        if value.head? ≠ some '-' then
          parseLoop stopmm (argIdx + 2) others flags (emplace options (key.text, value))
        else parseLoop stopmm (argIdx + 1) (value :: others) (flags ++ [key.text]) options := by
  have none_ : ¬ (ext = false ∧ key.others ≠ []) := by
    rintro ⟨rfl, others⟩
    exact others (whole.resolve_left Bool.false_ne_true)
  rw [Key.text, parseLoop_name key.notDash key.notBlank, if_neg key.noEquals, if_neg none_]

/-- Arguments of which the first, if there is one, begins with a dash. -/
def Dashed (rest : List (List Char)) : Prop := ∀ next ∈ rest.head?, next.head? = some '-'

private theorem parseLoop_flag (ext : Bool) {key : Key} (whole : ext = true ∨ key.Short)
    (dashed : Dashed rest) :
    parseLoop stopmm argIdx ((dashes ext ++ key.text) :: rest) flags options =
      parseLoop stopmm (argIdx + 1) rest (flags ++ [key.text]) options := by
  rw [parseLoop_alone whole]
  cases rest with
  | nil => rfl
  | cons value others => exact if_neg (not_not_intro (dashed value rfl))

private theorem parseLoop_spaced (ext : Bool) {key : Key} {value : List Char}
    (whole : ext = true ∨ key.Short)    (notDash : value.head? ≠ some '-') :
    parseLoop stopmm argIdx ((dashes ext ++ key.text) :: value :: rest) flags options =
      parseLoop stopmm (argIdx + 2) rest flags (emplace options (key.text, value)) := by
  rw [parseLoop_alone whole]
  exact if_pos notDash

private theorem parseLoop_item (item : Item) (dashed : Dashed rest) :
    parseLoop stopmm argIdx (item.args ++ rest) flags options =
      parseLoop stopmm (argIdx + item.args.length) rest (flags ++ item.flags)
        (item.options.foldl emplace options) := by
  cases item with
  | longFlag flag => exact parseLoop_flag true (Or.inl rfl) dashed
  | shortFlag flag short => exact parseLoop_flag false (Or.inr short) dashed
  | longEquals key value =>
      rw [Item.flags, List.append_nil]
      exact parseLoop_equals true
  | shortEquals key short value =>
      rw [Item.flags, List.append_nil]
      exact parseLoop_equals false
  | attached key short value filled noEquals =>
      rw [Item.flags, List.append_nil]
      exact parseLoop_attached short filled noEquals
  | longSpaced key value notDash =>
      rw [Item.flags, List.append_nil]
      exact parseLoop_spaced true (Or.inl rfl) notDash
  | shortSpaced key short value notDash =>
      rw [Item.flags, List.append_nil]
      exact parseLoop_spaced false (Or.inr short) notDash

private theorem dashed_args (item : Item) (rest : List (List Char)) :
    Dashed (item.args ++ rest) := by
  cases item <;> simp [Dashed, Item.args]

private theorem parseLoop_items (items : List Item) (dashed : Dashed rest) :
    parseLoop stopmm argIdx (items.flatMap Item.args ++ rest) flags options =
      parseLoop stopmm (argIdx + (items.flatMap Item.args).length) rest
        (flags ++ items.flatMap Item.flags) ((items.flatMap Item.options).foldl emplace options) := by
  induction items generalizing argIdx flags options with
  | nil => simp
  | cons item items ih =>
      have next : Dashed (items.flatMap Item.args ++ rest) := by
        cases items with
        | nil => exact dashed
        | cons other items =>
            rw [List.flatMap_cons, List.append_assoc]
            exact dashed_args other _
      rw [List.flatMap_cons, List.append_assoc, parseLoop_item item next, ih]
      simp only [List.flatMap_cons, List.foldl_append, List.length_append, List.append_assoc,
        Nat.add_assoc]

private theorem parseLoop_trailing (trailing : Option (List (List Char))) :
    parseLoop true argIdx ((trailing.map ("--".toList :: ·)).getD []) flags options =
      .ok (argIdx + if trailing.isSome then 1 else 0, flags, options) := by
  cases trailing with
  | none => simp [parseLoop]
  | some trailing => simp [parseLoop]

private theorem dashed_trailing (trailing : Option (List (List Char))) :
    Dashed ((trailing.map ("--".toList :: ·)).getD []) := by
  cases trailing <;> simp [Dashed]

end Arguments

section Files

variable {flags : Flags} {options : Options} {text rest : List Char}

private theorem getline_newline (oneLine : '\n' ∉ text) :
    getline (text ++ '\n' :: rest) = (text, some rest) := by
  have whole : ∀ symbol ∈ text, (symbol != '\n') = true := by
    intro symbol member
    exact bne_iff_ne.mpr (ne_of_mem_of_not_mem member oneLine)
  rw [getline, List.takeWhile_append_of_pos whole, List.dropWhile_append_of_pos whole]
  simp

private theorem getline_last (oneLine : '\n' ∉ text) : getline text = (text, none) := by
  have whole : ∀ symbol ∈ text, (symbol != '\n') = true := by
    intro symbol member
    exact bne_iff_ne.mpr (ne_of_mem_of_not_mem member oneLine)
  rw [getline, List.takeWhile_eq_self_iff.mpr whole, List.dropWhile_eq_nil_iff.mpr whole]
  rfl

private theorem fileLoop_newline (oneLine : '\n' ∉ text) :
    fileLoop (text ++ '\n' :: rest) flags options =
      fileLoop rest (readLine text flags options).1 (readLine text flags options).2 := by
  rw [fileLoop]
  split
  · next left =>
      rw [getline_newline oneLine] at left
      cases left
  · next other left =>
      rw [getline_newline oneLine] at left ⊢
      cases left
      rfl

private theorem fileLoop_last (oneLine : '\n' ∉ text) :
    fileLoop text flags options = readLine text flags options := by
  rw [fileLoop]
  split
  · rw [getline_last oneLine]
  · next other left =>
      rw [getline_last oneLine] at left
      cases left

private theorem popReturn_append (ending : text.getLast? ≠ some '\r') :
    popReturn text = text ∧ popReturn (text ++ ['\r']) = text := by
  constructor
  · exact if_neg ending
  · simp [popReturn]

private theorem readLine_item {item : Item} (fits : item.FitsLine)
    (popped : popReturn text = item.line) :
    readLine text flags options = (flags ++ item.flags, item.options.foldl emplace options) := by
  have notSkipped {key : Key} {others : List Char} (line : item.line = key.text ++ others) :
      ¬ (item.line = [] ∨ item.line.head? = some '#' ∨ item.line.head? = some ' ') := by
    have notBlank := key.notBlank
    have noComment := fits.noComment
    rw [line, Key.text] at noComment ⊢
    rintro (empty | comment | blank)
    · cases empty
    · exact noComment comment
    · rw [List.cons_append, List.head?_cons, Option.some.injEq] at blank
      rw [blank] at notBlank
      exact absurd notBlank (by decide)
  have readOption {key : Key} {value : List Char} (line : item.line = key.text ++ '=' :: value) :
      readLine text flags options = (flags, emplace options (key.text, value)) := by
    have cut := split_forward key.text value (List.count_eq_zero.mpr key.noEquals)
    rw [readLine, popped, if_neg (notSkipped line), line, if_neg (by simp), cut]
  have readFlag {flag : Key} (line : item.line = flag.text) :
      readLine text flags options = (flags ++ [flag.text], options) := by
    have alone : item.line = flag.text ++ [] := by rw [line, List.append_nil]
    have noEquals : '=' ∉ flag.text := flag.noEquals
    rw [readLine, popped, if_neg (notSkipped alone), line, if_pos noEquals]
  cases item with
  | longFlag flag => exact readFlag rfl
  | shortFlag flag short => exact readFlag rfl
  | longEquals key value => simpa [Item.flags, Item.options] using readOption rfl
  | shortEquals key short value => simpa [Item.flags, Item.options] using readOption rfl
  | attached key short value filled noEquals =>
      simpa [Item.flags, Item.options] using readOption rfl
  | longSpaced key value notDash => simpa [Item.flags, Item.options] using readOption rfl
  | shortSpaced key short value notDash => simpa [Item.flags, Item.options] using readOption rfl

private theorem fileLoop_line {item : Item} (fits : item.FitsLine) (ending : LineEnd) :
    fileLoop (item.line ++ ending.text ++ rest) flags options =
      fileLoop rest (flags ++ item.flags) (item.options.foldl emplace options) := by
  obtain ⟨bare, returned⟩ := popReturn_append fits.noReturn
  cases ending with
  | newline =>
      rw [LineEnd.text, List.append_assoc, List.singleton_append, fileLoop_newline fits.oneLine,
        readLine_item fits bare]
  | returnNewline =>
      have oneLine : '\n' ∉ item.line ++ ['\r'] := by simpa using fits.oneLine
      have shape : item.line ++ ['\r', '\n'] ++ rest = (item.line ++ ['\r']) ++ '\n' :: rest := by
        simp
      rw [LineEnd.text, shape, fileLoop_newline oneLine, readLine_item fits returned]

private theorem fileLoop_items {lines : List (Item × LineEnd)} {last : Option Item}
    {items : List Item}
    (all : lines.map Prod.fst ++ last.toList = items) (fits : ∀ item ∈ items, item.FitsLine) :
    fileLoop (fileText lines last) flags options =
      (flags ++ items.flatMap Item.flags, (items.flatMap Item.options).foldl emplace options) := by
  induction lines generalizing flags options items with
  | nil =>
      cases last with
      | none =>
          subst all
          simp [fileText, fileLoop_last, readLine, popReturn]
      | some item =>
          subst all
          have fit := fits item (by simp)
          rw [fileText, List.flatMap_nil, List.nil_append, Option.map_some, Option.getD_some,
            fileLoop_last fit.oneLine, readLine_item fit (popReturn_append fit.noReturn).1]
          simp
  | cons line lines ih =>
      subst all
      have shape : fileText (line :: lines) last =
          line.1.line ++ line.2.text ++ fileText lines last := by
        simp [fileText]
      rw [shape, fileLoop_line (fits line.1 (by simp)), ih rfl fun item member =>
        fits item (List.mem_cons_of_mem _ member)]
      simp

end Files

section Delivery

variable {σ : Type} {receiver : Receiver σ} {takeFlag : List Char → σ → σ}
  {takeOption : List Char → List Char → σ → σ} {flags : Flags} {options : Options} {state : σ}

/-- The receiver takes flags and options, each with what it does to its state. -/
structure Accepts (receiver : Receiver σ) (takeFlag : List Char → σ → σ)
    (takeOption : List Char → List Char → σ → σ) (flags : Flags) (options : Options) : Prop where
  addsFlag : ∀ flag ∈ flags, ∀ state, receiver.addFlag flag state = .ok true (takeFlag flag state)
  addsOption : ∀ option ∈ options, ∀ state,
    receiver.addOption option.1 option.2 state = .ok true (takeOption option.1 option.2 state)

/-- The flags, and then the options, taken in their order. -/
def taken (takeFlag : List Char → σ → σ) (takeOption : List Char → List Char → σ → σ)
    (flags : Flags) (options : Options) (state : σ) : σ :=
  options.foldl (fun state option => takeOption option.1 option.2 state)
    (flags.foldl (fun state flag => takeFlag flag state) state)

private theorem forM_ok {α : Type} {items : List α} {call : α → EStateM OptionsException σ Unit}
    {take : σ → α → σ} (returns : ∀ item ∈ items, ∀ state, call item state = .ok () (take state item)) :
    items.forM call state = .ok () (items.foldl take state) := by
  induction items generalizing state with
  | nil => rfl
  | cons item items ih =>
      have first := returns item List.mem_cons_self state
      have others : items.forM call (take state item) = .ok () (items.foldl take (take state item)) :=
        ih fun other member => returns other (List.mem_cons_of_mem _ member)
      calc (item :: items).forM call state
          _ = (call item >>= fun _ => items.forM call) state := rfl
          _ = items.forM call (take state item) := by simp only [bind, EStateM.bind, first]
          _ = .ok () ((item :: items).foldl take state) := others

private theorem deliver_accepted (accepts : Accepts receiver takeFlag takeOption flags options) :
    receiver.deliver flags options state = .ok () (taken takeFlag takeOption flags options state) := by
  have flagTaken : ∀ flag ∈ flags, ∀ state,
      receiver.deliverFlag flag state = .ok () (takeFlag flag state) := by
    intro flag member state
    simp [Receiver.deliverFlag, bind, EStateM.bind, accepts.addsFlag flag member, pure, EStateM.pure]
  have optionTaken : ∀ option ∈ options, ∀ state,
      receiver.deliverOption option state = .ok () (takeOption option.1 option.2 state) := by
    intro option member state
    simp [Receiver.deliverOption, bind, EStateM.bind, accepts.addsOption option member, pure,
      EStateM.pure]
  calc receiver.deliver flags options state
      _ = (flags.forM receiver.deliverFlag >>= fun _ => options.forM receiver.deliverOption) state :=
        rfl
      _ = options.forM receiver.deliverOption
            (flags.foldl (fun state flag => takeFlag flag state) state) := by
        simp only [bind, EStateM.bind, forM_ok flagTaken]
      _ = .ok () (taken takeFlag takeOption flags options state) := forM_ok optionTaken

private theorem emplaced_perm (options emplaced : Options) :
    (options.foldl emplace emplaced).Perm (emplaced ++ options) := by
  induction options generalizing emplaced with
  | nil => simp
  | cons option options ih =>
      have first : (emplace emplaced option).Perm (option :: emplaced) :=
        List.perm_orderedInsert _ option emplaced
      calc (options.foldl emplace (emplace emplaced option))
          _ |>.Perm (emplace emplaced option ++ options) := ih _
          _ |>.Perm (option :: emplaced ++ options) := first.append_right options
          _ |>.Perm (emplaced ++ option :: options) := List.perm_middle.symm

end Delivery

/-- Options that are read back from what they were written as, an argument or a line of a file. -/
theorem parse_written {σ : Type} (receiver : Receiver σ) (takeFlag : List Char → σ → σ)
    (takeOption : List Char → List Char → σ → σ) (items : List Item) (state : σ)
    (accepts : Accepts receiver takeFlag takeOption (items.flatMap Item.flags)
      (items.flatMap Item.options)) :
    ∃ delivered : Options, delivered.Perm (items.flatMap Item.options) ∧
      (∀ program trailing,
        receiver.parseArgs (commandArgs program items trailing) true state =
          .ok (consumed items trailing)
            (taken takeFlag takeOption (items.flatMap Item.flags) delivered state)) ∧
      ∀ lines last, lines.map Prod.fst ++ last.toList = items → (∀ item ∈ items, item.FitsLine) →
        receiver.parseFile (some (fileText lines last)) state =
          .ok () (taken takeFlag takeOption (items.flatMap Item.flags) delivered state) := by
  have held : ((items.flatMap Item.options).foldl emplace []).Perm (items.flatMap Item.options) := by
    simpa using emplaced_perm (items.flatMap Item.options) []
  have accepted : Accepts receiver takeFlag takeOption (items.flatMap Item.flags)
      ((items.flatMap Item.options).foldl emplace []) :=
    ⟨accepts.addsFlag, fun option member => accepts.addsOption option (held.mem_iff.mp member)⟩
  refine ⟨_, held, ?_, ?_⟩
  · intro program trailing
    have read : parseLoop true 1 (items.flatMap Item.args ++
        (trailing.map ("--".toList :: ·)).getD []) [] [] = _ :=
      parseLoop_items items (dashed_trailing trailing)
    rw [parseLoop_trailing] at read
    rw [Receiver.parseArgs, commandArgs, List.cons_append, List.drop_one, List.tail_cons, read]
    simp [bind, EStateM.bind, deliver_accepted accepted, pure, EStateM.pure, consumed]
  · intro lines last all fits
    rw [Receiver.parseFile, fileLoop_items all fits, List.nil_append]
    exact deliver_accepted accepted

/-- `TestOptions`: it keeps all that it is given. -/
def recorder : Receiver (Flags × Options) where
  addFlag flag state := .ok true (state.1 ++ [flag], state.2)
  addOption option value state := .ok true (state.1, state.2 ++ [(option, value)])
  validate := pure ()

/-- A flag, an option and its value in one argument, and one in two. -/
def sampleItems : List Item :=
  [.shortFlag ⟨'a', [], by decide, by decide, by decide⟩ rfl,
    .attached ⟨'b', [], by decide, by decide, by decide⟩ rfl ['1'] (by decide) (by decide),
    .longSpaced ⟨'t', "est2".toList, by decide, by decide, by decide⟩ "val".toList (by decide)]

theorem parse_written_sample :
    ∃ delivered : Options, delivered.Perm [(['b'], ['1']), ("test2".toList, "val".toList)] ∧
      recorder.parseArgs
        [['x'], "-a".toList, "-b1".toList, "--test2".toList, "val".toList, "--".toList, ['y']] true
        ([], []) =
        .ok 6 (taken (fun flag state => (state.1 ++ [flag], state.2))
          (fun option value state => (state.1, state.2 ++ [(option, value)])) [['a']] delivered
          ([], [])) ∧
      recorder.parseFile (some "a\nb=1\r\ntest2=val".toList) ([], []) =
        .ok () (taken (fun flag state => (state.1 ++ [flag], state.2))
          (fun option value state => (state.1, state.2 ++ [(option, value)])) [['a']] delivered
          ([], [])) := by
  obtain ⟨delivered, held, read, file⟩ := parse_written recorder
    (fun flag state => (state.1 ++ [flag], state.2))
    (fun option value state => (state.1, state.2 ++ [(option, value)])) sampleItems ([], [])
    ⟨fun _ _ _ => rfl, fun _ _ _ => rfl⟩
  refine ⟨delivered, held, read ['x'] (some [['y']]), ?_⟩
  refine file [(sampleItems.get ⟨0, by decide⟩, .newline),
    (sampleItems.get ⟨1, by decide⟩, .returnNewline)] sampleItems[2]? rfl ?_
  intro item member
  simp only [sampleItems, List.mem_cons, List.not_mem_nil, or_false] at member
  rcases member with rfl | rfl | rfl
  all_goals exact ⟨by decide, by decide, by decide⟩

end Andromeda.Arguments
