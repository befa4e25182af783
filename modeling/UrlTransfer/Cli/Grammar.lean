/-
# The words of a command line

A command line is a list of words.  Those with a dash in front are options: by name, with a value
behind an equals sign or in the next word, or by letter, where several letters may share a word and
the rest of the word behind a letter is its value.  A lone `--` ends the options.  The other words
count by their place, or name a command that takes over the rest.

A word that looks like an option is never the value of another (`Grammar.scan`).
-/

namespace UrlTransfer

namespace Cli

/-- Why a command line is not carried out. -/
inductive Refusal where
  /-- It breaks the rules. -/
  | usage
  /-- It asks for help. -/
  | help
deriving Repr, DecidableEq

/-- An option. -/
structure OptionRule where
  name : String
  letter : Option Char := none
  /-- Which values it takes; without them it is a switch. -/
  accepts : Option (String → Bool) := none
  /-- Whether it may be given more than once. -/
  repeats : Bool := false

/-- What a command line may hold. -/
structure Grammar where
  options : List OptionRule := []
  /-- How many words count by their place. -/
  places : Nat := 0
  /-- Words that take over the rest. -/
  commands : List String := []

/-- What a command line holds: values by the names of their options, and words by their place. -/
structure Given where
  values : List (String × String) := []
  words : List String := []
deriving Repr, DecidableEq

namespace Given

/-- The value of an option. -/
def value? (name : String) (g : Given) : Option String := g.values.lookup name

/-- Is the option given? -/
def has (name : String) (g : Given) : Bool := (g.value? name).isSome

/-- All values of an option. -/
def valuesOf (name : String) (g : Given) : List String :=
  (g.values.filter (·.1 == name)).map Prod.snd

/-- Adds an option with its value, which is empty for a switch. -/
def add (rule : OptionRule) (value : String) (g : Given) : Except Refusal Given :=
  if g.has rule.name && !rule.repeats then .error .usage
  else if rule.accepts.any (fun accepts => !accepts value) then .error .usage
  else .ok { g with values := g.values ++ [(rule.name, value)] }

end Given

/-- A word by its form. -/
inductive Token where
  /-- The end of the options. -/
  | escape
  | long (name : String) (value : Option String)
  | letters (list : List Char)
  | word (text : String)
deriving Repr, DecidableEq

/-- The form of a word.  A lone dash is a word like any other. -/
def Token.ofText (text : String) : Token :=
  match text.toList with
  | ['-', '-'] => .escape
  | '-' :: '-' :: rest =>
    match rest.dropWhile (· ≠ '=') with
    | [] => .long (String.ofList rest) none
    | _ :: value => .long (String.ofList (rest.takeWhile (· ≠ '='))) (some (String.ofList value))
  | '-' :: c :: rest => .letters (c :: rest)
  | _ => .word text

namespace Grammar

/-- Takes the options of a word of letters; returns also the option that waits for its value. -/
def takeLetters (gr : Grammar) (g : Given) : List Char → Except Refusal (Given × Option OptionRule)
  | [] => .ok (g, none)
  | c :: rest =>
    if c == 'h' then .error .help
    else
      match gr.options.find? (·.letter == some c) with
      | none => .error .usage
      | some rule =>
        if rule.accepts.isNone then
          match g.add rule "" with
          | .ok g => takeLetters gr g rest
          | .error refusal => .error refusal
        else
          match rest with
          | [] => .ok (g, some rule)
          | '=' :: value => (g.add rule (String.ofList value)).map (·, none)
          | value => (g.add rule (String.ofList value)).map (·, none)

/-- Takes a word by its place. -/
def takeWord (gr : Grammar) (g : Given) (text : String) : Except Refusal Given :=
  if g.words.length < gr.places then .ok { g with words := g.words ++ [text] }
  else .error .usage

/-- Takes an option by its name. -/
def takeLong (gr : Grammar) (g : Given) (name : String) (value : Option String) :
    Except Refusal (Given × Option OptionRule) :=
  if name == "help" then .error (if value.isSome then .usage else .help)
  else
    match gr.options.find? (·.name == name) with
    | none => .error .usage
    | some rule =>
      match rule.accepts, value with
      | some _, none => .ok (g, some rule)
      | none, some _ => .error .usage
      | _, _ => (g.add rule (value.getD "")).map (·, none)

/-- Takes the words of a command line in their order, up to a command.  `waiting` is the option
that the next word is the value of. -/
def scan (gr : Grammar) (g : Given) (waiting : Option OptionRule) :
    List String → Except Refusal (Given × List String)
  | [] => if waiting.isSome then .error .usage else .ok (g, [])
  | arg :: rest =>
    match waiting, Token.ofText arg with
    | some rule, .word text => do scan gr (← g.add rule text) none rest
    | some _, _ => .error .usage
    | none, .escape => (rest.foldlM gr.takeWord g).map (·, [])
    | none, .long name value => do
      let (g, waiting) ← gr.takeLong g name value
      scan gr g waiting rest
    | none, .letters list => do
      let (g, waiting) ← gr.takeLetters g list
      scan gr g waiting rest
    | none, .word text =>
      if gr.commands.contains text then .ok (g, arg :: rest)
      else do scan gr (← gr.takeWord g text) none rest

/-- What the words of a command line give, and the words from the command on. -/
def read (gr : Grammar) (args : List String) : Except Refusal (Given × List String) :=
  gr.scan {} none args

end Grammar

end Cli

end UrlTransfer
