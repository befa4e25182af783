/-
# What the program is asked to do

The options in front of the command say where the files of the client are; they can be set by
variables of the environment too.  The command has options of its own, each with the value that
stands where it is not given (`Invocation.parse`).
-/
import UrlTransfer.Cli.Grammar
import UrlTransfer.Net.Client
import UrlTransfer.Net.Strategy

namespace UrlTransfer

namespace Cli

/-! ## 1. Values -/

/-- Reads a number below `bound`, which is small; minus zero is zero. -/
def smallNumber? (bound : Nat) (s : String) : Option Nat :=
  match s.toList with
  | '-' :: digits => (Numeral.read? 10 digits).filter (· == 0)
  | cs => Numeral.parse? 10 bound cs

/-- How many ports there are. -/
def portBound : Nat := 2 ^ 16

/-- What the number of redirections is below. -/
def redirectBound : Nat := 2 ^ 32

/-- What places in files and lengths of time are below. -/
def sizeBound : Nat := 2 ^ 64

/-- Reads a place in a file or a length of time. -/
def size? (s : String) : Option Nat := Numeral.parse? 10 sizeBound s.toList

/-- An option that takes any text. -/
def textOption (name : String) (letter : Option Char) : OptionRule :=
  { name, letter, accepts := some fun _ => true }

/-- An option that takes a path, which is not empty. -/
def pathOption (name : String) (letter : Option Char) : OptionRule :=
  { name, letter, accepts := some fun value => value ≠ "" }

/-- An option that takes what a reader accepts. -/
def valueOption {α : Type} (name : String) (letter : Option Char) (read? : String → Option α) :
    OptionRule :=
  { name, letter, accepts := some fun value => (read? value).isSome }

/-! ## 2. Commands -/

/-- How to fetch a URL. -/
structure GetOptions where
  url : String
  method : String := "GET"
  headers : List String := []
  data : Option String := none
  /-- The file that the body is written to. -/
  output : Option String := none
  /-- Whether the head is printed. -/
  showHead : Bool := false
  redirects : Nat := 5
  /-- How long connecting may take, in seconds. -/
  timeout : Option Nat := none
  strategy : Strategy := .default
deriving Repr, DecidableEq

/-- What to do. -/
inductive Command where
  | get (options : GetOptions)
  | resolve (host : String)
  | talk (url : String)
  | echo (port : Nat)
  | file (url : String) (start stop : Option Nat)
deriving Repr, DecidableEq

/-- The variables of the environment. -/
abbrev Environment := List (String × String)

/-- The words of `get`. -/
def getGrammar : Grammar :=
  { places := 1
    options := [
      textOption "method" (some 'X'),
      { textOption "header" (some 'H') with repeats := true },
      textOption "data" (some 'd'),
      pathOption "output" (some 'o'),
      { name := "include", letter := some 'i' },
      valueOption "max-redirects" none (smallNumber? redirectBound),
      valueOption "timeout" none size?,
      valueOption "strategy" none Strategy.parse?,
      { name := "stats" }] }

/-- Reads the words behind `get`. -/
def parseGet (g : Given) (url : String) : GetOptions :=
  { url
    method := (g.value? "method").getD "GET"
    headers := g.valuesOf "header"
    data := g.value? "data"
    output := g.value? "output"
    showHead := g.has "include"
    redirects := ((g.value? "max-redirects").bind (smallNumber? redirectBound)).getD 5
    timeout := (g.value? "timeout").bind size?
    strategy := ((g.value? "strategy").bind Strategy.parse?).getD .default }

/-- The words of `echo`. -/
def echoOption : OptionRule := valueOption "port" (some 'p') (smallNumber? portBound)

/-- Reads the port to serve, which the environment can set. -/
def parsePort (env : Environment) (g : Given) : Except Refusal Nat :=
  match (g.value? "port").orElse fun _ => env.lookup "FETCH_ECHO_PORT" with
  | none => .ok 8080
  | some text =>
    match smallNumber? portBound text with
    | some port => .ok port
    | none => .error .usage

/-- The words of `file`. -/
def fileGrammar : Grammar :=
  { places := 1, options := [valueOption "start" none size?, valueOption "end" none size?] }

/-- The words of a command with one word of its own. -/
def wordGrammar : Grammar := { places := 1 }

/-- The first word, which has to be there. -/
def Given.word (g : Given) : Except Refusal String :=
  match g.words with
  | word :: _ => .ok word
  | [] => .error .usage

/-- The names of the commands. -/
def commandNames : List String := ["get", "resolve", "ws", "echo", "file", "help"]

/-- Reads a command with its words. -/
def Command.parse (env : Environment) : List String → Except Refusal Command
  | "get" :: rest => do
    let (g, _) ← getGrammar.read rest
    return .get (parseGet g (← g.word))
  | "resolve" :: rest => do
    let (g, _) ← wordGrammar.read rest
    return .resolve (← g.word)
  | "ws" :: rest => do
    let (g, _) ← wordGrammar.read rest
    return .talk (← g.word)
  | "echo" :: rest => do
    let (g, _) ← Grammar.read { options := [echoOption] } rest
    return .echo (← parsePort env g)
  | "file" :: rest => do
    let (g, _) ← fileGrammar.read rest
    return .file (← g.word) ((g.value? "start").bind size?) ((g.value? "end").bind size?)
  | "help" :: rest =>
    match rest with
    | [] => .error .help
    | [name] => .error (if commandNames.contains name then .help else .usage)
    | _ => .error .usage
  | _ => .error .usage

/-! ## 3. Command lines -/

/-- A command, and where the files of the client are that carries it out. -/
structure Invocation where
  locations : Locations
  command : Command

/-- The words in front of a command. -/
def mainGrammar : Grammar :=
  { commands := commandNames
    options := [
      pathOption "resolv-conf" none, pathOption "hosts" none, pathOption "certs-dir" none] }

/-- A path by an option, else by a variable of the environment, else `usual`. -/
def parsePath (env : Environment) (g : Given) (option variableName : String) (usual : Bytes) :
    Except Refusal Bytes :=
  match (g.value? option).orElse fun _ => env.lookup variableName with
  | none => .ok usual
  | some "" => .error .usage
  | some path => .ok (Bytes.ofString path)

/-- Reads a command line. -/
def Invocation.parse (env : Environment) (args : List String) : Except Refusal Invocation := do
  let (g, rest) ← mainGrammar.read args
  let command ← Command.parse env rest
  let usual : Locations := {}
  let settings ← parsePath env g "resolv-conf" "FETCH_RESOLV_CONF" usual.settings
  let hosts ← parsePath env g "hosts" "FETCH_HOSTS" usual.hosts
  let certificates ← parsePath env g "certs-dir" "FETCH_CERTS_DIR" usual.certificates
  return { locations := { settings, hosts, certificates }, command }

end Cli

end UrlTransfer
