/-
# Settings of the resolver

A text of lines that each start with a keyword: `nameserver` with an address, `options` with the
number of attempts and the like, and some that mean nothing here but have to be well formed.  One
line that is not spoils the whole text.
-/
import UrlTransfer.Dns.NameServer
import UrlTransfer.Text.Alphanumeric

namespace UrlTransfer

namespace Dns

/-- Settings of the resolver. -/
structure Settings where
  servers : List NameServer
  dots : Nat := 1
  attempts : Nat := 2
  rotate : Bool := false
  timeout : Duration := .ofSeconds 5
deriving DecidableEq

namespace Settings

/-- A name server on the local machine. -/
def ownMachine : NameServer := .ofIp (.v4 ⟨127, 0, 0, 1⟩)

/-- The settings where there are none: a name server on the local machine. -/
def standard : Settings := { servers := [ownMachine] }

/-- What lines before have set, before defaults and bounds. -/
structure Draft where
  servers : List IpAddr := []
  dots : Nat := 1
  attempts : Nat := 2
  rotate : Bool := false
  timeout : Nat := 5

/-- Reads an address; a version 6 one may be followed by a scope. -/
def parseServer? (word : String) : Option IpAddr :=
  match Text.pieces '%' word with
  | [ip] => IpAddr.parse? ip
  | ip :: scope :: _ =>
    match IpAddr.parse? ip with
    | some (.v6 ip) =>
      if !scope.isEmpty && scope.toList.all Alphanumeric.isAlphanumeric then some (.v6 ip) else none
    | _ => none
  | [] => none

/-- Is it an address, perhaps with a mask of the same version?  The zero address needs one, since
it does not show how much of it counts. -/
def isNetwork (word : String) : Bool :=
  match (Text.pieces '/' word).map IpAddr.parse? with
  | [some (.v4 ip)] => ip.toNat != 0
  | [some (.v6 _)] | [some (.v4 _), some (.v4 _)] | [some (.v6 _), some (.v6 _)] => true
  | _ => false

/-- Reads a number of 32 bits. -/
def number? (text : String) : Option Nat := Numeral.parse? 10 (2 ^ 32) text.toList

/-- The options that mean nothing here. -/
def idleOptions : List String :=
  ["debug", "no-check-names", "inet6", "ip6-bytestring", "ip6-dotint", "no-ip6-dotint", "edns0",
    "single-request", "single-request-reopen", "no-reload", "trust-ad", "no-tld-query", "use-vc",
    "no-aaaa"]

/-- Sets one option. -/
def setOption? (d : Draft) (word : String) : Option Draft :=
  match Text.splitOnce ':' word with
  | some ("ndots", value) => (number? value).map fun n => { d with dots := n }
  | some ("timeout", value) => (number? value).map fun n => { d with timeout := n }
  | some ("attempts", value) => (number? value).map fun n => { d with attempts := n }
  | other =>
    let key := (other.map (·.1)).getD word
    if key = "rotate" then some { d with rotate := true }
    else if idleOptions.contains key then some d
    else none

/-- Reads the words of a line. -/
def readWords? (d : Draft) : List String → Option Draft
  | [] => some d
  | "nameserver" :: words =>
    match words with
    | [word] => (parseServer? word).map fun ip => { d with servers := d.servers ++ [ip] }
    | _ => none
  | "domain" :: words => if words.length = 1 then some d else none
  | "search" :: _ => some d
  | "lookup" :: _ => some d
  | "sortlist" :: words => if words.all isNetwork then some d else none
  | "family" :: words => if words.all fun w => w = "inet4" || w = "inet6" then some d else none
  | "options" :: words => words.foldlM setOption? d
  | _ => none

/-- Does the byte start a comment? -/
def isMark (b : UInt8) : Bool := b == 35 || b == 59

/-- Reads a line.  **A line that is all comment counts as empty, whatever its bytes**; every other
has to be UTF-8 even in its comment. -/
def readLine? (d : Draft) (line : Bytes) : Option Draft :=
  if ((line.dropWhile fun b => b == 32 || b == 9).head?).any isMark then some d
  else do
    let text ← Utf8.decode? line
    readWords? d (Text.words (String.ofList (text.toList.takeWhile fun c => c != '#' && c != ';')))

/-- The settings of a draft: at least one name server, one attempt and one second. -/
def ofDraft (d : Draft) : Settings :=
  { servers := if d.servers.isEmpty then [ownMachine] else d.servers.map NameServer.ofIp
    dots := d.dots
    attempts := max d.attempts 1
    rotate := d.rotate
    timeout := .ofSeconds (max d.timeout 1) }

/-- Reads settings. -/
def parse? (content : Bytes) : Option Settings :=
  ((content.splitOn 10).foldlM readLine? {}).map ofDraft

/-- Reads the settings in a file; without the file, or where they are spoilt, they are the standard
ones. -/
def load (path : Bytes) (files : Tree) : Except IoError Settings :=
  match files.read path with
  | .ok content => .ok ((parse? content).getD standard)
  | .error fault => if fault.kind = .notFound then .ok standard else .error fault

end Settings

end Dns

end UrlTransfer
