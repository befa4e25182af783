/-
# The table of hosts

A text with a line for each address: the address and the names of its host, and anything behind a
`#`.  Lines without an address and names that are none are passed over.  A name can stand in
several lines, and has all their addresses, in the order of the lines.
-/
import UrlTransfer.Dns.Lookup
import UrlTransfer.File.Tree
import UrlTransfer.Text.Lowercase

namespace UrlTransfer

namespace Dns

/-- The records of one name. -/
structure HostEntry where
  name : Name
  v4 : List Record := []
  v6 : List Record := []
deriving DecidableEq

/-- A table of hosts, with one entry for each name. -/
structure Hosts where
  entries : List HostEntry := []
deriving DecidableEq

namespace Hosts

/-- The record that says that a host has an address. -/
def record (name : Name) : IpAddr → Record
  | .v4 ip => ⟨name, .a, .internet, 0, some (.ipv4 ip)⟩
  | .v6 ip => ⟨name, .aaaa, .internet, 0, some (.ipv6 ip)⟩

/-- Adds an address to the entry of a name. -/
def addTo (name : Name) (ip : IpAddr) (e : HostEntry) : HostEntry :=
  match ip with
  | .v4 _ => { e with v4 := e.v4 ++ [record name ip] }
  | .v6 _ => { e with v6 := e.v6 ++ [record name ip] }

/-- Adds an address to the entry of a name among others. -/
def insertTo (name : Name) (ip : IpAddr) : List HostEntry → List HostEntry
  | [] => [addTo name ip { name }]
  | e :: rest => if e.name.sameAs name then addTo name ip e :: rest else e :: insertTo name ip rest

/-- Adds an address to a name. -/
def insert (name : Name) (ip : IpAddr) (h : Hosts) : Hosts := ⟨insertTo name ip h.entries⟩

/-- The address of a line, and the names that it belongs to. -/
def parseLine? (line : String) : Option (IpAddr × List Name) :=
  match Text.words (String.ofList (line.toList.takeWhile (· ≠ '#'))) with
  | [] => none
  | ip :: names =>
    (IpAddr.parse? ip).map (·, names.filterMap fun name => Name.parse? (Lowercase.text name))

/-- Adds a line to a table. -/
def addLine (h : Hosts) (line : String) : Hosts :=
  match parseLine? line with
  | none => h
  | some (ip, names) => names.foldl (fun h name => h.insert name ip) h

/-- Reads a table. -/
def parse (text : String) : Hosts := (Text.lines text).foldl addLine {}

/-- How many names the table has. -/
def size (h : Hosts) : Nat := h.entries.length

/-- The records of a type in an entry. -/
def HostEntry.records (type : RecordType) (e : HostEntry) : List Record :=
  if type = .a then e.v4 else if type = .aaaa then e.v6 else []

/-- Answers a query; without records **there are no data**, whether the name is known or not. -/
def lookup (query : Query) (h : Hosts) : Except DnsError Lookup :=
  match h.entries.find? (·.name.sameAs query.name) with
  | none => .error .noData
  | some e =>
    match HostEntry.records query.type e with
    | [] => .error .noData
    | first :: rest =>
      .ok { query := { name := first.name, type := query.type }, records := first :: rest }

/-- Reads the table in a file; without the file it is empty. -/
def load (path : Bytes) (files : Tree) : Except IoError Hosts :=
  match files.readText path with
  | .ok text => .ok (parse text)
  | .error fault => if fault.kind = .notFound then .ok {} else .error fault

end Hosts

end Dns

end UrlTransfer
