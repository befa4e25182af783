/-
# Files by their paths

A `Tree` is all files that there are, each at the list of names that leads to it, and the
directories that were made without a file in them.  Whatever lies on the way to one of them is a
directory too.

A path is read name by name: empty names and `.` stay in place, `..` goes back.  The way has to
lead through directories (`Tree.find`).
-/
import UrlTransfer.Act
import UrlTransfer.Bytes
import UrlTransfer.Stream.Fault
import UrlTransfer.Text.Utf8

namespace UrlTransfer

/-- What is found at the end of a path. -/
inductive Node where
  | file (content : Bytes)
  | directory
deriving Repr, DecidableEq

/-- All files and directories, by the names that lead to them. -/
structure Tree where
  entries : List (List Bytes × Node) := []
deriving Repr, DecidableEq

namespace Tree

/-- The names of a path. -/
def names (path : Bytes) : List Bytes := path.splitOn 47

/-- The path as text. -/
def pathText (path : Bytes) : String := Utf8.decodeLossy path

/-- What these names lead to from the root. -/
def at? (place : List Bytes) (t : Tree) : Option Node :=
  match t.entries.lookup place with
  | some node => some node
  | none => if place.isEmpty || t.entries.any (place.isPrefixOf ·.1) then some .directory else none

/-- Walks on from `place`, which is a directory or, at the end of the way, a file.  Returns the
place that is reached, and what is there. -/
def walk (t : Tree) (place : List Bytes) : List Bytes → Except IoKind (List Bytes × Node)
  | [] =>
    match t.at? place with
    | some node => .ok (place, node)
    | none => .error .notFound
  | name :: rest =>
    if name.isEmpty || name == [46] then walk t place rest
    else
      match t.at? place with
      | none => .error .notFound
      | some (.file _) => .error .notADirectory
      | some .directory =>
        if name == [46, 46] then walk t place.dropLast rest else walk t (place ++ [name]) rest

/-- What a path leads to. -/
def find (path : Bytes) (t : Tree) : Except IoError Node :=
  if path.contains 0 then
    .error { kind := .invalidInput, detail := some "file name contained an unexpected NUL byte" }
  else if path.isEmpty then .error (.ofSystem .notFound)
  else
    match walk t [] (names path) with
    | .ok (_, node) => .ok node
    | .error kind => .error (.ofSystem kind)

/-- The content of a file. -/
def read (path : Bytes) (t : Tree) : Except IoError Bytes :=
  let inContext (fault : IoError) : IoError :=
    fault.inContext ("could not read file `" ++ pathText path ++ "`")
  match t.find path with
  | .ok (.file content) => .ok content
  | .ok .directory => .error (inContext (.ofSystem .isADirectory))
  | .error fault => .error (inContext fault)

/-- The content of a file of text. -/
def readText (path : Bytes) (t : Tree) : Except IoError String :=
  match t.read path with
  | .error fault => .error fault
  | .ok content =>
    match Utf8.decode? content with
    | some text => .ok text
    | none =>
      let fault : IoError :=
        { kind := .invalidData, detail := some "stream did not contain valid UTF-8" }
      .error (fault.inContext ("could not read file `" ++ pathText path ++ "`"))

/-- The contents of the files that a directory holds, without those of its own directories. -/
def readDirectory (path : Bytes) (t : Tree) : Except IoError (List Bytes) :=
  let inContext (fault : IoError) : IoError :=
    fault.inContext ("could not read directory `" ++ pathText path ++ "`")
  match t.find path, walk t [] (names path) with
  | .error fault, _ => .error (inContext fault)
  | .ok (.file _), _ => .error (inContext (.ofSystem .notADirectory))
  | .ok .directory, .ok (place, _) =>
    .ok (t.entries.filterMap fun (names, node) =>
      match node with
      | .file content => if names.dropLast == place && !names.isEmpty then some content else none
      | .directory => none)
  | .ok .directory, .error kind => .error (inContext (.ofSystem kind))

/-- Puts a file in its place. -/
def put (place : List Bytes) (content : Bytes) (t : Tree) : Tree :=
  ⟨t.entries.filter (·.1 != place) ++ [(place, .file content)]⟩

/-- Makes a file, or makes it empty, and returns its place; its directory has to be there. -/
def create (path : Bytes) (t : Tree) : Except IoError (List Bytes × Tree) :=
  let failed (kind : IoKind) : Except IoError (List Bytes × Tree) := .error (.ofSystem kind)
  let made (place : List Bytes) : Except IoError (List Bytes × Tree) := .ok (place, t.put place [])
  match t.find path, walk t [] (names path) with
  | .ok .directory, _ => failed .isADirectory
  | .ok (.file _), .ok (place, _) => made place
  | .ok (.file _), .error kind => failed kind
  | .error fault, _ =>
    let way := (names path).filter (!·.isEmpty)
    match fault.kind, way.getLast?, walk t [] way.dropLast with
    | .notFound, some name, .ok (place, .directory) =>
      if (names path).getLast? == some [] then failed .isADirectory else made (place ++ [name])
    | .notFound, _, .ok (_, .file _) => failed .notADirectory
    | _, _, _ => .error fault

end Tree

end UrlTransfer
