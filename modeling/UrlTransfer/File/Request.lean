/-
# Requests for files

A request for a `file` URL opens the file at its path (`Url.filePath?`), or a range of it.
-/
import UrlTransfer.File.Range
import UrlTransfer.Target

namespace UrlTransfer

/-- Is the byte an ASCII letter? -/
def isLetterByte (b : UInt8) : Bool := Bytes.isUpper b || Bytes.isUpper (b - 32)

/-- Does the path end in a drive, which takes a slash behind it? -/
def endsInDrive (path : Bytes) : Bool :=
  match path.reverse with
  | mark :: letter :: _ :: _ => isLetterByte letter && (mark == 58 || mark == 124)
  | _ => false

/-- The path of the file that a URL names.  **There is none on another host**, and none where the
path is not divided into segments. -/
def Url.filePath? (u : Url) : Option Bytes :=
  match u.path, u.host with
  | .segments segments, none | .segments segments, some (.domain "localhost") =>
    let path := segments.flatMap fun segment => 47 :: Percent.decode segment.toList
    some (if endsInDrive path then path ++ [47] else path)
  | _, _ => none

/-- A request for a file or a range of it. -/
structure FileRequest where
  target : Target
  start : Option Nat := none
  stop : Option Nat := none

namespace FileRequest

/-- A request for a URL. -/
def ofUrl (url : String) : FileRequest := { target := Target.parse (· == "file") url }

/-- A copy of the request. -/
def copy (r : FileRequest) : FileRequest := { r with target := r.target.copy }

/-- Opens the range of a file at a path. -/
def openRange (path : Bytes) (start stop : Option Nat) (files : Tree) :
    Except IoError FileRange :=
  match files.find path with
  | .ok node => FileRange.ofNode node start stop
  | .error fault => .error (fault.inContext ("could not open `" ++ Tree.pathText path ++ "`"))

/-- Opens the file. -/
def run (files : Tree) : Act Error FileRequest FileRange := do
  let url ← Act.within FileRequest.target (fun target r => { r with target }) Target.finalize
  let r ← get
  match url.filePath? with
  | none => Act.fail .invalidRequest
  | some path => Act.ofExcept ((openRange path r.start r.stop files).mapError .io)

end FileRequest

end UrlTransfer
