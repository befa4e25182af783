/-
# The program

The words of the command line and the variables of the environment are handed to `Cli.run`, with
the files that the command can ask for.  What it prints goes to standard output, the report of a
failure to standard error.

The surroundings that it is run in hold files and nothing else: every connection is refused, and
no name server answers.
-/
import UrlTransfer.Cli.Run

namespace UrlTransfer

namespace Main

/-- The place of a path in a tree. -/
def place (path : Bytes) : List Bytes :=
  (Tree.names path).filter fun name => !name.isEmpty && name != [46]

/-- The file at a path, or the directory with the files in it; nothing if it cannot be read. -/
def load (path : Bytes) : IO (List (List Bytes × Node)) := do
  let file (path : String) : IO (List (List Bytes × Node)) := do
    let content ← IO.FS.readBinFile path
    return [(place (Bytes.ofString path), .file content.toList)]
  let text := Tree.pathText path
  try file text
  catch _ =>
    try
      let entries ← (← IO.FS.realPath text).readDir
      let files ← entries.toList.mapM fun entry => do
        try file (text ++ "/" ++ entry.fileName)
        catch _ => return []
      return (place path, .directory) :: files.flatten
    catch _ => return []

/-- The paths that a command line can ask for. -/
def pathsOf (invocation : Cli.Invocation) : List Bytes :=
  let l := invocation.locations
  let named :=
    match invocation.command with
    | .file url _ _ => (FileRequest.ofUrl url).target.url?.bind Url.filePath?
    | _ => none
  [l.settings, l.hosts, l.certificates] ++ named.toList

/-- The variables that the program knows. -/
def environment : IO Cli.Environment := do
  let names := ["FETCH_RESOLV_CONF", "FETCH_HOSTS", "FETCH_CERTS_DIR", "FETCH_ECHO_PORT"]
  names.filterMapM fun name => return (← IO.getEnv name).map (name, ·)

/-- How the program is used. -/
def usage : String :=
  "Usage: fetch [--resolv-conf <PATH>] [--hosts <PATH>] [--certs-dir <PATH>] " ++
    "<get | resolve | ws | echo | file> ..."

/-- Runs the program with the words of a command line, and returns its exit code. -/
def run (args : List String) : IO UInt32 := do
  let env ← environment
  let parsed := Cli.Invocation.parse env args
  let paths :=
    match parsed with
    | .ok invocation => pathsOf invocation
    | .error _ => []
  let entries ← paths.mapM load
  let outcome := Cli.run env args { system := { files := ⟨entries.flatten⟩ } }
  (← IO.getStdout).write ⟨outcome.client.system.output.toArray⟩
  match parsed, outcome.report with
  | .error .help, _ => IO.println usage
  | .error .usage, _ => IO.eprintln usage
  | .ok _, some report => IO.eprintln report
  | .ok _, none => pure ()
  return outcome.exitCode.toUInt32

end Main

end UrlTransfer

/-- The program. -/
def main (args : List String) : IO UInt32 := UrlTransfer.Main.run args
