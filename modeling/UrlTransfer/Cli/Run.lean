/-
# Carrying out a command

Each command works on a client; what it prints goes to the standard output of the system.  A
command that fails keeps what it had printed and written until then.  The outcome is an exit code,
and the report of a failure (`run`).
-/
import UrlTransfer.Cli.Arguments
import UrlTransfer.Cli.Relay
import UrlTransfer.File.Request
import UrlTransfer.Http.Response
import UrlTransfer.Text.Uppercase
import UrlTransfer.WebSocket.Client
import UrlTransfer.WebSocket.Echo
import UrlTransfer.WebSocket.Server

namespace UrlTransfer

namespace Cli

/-! ## 1. Printing -/

/-- Prints bytes. -/
def printBytes {ε : Type} (bytes : Bytes) : Act ε Client Unit :=
  Client.onSystem (System.print bytes)

/-- Prints lines. -/
def printLines {ε : Type} (lines : List String) : Act ε Client Unit :=
  printBytes (Bytes.ofString (String.join (lines.map (· ++ "\n"))))

/-- An action of the library. -/
def onLibrary {σ α : Type} (x : Act Error σ α) : Act Failure σ α := Act.mapError .library x

/-! ## 2. Fetching a URL -/

/-- Adds a header, which is a name and a value around a colon. -/
def addHeader (request : Http.Request) (header : String) : Except Failure Http.Request :=
  match Text.splitOnce ':' header with
  | none => .error (.invalidHeader header)
  | some (name, value) => .ok (request.setHeader (Text.trimmed name) (Text.trimmed value))

/-- The request that options stand for. -/
def GetOptions.request (o : GetOptions) : Except Failure Http.Request :=
  match Http.Method.parse? (Uppercase.text o.method) with
  | none => .error .invalidMethod
  | some method =>
    o.headers.foldlM addHeader
      { Http.Request.ofUrl method o.url with
        redirects := o.redirects
        strategy := o.strategy
        timeout := o.timeout.map Duration.ofSeconds
        payload := o.data.map fun data => .bytes (Bytes.ofString data) }

/-- The head of a response in lines, the last of them empty. -/
def headLines (head : Http.Head) : List String :=
  (head.version.text ++ " " ++ head.status.text) ::
    (head.headers.toList.map fun (name, value) => name.text ++ ": " ++ value.lossyText) ++ [""]

/-- Writes to a file that is made, or made empty, for it. -/
def writeFile (path : String) (content : Bytes) : Act Failure Client Unit := do
  let c ← get
  match c.system.files.create (Bytes.ofString path) with
  | .error fault => Act.fail (.io fault)
  | .ok (place, files) =>
    set { c with system := { c.system with files := files.put place content } }

/-- Writes a body to where the options say.  **What came of a broken body is written** before the
failure is reported. -/
def copyBody (output : Option String) (body : Http.Body) : Act Failure Client Unit := do
  let arrival := body.arrive
  match output with
  | none => printBytes arrival.chunks.flatten
  | some path => writeFile path arrival.chunks.flatten
  match arrival.halt with
  | none => return ()
  | some halt => throw (halt.map fun error => .io error.toIo)

/-- Fetches a URL. -/
def fetch (o : GetOptions) : Act Failure Client Unit := do
  let request ← Act.ofExcept o.request
  let response ← Act.within (request, ·) (fun (_, c) _ => c) (onLibrary Http.Request.run)
  if o.showHead then printLines (headLines response.head)
  copyBody o.output response.body

/-! ## 3. The other commands -/

/-- Prints the addresses of a host. -/
def resolve (host : String) : Act Failure Client Unit := do
  let addresses ← onLibrary (Client.resolve host)
  printLines (addresses.v4.map Ipv4.text ++ addresses.v6.map Ipv6.text)

/-- Talks to a server over a session. -/
def talk (url : String) : Act Failure Client Unit := do
  let session ← Act.within (WebSocket.Request.ofUrl url, ·) (fun (_, c) _ => c)
    (onLibrary WebSocket.Request.run)
  let result := relay (.ofInflow (← get).system.input) session
  modify fun c => { c with system := result.session.settle c.system }
  printLines (result.frames.map WebSocket.Frame.describe)
  match result.halt with
  | none => return ()
  | some halt => throw halt

/-- Serves one connection of the echo service.  How it ends is nobody's concern. -/
def echoOne (conn : Conn) (state : Unit × System) : Unit × System :=
  match WebSocket.serve {} conn state.2 with
  | .error _ s => ((), s)
  | .ok session s =>
    match session.echo with
    | .ok () session | .error _ session => ((), session.settle s)

/-- Runs the echo service, up to the failure to accept a connection. -/
def serveEcho : Act Failure Client Unit :=
  Client.onSystem (Act.within ((), ·) (fun (_, s) _ => s)
    (onLibrary (Act.mapError .io (System.serveAll echoOne))))

/-- Prints a file or a range of it. -/
def printFile (url : String) (start stop : Option Nat) : Act Failure Client Unit := do
  let files := (← get).system.files
  let (range, _) ← Act.aside (onLibrary (FileRequest.run files))
    { FileRequest.ofUrl url with start, stop }
  let (content, _) ← Act.aside (Act.mapError .io FileRange.bytes) range
  printBytes content

/-! ## 4. Outcomes -/

/-- Carries out a command. -/
def Command.run : Command → Act Failure Client Unit
  | get options => fetch options
  | resolve host => Cli.resolve host
  | talk url => Cli.talk url
  | echo _ => serveEcho
  | file url start stop => printFile url start stop

/-- How a program ended. -/
structure Outcome where
  exitCode : Nat
  /-- The report of a failure. -/
  report : Option String := none
  client : Client

/-- The exit code of a program that would wait for ever. -/
def stalledCode : Nat := 99

/-- Runs the program with the words of a command line.  **A command line that is refused touches
nothing.** -/
def run (env : Environment) (args : List String) (client : Client) : Outcome :=
  match Invocation.parse env args with
  | .error .help => { exitCode := 0, client }
  | .error .usage => { exitCode := 2, client }
  | .ok invocation =>
    match invocation.command.run (client.configure invocation.locations) with
    | .ok () client => { exitCode := 0, client }
    | .error .stalled client => { exitCode := stalledCode, client }
    | .error (.failed failure) client => { exitCode := 1, report := some failure.report, client }

end Cli

end UrlTransfer
