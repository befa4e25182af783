/-
# Reading URLs

A text is read from left to right: scheme, authority, path, query and fragment.  Blanks and
control characters around it do not count, tabs and line breaks nowhere.  With a base, a text
without a scheme is a reference: it takes from the base all the parts that it does not give
itself (`Url.join`).
-/
import UrlTransfer.Url.Basic

namespace UrlTransfer

namespace Url

/-- Cuts off control characters and blanks at the front. -/
def dropControls (cs : List Char) : List Char := cs.dropWhile (·.toNat ≤ 32)

/-- The characters that count. -/
def clean (s : String) : List Char :=
  let cs := (dropControls (dropControls s.toList).reverse).reverse
  cs.filter fun c => c != '\t' && c != '\n' && c != '\r'

/-- The scheme, in small letters, and what follows its colon. -/
def splitScheme? (cs : List Char) : Option (String × List Char) :=
  match cs with
  | [] => none
  | c :: _ =>
    let scheme := cs.takeWhile fun c => c.isAlphanum || c == '+' || c == '-' || c == '.'
    match cs.drop scheme.length with
    | ':' :: rest =>
      if c.isAlpha then some (String.ofList (scheme.map Char.toLower), rest) else none
    | _ => none

/-- Does the character divide a path, in a URL with the given kind of scheme? -/
def isSlash (special : Bool) (c : Char) : Bool := c == '/' || (special && c == '\\')

/-- Does the character end a path? -/
def endsPath (c : Char) : Bool := c == '?' || c == '#'

/-! ## 1. Paths -/

/-- Is it a segment that stands for the segment before it, in one of its spellings? -/
def isDoubleDot (segment : List Char) : Bool :=
  ["..", "%2e%2e", "%2e.", ".%2e"].contains (String.ofList (segment.map Char.toLower))

/-- Is it a segment that stands for nothing? -/
def isSingleDot (segment : List Char) : Bool :=
  [".", "%2e"].contains (String.ofList (segment.map Char.toLower))

/-- Does the text start with the name of a drive, a letter and a colon or bar, and end there or go
on with one of `marks`? -/
def startsWithDrive (marks : List Char) : List Char → Bool
  | letter :: mark :: rest =>
    letter.isAlpha && (mark == ':' || mark == '|') && rest.head?.all marks.contains
  | _ => false

/-- Is it a letter and a colon or bar, which names a drive? -/
def isDriveLetter (segment : List Char) : Bool := startsWithDrive [] segment

/-- Is it a letter and a colon? -/
def isPlainDriveLetter (segment : String) : Bool :=
  isDriveLetter segment.toList && segment.toList.getLast? == some ':'

/-- The segments before the last one of a path; where it names the drive of a file, it stays. -/
def directory (file : Bool) (path : List String) : List String :=
  if file && path.getLast?.any isPlainDriveLetter then path else path.dropLast

/-- The directories without the last one, which stands at the front.  **A drive stays, whatever the
scheme.** -/
def parent (directories : List String) : List String :=
  if directories.head?.any fun last => startsWithDrive ['\\'] last.toList then directories
  else directories.tail

/-- A path that is being read: the segments before the current one, the last first, and whether
the first segment was made the name of a drive. -/
structure PathDraft where
  segments : List String
  drive : Bool := false

/-- Reads a segment; `last` says that no slash follows it.  The first segment of a file's path may
name a drive, which is written with a colon. -/
def addSegment (file : Bool) (draft : PathDraft) (segment : List Char) (last : Bool) : PathDraft :=
  let close (segments : List String) : PathDraft :=
    { draft with segments := if last then "" :: segments else segments }
  if isDoubleDot segment then close (parent draft.segments)
  else if isSingleDot segment then close draft.segments
  else if file && draft.segments.isEmpty && isDriveLetter segment then
    ⟨[String.ofList (segment.take 1 ++ [':'])], true⟩
  else
    { draft with
      segments := String.ofList (Percent.encode Percent.inPath segment) :: draft.segments }

/-- Reads segments; the last of them is the one that no slash follows. -/
def addSegments (file : Bool) (draft : PathDraft) : List (List Char) → PathDraft
  | [] => draft
  | [segment] => addSegment file draft segment true
  | segment :: rest => addSegments file (addSegment file draft segment false) rest

/-- A file's path has no empty segments at its front, unless it has no others. -/
def dropEmpty : List String → List String
  | "" :: second :: rest => dropEmpty (second :: rest)
  | path => path

/-- Extends the directories of a path by what stands before a query or fragment, and says whether
the path then starts with the name of a drive that was not written like this. -/
def extendPath (scheme : String) (directories : List String) (cs : List Char) :
    List String × Bool :=
  let file := scheme == "file"
  let segments := cs.splitOnP (isSlash (isSpecial scheme))
  let draft := addSegments file ⟨directories.reverse, false⟩ segments
  let path := draft.segments.reverse
  (if file then dropEmpty path else path, draft.drive)

/-! ## 2. Query and fragment -/

/-- Reads query and fragment, of which each starts with its mark. -/
def withQueryAndFragment (u : Url) (cs : List Char) : Url :=
  let query (cs : List Char) : String :=
    String.ofList (Percent.encode (Percent.inQuery (isSpecial u.scheme)) cs)
  let fragment (cs : List Char) : String := String.ofList (Percent.encode Percent.inFragment cs)
  match cs with
  | '?' :: rest =>
    let q := rest.takeWhile (· ≠ '#')
    match rest.drop q.length with
    | '#' :: f => { u with query := some (query q), fragment := some (fragment f) }
    | _ => { u with query := some (query q), fragment := none }
  | '#' :: f => { u with fragment := some (fragment f) }
  | _ => u

/-- The text without a slash at its front. -/
def dropSlash (special : Bool) : List Char → List Char
  | c :: rest => if isSlash special c then rest else c :: rest
  | [] => []

/-- Reads path, query and fragment, with the directories before them; and says whether the path
starts with the name of a drive that was not written like this. -/
def readRest (u : Url) (directories : List String) (cs : List Char) : Url × Bool :=
  let here := cs.takeWhile (!endsPath ·)
  let (path, drive) := extendPath u.scheme directories here
  (withQueryAndFragment { u with path := .segments path } (cs.drop here.length), drive)

/-- Reads path, query and fragment, with the directories before them. -/
def withRest (u : Url) (directories : List String) (cs : List Char) : Url :=
  (readRest u directories cs).1

/-! ## 3. Authority -/

/-- The characters of an authority. -/
def authorityOf (special : Bool) (cs : List Char) : List Char :=
  cs.takeWhile fun c => !(isSlash special c || endsPath c)

/-- User information and what follows it: the last `@` of the authority divides them. -/
def splitUser (special : Bool) (cs : List Char) : Option (List Char) × List Char :=
  let authority := authorityOf special cs
  match authority.reverse.dropWhile (· ≠ '@') with
  | [] => (none, cs)
  | _ :: user => (some user.reverse, cs.drop (user.length + 1))

/-- The host, up to the end of the authority or a colon that does not stand in brackets, and what
follows. -/
def splitHost (special : Bool) (inBrackets : Bool) : List Char → List Char × List Char
  | [] => ([], [])
  | c :: rest =>
    if (c == ':' && !inBrackets) || isSlash special c || endsPath c then ([], c :: rest)
    else
      let inBrackets := if c == '[' then true else if c == ']' then false else inBrackets
      let (host, after) := splitHost special inBrackets rest
      (c :: host, after)

/-- Reads a colon and the digits of a port, where there is a colon, and what follows: the end of the
authority, which here may be a backslash whatever the scheme.  No digits stand for no port. -/
def readPort (scheme : String) : List Char → Except UrlError (Option Nat × List Char)
  | ':' :: cs =>
    let digits := cs.takeWhile Char.isDigit
    let rest := cs.drop digits.length
    match Numeral.valueFrom? 10 0 digits with
    | none => .error .invalidPort
    | some n =>
      if n > 65535 || rest.head?.any fun c => !(isSlash true c || endsPath c) then
        .error .invalidPort
      else if digits.isEmpty || defaultPort? scheme = some n then .ok (none, rest)
      else .ok (some n, rest)
  | cs => .ok (none, cs)

/-- Adds user name and password. -/
def withUser (u : Url) (user : List Char) : Url :=
  let encode (cs : List Char) : String := String.ofList (Percent.encode Percent.inUserInfo cs)
  let name := user.takeWhile (· ≠ ':')
  { u with
    username := encode name
    password := encode ((user.drop name.length).drop 1) }

/-- Reads the path behind an authority.  Only with one of the special schemes is there always a
path. -/
def withPath (u : Url) (cs : List Char) : Url :=
  let special := isSpecial u.scheme
  if !special && (cs.isEmpty || cs.head?.any endsPath) then withQueryAndFragment u cs
  else withRest u [] (dropSlash special cs)

/-- Reads what follows `//` in a URL that is not a file's: the authority and the rest. -/
def afterSlashes (scheme : String) (cs : List Char) : Except UrlError Url := do
  let special := isSpecial scheme
  let (user, cs) := splitUser special cs
  if user == some [] && cs.head?.any fun c => isSlash special c || endsPath c then throw .emptyHost
  let (hostText, cs) := splitHost special false cs
  if special && hostText.isEmpty then throw .emptyHost
  let host ← if special then Host.parse hostText else Host.parseOther hostText
  if hostText.isEmpty && cs.head? = some ':' then throw .emptyHost
  let (port, cs) ← readPort scheme cs
  let u := withUser { scheme, port } (user.getD [])
  if hostText.isEmpty then
    if u.userText.isEmpty then return withPath u cs else throw .emptyHost
  return withPath { u with host := some host } cs

/-! ## 4. Files -/

/-- Reads what follows `//` in the URL of a file.  The name of a drive is no host, and before one
that had to be written anew a host is dropped. -/
def afterFileSlashes (cs : List Char) : Except UrlError Url := do
  let plain : Url := { scheme := "file" }
  let hostText := authorityOf true cs
  if hostText.isEmpty || isDriveLetter hostText then return withRest plain [] cs
  let host ← Host.parse hostText
  let cs := cs.drop hostText.length
  if host = .domain "localhost" then return withRest plain [] cs
  let (u, drive) := readRest { plain with host := some host } [] (dropSlash true cs)
  return if drive then { u with host := none } else u

/-- Reads the URL of a file after one slash.  Host or drive are those of the base, unless a drive
is given. -/
def afterFileSlash (base : Option Url) (cs : List Char) : Url :=
  let plain : Url := { scheme := "file" }
  match base with
  | none => withRest plain [] cs
  | some base =>
    if startsWithDrive ['/', '\\', '?', '#'] cs then withRest plain [] cs
    else
      match base.path with
      | .segments (first :: _) =>
        if isPlainDriveLetter first then withRest plain [first] cs
        else withRest { plain with host := base.host } [] cs
      | _ => withRest { plain with host := base.host } [] cs

/-- The directories of a path. -/
def directoriesOf (file : Bool) : UrlPath → List String
  | .segments path => directory file path
  | .undivided _ => []

/-- Reads a reference to a file, without a slash at its front. -/
def fileReference (base : Url) (cs : List Char) : Url :=
  match cs with
  | [] => { base with fragment := none }
  | '?' :: _ => withQueryAndFragment { base with query := none, fragment := none } cs
  | '#' :: _ => withQueryAndFragment base cs
  | _ =>
    if startsWithDrive ['/', '\\', '?', '#'] cs then withRest { scheme := "file" } [] cs
    else withRest { base with query := none, fragment := none } (directoriesOf true base.path) cs

/-- Reads the URL of a file, after its scheme. -/
def ofFile (base : Option Url) (cs : List Char) : Except UrlError Url :=
  let slash (c : Option Char) : Bool := c.any (isSlash true)
  if slash cs.head? then
    if slash (cs.drop 1).head? then afterFileSlashes (cs.drop 2)
    else .ok (afterFileSlash base (cs.drop 1))
  else
    match base with
    | none => .ok (withRest { scheme := "file" } [] cs)
    | some base => .ok (fileReference base cs)

/-! ## 5. References -/

/-- Reads a reference without a scheme. -/
def ofReference (base : Url) (cs : List Char) : Except UrlError Url :=
  let bare := { base with query := none, fragment := none }
  match cs with
  | [] => .ok { base with fragment := none }
  | '?' :: _ => .ok (withQueryAndFragment bare cs)
  | '#' :: _ => .ok (withQueryAndFragment base cs)
  | '/' :: '/' :: rest => afterSlashes base.scheme rest
  | c :: rest =>
    if isSlash true c then
      let slashes := cs.takeWhile (isSlash true)
      if slashes.length ≥ 2 then afterSlashes base.scheme (cs.drop slashes.length)
      else .ok (withRest bare [] rest)
    else .ok (withRest bare (directoriesOf false base.path) cs)

/-- Reads a URL after its scheme. -/
def afterScheme (base : Option Url) (scheme : String) (cs : List Char) : Except UrlError Url :=
  if scheme == "file" then ofFile (base.filter (·.scheme == "file")) cs
  else if isSpecial scheme then
    let slashes := cs.takeWhile (isSlash true)
    match base with
    | some base =>
      if slashes.length < 2 && base.scheme == scheme then ofReference base cs
      else afterSlashes scheme (cs.drop slashes.length)
    | none => afterSlashes scheme (cs.drop slashes.length)
  else
    match cs with
    | '/' :: '/' :: rest => afterSlashes scheme rest
    | '/' :: rest => .ok (withRest { scheme, authority := false } [] rest)
    | _ =>
      let here := cs.takeWhile (!endsPath ·)
      .ok (withQueryAndFragment
        { scheme, authority := false,
          path := .undivided (String.ofList (Percent.encode Percent.inControls here)) }
        (cs.drop here.length))

/-- Reads a text as a URL, or as a reference to `base`. -/
def parseWith (base : Option Url) (s : String) : Except UrlError Url :=
  let cs := clean s
  match splitScheme? cs with
  | some (scheme, rest) => afterScheme base scheme rest
  | none =>
    match base with
    | none => .error .relativeUrlWithoutBase
    | some base =>
      match base.path, cs with
      | .undivided _, '#' :: _ => .ok (withQueryAndFragment base cs)
      | .undivided _, _ => .error .relativeUrlWithCannotBeABaseBase
      | .segments _, _ =>
        if base.scheme == "file" then ofFile (some base) cs else ofReference base cs

/-- Reads a URL. -/
def parse (s : String) : Except UrlError Url := parseWith none s

/-- The URL that a reference stands for when it is found in `base`. -/
def join (base : Url) (reference : String) : Except UrlError Url := parseWith (some base) reference

end Url

end UrlTransfer
