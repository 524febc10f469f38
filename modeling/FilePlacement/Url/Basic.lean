import FilePlacement.Url.Host

/-!
# URLs

A URL in its normal form, as it is read from a text, written as a text, extended by path segments
and resolved against another URL. Tabs and line breaks anywhere in a text and other controls at
its ends do not count, and `\` counts as `/` under the schemes of the web. The segments of a path
are kept as they are written, with `.` and `..` resolved.
-/

namespace FilePlacement

namespace Url

/-- A path: segments under an authority or a slash, or else a text without structure. -/
inductive Path where
  | segments (list : List String)
  | opaqueText (text : String)
deriving DecidableEq, Repr

/-- How the characters of a scheme's URLs are treated. -/
inductive SchemeClass where
  /-- A scheme of the web with its default port. -/
  | web (port : Nat)
  | file
  | unknown
deriving DecidableEq, Repr

def schemeClass (scheme : String) : SchemeClass :=
  match scheme with
  | "http" | "ws" => .web 80
  | "https" | "wss" => .web 443
  | "ftp" => .web 21
  | "file" => .file
  | _ => .unknown

def SchemeClass.isSpecial : SchemeClass → Bool
  | .unknown => false
  | _ => true

/-- A name, and perhaps a password, in front of a host. -/
structure Credentials where
  user : String
  password : Option String
deriving DecidableEq, Repr

end Url

structure Url where
  scheme : String
  credentials : Option Url.Credentials
  host : Option Url.Host
  /-- The port, unless it is the default one of the scheme. -/
  port : Option Nat
  path : Url.Path
  query : Option String
  fragment : Option String
deriving DecidableEq, Repr

namespace Url

/-! ## Writing -/

def Path.text : Path → String
  | .segments list => String.ofList (list.flatMap fun s => '/' :: s.toList)
  | .opaqueText text => text

def Credentials.text (c : Credentials) : String :=
  c.user ++ (match c.password with | some p => ":" ++ p | none => "") ++ "@"

/-- Host and port. -/
def server (u : Url) : String :=
  (match u.host with | some h => h.text | none => "")
    ++ (match u.port with | some p => ":" ++ Text.decimal p | none => "")

/-- What stands behind the two slashes. -/
def authority (u : Url) : String :=
  (match u.credentials with | some c => c.text | none => "") ++ u.server

/-- Path and query, which a request asks for. -/
def target (u : Url) : String :=
  u.path.text ++ (match u.query with | some q => "?" ++ q | none => "")

/-- What stands in front of the path. Without a host, a path that begins with two slashes gets a `/.`,
or else it would be read as a host. -/
def origin (u : Url) : String :=
  match u.host, u.path with
  | some _, _ => "//" ++ u.authority
  | none, .segments ("" :: _ :: _) => "/."
  | none, _ => ""

def text (u : Url) : String :=
  u.scheme ++ ":" ++ u.origin ++ u.target ++ (match u.fragment with | some f => "#" ++ f | none => "")

/-! ## Reading paths -/

/-- Whether a character separates path segments. -/
def isSeparator (cls : SchemeClass) (c : Char) : Bool := c = '/' || (cls.isSpecial && c = '\\')

/-- Whether a character ends a path. -/
def endsPath (c : Char) : Bool := c = '?' || c = '#'

/-- A segment with percent escapes of the point undone, in lower case. -/
def plainDots : List Char → List Char
  | '%' :: '2' :: 'e' :: r => '.' :: plainDots r
  | '%' :: '2' :: 'E' :: r => '.' :: plainDots r
  | c :: r => c :: plainDots r
  | [] => []

def isSingleDot (segment : List Char) : Bool := plainDots segment == ['.']

def isDoubleDot (segment : List Char) : Bool := plainDots segment == ['.', '.']

/-- A letter and a colon or a bar: `..` does not leave such a segment. -/
def isDriveLetter (segment : List Char) : Bool :=
  match segment with
  | [a, b] => a.isAlpha && (b = ':' || b = '|')
  | _ => false

/-- Leaves the last segment. -/
def leave (done : List (List Char)) : List (List Char) :=
  match done.getLast? with
  | some s => if isDriveLetter s then done else done.dropLast
  | none => done

/-- Takes in one segment that is followed by others (`more`) or is the last one. -/
def addSegment (done : List (List Char)) (segment : List Char) (more : Bool) : List (List Char) :=
  if isDoubleDot segment then (if more then leave done else leave done ++ [[]])
  else if isSingleDot segment then (if more then done else done ++ [[]])
  else done ++ [segment]

/-- Resolves raw segments one after the other. -/
def addSegments (done : List (List Char)) : List (List Char) → List (List Char)
  | [] => done
  | [s] => addSegment done s false
  | s :: t :: r => addSegments (addSegment done s true) (t :: r)

/-- Cuts a path at its separators. -/
def rawSegments (cls : SchemeClass) (cs : List Char) : List (List Char) :=
  Text.pieces '/' (cs.map fun c => if isSeparator cls c then '/' else c)

/-- Reads path segments behind some that are there already. -/
def readSegments (cls : SchemeClass) (done : List (List Char)) (cs : List Char) : Path :=
  .segments ((addSegments done ((rawSegments cls cs).map (percentEncode inPathSet))).map String.ofList)

/-- Reads the path that follows an authority. -/
def readPath (cls : SchemeClass) (cs : List Char) : Path :=
  match cs with
  | [] => if cls.isSpecial then .segments [""] else .segments []
  | c :: r => if isSeparator cls c then readSegments cls [] r else readSegments cls [] cs

/-! ## Reading URLs -/

/-- What follows the path: query and fragment. -/
def readTail (cls : SchemeClass) (cs : List Char) : Option String × Option String :=
  let fragment := (Text.cut '#' cs).map fun (_, f) => String.ofList (percentEncode inFragmentSet f)
  let front := cs.takeWhile (· ≠ '#')
  match front with
  | '?' :: q =>
    let set := if cls.isSpecial then inSpecialQuerySet else inQuerySet
    (some (String.ofList (percentEncode set q)), fragment)
  | _ => (none, fragment)

/-- Whether a character ends an authority. -/
def endsAuthority (cls : SchemeClass) (c : Char) : Bool := isSeparator cls c || endsPath c

/-- The text of a host and what follows it; colons between brackets belong to the host. -/
def cutHost (cls : SchemeClass) (inside : Bool) : List Char → List Char × List Char
  | [] => ([], [])
  | c :: r =>
    if (c = ':' && !inside) || endsAuthority cls c then ([], c :: r)
    else
      let inside := if c = '[' then true else if c = ']' then false else inside
      let (h, rest) := cutHost cls inside r
      (c :: h, rest)

/-- Whether a character ends a port. -/
def endsPort (c : Char) : Bool := c = '/' || c = '\\' || endsPath c

def isDecimal (c : Char) : Bool := '0' ≤ c && c ≤ '9'

/-- Reads a port; the default one of the scheme counts as none. -/
def readPort (cls : SchemeClass) (cs : List Char) : Except Invalid (Option Nat) :=
  if cs.isEmpty then .ok none
  else if !cs.all isDecimal then .error .port
  else
    let n := Text.valueOf 10 cs
    if n > 65535 then .error .port else .ok (if cls = .web n then none else some n)

/-- Reads what stands in front of an `@`. A colon that nothing follows does not count. -/
def readCredentials (cs : List Char) : Option Credentials :=
  let (user, password) := match Text.cut ':' cs with
    | some (user, password) => (user, if password.isEmpty then none else some password)
    | none => (cs, none)
  let encoded (cs : List Char) : String := String.ofList (percentEncode inCredentialsSet cs)
  if user.isEmpty && password.isNone then none else some ⟨encoded user, password.map encoded⟩

/-- What stands in front of the last `@` of an authority, if there is one, and what follows it. -/
def cutCredentials (cls : SchemeClass) (cs : List Char) : Option (List Char) × List Char :=
  match Text.cutLast '@' (cs.takeWhile fun c => !endsAuthority cls c) with
  | some (front, _) => (some front, cs.drop (front.length + 1))
  | none => (none, cs)

/-- Reads the text of a host. An unknown scheme does without one, but not in front of a port or
behind credentials. -/
def readHost (cls : SchemeClass) (credentials : Option Credentials) (cs rest : List Char) : Except Invalid Host :=
  if cls.isSpecial then (if cs.isEmpty then .error .emptyHost else Host.parse cs)
  else if cs.isEmpty && (rest.head? = some ':' || credentials.isSome) then .error .emptyHost
  else Host.parseOpaque cs

/-- Reads what follows the two slashes of a URL. -/
def readAuthority (scheme : String) (cs : List Char) : Except Invalid Url := do
  let cls := schemeClass scheme
  let (front, cs) := cutCredentials cls cs
  if front = some [] && cs.head?.any (endsAuthority cls) then .error .emptyHost
  else
    let credentials := front.bind readCredentials
    let (hostText, rest) := cutHost cls false cs
    let host ← readHost cls credentials hostText rest
    let (portText, rest) := match rest with
      | ':' :: r => (r.takeWhile fun c => !endsPort c, r.dropWhile fun c => !endsPort c)
      | r => ([], r)
    let port ← readPort cls portText
    let path := rest.takeWhile fun c => !endsPath c
    let (query, fragment) := readTail cls (rest.dropWhile fun c => !endsPath c)
    return ⟨scheme, credentials, some host, port, readPath cls path, query, fragment⟩

/-- The normal form of the path of a file: a drive at its beginning has a colon, and no empty
segments stand in front of all else. -/
def filePath (path : Path) : Path :=
  match path with
  | .segments list =>
    let list := match list with
      | first :: r => if isDriveLetter first.toList then String.ofList (first.toList.take 1 ++ [':']) :: r else list
      | [] => []
    match list.dropWhile String.isEmpty with
    | [] => .segments [""]
    | r => .segments r
  | .opaqueText _ => path

/-- Whether a path begins with a drive. -/
def hasDrive (path : Path) : Bool :=
  match path with
  | .segments (first :: _) => isDriveLetter first.toList
  | _ => false

/-- Reads what follows `file:`. A drive is no host, and a path that begins with one has none. -/
def readFileScheme (cs : List Char) : Except Invalid Url := do
  let (hostText, rest) := match cs with
    | c :: d :: r =>
      if isSeparator .file c && isSeparator .file d then
        let front := r.takeWhile fun c => !endsAuthority .file c
        if isDriveLetter front then ([], r) else (front, r.drop front.length)
      else ([], cs)
    | cs => ([], cs)
  let host ← if hostText.isEmpty then .ok (Host.domain "") else Host.parse hostText
  let path := readPath .file (rest.takeWhile fun c => !endsPath c)
  let (query, fragment) := readTail .file (rest.dropWhile fun c => !endsPath c)
  let host := if host = .domain "localhost" || hasDrive path then .domain "" else host
  return ⟨"file", none, some host, none, filePath path, query, fragment⟩

/-- Reads what follows an unknown scheme. -/
def readUnknown (scheme : String) (cs : List Char) : Except Invalid Url :=
  match cs with
  | '/' :: '/' :: r => readAuthority scheme r
  | cs =>
    let path := cs.takeWhile fun c => !endsPath c
    let (query, fragment) := readTail .unknown (cs.dropWhile fun c => !endsPath c)
    match path with
    | '/' :: r => .ok ⟨scheme, none, none, none, readSegments .unknown [] r, query, fragment⟩
    | r => .ok ⟨scheme, none, none, none, .opaqueText (String.ofList (percentEncode isControl r)), query, fragment⟩

def isSchemeChar (c : Char) : Bool := c.isAlphanum || c = '+' || c = '-' || c = '.'

/-- The scheme in front of a text, in lower case, and what follows its colon. -/
def cutScheme (cs : List Char) : Option (String × List Char) :=
  match Text.cut ':' cs with
  | some (c :: s, rest) =>
    if c.isAlpha && s.all isSchemeChar then some (String.ofList ((c :: s).map Char.toLower), rest) else none
  | _ => none

/-- Whether a character at the end of a text does not count. -/
def isMargin (c : Char) : Bool := c.toNat ≤ 0x20

/-- Whether a character does not count wherever it stands. -/
def isSkipped (c : Char) : Bool := c = '\t' || c = '\n' || c = '\r'

/-- The characters of a text that count. -/
def significant (s : String) : List Char :=
  let front := s.toList.dropWhile isMargin
  ((front.reverse.dropWhile isMargin).reverse).filter fun c => !isSkipped c

/-- Reads what follows a scheme and its colon. -/
def readScheme (scheme : String) (rest : List Char) : Except Invalid Url :=
  match schemeClass scheme with
  | .web p => readAuthority scheme (rest.dropWhile (isSeparator (.web p)))
  | .file => readFileScheme rest
  | .unknown => readUnknown scheme rest

def parse (s : String) : Except Invalid Url :=
  match cutScheme (significant s) with
  | some (scheme, rest) => readScheme scheme rest
  | none => .error .relative

/-! ## References -/

/-- The segments of a path, without the last one. -/
def Path.parents : Path → List (List Char)
  | .segments list => (list.map String.toList).dropLast
  | .opaqueText _ => []

/-- Reads a reference without a scheme as seen from a URL. -/
def readReference (base : Url) (cs : List Char) : Except Invalid Url :=
  let cls := schemeClass base.scheme
  let path := cs.takeWhile fun c => !endsPath c
  let (query, fragment) := readTail cls (cs.dropWhile fun c => !endsPath c)
  match path with
  | [] => .ok { base with query := if query.isSome then query else base.query, fragment := fragment }
  | c :: r =>
    if isSeparator cls c then
      match r with
      | d :: s =>
        if isSeparator cls d then readAuthority base.scheme ((d :: s ++ cs.drop path.length).dropWhile (isSeparator cls))
        else .ok { base with path := readSegments cls [] r, query := query, fragment := fragment }
      | [] => .ok { base with path := readSegments cls [] r, query := query, fragment := fragment }
    else .ok { base with path := readSegments cls base.path.parents path, query := query, fragment := fragment }

/-- Reads a reference as seen from a URL. -/
def join (base : Url) (reference : String) : Except Invalid Url :=
  let cs := significant reference
  match cutScheme cs with
  | some (scheme, rest) =>
    if scheme = base.scheme && (schemeClass scheme).isSpecial && !(['/', '/'].isPrefixOf rest) then readReference base rest
    else readScheme scheme rest
  | none => readReference base cs

/-! ## Extending the path -/

/-- A path without one empty segment at its end; the path of a single empty segment stays. -/
def dropEmptyLast (list : List (List Char)) : List (List Char) :=
  if list.length > 1 && list.getLast? == some [] then list.dropLast else list

/-- Appends a segment; a path of a single empty segment has room for it. -/
def pushRaw (list : List (List Char)) (segment : List Char) : List (List Char) :=
  if list == [[]] then [segment] else list ++ [segment]

/-- Appends a segment as one segment, whatever characters it holds. Segments that would lead
elsewhere are left out; tabs and line breaks are dropped. -/
def pushSegment (list : List (List Char)) (segment : List Char) : List (List Char) :=
  if segment = ['.'] || segment = ['.', '.'] then list
  else
    let kept := segment.filter fun c => !isSkipped c
    if kept = ['.'] then pushRaw list []
    else if kept = ['.', '.'] then (if list == [[]] then list else leave list ++ [[]])
    else pushRaw list (percentEncode inSegmentSet kept)

/-- A URL with segments appended to its path. The `/.` in front of a path of two slashes stays, even
if only one of the slashes does. -/
def extend (u : Url) (segments : List String) : Url :=
  match u.path with
  | .segments list =>
    let base := if u.host.isNone && list = ["", ""] then [['.']] else dropEmptyLast (list.map String.toList)
    { u with path := .segments ((segments.foldl (fun l s => pushSegment l s.toList) base).map String.ofList) }
  | .opaqueText _ => u

/-- Whether the path has no segments to extend. -/
def isOpaque (u : Url) : Bool :=
  match u.path with
  | .segments _ => false
  | .opaqueText _ => true

/-- The last segment of the path. -/
def lastSegment? (u : Url) : Option String :=
  match u.path with
  | .segments list => list.getLast?
  | .opaqueText _ => none

end Url

end FilePlacement
