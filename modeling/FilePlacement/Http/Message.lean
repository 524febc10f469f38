import FilePlacement.Http.Failure
import FilePlacement.Tls
import FilePlacement.Url.Basic

/-!
# Requests and responses

One exchange with a server: a request goes out and a response comes back, or nothing usable does.
The body of a response comes in chunks and may end early.
-/

namespace FilePlacement.Http

inductive Method where
  | get
  | head
  | post
  | delete
deriving DecidableEq, Repr

def Method.name : Method → String
  | get => "GET"
  | head => "HEAD"
  | post => "POST"
  | delete => "DELETE"

/-- What an encrypted connection has to fulfil. -/
structure TlsPolicy where
  minimum : TlsVersion
  /-- Certificates are taken unchecked. -/
  insecure : Bool
deriving DecidableEq, Repr

/-- A form that is sent: a named text, and a file with its name and bytes. -/
structure Form where
  textName : String
  text : String
  fileField : String
  fileName : String
  bytes : ByteArray

structure Request where
  method : Method
  url : Url
  tls : TlsPolicy
  authorization : Option String
  form : Option Form

/-- A body as it arrives. -/
structure Body where
  chunks : List ByteArray
  /-- Whether the body came to its end. -/
  complete : Bool

/-- All bytes of a body that arrived. -/
def Body.bytes (b : Body) : ByteArray := b.chunks.foldl (· ++ ·) .empty

structure Response where
  status : Status
  headers : List (String × ByteArray)
  body : Body

def sameName (a b : String) : Bool := a.toList.map Char.toLower == b.toList.map Char.toLower

/-- Whether a byte is printable ASCII or a tab. -/
def isPlainByte (b : UInt8) : Bool := b = 9 || (0x20 ≤ b && b ≤ 0x7E)

def isMarginByte (b : UInt8) : Bool := b = 9 || b = 0x20

/-- The bytes of a header value without the white space around it. -/
def headerBytes (value : ByteArray) : List UInt8 :=
  ((value.toList.dropWhile isMarginByte).reverse.dropWhile isMarginByte).reverse

/-- The value of a header, if it is there. The first of several counts. -/
def Response.header? (r : Response) (name : String) : Option (List UInt8) :=
  (r.headers.find? fun (n, _) => sameName n name).map fun (_, v) => headerBytes v

/-- The value of a header as text; empty if it is absent or not plain. -/
def Response.headerText (r : Response) (name : String) : String :=
  match r.header? name with
  | some bytes => if bytes.all isPlainByte then String.ofList (bytes.map fun b => Char.ofNat b.toNat) else ""
  | none => ""

/-- Whether a value may be sent in a header: no controls but the tab. -/
def isSendable (value : String) : Bool := value.toList.all fun c => c = '\t' || (0x20 ≤ c.toNat && c.toNat ≠ 0x7F)

end FilePlacement.Http
