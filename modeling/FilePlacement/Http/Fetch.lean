import FilePlacement.Http.Message
import FilePlacement.Program
import FilePlacement.Text.Base64

/-!
# Fetching

Getting a response through redirects. A redirect that says where to go is followed to that place,
ten times at most; every other response is taken as it is. On the way a request keeps its method
where that is safe, loses its form, and shows its authorization to no other server.

Credentials in a URL are not sent as a part of it but as an authorization.
-/

namespace FilePlacement.Http

/-- Whether a status sends the client to another place. -/
def Status.isRedirect (s : Status) : Bool := s = 301 || s = 302 || s = 303 || s = 307 || s = 308

/-- Whether a redirect may ask for the same thing in the same way. -/
def Status.keepsMethod (s : Status) : Bool := s = 307 || s = 308

/-- The place that a response sends the client to. -/
def Response.location? (r : Response) (url : Url) : Option Url :=
  if r.status.isRedirect then do
    let value ← r.header? "location"
    let text ← Text.utf8? ⟨value.toArray⟩
    (url.join text).toOption
  else none

/-- The request that follows a redirect. A form that has been sent cannot be sent again. -/
def Request.redirected (r : Request) (status : Status) (url : Url) : Option Request :=
  let sameServer := url.scheme = r.url.scheme && url.server = r.url.server
  let authorization := if sameServer then r.authorization else none
  if status.keepsMethod then
    if r.form.isSome then none else some { r with url := url, authorization := authorization }
  else
    let method := if r.method = .head then .head else .get
    some { r with url := url, authorization := authorization, method := method, form := none }

def maxRedirects : Nat := 10

/-! ## What can be sent -/

/-- The name and the password that credentials stand for, if they are texts. -/
def decodedCredentials (c : Url.Credentials) : Option (String × Option String) := do
  let decoded (s : String) : Option String := Text.utf8? ⟨(Url.percentDecode s.toList).toArray⟩
  let user ← decoded c.user
  let password := c.password.bind decoded
  if user.isEmpty && password.isNone then none else some (user, password)

/-- The authorization by a name and a password. -/
def basicAuthorization (user : String) (password : Option String) : String :=
  "Basic " ++ String.ofList (Text.base64 (user ++ ":" ++ password.getD "").toUTF8.toList)

/-- A request with the credentials of its URL as its authorization. Those that are no texts stay
where they are. -/
def Request.withCredentials (r : Request) : Request :=
  match r.url.credentials.bind decodedCredentials with
  | some (user, password) =>
    { r with url := { r.url with credentials := none }, authorization := some (basicAuthorization user password) }
  | none => r

/-- Whether a character may stand in the name of a server. -/
def isServerChar (c : Char) : Bool := !(['"', '\x60', '\x7b', '\x7d'].contains c)

/-- The bytes that the text of a URL can have. -/
def maxUrlBytes : Nat := 65534

/-- Whether a URL can be asked for. -/
def isAskable (url : Url) : Bool :=
  (url.scheme = "http" || url.scheme = "https") && url.server.toList.all isServerChar
    && url.text.utf8ByteSize ≤ maxUrlBytes

variable {I : Interface}

/-- Sends a request and follows so many redirects; gives the last URL with its response. -/
def follow (exchange : Request → Program I (Option Response)) : Nat → Request → Program I (Except Failure (Url × Response))
  | left, request => (exchange request).bind fun
    | none => .done (.error (.unanswered request.url.text))
    | some response =>
      match (response.location? request.url).bind fun url => request.redirected response.status url with
      | none => .done (.ok (request.url, response))
      | some next =>
        match left with
        | 0 => .done (.error (.tooManyRedirects request.url.text))
        | left + 1 => follow exchange left next

/-- Sends a request that can be sent. -/
def send (exchange : Request → Program I (Option Response)) (request : Request) :
    Program I (Except Failure (Url × Response)) :=
  if !isSendable (request.authorization.getD "") then .done (.error .unbuildable)
  else
    let request := request.withCredentials
    if !isAskable request.url then .done (.error (.unusableUrl request.url.text))
    else follow exchange maxRedirects request

/-- Gets a response that is no error by its status. -/
def fetch (exchange : Request → Program I (Option Response)) (method : Method) (tls : TlsPolicy) (location : String) :
    Program I (Except Failure Response) :=
  match Url.parse location with
  | .error _ => .done (.error .unbuildable)
  | .ok url => (send exchange ⟨method, url, tls, none, none⟩).bind fun
    | .error f => .done (.error f)
    | .ok (last, response) =>
      if response.status.isClientError || response.status.isServerError then
        .done (.error (.status response.status last.text))
      else .done (.ok response)

end FilePlacement.Http
