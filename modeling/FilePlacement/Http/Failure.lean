import FilePlacement.Http.Status

/-!
# Failed requests

Why a request got no usable answer, and the text that names it. URLs are in their normal form.
-/

namespace FilePlacement.Http

inductive Failure where
  /-- The request cannot even be put together. -/
  | unbuildable
  /-- The URL is none of the web. -/
  | unusableUrl (url : String)
  /-- No answer came: refused, closed, or not HTTP. -/
  | unanswered (url : String)
  | tooManyRedirects (url : String)
  /-- The answer is an error by its status. -/
  | status (code : Status) (url : String)
  /-- The body breaks off or does not decode. -/
  | undecodable
deriving DecidableEq, Repr

def Failure.message : Failure → String
  | .unbuildable => "builder error"
  | .unusableUrl url => "builder error for url (" ++ url ++ ")"
  | .unanswered url => "error sending request for url (" ++ url ++ ")"
  | .tooManyRedirects url => "error following redirect for url (" ++ url ++ ")"
  | .status code url =>
    "HTTP status " ++ (if code.isServerError then "server" else "client") ++ " error (" ++ code.line ++ ") for url ("
      ++ url ++ ")"
  | .undecodable => "error decoding response body"

end FilePlacement.Http
