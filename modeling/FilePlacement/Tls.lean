import FilePlacement.Fault

/-!
# Versions of TLS
-/

namespace FilePlacement

inductive TlsVersion where
  | v10
  | v11
  | v12
  | v13
deriving DecidableEq, Repr

namespace TlsVersion

def text : TlsVersion → String
  | v10 => "1.0"
  | v11 => "1.1"
  | v12 => "1.2"
  | v13 => "1.3"

/-- Reads the oldest version that is good enough; nothing stated means the newest. -/
def parseMinimum (text : String) : Except Fault TlsVersion :=
  match text with
  | "" | "1.3" => .ok v13
  | "1.2" => .ok v12
  | "1.1" => .ok v11
  | "1.0" => .ok v10
  | other => .error (.invalidTlsVersion other)

end TlsVersion

end FilePlacement
