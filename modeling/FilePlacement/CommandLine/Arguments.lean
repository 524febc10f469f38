import FilePlacement.Text.Numeral
import FilePlacement.Text.Pieces

/-!
# Arguments of the command line

A command with its options. The common options may stand in front of the command or behind it;
where one stands at both places, the one behind counts. An option is given once at each place, but
for the addresses of nodes, of which there may be many. What follows a lone `--` is taken as it is.
-/

namespace FilePlacement.CommandLine

/-- The options that have a value. -/
inductive Key where
  | endpoint
  | apiToken
  | tmpDir
  | sshUser
  | sshPort
  | sshIdentity
  | sshNode
  | spec
  | state
deriving DecidableEq, Repr

namespace Key

def all : List Key := [endpoint, apiToken, tmpDir, sshUser, sshPort, sshIdentity, sshNode, spec, state]

def name : Key → String
  | endpoint => "endpoint"
  | apiToken => "api-token"
  | tmpDir => "tmp-dir"
  | sshUser => "ssh-user"
  | sshPort => "ssh-port"
  | sshIdentity => "ssh-identity"
  | sshNode => "ssh-node"
  | spec => "spec"
  | state => "state"

/-- Every command takes the option. -/
def isCommon : Key → Bool
  | spec | state => false
  | _ => true

end Key

/-- A port number; a sign in front is fine. -/
def port? (text : String) : Option UInt16 :=
  match Text.ofSigned? text.toList with
  | some n => if 0 ≤ n && n < UInt16.size then some (UInt16.ofNat n.toNat) else none
  | none => none

/-- Whether a text can be the value of an option: a path name is not empty, a port is a port. -/
def Key.accepts : Key → String → Bool
  | .tmpDir, v | .sshIdentity, v | .spec, v | .state, v => !v.isEmpty
  | .sshPort, v => (port? v).isSome
  | _, _ => true

/-- Why arguments are no command. -/
inductive Misuse where
  | unknownOption (text : String)
  | missingValue (key : Key)
  | unacceptable (key : Key) (value : String)
  | valueForFlag (text : String)
  | repeated (name : String)
  | missingCommand
  | unknownCommand (name : String)
  | missingOption (key : Key)
  | missingId
  | unexpected (word : String)
deriving DecidableEq, Repr

def Misuse.message : Misuse → String
  | unknownOption text => "unknown option " ++ text
  | missingValue key => "option --" ++ key.name ++ " needs a value"
  | unacceptable key value => "option --" ++ key.name ++ " cannot be \"" ++ value ++ "\""
  | valueForFlag text => "option " ++ text ++ " takes no value"
  | repeated name => "option --" ++ name ++ " is given twice"
  | missingCommand => "there is no command"
  | unknownCommand name => "unknown command " ++ name
  | missingOption key => "option --" ++ key.name ++ " is missing"
  | missingId => "the identity is missing"
  | unexpected word => "unexpected argument " ++ word

/-! ## Items -/

/-- One thing that the arguments say. -/
inductive Item where
  | insecure
  | setting (key : Key) (value : String)
  | word (text : String)
  /-- A word behind a lone `--`. -/
  | literal (text : String)
deriving DecidableEq, Repr

/-- What one argument is by itself. -/
inductive Reading where
  | flag
  | opening (key : Key)
  | setting (key : Key) (value : String)
  | word
  | misuse (why : Misuse)

/-- Whether an argument is meant as an option. A lone `-` is not. -/
def isOptionLike (arg : String) : Bool := arg.toList.head? == some '-' && arg != "-"

/-- Name and value of a long option. -/
def splitLong (body : List Char) : String × Option String :=
  match Text.cut '=' body with
  | some (name, value) => (String.ofList name, some (String.ofList value))
  | none => (String.ofList body, none)

def readArgument (arg : String) : Reading :=
  match arg.toList with
  | '-' :: '-' :: body =>
    let (name, value) := splitLong body
    if name = "insecure" then
      match value with
      | none => .flag
      | some _ => .misuse (.valueForFlag arg)
    else match Key.all.find? fun key => key.name = name, value with
      | some key, some value => .setting key value
      | some key, none => .opening key
      | none, _ => .misuse (.unknownOption arg)
  | _ => if isOptionLike arg then .misuse (.unknownOption arg) else .word

/-- A setting whose value can be one. -/
def checkedSetting (key : Key) (value : String) : Except Misuse Item :=
  if key.accepts value then .ok (.setting key value) else .error (.unacceptable key value)

def items : List String → Except Misuse (List Item)
  | [] => .ok []
  | arg :: rest =>
    if arg = "--" then .ok (rest.map .literal)
    else match readArgument arg with
      | .flag => (items rest).map (.insecure :: ·)
      | .word => (items rest).map (.word arg :: ·)
      | .misuse why => .error why
      | .setting key value => do
        let item ← checkedSetting key value
        return item :: (← items rest)
      | .opening key =>
        match rest with
        | [] => .error (.missingValue key)
        | value :: rest =>
          if isOptionLike value then .error (.missingValue key)
          else do
            let item ← checkedSetting key value
            return item :: (← items rest)

/-! ## Places -/

/-- What is given at one place. -/
structure Place where
  items : List Item

namespace Place

def values (p : Place) (key : Key) : List String :=
  p.items.filterMap fun
    | .setting k v => if k = key then some v else none
    | _ => none

def value? (p : Place) (key : Key) : Option String := (p.values key).head?

def insecure (p : Place) : Bool := p.items.contains .insecure

def words (p : Place) : List String :=
  p.items.filterMap fun
    | .word text | .literal text => some text
    | _ => none

/-- Fails if something is given twice that is given once. -/
def checkRepeats (p : Place) : Except Misuse Unit :=
  if 1 < p.items.count .insecure then .error (.repeated "insecure")
  else match Key.all.find? fun key => key ≠ .sshNode && 1 < (p.values key).length with
    | some key => .error (.repeated key.name)
    | none => .ok ()

/-- Fails if there is an option that neither every command takes nor this one. -/
def checkKeys (p : Place) (own : List Key) : Except Misuse Unit :=
  match Key.all.find? fun key => !(key.isCommon || own.contains key) && (p.value? key).isSome with
  | some key => .error (.unknownOption ("--" ++ key.name))
  | none => .ok ()

def checkNoWords (p : Place) : Except Misuse Unit :=
  match p.words with
  | [] => .ok ()
  | word :: _ => .error (.unexpected word)

def require (p : Place) (key : Key) : Except Misuse String :=
  match p.value? key with
  | some value => .ok value
  | none => .error (.missingOption key)

end Place

/-! ## Commands -/

inductive Command where
  | create (spec : String)
  | read (spec state : String)
  | update (spec state : String)
  | delete (spec state : String)
  | importFile (id : String)
deriving DecidableEq, Repr

namespace Command

/-- The path names of the files that a command reads. -/
def paths : Command → List String
  | create spec => [spec]
  | read spec state | update spec state | delete spec state => [spec, state]
  | importFile _ => []

/-- A command on a desired state and a record. -/
def onBoth (make : String → String → Command) (p : Place) : Except Misuse Command := do
  p.checkKeys [.spec, .state]
  p.checkNoWords
  return make (← p.require .spec) (← p.require .state)

def ofPlace (name : String) (p : Place) : Except Misuse Command :=
  match name with
  | "create" => do
    p.checkKeys [.spec]
    p.checkNoWords
    return create (← p.require .spec)
  | "read" => onBoth read p
  | "update" => onBoth update p
  | "delete" => onBoth delete p
  | "import" => do
    p.checkKeys []
    match p.words with
    | [id] => return importFile id
    | [] => .error .missingId
    | _ :: word :: _ => .error (.unexpected word)
  | other => .error (.unknownCommand other)

end Command

/-! ## Invocations -/

/-- The common options. -/
structure Settings where
  endpoint : Option String
  apiToken : Option String
  insecure : Bool
  tmpDir : Option String
  sshUser : Option String
  sshPort : Option UInt16
  sshIdentity : Option String
  sshNodes : List String
deriving DecidableEq, Repr

/-- The settings from the options in front of the command and those behind it. -/
def Settings.ofPlaces (front behind : Place) : Settings :=
  let pick (key : Key) : Option String := (behind.value? key).or (front.value? key)
  { endpoint := pick .endpoint
    apiToken := pick .apiToken
    insecure := front.insecure || behind.insecure
    tmpDir := pick .tmpDir
    sshUser := pick .sshUser
    sshPort := (pick .sshPort).bind port?
    sshIdentity := pick .sshIdentity
    sshNodes := if (behind.values .sshNode).isEmpty then front.values .sshNode else behind.values .sshNode }

structure Invocation where
  settings : Settings
  command : Command
deriving DecidableEq, Repr

def Item.isWord : Item → Bool
  | .word _ => true
  | _ => false

/-- Reads all arguments: options, the name of a command, and what the command takes. -/
def Invocation.parse (args : List String) : Except Misuse Invocation := do
  let all ← items args
  let front : Place := ⟨all.takeWhile fun i => !i.isWord⟩
  match all.dropWhile fun i => !i.isWord with
  | .word name :: rest =>
    let behind : Place := ⟨rest⟩
    front.checkRepeats
    front.checkKeys []
    behind.checkRepeats
    let command ← Command.ofPlace name behind
    return ⟨.ofPlaces front behind, command⟩
  | _ => .error .missingCommand

end FilePlacement.CommandLine
