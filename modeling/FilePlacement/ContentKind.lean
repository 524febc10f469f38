import FilePlacement.Fault
import FilePlacement.Files.PathName

/-!
# Content kinds

What kind of artifact a file is: told by an explicit name, or inferred from the file name. The
inference looks at the endings of container templates first, then, if the cluster can import disk
images, at those of disk images, and last at the extension.
-/

namespace FilePlacement

inductive ContentKind where
  | backup
  /-- Disk images of machines. -/
  | images
  /-- Disk images that machines are made from. -/
  | importImage
  | iso
  | snippets
  /-- Container templates. -/
  | template
deriving DecidableEq, Repr

namespace ContentKind

def all : List ContentKind := [backup, images, importImage, iso, snippets, template]

/-- The name that the cluster uses. -/
def name : ContentKind → String
  | backup => "backup"
  | images => "images"
  | importImage => "import"
  | iso => "iso"
  | snippets => "snippets"
  | template => "vztmpl"

/-- The directory below the path of a datastore. -/
def directory : ContentKind → String
  | backup => "dump"
  | kind => kind.name

/-- Whether the cluster's own upload service places files of this kind. -/
def usesApiUpload : ContentKind → Bool
  | iso | template | importImage => true
  | _ => false

theorem mem_all (kind : ContentKind) : kind ∈ all := by cases kind <;> simp [all]

def parse (text : String) : Except Fault ContentKind :=
  match all.find? fun kind => kind.name = text with
  | some kind => .ok kind
  | none => .error (.unknownContentKind text)

/-- Whether a text ends in one of these endings. -/
def endsIn (endings : List String) (fileName : String) : Bool :=
  endings.any fun e => e.toList.isSuffixOf fileName.toList

def templateEndings : List String := [".tar.gz", ".tar.xz"]

def importEndings : List String := [".qcow2", ".raw", ".vmdk"]

/-- The kind that an extension stands for, in upper or lower case. Lower case within ASCII is all that matters:
no other character has just one of these letters as its lower case. -/
def ofExtension? (ext : String) : Option ContentKind :=
  match String.ofList (ext.toList.map Char.toLower) with
  | "img" | "iso" => some iso
  | "yaml" | "yml" => some snippets
  | _ => none

/-- The kind that a file name suggests. -/
def infer (fileName : String) (canImport : Bool) : Except Fault ContentKind :=
  if endsIn templateEndings fileName then .ok template
  else if canImport && endsIn importEndings fileName then .ok importImage
  else match (PathName.extension? fileName.toList).bind fun ext => ofExtension? (String.ofList ext) with
    | some kind => .ok kind
    | none => .error (.undeterminedContentKind fileName)

/-- The kind of a file: an explicit name that is not empty decides, otherwise the file name. -/
def classify (fileName : String) (explicit : Option String) (canImport : Bool) : Except Fault ContentKind :=
  match explicit with
  | some text => if text.isEmpty then infer fileName canImport else parse text
  | none => infer fileName canImport

end ContentKind

end FilePlacement
