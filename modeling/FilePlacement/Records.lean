import FilePlacement.Json.Record
import FilePlacement.Json.Value
import FilePlacement.Spec

/-!
# Desired and recorded states as JSON

The fields of the two records and of their parts. Writing leaves out an optional field that is
absent and writes every other field, so that no written record relies on a default.
-/

namespace FilePlacement

open Json

/-- A field that is left out when it is absent. -/
def optionalField (name : String) : Option Value → List (String × Value)
  | some v => [(name, v)]
  | none => []

/-! ## Sources -/

namespace SourceFile

structure Partial where
  path : Option String
  checksum : Option (Option String)
  fileName : Option (Option String)
  insecure : Option Bool
  minTls : Option (Option String)

def slots : List (Slot Partial) := [
  .of "path" Draft.asText (·.path) fun b v => { b with path := some v },
  .of "checksum" (Draft.asOption Draft.asText) (·.checksum) fun b v => { b with checksum := some v },
  .of "file_name" (Draft.asOption Draft.asText) (·.fileName) fun b v => { b with fileName := some v },
  .of "insecure" Draft.asBool (·.insecure) fun b v => { b with insecure := some v },
  .of "min_tls" (Draft.asOption Draft.asText) (·.minTls) fun b v => { b with minTls := some v }]

def Partial.finish (b : Partial) : Option SourceFile :=
  b.path.map fun path => ⟨path, b.checksum.join, b.fileName.join, b.insecure.getD false, b.minTls.join⟩

def ofDraft : Draft → Except Flaw SourceFile := readRecord slots ⟨none, none, none, none, none⟩ Partial.finish

def toJson (f : SourceFile) : Value := .object <|
  [("path", .text f.path)] ++ optionalField "checksum" (f.checksum.map .text)
    ++ optionalField "file_name" (f.fileName.map .text) ++ [("insecure", .bool f.insecure)]
    ++ optionalField "min_tls" (f.minTls.map .text)

end SourceFile

namespace SourceRaw

structure Partial where
  data : Option String
  fileName : Option String
  resize : Option UInt64

def slots : List (Slot Partial) := [
  .of "data" Draft.asText (·.data) fun b v => { b with data := some v },
  .of "file_name" Draft.asText (·.fileName) fun b v => { b with fileName := some v },
  .of "resize" Draft.asUInt64 (·.resize) fun b v => { b with resize := some v }]

def Partial.finish (b : Partial) : Option SourceRaw := do
  return ⟨← b.data, ← b.fileName, b.resize.getD 0⟩

def ofDraft : Draft → Except Flaw SourceRaw := readRecord slots ⟨none, none, none⟩ Partial.finish

def toJson (r : SourceRaw) : Value := .object
  [("data", .text r.data), ("file_name", .text r.fileName), ("resize", .number r.resize.toNat)]

end SourceRaw

/-! ## Desired states -/

namespace Spec

structure Partial where
  nodeName : Option String
  datastoreId : Option String
  contentType : Option (Option String)
  sourceFile : Option (Option SourceFile)
  sourceRaw : Option (Option SourceRaw)
  fileMode : Option (Option String)
  overwrite : Option Bool
  timeoutUpload : Option UInt64

def slots : List (Slot Partial) := [
  .of "node_name" Draft.asText (·.nodeName) fun b v => { b with nodeName := some v },
  .of "datastore_id" Draft.asText (·.datastoreId) fun b v => { b with datastoreId := some v },
  .of "content_type" (Draft.asOption Draft.asText) (·.contentType) fun b v => { b with contentType := some v },
  .of "source_file" (Draft.asOption SourceFile.ofDraft) (·.sourceFile) fun b v => { b with sourceFile := some v },
  .of "source_raw" (Draft.asOption SourceRaw.ofDraft) (·.sourceRaw) fun b v => { b with sourceRaw := some v },
  .of "file_mode" (Draft.asOption Draft.asText) (·.fileMode) fun b v => { b with fileMode := some v },
  .of "overwrite" Draft.asBool (·.overwrite) fun b v => { b with overwrite := some v },
  .of "timeout_upload" Draft.asUInt64 (·.timeoutUpload) fun b v => { b with timeoutUpload := some v }]

def Partial.finish (b : Partial) : Option Spec := do
  return ⟨← b.nodeName, ← b.datastoreId, b.contentType.join, b.sourceFile.join, b.sourceRaw.join, b.fileMode.join,
    b.overwrite.getD true, b.timeoutUpload.getD defaultTimeout⟩

def ofDraft : Draft → Except Flaw Spec :=
  readRecord slots ⟨none, none, none, none, none, none, none, none⟩ Partial.finish

def toJson (s : Spec) : Value := .object <|
  [("node_name", .text s.nodeName), ("datastore_id", .text s.datastoreId)]
    ++ optionalField "content_type" (s.contentType.map .text)
    ++ optionalField "source_file" (s.sourceFile.map SourceFile.toJson)
    ++ optionalField "source_raw" (s.sourceRaw.map SourceRaw.toJson)
    ++ optionalField "file_mode" (s.fileMode.map .text)
    ++ [("overwrite", .bool s.overwrite), ("timeout_upload", .number s.timeoutUpload.toNat)]

end Spec

/-! ## Recorded states -/

namespace Observation

structure Partial where
  modificationDate : Option String
  size : Option Int64
  tag : Option String

def slots : List (Slot Partial) := [
  .of "modification_date" Draft.asText (·.modificationDate) fun b v => { b with modificationDate := some v },
  .of "size" Draft.asInt64 (·.size) fun b v => { b with size := some v },
  .of "tag" Draft.asText (·.tag) fun b v => { b with tag := some v }]

def Partial.finish (b : Partial) : Option Observation := do
  return ⟨← b.modificationDate, ← b.size, ← b.tag⟩

def ofDraft : Draft → Except Flaw Observation := readRecord slots ⟨none, none, none⟩ Partial.finish

end Observation

namespace State

structure Partial where
  id : Option String
  nodeName : Option String
  datastoreId : Option String
  contentType : Option String
  fileName : Option String
  modificationDate : Option String
  size : Option Int64
  tag : Option String
  sourceChanged : Option Bool

def slots : List (Slot Partial) := [
  .of "id" Draft.asText (·.id) fun b v => { b with id := some v },
  .of "node_name" Draft.asText (·.nodeName) fun b v => { b with nodeName := some v },
  .of "datastore_id" Draft.asText (·.datastoreId) fun b v => { b with datastoreId := some v },
  .of "content_type" Draft.asText (·.contentType) fun b v => { b with contentType := some v },
  .of "file_name" Draft.asText (·.fileName) fun b v => { b with fileName := some v },
  .of "file_modification_date" Draft.asText (·.modificationDate) fun b v => { b with modificationDate := some v },
  .of "file_size" Draft.asInt64 (·.size) fun b v => { b with size := some v },
  .of "file_tag" Draft.asText (·.tag) fun b v => { b with tag := some v },
  .of "source_changed" Draft.asBool (·.sourceChanged) fun b v => { b with sourceChanged := some v }]

def Partial.finish (b : Partial) : Option State := do
  return ⟨← b.id, ← b.nodeName, ← b.datastoreId, ← b.contentType, ← b.fileName,
    ⟨b.modificationDate.getD "", b.size.getD 0, b.tag.getD ""⟩, b.sourceChanged.getD false⟩

def ofDraft : Draft → Except Flaw State :=
  readRecord slots ⟨none, none, none, none, none, none, none, none, none⟩ Partial.finish

def toJson (s : State) : Value := .object
  [("id", .text s.id), ("node_name", .text s.nodeName), ("datastore_id", .text s.datastoreId),
   ("content_type", .text s.contentType), ("file_name", .text s.fileName),
   ("file_modification_date", .text s.source.modificationDate), ("file_size", .number s.source.size.toInt),
   ("file_tag", .text s.source.tag), ("source_changed", .bool s.sourceChanged)]

end State

end FilePlacement
