import FunctionChain.Archive.JobRecord
import FunctionChain.Json.Decode
import FunctionChain.Json.Scan

/-!
# Reading archive files

Archive files are read strictly: one JSON object and nothing after it, no member that names no field,
and every value of its field's type. Times are read from the string as it is written, and a text that
is no time ends the reading at once; of all other findings the first is reported at the end. A record
is filled while it is read, so a reading that fails may have filled a part of it.
-/

namespace FunctionChain

namespace Archive

/-- A record that can be read: its fields, how a value goes into one of them, and what messages call
the record. Beside what was read stands the error that ends the reading, if there is one. -/
structure Shape (α : Type) where
  typeName : Bytes
  fields : List Bytes
  readField : α → Bytes → Json → Json.Reading α × Option Error

/-- Read the members of an object into a record. -/
def readMembers {α : Type} (shape : Shape α) :
    Json.Reading α → List (Bytes × Json) → Json.Reading α × Option Error
  | reading, [] => (reading, none)
  | reading, (written, value) :: rest =>
    let name := Json.unquoted written
    match Json.fieldOf? shape.fields name with
    | none =>
      readMembers shape ⟨reading.value, reading.finding <|> some (.unknownField name)⟩ rest
    | some field =>
      match shape.readField reading.value field value with
      | (next, some error) => (next, some error)
      | (next, none) => readMembers shape ⟨next.value, reading.finding <|> next.finding⟩ rest

/-- Read a value into a record. `null` leaves it as it was. -/
def readValue {α : Type} (shape : Shape α) (old : α) (value : Json) : α × Option Error :=
  let reading : Json.Reading α × Option Error := match value with
    | .null => (⟨old, none⟩, none)
    | .object members => readMembers shape ⟨old, none⟩ members
    | other => (⟨old, some (Json.wrongType other none shape.typeName)⟩, none)
  match reading with
  | (⟨record, _⟩, some error) => (record, some error)
  | (⟨record, some finding⟩, none) => (record, some (.plain finding.message))
  | (⟨record, none⟩, none) => (record, none)

/-- Read the only value of a text into a record. -/
def readText {α : Type} (shape : Shape α) (old : α) (text : Bytes) : α × Option Error :=
  match Json.scan text with
  | .blank => (old, some (.plain (bytes "EOF")))
  | .truncated => (old, some (.plain (bytes "unexpected EOF")))
  | .fault fault => (old, some (.plain fault.message))
  | .value value rest =>
    match readValue shape old value with
    | (record, some error) => (record, some error)
    | (record, none) =>
      match Json.scan rest with
      | .blank => (record, none)
      | _ => (record, some (.plain (bytes "invalid JSON: trailing content")))

/-! ## Records -/

/-- Read a time. `null` leaves the old one, and a string that is no time leaves none. -/
def readTime (old : Timestamp) (value : Json) : Timestamp × Option Error :=
  match value with
  | .null => (old, none)
  | .string written =>
    match Timestamp.parse written with
    | .ok time => (time, none)
    | .error problem => (.zero, some (.plain (problem.message written)))
  | _ => (old, some (.plain (bytes "Time.UnmarshalJSON: input is not a JSON string")))

/-- The record of a job. -/
def JobRecord.shape : Shape JobRecord where
  typeName := bytes "jobstore.JobRecord"
  fields := [bytes "job_id", bytes "source_hash", bytes "start_time", bytes "end_time",
    bytes "status", bytes "exit_code"]
  readField record field value :=
    let target : Json.Target := ⟨bytes "JobRecord", [field]⟩
    if field == bytes "job_id" then
      let reading := Json.readText record.jobId target value
      (⟨{ record with jobId := reading.value }, reading.finding⟩, none)
    else if field == bytes "source_hash" then
      let reading := Json.readText record.sourceHash target value
      (⟨{ record with sourceHash := reading.value }, reading.finding⟩, none)
    else if field == bytes "start_time" then
      let (time, error) := readTime record.startTime value
      (⟨{ record with startTime := time }, none⟩, error)
    else if field == bytes "end_time" then
      let (time, error) := readTime record.endTime value
      (⟨{ record with endTime := time }, none⟩, error)
    else if field == bytes "status" then
      let reading := Json.readText record.status target value
      (⟨{ record with status := reading.value }, reading.finding⟩, none)
    else
      let reading := Json.readInt record.exitCode record.exitCode id target value
      (⟨{ record with exitCode := reading.value }, reading.finding⟩, none)

/-- The record of a failure. -/
def failureShape : Shape Failure.Record where
  typeName := bytes "failure.Record"
  fields := [bytes "class", bytes "code", bytes "message", bytes "diagnostic", bytes "exit_code"]
  readField record field value :=
    let target : Json.Target := ⟨bytes "Record", [field]⟩
    if field == bytes "class" then
      let reading := Json.readTextAs (bytes "failure.Class") record.className target value
      (⟨{ record with className := reading.value }, reading.finding⟩, none)
    else if field == bytes "code" then
      let reading := Json.readText record.code target value
      (⟨{ record with code := reading.value }, reading.finding⟩, none)
    else if field == bytes "message" then
      let reading := Json.readText record.message target value
      (⟨{ record with message := reading.value }, reading.finding⟩, none)
    else if field == bytes "diagnostic" then
      let reading := Json.readText record.diagnostic target value
      (⟨{ record with diagnostic := reading.value }, reading.finding⟩, none)
    else
      let reading := Json.readInt none record.exitCode some target value
      (⟨{ record with exitCode := reading.value }, reading.finding⟩, none)

end Archive

end FunctionChain
