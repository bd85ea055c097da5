import FunctionChain.Archive.Reading
import FunctionChain.Proofs.Json.Written
import FunctionChain.Proofs.Time.Timestamp

/-!
# Records read back

What the archive writes of a record is read as the record, its texts sanitised (`readText_job`,
`readText_failure`). The reader goes through the members in the order in which they were written, so
each member is one step of it. A record that may be kept may also be kept once its texts are
sanitised, so that the check on reading refuses nothing that has been written.
-/

namespace FunctionChain

/-- The times that a text tells exactly: nanoseconds that are less than a second, and a zone that is
a whole number of minutes. -/
structure Timestamp.IsExact (time : Timestamp) : Prop where
  nanos : time.nanos < 10 ^ 9
  minutes : time.offset % 60 = 0

namespace Archive

open Utf8 (sanitized)

/-! ## Reading members -/

/-- A written record is read from its members. -/
theorem readText_indentedRecord {α : Type} (shape : Shape α) {fields : List Json.Field}
    {members : List (Bytes × Json)} (h : List.Forall₂ Json.Written fields members)
    (hne : fields ≠ []) (hflat : ∀ member ∈ members, member.2.depth = 0) (old : α) :
    readText shape old (Json.indentedRecord fields) = readValue shape old (.object members) := by
  obtain ⟨rest, hvalue, hrest⟩ :=
    Json.scan_alone_iff.2 (Json.spellsAlone_indentedRecord h hne hflat)
  rw [readText, hvalue]
  dsimp only
  rw [hrest]
  obtain ⟨record, error⟩ := readValue shape old (.object members)
  cases error <;> rfl

/-- A member that names a field and has a value for it is read into the field. -/
theorem readMembers_cons {α : Type} {shape : Shape α} (field : Bytes)
    (hfield : field ∈ shape.fields ∧ sanitized field = field) (next : α) {value : α} {json : Json}
    (hread : shape.readField value field json = (⟨next, none⟩, none)) {rest : List (Bytes × Json)}
    {reading : Json.Reading α × Option Error}
    (hrest : readMembers shape ⟨next, none⟩ rest = reading) :
    readMembers shape ⟨value, none⟩ ((Json.escaped field, json) :: rest) = reading := by
  have hfound : Json.fieldOf? shape.fields field = some field := by
    simp [Json.fieldOf?, hfield.1]
  rw [readMembers]
  dsimp only
  rw [Json.unquoted_escaped, hfield.2, hfound]
  dsimp only
  rw [hread]
  exact hrest

/-- An object is read by its members. -/
theorem readValue_object {α : Type} {shape : Shape α} {members : List (Bytes × Json)}
    {old record : α} (h : readMembers shape ⟨old, none⟩ members = (⟨record, none⟩, none)) :
    readValue shape old (.object members) = (record, none) := by
  simp [readValue, h]

/-! ## Times -/

/-- The bytes that stand for themselves in a written string. -/
def IsPlain (text : Bytes) : Prop := ∀ b ∈ text, 0x20 ≤ b ∧ b ≠ 0x22 ∧ b ≠ 0x5C

instance (text : Bytes) : Decidable (IsPlain text) :=
  List.decidableBAll (fun b => 0x20 ≤ b ∧ b ≠ 0x22 ∧ b ≠ 0x5C) text

/-- Plain texts are plain one after the other. -/
theorem isPlain_append {s t : Bytes} : IsPlain (s ++ t) ↔ IsPlain s ∧ IsPlain t :=
  List.forall_mem_append

/-- A text is plain byte by byte. -/
theorem isPlain_cons {b : UInt8} {t : Bytes} : IsPlain (b :: t) ↔ IsPlain [b] ∧ IsPlain t := by
  rw [← isPlain_append, List.singleton_append]

/-- Padded numbers are plain. -/
theorem isPlain_padded (n width : Nat) : IsPlain (Decimal.padded n width) := by
  intro b hb
  obtain ⟨hlow, hhigh⟩ := Decimal.isDigit_iff.1 (Decimal.isDigit_of_mem_padded hb)
  simp only [UInt8.le_iff_toNat_le, ne_eq, ← UInt8.toNat_inj, UInt8.reduceToNat]
  omega

/-- Fractions of seconds are plain. -/
theorem isPlain_fractionText (nanos : Nat) : IsPlain (Timestamp.fractionText nanos) := by
  unfold Timestamp.fractionText
  split
  · decide
  · rw [isPlain_cons]
    refine ⟨by decide, fun b hb => isPlain_padded nanos 9 b ?_⟩
    exact List.mem_reverse.1 ((List.dropWhile_sublist _).mem (List.mem_reverse.1 hb))

/-- Zones are plain. -/
theorem isPlain_zoneText (offset : Int) : IsPlain (Timestamp.zoneText offset) := by
  unfold Timestamp.zoneText
  split
  · decide
  · dsimp only
    rw [List.append_assoc, List.cons_append, isPlain_cons, isPlain_append, isPlain_append]
    refine ⟨?_, isPlain_padded _ _, by decide, isPlain_padded _ _⟩
    split <;> decide

/-- A time is written in quotes, if it can be written. -/
theorem timeJson_eq_ok_iff {time : Timestamp} {json : Bytes} :
    JobRecord.timeJson time = .ok json ↔
      ∃ text, time.write = .ok text ∧ byte '"' :: text ++ [byte '"'] = json := by
  delta JobRecord.timeJson
  cases time.write <;> simp

/-- A written time needs no escapes. -/
theorem spells_timeJson {time : Timestamp} {json : Bytes} (h : JobRecord.timeJson time = .ok json) :
    ∃ text, time.write = .ok text ∧ Json.Spells (.string text) json := by
  obtain ⟨text, htext, rfl⟩ := timeJson_eq_ok_iff.1 h
  obtain ⟨hyear, -, rfl⟩ := Timestamp.write_eq_ok_iff.1 htext
  have hplain : IsPlain time.preciseText := by
    simp only [Timestamp.preciseText_eq hyear.1, Timestamp.partsText, isPlain_append,
      isPlain_cons (t := _ ++ _), isPlain_padded, isPlain_fractionText, isPlain_zoneText]
    decide
  exact ⟨_, htext, .string (Json.characters_of_plain hplain)⟩

/-- A time that is exact is read back as it was written. -/
theorem readTime_write {time : Timestamp} {text : Bytes} (hexact : time.IsExact)
    (h : time.write = .ok text) (old : Timestamp) : readTime old (.string text) = (time, none) := by
  rw [readTime, Timestamp.parse_write hexact.nanos hexact.minutes h]

/-! ## Jobs -/

/-- The record with its texts sanitised. -/
def JobRecord.sanitized (record : JobRecord) : JobRecord :=
  { record with
    jobId := Utf8.sanitized record.jobId
    sourceHash := Utf8.sanitized record.sourceHash
    status := Utf8.sanitized record.status }

/-- The records that a text tells exactly, their texts aside. -/
structure JobRecord.IsExact (record : JobRecord) : Prop where
  startTime : record.startTime.IsExact
  endTime : record.endTime.IsExact
  exitCode : Word.IsSigned record.exitCode

/-- The members of a written record, of which the texts of the times are given. -/
def JobRecord.members (record : JobRecord) (started ended : Bytes) : List (Bytes × Json) :=
  [(Json.escaped (bytes "job_id"), .string (Json.escaped record.jobId)),
    (Json.escaped (bytes "source_hash"), .string (Json.escaped record.sourceHash)),
    (Json.escaped (bytes "start_time"), .string started),
    (Json.escaped (bytes "end_time"), .string ended),
    (Json.escaped (bytes "status"), .string (Json.escaped record.status)),
    (Json.escaped (bytes "exit_code"), .number (Decimal.ofInt record.exitCode))]

/-- An exit code is read from its number. -/
theorem readField_exitCode {record : JobRecord} {literal : Bytes} {n : Int}
    (h : Json.int64? literal = some n) :
    JobRecord.shape.readField record (bytes "exit_code") (.number literal)
      = (⟨{ record with exitCode := n }, none⟩, none) := by
  have hread : Json.readInt record.exitCode record.exitCode id
      ⟨bytes "JobRecord", [bytes "exit_code"]⟩ (.number literal) = ⟨n, none⟩ := by
    simp [Json.readInt, h]
  exact congrArg (fun reading : Json.Reading Int => ((⟨{ record with exitCode := reading.value },
    reading.finding⟩ : Json.Reading JobRecord), (none : Option Error))) hread

/-- A start is read as its time. -/
theorem readField_startTime {record : JobRecord} {time : Timestamp} {value : Json}
    (h : readTime record.startTime value = (time, none)) :
    JobRecord.shape.readField record (bytes "start_time") value
      = (⟨{ record with startTime := time }, none⟩, none) :=
  congrArg (fun read : Timestamp × Option Error =>
    ((⟨{ record with startTime := read.1 }, none⟩ : Json.Reading JobRecord), read.2)) h

/-- An end is read as its time. -/
theorem readField_endTime {record : JobRecord} {time : Timestamp} {value : Json}
    (h : readTime record.endTime value = (time, none)) :
    JobRecord.shape.readField record (bytes "end_time") value
      = (⟨{ record with endTime := time }, none⟩, none) :=
  congrArg (fun read : Timestamp × Option Error =>
    ((⟨{ record with endTime := read.1 }, none⟩ : Json.Reading JobRecord), read.2)) h

/-- The members of a record are read one after another into the blank one. -/
theorem readMembers_job {record : JobRecord} (hexact : record.IsExact) {started ended : Bytes}
    (hstarted : record.startTime.write = .ok started) (hended : record.endTime.write = .ok ended) :
    readMembers JobRecord.shape ⟨.blank, none⟩ (record.members started ended)
      = (⟨record.sanitized, none⟩, none) := by
  have hint := Json.int64?_ofInt hexact.exitCode.1 hexact.exitCode.2
  let id := Json.unquoted (Json.escaped record.jobId)
  let hash := Json.unquoted (Json.escaped record.sourceHash)
  let status := Json.unquoted (Json.escaped record.status)
  refine readMembers_cons (bytes "job_id") (by decide) ⟨id, [], .zero, .zero, [], 0⟩ rfl ?_
  refine readMembers_cons (bytes "source_hash") (by decide) ⟨id, hash, .zero, .zero, [], 0⟩ rfl ?_
  refine readMembers_cons (bytes "start_time") (by decide)
    ⟨id, hash, record.startTime, .zero, [], 0⟩
    (readField_startTime (readTime_write hexact.startTime hstarted _)) ?_
  refine readMembers_cons (bytes "end_time") (by decide)
    ⟨id, hash, record.startTime, record.endTime, [], 0⟩
    (readField_endTime (readTime_write hexact.endTime hended _)) ?_
  refine readMembers_cons (bytes "status") (by decide)
    ⟨id, hash, record.startTime, record.endTime, status, 0⟩ rfl ?_
  refine readMembers_cons (bytes "exit_code") (by decide)
    ⟨id, hash, record.startTime, record.endTime, status, record.exitCode⟩
    (readField_exitCode hint) ?_
  simp [readMembers, JobRecord.sanitized, id, hash, status, Json.unquoted_escaped]

/-- The members of a record are written when its times are. -/
theorem fields_eq_ok_iff {record : JobRecord} {fields : List Json.Field} :
    record.fields = .ok fields ↔ ∃ started ended,
      JobRecord.timeJson record.startTime = .ok started ∧
      JobRecord.timeJson record.endTime = .ok ended ∧
      [(bytes "job_id", Json.ofText record.jobId),
        (bytes "source_hash", Json.ofText record.sourceHash), (bytes "start_time", started),
        (bytes "end_time", ended), (bytes "status", Json.ofText record.status),
        (bytes "exit_code", Decimal.ofInt record.exitCode)] = fields := by
  delta JobRecord.fields
  cases JobRecord.timeJson record.startTime <;> cases JobRecord.timeJson record.endTime <;> simp

/-- **Jobs.** The written record of a job is read as the record with its texts sanitised. -/
theorem readText_job {record : JobRecord} {fields : List Json.Field} (hexact : record.IsExact)
    (h : record.fields = .ok fields) :
    readText JobRecord.shape .blank (Json.indentedRecord fields) = (record.sanitized, none) := by
  obtain ⟨started, ended, hstarted, hended, rfl⟩ := fields_eq_ok_iff.1 h
  obtain ⟨startText, hstart, hstartSpells⟩ := spells_timeJson hstarted
  obtain ⟨endText, hend, hendSpells⟩ := spells_timeJson hended
  have hwritten : List.Forall₂ Json.Written
      [(bytes "job_id", Json.ofText record.jobId),
        (bytes "source_hash", Json.ofText record.sourceHash), (bytes "start_time", started),
        (bytes "end_time", ended), (bytes "status", Json.ofText record.status),
        (bytes "exit_code", Decimal.ofInt record.exitCode)]
      (record.members startText endText) :=
    .cons ⟨rfl, Json.spells_ofText _⟩ (.cons ⟨rfl, Json.spells_ofText _⟩
      (.cons ⟨rfl, hstartSpells⟩ (.cons ⟨rfl, hendSpells⟩ (.cons ⟨rfl, Json.spells_ofText _⟩
        (.cons ⟨rfl, .number (Json.number_ofInt record.exitCode)⟩ .nil)))))
  rw [readText_indentedRecord JobRecord.shape hwritten (List.cons_ne_nil _ _)
    (by simp [JobRecord.members, Json.depth])]
  exact readValue_object (readMembers_job hexact hstart hend)

/-! ## Failures -/

open Failure (Record)

/-- The record with its texts sanitised. -/
def sanitizedFailure (record : Record) : Record :=
  { record with
    className := sanitized record.className
    code := sanitized record.code
    message := sanitized record.message
    diagnostic := sanitized record.diagnostic }

/-- The member of a diagnostic, unless it is empty. -/
def diagnosticMembers (record : Record) : List (Bytes × Json) :=
  if record.diagnostic.isEmpty then []
  else [(Json.escaped (bytes "diagnostic"), .string (Json.escaped record.diagnostic))]

/-- The member of an exit code, if there is one. -/
def exitMembers (record : Record) : List (Bytes × Json) :=
  match record.exitCode with
  | some code => [(Json.escaped (bytes "exit_code"), .number (Decimal.ofInt code))]
  | none => []

/-- The members of a written record. -/
def failureMembers (record : Record) : List (Bytes × Json) :=
  [(Json.escaped (bytes "class"), .string (Json.escaped record.className)),
    (Json.escaped (bytes "code"), .string (Json.escaped record.code)),
    (Json.escaped (bytes "message"), .string (Json.escaped record.message))]
  ++ diagnosticMembers record ++ exitMembers record

/-- The fields of a failure are written as its members. -/
theorem written_failureMembers (record : Record) :
    List.Forall₂ Json.Written record.fields (failureMembers record) := by
  have hfirst : List.Forall₂ Json.Written
      [(bytes "class", Json.ofText record.className), (bytes "code", Json.ofText record.code),
        (bytes "message", Json.ofText record.message)]
      [(Json.escaped (bytes "class"), .string (Json.escaped record.className)),
        (Json.escaped (bytes "code"), .string (Json.escaped record.code)),
        (Json.escaped (bytes "message"), .string (Json.escaped record.message))] :=
    .cons ⟨rfl, Json.spells_ofText _⟩ (.cons ⟨rfl, Json.spells_ofText _⟩
      (.cons ⟨rfl, Json.spells_ofText _⟩ .nil))
  unfold Record.fields failureMembers
  refine List.rel_append (List.rel_append hfirst ?_) ?_
  · unfold diagnosticMembers
    split
    · exact .nil
    · exact .cons ⟨rfl, Json.spells_ofText _⟩ .nil
  · unfold exitMembers
    cases record.exitCode with
    | none => exact .nil
    | some code => exact .cons ⟨rfl, .number (Json.number_ofInt code)⟩ .nil

/-- The exit code of a failure is read from its number. -/
theorem readField_failureExit {record : Record} {literal : Bytes} {n : Int}
    (h : Json.int64? literal = some n) :
    failureShape.readField record (bytes "exit_code") (.number literal)
      = (⟨{ record with exitCode := some n }, none⟩, none) := by
  have hread : Json.readInt none record.exitCode some ⟨bytes "Record", [bytes "exit_code"]⟩
      (.number literal) = ⟨some n, none⟩ := by
    simp [Json.readInt, h]
  exact congrArg (fun reading : Json.Reading (Option Int) =>
    ((⟨{ record with exitCode := reading.value }, reading.finding⟩ : Json.Reading Record),
      (none : Option Error))) hread

/-- An exit code that is missing is told from the exit code zero. -/
theorem readMembers_exit {record : Record} (hexit : ∀ code, record.exitCode = some code →
    Word.IsSigned code) (read : Record) (hread : read.exitCode = none) :
    readMembers failureShape ⟨read, none⟩ (exitMembers record)
      = (⟨{ read with exitCode := record.exitCode }, none⟩, none) := by
  unfold exitMembers
  cases hcode : record.exitCode with
  | none =>
    cases read
    cases hread
    rfl
  | some code =>
    obtain ⟨hlow, hhigh⟩ := hexit code hcode
    exact readMembers_cons (bytes "exit_code") (by decide) { read with exitCode := some code }
      (readField_failureExit (Json.int64?_ofInt hlow hhigh)) rfl

/-- **Failures.** The written record of a failure is read as the record with its texts sanitised. -/
theorem readText_failure {record : Record}
    (hexit : ∀ code, record.exitCode = some code → Word.IsSigned code) :
    readText failureShape .blank (Json.indentedRecord record.fields)
      = (sanitizedFailure record, none) := by
  have hflat : ∀ member ∈ failureMembers record, member.2.depth = 0 := by
    unfold failureMembers diagnosticMembers exitMembers
    split <;> split <;> simp [Json.depth]
  rw [readText_indentedRecord failureShape (written_failureMembers record)
    (by simp [Record.fields]) hflat]
  refine readValue_object ?_
  unfold failureMembers
  simp only [List.cons_append, List.nil_append]
  let name := Json.unquoted (Json.escaped record.className)
  let code := Json.unquoted (Json.escaped record.code)
  let message := Json.unquoted (Json.escaped record.message)
  let diagnostic := Json.unquoted (Json.escaped record.diagnostic)
  refine readMembers_cons (bytes "class") (by decide) ⟨name, [], [], [], none⟩ rfl ?_
  refine readMembers_cons (bytes "code") (by decide) ⟨name, code, [], [], none⟩ rfl ?_
  refine readMembers_cons (bytes "message") (by decide) ⟨name, code, message, [], none⟩ rfl ?_
  unfold diagnosticMembers
  split
  · next hempty =>
    rw [List.isEmpty_iff] at hempty
    refine (readMembers_exit hexit _ rfl).trans ?_
    simp [sanitizedFailure, name, code, message, Json.unquoted_escaped, hempty]
    rfl
  · refine readMembers_cons (bytes "diagnostic") (by decide) ⟨name, code, message, diagnostic, none⟩
      rfl ?_
    refine (readMembers_exit hexit _ rfl).trans ?_
    simp [sanitizedFailure, name, code, message, diagnostic, Json.unquoted_escaped]

/-! ## Checks -/

/-- The texts that can be the id of an archived job. -/
structure IsJobId (id : Bytes) : Prop where
  notBlank : Blank.isAllBlank id = false
  noSlash : (0x2F : UInt8) ∉ id
  noBackslash : (0x5C : UInt8) ∉ id
  notSame : id ≠ bytes "."
  notUp : id ≠ bytes ".."

/-- An id has no error just if it is one. -/
theorem invalidJobId?_eq_none_iff {id : Bytes} : invalidJobId? id = none ↔ IsJobId id := by
  unfold invalidJobId?
  simp only [List.contains_eq_mem, Bool.or_eq_true, decide_eq_true_eq, beq_iff_eq]
  constructor
  · intro h
    split at h
    · cases h
    split at h
    · cases h
    split at h
    · cases h
    next hblank hslash hdots =>
    rw [not_or] at hslash hdots
    exact ⟨Bool.eq_false_iff.2 hblank, hslash.1, hslash.2, hdots.1, hdots.2⟩
  · rintro ⟨hblank, hslash, hback, hsame, hup⟩
    simp [hblank, hslash, hback, hsame, hup]

/-- A valid id is valid also when sanitised. -/
theorem IsJobId.sanitized {id : Bytes} (h : IsJobId id) : IsJobId (Utf8.sanitized id) := by
  have hdots {dots : Bytes} (hlow : dots.all (fun b => b.toNat < 0x80) = true) (hne : id ≠ dots) :
      Utf8.sanitized id ≠ dots := by
    rintro rfl
    have hall := List.all_eq_true.1 hlow
    exact hne (Utf8.sanitized_eq_of_low fun b hb => of_decide_eq_true (hall b hb)).symm
  refine ⟨?_, ?_, ?_, hdots (by decide) h.notSame, hdots (by decide) h.notUp⟩
  · rw [Blank.isAllBlank_sanitized]
    exact h.notBlank
  · rw [Utf8.mem_sanitized_iff (by decide)]
    exact h.noSlash
  · rw [Utf8.mem_sanitized_iff (by decide)]
    exact h.noBackslash

/-- No errors give none. -/
theorem join?_eq_none_iff {errors : List Error} : Error.join? errors = none ↔ errors = [] := by
  cases errors <;> simp [Error.join?]

/-- The records of jobs that are kept. -/
theorem invalid?_job_eq_none_iff {record : JobRecord} :
    record.invalid? = none ↔ IsJobId record.jobId ∧ record.startTime.isZero = false ∧
      record.endTime.isBefore record.startTime = false ∧
      Blank.isAllBlank record.status = false := by
  rw [JobRecord.invalid?, join?_eq_none_iff, JobRecord.problems, ← invalidJobId?_eq_none_iff]
  cases invalidJobId? record.jobId <;> cases record.startTime.isZero <;>
    cases record.endTime.isBefore record.startTime <;> cases Blank.isAllBlank record.status <;> simp

/-- A valid record of a job is valid with its texts sanitized. -/
theorem invalid?_sanitized_job {record : JobRecord} (h : record.invalid? = none) :
    record.sanitized.invalid? = none := by
  obtain ⟨hid, hstart, hend, hstatus⟩ := invalid?_job_eq_none_iff.1 h
  refine invalid?_job_eq_none_iff.2 ⟨hid.sanitized, hstart, hend, ?_⟩
  exact (Blank.isAllBlank_sanitized _).trans hstatus

/-- The records of failures that are kept. -/
theorem invalid?_failure_eq_none_iff {record : Record} :
    record.invalid? = none ↔ (Failure.Class.ofName? record.className).isSome = true ∧
      Blank.isAllBlank record.code = false ∧ Blank.isAllBlank record.message = false := by
  rw [Record.invalid?, join?_eq_none_iff, List.map_eq_nil_iff, Record.problems]
  cases (Failure.Class.ofName? record.className).isSome <;> cases Blank.isAllBlank record.code <;>
    cases Blank.isAllBlank record.message <;> simp

/-- The names of classes are well-formed text. -/
theorem sanitized_className {name : Bytes} (h : (Failure.Class.ofName? name).isSome = true) :
    sanitized name = name := by
  obtain ⟨kind, hkind⟩ := Option.isSome_iff_exists.1 h
  have hname := List.find?_some hkind
  rw [beq_iff_eq] at hname
  rw [← hname]
  cases kind <;> decide

/-- So is one of a failure. -/
theorem invalid?_sanitized_failure {record : Record} (h : record.invalid? = none) :
    (sanitizedFailure record).invalid? = none := by
  obtain ⟨hclass, hcode, hmessage⟩ := invalid?_failure_eq_none_iff.1 h
  refine invalid?_failure_eq_none_iff.2 ⟨?_, ?_, ?_⟩
  · exact (congrArg (fun name => (Failure.Class.ofName? name).isSome)
      (sanitized_className hclass)).trans hclass
  · exact (Blank.isAllBlank_sanitized _).trans hcode
  · exact (Blank.isAllBlank_sanitized _).trans hmessage

end Archive

end FunctionChain
