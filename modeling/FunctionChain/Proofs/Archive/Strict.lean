import FunctionChain.Proofs.Archive.RoundTrip
import FunctionChain.Proofs.Document.Layers
import FunctionChain.Proofs.Files.Changes

/-!
# Archive files are read strictly

A record is read from a file only if the file holds one object and nothing else, if every member of
the object names a field and has a value of its type, and if the record that comes of it is valid
(`load_strict`). Members are read one after the other, and a field that is given again is read over:
what the record says of a field is what was last given to it (`JobRecord.over`, `failureOver`).
-/

namespace FunctionChain

/-! ## Integers -/

/-- The number that decimal digits stand for. -/
def Decimal.value (digits : Bytes) : Nat := digits.foldl (fun n b => n * 10 + (b.toNat - 48)) 0

/-- `WritesInteger literal n`: decimal digits, with a minus sign before those of a negative
number. -/
inductive WritesInteger : Bytes → Int → Prop where
  | plain {digits : Bytes} : Json.Digits digits → WritesInteger digits (Decimal.value digits)
  | minus {digits : Bytes} :
      Json.Digits digits → WritesInteger (0x2D :: digits) (-(Decimal.value digits : Int))

/-- The digits of texts are those of the grammar. -/
theorem isDigit_iff_digit {b : UInt8} : Bytes.isDigit b = true ↔ Json.Digit b := by
  simp [Bytes.isDigit, Json.Digit, byte]

/-- Digits are read just if all bytes are digits, from the left with a place value each. -/
theorem Decimal.readDigits_eq_some_iff {digits : Bytes} {start n : Nat} :
    Decimal.readDigits start digits = some n ↔ (∀ b ∈ digits, Json.Digit b) ∧
      digits.foldl (fun n b => n * 10 + (b.toNat - 48)) start = n := by
  induction digits generalizing start with
  | nil => simp [Decimal.readDigits]
  | cons b rest ih =>
    rw [Decimal.readDigits, List.forall_mem_cons, ← isDigit_iff_digit, List.foldl_cons]
    split
    · next hdigit => rw [ih, and_iff_right hdigit]
    · next hdigit => simp [hdigit]

/-- A text is read as a number just if it is a run of digits. -/
theorem Decimal.toNat?_eq_some_iff {digits : Bytes} {n : Nat} :
    Decimal.toNat? digits = some n ↔ Json.Digits digits ∧ Decimal.value digits = n := by
  by_cases hne : digits = []
  · simp [hne, Decimal.toNat?, Json.Digits]
  · rw [Decimal.toNat?_eq_readDigits hne, Decimal.readDigits_eq_some_iff, Json.Digits,
      and_iff_right hne]
    rfl

/-- With a minus sign an integer is written by digits and is negated. -/
theorem writesInteger_minus_iff {digits : Bytes} {n : Int} :
    WritesInteger (0x2D :: digits) n ↔
      Json.Digits digits ∧ n = -(Decimal.value digits : Int) := by
  constructor
  · intro h
    cases h with
    | plain hdigits => exact absurd (hdigits.2 0x2D List.mem_cons_self) (by decide)
    | minus hdigits => exact ⟨hdigits, rfl⟩
  · rintro ⟨hdigits, rfl⟩
    exact .minus hdigits

/-- Without a minus sign an integer is written by digits. -/
theorem writesInteger_iff {literal : Bytes} (h : ∀ digits, literal ≠ 0x2D :: digits) {n : Int} :
    WritesInteger literal n ↔ Json.Digits literal ∧ n = Decimal.value literal := by
  constructor
  · intro hwrites
    cases hwrites with
    | plain hdigits => exact ⟨hdigits, rfl⟩
    | minus => exact absurd rfl (h _)
  · rintro ⟨hdigits, rfl⟩
    exact .plain hdigits

/-- The integers that are read are those that are written in digits and fit into 64 bits. -/
theorem Json.int64?_eq_some_iff {literal : Bytes} {n : Int} :
    Json.int64? literal = some n ↔ WritesInteger literal n ∧ Word.IsSigned n := by
  have hhalf : 0 < Word.half := by decide
  unfold Json.int64? Word.IsSigned
  split
  next negative rest hsplit =>
  split at hsplit
  · next digits =>
    cases hsplit
    rw [writesInteger_minus_iff]
    split
    · next hnone =>
      refine iff_of_false nofun ?_
      rintro ⟨⟨hdigits, -⟩, -⟩
      cases hnone.symm.trans (Decimal.toNat?_eq_some_iff.2 ⟨hdigits, rfl⟩)
    · next value hvalue =>
      obtain ⟨hdigits, rfl⟩ := Decimal.toNat?_eq_some_iff.1 hvalue
      rw [and_iff_right hdigits, if_pos rfl]
      split
      · rw [Option.some.injEq]
        omega
      · refine iff_of_false nofun ?_
        omega
  · next hminus =>
    cases hsplit
    rw [writesInteger_iff hminus]
    split
    · next hnone =>
      refine iff_of_false nofun ?_
      rintro ⟨⟨hdigits, -⟩, -⟩
      cases hnone.symm.trans (Decimal.toNat?_eq_some_iff.2 ⟨hdigits, rfl⟩)
    · next value hvalue =>
      obtain ⟨hdigits, rfl⟩ := Decimal.toNat?_eq_some_iff.1 hvalue
      rw [and_iff_right hdigits, if_neg Bool.false_ne_true]
      split
      · rw [Option.some.injEq]
        omega
      · refine iff_of_false nofun ?_
        omega

namespace Archive

open Document (names givenTo textOf?)

/-! ## Types of fields -/

/-- What a field is for. -/
inductive FieldType where
  | text
  | time
  | integer

/-- The values that a field takes: those of its type, and `null`. -/
inductive FieldType.Takes : FieldType → Json → Prop where
  | null (type : FieldType) : Takes type .null
  | text (written : Bytes) : Takes .text (.string written)
  | time {written : Bytes} {time : Timestamp} :
      Timestamp.parse written = .ok time → Takes .time (.string written)
  | integer {literal : Bytes} {n : Int} :
      WritesInteger literal n → Word.IsSigned n → Takes .integer (.number literal)

/-- The time that a value stands for. -/
def timeOf? : Json → Option Timestamp
  | .string written => (Timestamp.parse written).toOption
  | _ => none

/-- The integer that a value stands for. -/
def integerOf? : Json → Option Int
  | .number literal => Json.int64? literal
  | _ => none

/-- The integer that a value stands for where there need not be one: `null` says that there is
none. -/
def exitOf? : Json → Option (Option Int)
  | .null => some none
  | .number literal => (Json.int64? literal).map some
  | _ => none

section Values

variable {value : Json} {target : Json.Target}

/-- A text is read without an error from a text, and from null, which leaves what was there. -/
theorem readText_eq_iff {wanted old text : Bytes} :
    Json.readTextAs wanted old target value = ⟨text, none⟩ ↔
      FieldType.text.Takes value ∧ (textOf? value).getD old = text := by
  cases value with
  | null => simp [Json.readTextAs, textOf?, FieldType.Takes.null]
  | string written => simp [Json.readTextAs, textOf?, FieldType.Takes.text]
  | bool | number | array | object =>
    exact iff_of_false (by simp [Json.readTextAs]) (by rintro ⟨⟨⟩, -⟩)

/-- A time is read without an error from the text of one, and from null. -/
theorem readTime_eq_iff {old time : Timestamp} :
    readTime old value = (time, none) ↔
      FieldType.time.Takes value ∧ (timeOf? value).getD old = time := by
  cases value with
  | null => simp [readTime, timeOf?, FieldType.Takes.null]
  | string written =>
    rw [readTime, timeOf?]
    cases hparse : Timestamp.parse written with
    | ok other => simp [FieldType.Takes.time hparse, Except.toOption]
    | error problem =>
      refine iff_of_false (by simp) ?_
      rintro ⟨htakes, -⟩
      cases htakes with
      | time hok => cases hparse.symm.trans hok
  | bool | number | array | object =>
    exact iff_of_false (by simp [readTime]) (by rintro ⟨⟨⟩, -⟩)

/-- Integers are taken from numbers that are written as such and are not too large. -/
theorem takes_number_iff {literal : Bytes} :
    FieldType.integer.Takes (.number literal) ↔ ∃ n, Json.int64? literal = some n := by
  simp only [Json.int64?_eq_some_iff]
  constructor
  · intro h
    cases h with
    | integer hwrites hsigned => exact ⟨_, hwrites, hsigned⟩
  · rintro ⟨n, hwrites, hsigned⟩
    exact .integer hwrites hsigned

/-- A field of integers is given what `null` or an integer makes of it. -/
theorem readInt_eq_iff {α : Type} {onNull old result : α} {ofInt : Int → α}
    (read? : Json → Option α) (hnull : (read? .null).getD old = onNull)
    (hnumber : ∀ literal, read? (.number literal) = (Json.int64? literal).map ofInt) :
    Json.readInt onNull old ofInt target value = ⟨result, none⟩ ↔
      FieldType.integer.Takes value ∧ (read? value).getD old = result := by
  cases value with
  | null => simp [Json.readInt, FieldType.Takes.null, hnull]
  | number literal =>
    rw [takes_number_iff, Json.readInt, hnumber]
    cases Json.int64? literal <;> simp
  | bool | string | array | object =>
    exact iff_of_false (by simp [Json.readInt]) (by rintro ⟨⟨⟩, -⟩)

end Values

/-! ## Reading members one after the other -/

section Members

variable {α : Type} {shape : Shape α}

/-- `Fills shape old members record`: each member names a field and its value goes into it. -/
inductive Fills (shape : Shape α) : α → List (Bytes × Json) → α → Prop where
  | nil (record : α) : Fills shape record [] record
  | cons {old next record : α} {member : Bytes × Json} {rest : List (Bytes × Json)}
      {field : Bytes} :
      Json.fieldOf? shape.fields (Json.unquoted member.1) = some field →
      shape.readField old field member.2 = (⟨next, none⟩, none) → Fills shape next rest record →
      Fills shape old (member :: rest) record

/-- A finding stays. -/
theorem finding_readMembers {old : α} {finding : Json.Finding} {members : List (Bytes × Json)}
    {reading : Json.Reading α}
    (h : readMembers shape ⟨old, some finding⟩ members = (reading, none)) :
    reading.finding ≠ none := by
  induction members generalizing old with
  | nil =>
    cases h
    exact Option.some_ne_none finding
  | cons member rest ih =>
    obtain ⟨written, value⟩ := member
    rw [readMembers] at h
    dsimp only at h
    split at h
    · exact ih h
    · split at h
      · cases h
      · exact ih h

/-- Members are read without a finding just if they fill the record. -/
theorem readMembers_eq_ok_iff {old record : α} {members : List (Bytes × Json)} :
    readMembers shape ⟨old, none⟩ members = (⟨record, none⟩, none) ↔
      Fills shape old members record := by
  induction members generalizing old with
  | nil =>
    constructor
    · rintro ⟨⟩
      exact .nil _
    · rintro ⟨⟩
      rfl
  | cons member rest ih =>
    obtain ⟨written, value⟩ := member
    rw [readMembers]
    dsimp only
    constructor
    · intro h
      split at h
      · exact absurd rfl (finding_readMembers h)
      next field hfield =>
      split at h
      · cases h
      next reading hnext =>
      obtain ⟨next, finding⟩ := reading
      cases finding with
      | some finding => exact absurd rfl (finding_readMembers h)
      | none => exact .cons hfield hnext (ih.1 h)
    · rintro (_ | ⟨hfield, hnext, hrest⟩)
      dsimp only at hfield hnext
      rw [hfield]
      dsimp only
      rw [hnext]
      exact ih.2 hrest

/-- A text is read just if it is one object whose members fill the record, or `null`. -/
theorem readText_eq_ok_iff {text : Bytes} {old record : α} :
    Archive.readText shape old text = (record, none) ↔
      (∃ members, Json.SpellsAlone Json.maxDepth (.object members) text ∧
        Fills shape old members record) ∨
      (Json.SpellsAlone Json.maxDepth .null text ∧ old = record) := by
  have hvalue (value : Json) : readValue shape old value = (record, none) ↔
      (∃ members, value = .object members ∧ Fills shape old members record) ∨
        value = .null ∧ old = record := by
    cases value with
    | null => simp [readValue]
    | object members =>
      simp only [readValue, Json.object.injEq, exists_eq_left', reduceCtorEq, false_and, or_false,
        ← readMembers_eq_ok_iff]
      split
      · next heq => simp [heq]
      · next heq => simp [heq]
      · next heq => simp [heq]
    | bool | number | string | array => simp [readValue]
  have htext : Archive.readText shape old text = (record, none) ↔
      ∃ value, Json.SpellsAlone Json.maxDepth value text ∧
        readValue shape old value = (record, none) := by
    simp only [← Json.scan_alone_iff]
    unfold Archive.readText
    cases Json.scan text with
    | blank | truncated | fault => simp
    | value value rest =>
      rcases hread : readValue shape old value with ⟨other, error⟩
      cases error with
      | some error => simp [hread]
      | none =>
        cases hrest : Json.scan rest <;> simp [hrest, hread]
  rw [htext]
  constructor
  · rintro ⟨value, hspells, hread⟩
    rcases (hvalue value).1 hread with ⟨members, rfl, hfills⟩ | ⟨rfl, hblank⟩
    · exact .inl ⟨members, hspells, hfills⟩
    · exact .inr ⟨hspells, hblank⟩
  · rintro (⟨members, hspells, hfills⟩ | ⟨hspells, hblank⟩)
    · exact ⟨_, hspells, (hvalue _).2 (.inl ⟨members, rfl, hfills⟩)⟩
    · exact ⟨_, hspells, (hvalue _).2 (.inr ⟨rfl, hblank⟩)⟩

end Members

/-! ## What ends a reading -/

/-- The error says no more than its message. -/
def IsMessage (error : Error) : Prop := ∃ message, error = .plain message

/-- What ends the reading of a field is a message. -/
def Shape.EndsByMessage {α : Type} (shape : Shape α) : Prop :=
  ∀ record field value error, (shape.readField record field value).2 = some error → IsMessage error

/-- The fields of failures are refused with messages. -/
theorem failureShape_endsByMessage : failureShape.EndsByMessage := by
  intro record field value error h
  simp only [failureShape] at h
  split_ifs at h

section Shape

variable {α : Type} {shape : Shape α} (hshape : shape.EndsByMessage) {error : Error}
include hshape

/-- Members are refused with a message. -/
theorem readMembers_isMessage {reading : Json.Reading α} {members : List (Bytes × Json)}
    (h : (readMembers shape reading members).2 = some error) : IsMessage error := by
  induction members generalizing reading with
  | nil => cases h
  | cons member rest ih =>
    rw [readMembers] at h
    split at h
    · exact ih h
    · split at h
      · next hfield =>
        cases h
        exact hshape _ _ _ _ (congrArg Prod.snd hfield)
      · exact ih h

/-- Values are refused with a message. -/
theorem readValue_isMessage {old : α} {value : Json}
    (h : (readValue shape old value).2 = some error) : IsMessage error := by
  unfold readValue at h
  dsimp only at h
  split at h
  · next hreading =>
    cases h
    split at hreading
    · cases hreading
    · exact readMembers_isMessage hshape (congrArg Prod.snd hreading)
    · cases hreading
  · cases h
    exact ⟨_, rfl⟩
  · cases h

/-- A text that cannot be read is complained about in a message. -/
theorem readText_isMessage {old : α} {text : Bytes}
    (h : (Archive.readText shape old text).2 = some error) : IsMessage error := by
  unfold Archive.readText at h
  split at h
  · cases h
    exact ⟨_, rfl⟩
  · cases h
    exact ⟨_, rfl⟩
  · cases h
    exact ⟨_, rfl⟩
  · split at h
    · next hvalue =>
      cases h
      exact readValue_isMessage hshape (congrArg Prod.snd hvalue)
    · split at h
      · cases h
      · cases h
        exact ⟨_, rfl⟩

end Shape

/-! ## What was last given -/

/-- What the last of the values says that members give to a field and that say anything. -/
def lastGiven? {β : Type} (read? : Json → Option β) (field : Bytes)
    (members : List (Bytes × Json)) : Option β :=
  ((givenTo field members).filterMap read?).getLast?

/-- What two lists give last is what the second gives, or else what the first gives. -/
theorem lastGiven?_append {β : Type} (read? : Json → Option β) (field : Bytes)
    (first second : List (Bytes × Json)) :
    lastGiven? read? field (first ++ second)
      = (lastGiven? read? field second).or (lastGiven? read? field first) := by
  rw [lastGiven?, Document.givenTo_append, List.filterMap_append, List.getLast?_append]
  rfl

/-- A single member gives its value to the field that it names. -/
theorem lastGiven?_singleton {β : Type} (read? : Json → Option β) {fields : List Bytes}
    (hfields : (fields.map Json.foldedName).Nodup) {member : Bytes × Json} {field other : Bytes}
    (hfield : Json.fieldOf? fields (Json.unquoted member.1) = some field) (hother : other ∈ fields) :
    lastGiven? read? other [member] = if other = field then read? member.2 else none := by
  obtain ⟨hmem, hnames⟩ := (Document.fieldOf?_eq_some_iff hfields).1 hfield
  have hiff : names other member = true ↔ other = field := by
    constructor
    · intro h
      exact Option.some.inj (((Document.fieldOf?_eq_some_iff hfields).2 ⟨hother, h⟩).symm.trans
        hfield)
    · rintro rfl
      exact hnames
  rw [lastGiven?]
  split
  · next heq =>
    rw [Document.givenTo_of_names (hiff.2 heq)]
    cases hread : read? member.2 <;> simp [hread]
  · next hne =>
    rw [Document.givenTo_of_not_names (Bool.eq_false_iff.2 (mt hiff.1 hne))]
    rfl

/-- A member names one of the fields, the case of letters aside, and suits its type. -/
def Suits (fields : List (Bytes × FieldType)) (member : Bytes × Json) : Prop :=
  ∃ field ∈ fields, names field.1 member = true ∧ field.2.Takes member.2

/-- A member that names a field suits if its value is of the type of that field. -/
theorem suits_iff {fields : List (Bytes × FieldType)}
    (hfields : ((fields.map (·.1)).map Json.foldedName).Nodup) {member : Bytes × Json}
    {field : Bytes} {type : FieldType}
    (hfield : Json.fieldOf? (fields.map (·.1)) (Json.unquoted member.1) = some field)
    (htype : (field, type) ∈ fields) : Suits fields member ↔ type.Takes member.2 := by
  constructor
  · rintro ⟨⟨other, otherType⟩, hmem, hnames, htakes⟩
    have hother := (Document.fieldOf?_eq_some_iff hfields).2 ⟨List.mem_map_of_mem hmem, hnames⟩
    cases Option.some.inj (hother.symm.trans hfield)
    have hkeys : (fields.map (·.1)).Nodup := hfields.of_map _
    cases List.inj_on_of_nodup_map hkeys hmem htype rfl
    exact htakes
  · intro htakes
    exact ⟨_, htype, ((Document.fieldOf?_eq_some_iff hfields).1 hfield).2, htakes⟩

section Put

variable {α β : Type} {given : β} {next : α} {P : Prop}

/-- What is read is put into a field. -/
theorem put_eq_ok_iff {reading : Json.Reading β} (put : β → α)
    (h : ∀ value, reading = ⟨value, none⟩ ↔ P ∧ given = value) :
    ((⟨put reading.value, reading.finding⟩, none) : Json.Reading α × Option Error)
        = (⟨next, none⟩, none) ↔ P ∧ put given = next := by
  obtain ⟨value, finding⟩ := reading
  cases finding with
  | none =>
    obtain ⟨hp, rfl⟩ := (h value).1 rfl
    simp [hp]
  | some finding =>
    refine iff_of_false (by simp) ?_
    rintro ⟨hp, -⟩
    cases (h given).2 ⟨hp, rfl⟩

/-- What may end the reading is put into a field too. -/
theorem put_eq_read_iff {read : β × Option Error} (put : β → α)
    (h : ∀ value, read = (value, none) ↔ P ∧ given = value) :
    ((⟨put read.1, none⟩, read.2) : Json.Reading α × Option Error) = (⟨next, none⟩, none)
      ↔ P ∧ put given = next := by
  obtain ⟨value, error⟩ := read
  cases error with
  | none =>
    obtain ⟨hp, rfl⟩ := (h value).1 rfl
    simp [hp]
  | some error =>
    refine iff_of_false (by simp) ?_
    rintro ⟨hp, -⟩
    cases (h given).2 ⟨hp, rfl⟩

end Put

/-- Members fill a record just if all of them suit, and the record is what they say, if this is so of
each single member. -/
theorem fills_iff {α : Type} {shape : Shape α} {fields : List (Bytes × FieldType)}
    {said : α → List (Bytes × Json) → α} (hnames : shape.fields = fields.map (·.1))
    (hfields : ((fields.map (·.1)).map Json.foldedName).Nodup)
    (hnil : ∀ old, said old [] = old)
    (happend : ∀ old first second, said old (first ++ second) = said (said old first) second)
    (hstep : ∀ old next member field,
      Json.fieldOf? shape.fields (Json.unquoted member.1) = some field →
      (shape.readField old field member.2 = (⟨next, none⟩, none) ↔
        Suits fields member ∧ said old [member] = next))
    {old record : α} {members : List (Bytes × Json)} :
    Fills shape old members record ↔
      (∀ member ∈ members, Suits fields member) ∧ said old members = record := by
  induction members generalizing old with
  | nil =>
    rw [hnil]
    constructor
    · rintro ⟨⟩
      exact ⟨List.forall_mem_nil _, rfl⟩
    · rintro ⟨-, rfl⟩
      exact .nil _
  | cons member rest ih =>
    have hover : said old (member :: rest) = said (said old [member]) rest := happend _ [member] _
    rw [List.forall_mem_cons, hover]
    constructor
    · rintro (_ | ⟨hfield, hread, hrest⟩)
      obtain ⟨hsuits, rfl⟩ := (hstep _ _ _ _ hfield).1 hread
      obtain ⟨hall, hrecord⟩ := ih.1 hrest
      exact ⟨⟨hsuits, hall⟩, hrecord⟩
    · rintro ⟨⟨hsuits, hall⟩, hrecord⟩
      -- The member is in the record under one name only, since no two fields fold to the same.
      obtain ⟨⟨field, type⟩, hmem, hfield, -⟩ := id hsuits
      have hfound := (Document.fieldOf?_eq_some_iff hfields).2
        ⟨List.mem_map_of_mem hmem, hfield⟩
      rw [← hnames] at hfound
      exact .cons hfound ((hstep _ _ _ _ hfound).2 ⟨hsuits, rfl⟩) (ih.2 ⟨hall, hrecord⟩)

/-! ## Jobs -/

/-- The fields of the record of a job. -/
def jobFields : List (Bytes × FieldType) :=
  [(bytes "job_id", .text), (bytes "source_hash", .text), (bytes "start_time", .time),
    (bytes "end_time", .time), (bytes "status", .text), (bytes "exit_code", .integer)]

/-- The fields of a job differ, even when case is folded. -/
theorem nodup_jobFields : ((jobFields.map (·.1)).map Json.foldedName).Nodup := by decide

/-- The record once the members have been read over it. -/
def JobRecord.over (old : JobRecord) (members : List (Bytes × Json)) : JobRecord where
  jobId := (lastGiven? textOf? (bytes "job_id") members).getD old.jobId
  sourceHash := (lastGiven? textOf? (bytes "source_hash") members).getD old.sourceHash
  startTime := (lastGiven? timeOf? (bytes "start_time") members).getD old.startTime
  endTime := (lastGiven? timeOf? (bytes "end_time") members).getD old.endTime
  status := (lastGiven? textOf? (bytes "status") members).getD old.status
  exitCode := (lastGiven? integerOf? (bytes "exit_code") members).getD old.exitCode

/-- Two lists of members are laid over a job one after the other. -/
theorem JobRecord.over_append (old : JobRecord) (first second : List (Bytes × Json)) :
    old.over (first ++ second) = (old.over first).over second := by
  simp only [JobRecord.over, lastGiven?_append, Option.getD_or]

/-- A member lays its value over the field that it names. -/
theorem JobRecord.over_singleton {member : Bytes × Json} {field : Bytes}
    (hfield : Json.fieldOf? (jobFields.map (·.1)) (Json.unquoted member.1) = some field)
    (old : JobRecord) :
    old.over [member] =
      ⟨(if bytes "job_id" = field then textOf? member.2 else none).getD old.jobId,
        (if bytes "source_hash" = field then textOf? member.2 else none).getD old.sourceHash,
        (if bytes "start_time" = field then timeOf? member.2 else none).getD old.startTime,
        (if bytes "end_time" = field then timeOf? member.2 else none).getD old.endTime,
        (if bytes "status" = field then textOf? member.2 else none).getD old.status,
        (if bytes "exit_code" = field then integerOf? member.2 else none).getD old.exitCode⟩ := by
  have hlast {β : Type} (read? : Json → Option β) {other : Bytes}
      (hother : other ∈ jobFields.map (·.1)) :=
    lastGiven?_singleton read? nodup_jobFields hfield hother
  unfold JobRecord.over
  rw [hlast textOf? (by decide), hlast textOf? (by decide), hlast timeOf? (by decide),
    hlast timeOf? (by decide), hlast textOf? (by decide), hlast integerOf? (by decide)]

/-- A field of a job is read just if its member suits, and gets what the member says. -/
theorem readField_job_iff (old next : JobRecord) (member : Bytes × Json) (field : Bytes)
    (hfield : Json.fieldOf? JobRecord.shape.fields (Json.unquoted member.1) = some field) :
    JobRecord.shape.readField old field member.2 = (⟨next, none⟩, none) ↔
      Suits jobFields member ∧ old.over [member] = next := by
  have hfield : Json.fieldOf? (jobFields.map (·.1)) (Json.unquoted member.1) = some field := hfield
  have hsuits (type : FieldType) (htype : (field, type) ∈ jobFields) :=
    suits_iff nodup_jobFields hfield htype
  have hmem := ((Document.fieldOf?_eq_some_iff nodup_jobFields).1 hfield).1
  rw [JobRecord.over_singleton hfield]
  simp only [jobFields, List.map_cons, List.map_nil, List.mem_cons, List.not_mem_nil,
    or_false] at hmem
  rcases hmem with rfl | rfl | rfl | rfl | rfl | rfl
  · rw [hsuits .text (by simp [jobFields])]
    exact put_eq_ok_iff (fun text => { old with jobId := text }) fun _ => readText_eq_iff
  · rw [hsuits .text (by simp [jobFields])]
    exact put_eq_ok_iff (fun text => { old with sourceHash := text }) fun _ => readText_eq_iff
  · rw [hsuits .time (by simp [jobFields])]
    exact put_eq_read_iff (fun time => { old with startTime := time }) fun _ => readTime_eq_iff
  · rw [hsuits .time (by simp [jobFields])]
    exact put_eq_read_iff (fun time => { old with endTime := time }) fun _ => readTime_eq_iff
  · rw [hsuits .text (by simp [jobFields])]
    exact put_eq_ok_iff (fun text => { old with status := text }) fun _ => readText_eq_iff
  · rw [hsuits .integer (by simp [jobFields])]
    exact put_eq_ok_iff (fun code => { old with exitCode := code }) fun _ =>
      readInt_eq_iff integerOf? rfl fun _ => Option.map_id'.symm

/-- The members of a job's record fill it just if all of them suit. -/
theorem fills_job_iff {record : JobRecord} {members : List (Bytes × Json)} :
    Fills JobRecord.shape .blank members record ↔
      (∀ member ∈ members, Suits jobFields member) ∧ JobRecord.over .blank members = record :=
  fills_iff rfl nodup_jobFields (fun _ => rfl) JobRecord.over_append readField_job_iff

/-! ## Failures -/

open Failure (Record)

/-- The fields of the record of a failure. -/
def failureFields : List (Bytes × FieldType) :=
  [(bytes "class", .text), (bytes "code", .text), (bytes "message", .text),
    (bytes "diagnostic", .text), (bytes "exit_code", .integer)]

/-- The fields of a failure differ, even when case is folded. -/
theorem nodup_failureFields : ((failureFields.map (·.1)).map Json.foldedName).Nodup := by decide

/-- The record once the members have been read over it. There need not be an exit code. -/
def failureOver (old : Record) (members : List (Bytes × Json)) : Record where
  className := (lastGiven? textOf? (bytes "class") members).getD old.className
  code := (lastGiven? textOf? (bytes "code") members).getD old.code
  message := (lastGiven? textOf? (bytes "message") members).getD old.message
  diagnostic := (lastGiven? textOf? (bytes "diagnostic") members).getD old.diagnostic
  exitCode := (lastGiven? exitOf? (bytes "exit_code") members).getD old.exitCode

/-- Two lists of members are laid over a failure one after the other. -/
theorem failureOver_append (old : Record) (first second : List (Bytes × Json)) :
    failureOver old (first ++ second) = failureOver (failureOver old first) second := by
  simp only [failureOver, lastGiven?_append, Option.getD_or]

/-- A member lays its value over the field of a failure that it names. -/
theorem failureOver_singleton {member : Bytes × Json} {field : Bytes}
    (hfield : Json.fieldOf? (failureFields.map (·.1)) (Json.unquoted member.1) = some field)
    (old : Record) :
    failureOver old [member] =
      ⟨(if bytes "class" = field then textOf? member.2 else none).getD old.className,
        (if bytes "code" = field then textOf? member.2 else none).getD old.code,
        (if bytes "message" = field then textOf? member.2 else none).getD old.message,
        (if bytes "diagnostic" = field then textOf? member.2 else none).getD old.diagnostic,
        (if bytes "exit_code" = field then exitOf? member.2 else none).getD old.exitCode⟩ := by
  have hlast {β : Type} (read? : Json → Option β) {other : Bytes}
      (hother : other ∈ failureFields.map (·.1)) :=
    lastGiven?_singleton read? nodup_failureFields hfield hother
  unfold failureOver
  rw [hlast textOf? (by decide), hlast textOf? (by decide), hlast textOf? (by decide),
    hlast textOf? (by decide), hlast exitOf? (by decide)]

/-- A field of a failure is read just if its member suits, and gets what the member says. -/
theorem readField_failure_iff (old next : Record) (member : Bytes × Json) (field : Bytes)
    (hfield : Json.fieldOf? failureShape.fields (Json.unquoted member.1) = some field) :
    failureShape.readField old field member.2 = (⟨next, none⟩, none) ↔
      Suits failureFields member ∧ failureOver old [member] = next := by
  have hfield : Json.fieldOf? (failureFields.map (·.1)) (Json.unquoted member.1) = some field :=
    hfield
  have hsuits (type : FieldType) (htype : (field, type) ∈ failureFields) :=
    suits_iff nodup_failureFields hfield htype
  have hmem := ((Document.fieldOf?_eq_some_iff nodup_failureFields).1 hfield).1
  rw [failureOver_singleton hfield]
  simp only [failureFields, List.map_cons, List.map_nil, List.mem_cons, List.not_mem_nil,
    or_false] at hmem
  rcases hmem with rfl | rfl | rfl | rfl | rfl
  · rw [hsuits .text (by simp [failureFields])]
    exact put_eq_ok_iff (fun text => { old with className := text }) fun _ => readText_eq_iff
  · rw [hsuits .text (by simp [failureFields])]
    exact put_eq_ok_iff (fun text => { old with code := text }) fun _ => readText_eq_iff
  · rw [hsuits .text (by simp [failureFields])]
    exact put_eq_ok_iff (fun text => { old with message := text }) fun _ => readText_eq_iff
  · rw [hsuits .text (by simp [failureFields])]
    exact put_eq_ok_iff (fun text => { old with diagnostic := text }) fun _ => readText_eq_iff
  · rw [hsuits .integer (by simp [failureFields])]
    exact put_eq_ok_iff (fun code => { old with exitCode := code }) fun _ =>
      readInt_eq_iff exitOf? rfl fun _ => rfl

/-- The members of a failure's record fill it just if all of them suit. -/
theorem fills_failure_iff {record : Record} {members : List (Bytes × Json)} :
    Fills failureShape .blank members record ↔
      (∀ member ∈ members, Suits failureFields member) ∧ failureOver .blank members = record :=
  fills_iff rfl nodup_failureFields (fun _ => rfl) failureOver_append readField_failure_iff

/-! ## Loading -/

open Files (Action Tree)
open Files.Action (LooksAt)

/-- The content of a path is read just if there is a file, and reading changes nothing. -/
theorem contents_eq_ok_iff {path content : Bytes} {tree after : Tree} :
    (Files.contents path).on tree = (.ok content, after) ↔
      after = tree ∧ ∃ mode, tree.stat path = .ok (.file mode content) := by
  unfold Files.contents
  rw [Files.on_get_bind]
  constructor
  · intro h
    split at h
    · exact absurd h Files.fail_ne_ok
    · exact absurd h Files.fail_ne_ok
    · next mode other hstat =>
      cases h
      exact ⟨rfl, mode, hstat⟩
  · rintro ⟨rfl, mode, hstat⟩
    rw [hstat]
    rfl

namespace Store

variable {store : Store} {id : Bytes} {tree after : Tree}

section Record

variable {α : Type} {shape : Shape α} {path : Bytes} {old record : α}

/-- A record depends on the file that its path leads to. -/
theorem readRecord_congr (hstat : after.stat path = tree.stat path) :
    readRecord shape path old after = readRecord shape path old tree := by
  rw [readRecord, readRecord, (Files.contents_looksAt path).congr hstat]

/-- A record is read just from a file whose content says it. -/
theorem readRecord_eq_iff : readRecord shape path old tree = (record, none) ↔
    ∃ mode content, tree.stat path = .ok (.file mode content) ∧
      readText shape old content = (record, none) := by
  constructor
  · intro h
    rcases hcontents : (Files.contents path).on tree with ⟨problem | content, after⟩
    · rw [readRecord, hcontents] at h
      cases h
    · rw [readRecord, hcontents] at h
      obtain ⟨-, mode, hstat⟩ := contents_eq_ok_iff.1 hcontents
      exact ⟨mode, content, hstat, h⟩
  · rintro ⟨mode, content, hstat, hread⟩
    rw [readRecord_of_stat hstat, hread]

/-- Of the errors of a reading only that of opening the file says that there is none. -/
theorem isNotFound_readRecord_iff (hshape : shape.EndsByMessage) :
    (∃ error, (readRecord shape path old tree).2 = some error ∧ error.isNotFound = true) ↔
      tree.stat path = .error .notFound := by
  unfold readRecord Files.contents
  rw [Files.on_get_bind]
  cases tree.stat path with
  | error reason => simp [Files.on_fail, Error.isNotFound]
  | ok node =>
    refine iff_of_false ?_ (by simp)
    cases node with
    | directory mode => simp [Files.on_fail, Error.isNotFound]
    | file mode content =>
      rintro ⟨error, herror, hfound⟩
      obtain ⟨message, rfl⟩ := readText_isMessage hshape herror
      cases hfound

end Record

/-! ## Answers -/

/-- The answer about a job depends on its file only. -/
theorem jobAnswer_congr (hstat : after.stat (store.jobPath id) = tree.stat (store.jobPath id)) :
    store.jobAnswer id after = store.jobAnswer id tree := by
  rw [jobAnswer, jobAnswer, readRecord_congr hstat]

/-- The answer about a failure depends on its file only. -/
theorem failureAnswer_congr
    (hstat : after.stat (store.failurePath id) = tree.stat (store.failurePath id)) :
    store.failureAnswer id after = store.failureAnswer id tree := by
  rw [failureAnswer, failureAnswer, readRecord_congr hstat]

/-- Loading looks at one file, and leaves the files alone. -/
theorem loadJob_looksAt (store : Store) (id : Bytes) :
    LooksAt (store.jobPath id) (store.loadJob id) := by
  refine Action.looksAt_get_bind (fun hstat => by rw [jobAnswer_congr hstat]) fun tree => ?_
  split
  · exact Action.looksAt_pure _ _
  · exact Action.looksAt_throw _ _

/-- Loading a failure looks at its file and changes nothing. -/
theorem loadFailure_looksAt (store : Store) (id : Bytes) :
    LooksAt (store.failurePath id) (store.loadFailure id) := by
  refine Action.looksAt_get_bind (fun hstat => by rw [failureAnswer_congr hstat]) fun tree => ?_
  split
  · exact Action.looksAt_throw _ _
  · exact Action.looksAt_pure _ _

/-- An id that a job must not have is refused, whatever files there are. -/
theorem loadJob_of_invalidId {error : Error} (h : invalidJobId? id = some error) :
    store.loadJob id = throw error := by
  funext tree
  have hanswer : store.jobAnswer id tree = (.blank, some error) := by simp only [jobAnswer, h]
  exact (on_loadJob store id tree).trans (by rw [hanswer]; rfl)

/-- A failure of an id that is none is refused. -/
theorem loadFailure_of_invalidId {error : Error} (h : invalidJobId? id = some error) :
    store.loadFailure id = throw error := by
  funext tree
  have hanswer : store.failureAnswer id tree = (.blank, false, some error) := by
    simp only [failureAnswer, h]
  exact (on_loadFailure store id tree).trans (by rw [hanswer]; rfl)

/-- The ways in which loading a job ends. Wherever it ends with an error the record is blank. -/
theorem jobAnswer_cases (store : Store) (id : Bytes) (tree : Tree) :
    (∃ record, store.jobAnswer id tree = (record, none) ∧ IsJobId id ∧
      readRecord JobRecord.shape (store.jobPath id) .blank tree = (record, none) ∧
      record.invalid? = none) ∨
    ∃ error, store.jobAnswer id tree = (.blank, some error) := by
  unfold jobAnswer
  split
  · next error _ => exact .inr ⟨error, rfl⟩
  · next hid =>
    split
    · next error _ => exact .inr ⟨error, rfl⟩
    · next record hread =>
      split
      · exact .inr ⟨_, rfl⟩
      · next hvalid => exact .inl ⟨record, rfl, invalidJobId?_eq_none_iff.1 hid, hread, hvalid⟩

/-- The ways in which loading a failure ends. -/
theorem failureAnswer_cases (store : Store) (id : Bytes) (tree : Tree) :
    (∃ record, store.failureAnswer id tree = (record, true, none) ∧ IsJobId id ∧
      readRecord failureShape (store.failurePath id) .blank tree = (record, none) ∧
      record.invalid? = none) ∨
    (store.failureAnswer id tree = (.blank, false, none) ∧ IsJobId id ∧
      tree.stat (store.failurePath id) = .error .notFound) ∨
    ∃ error, store.failureAnswer id tree = (.blank, false, some error) := by
  unfold failureAnswer
  split
  · next error _ => exact .inr (.inr ⟨error, rfl⟩)
  · next hid =>
    split
    · next error hread =>
      split
      · next hfound =>
        exact .inr (.inl ⟨rfl, invalidJobId?_eq_none_iff.1 hid,
          (isNotFound_readRecord_iff failureShape_endsByMessage).1
            ⟨error, congrArg Prod.snd hread, hfound⟩⟩)
      · exact .inr (.inr ⟨error, rfl⟩)
    · next record hread =>
      split
      · exact .inr (.inr ⟨_, rfl⟩)
      · next hvalid => exact .inl ⟨record, rfl, invalidJobId?_eq_none_iff.1 hid, hread, hvalid⟩

/-- A job is answered just if its id is one, and its file is read and is valid. -/
theorem jobAnswer_eq_ok_iff {record : JobRecord} :
    store.jobAnswer id tree = (record, none) ↔ IsJobId id ∧
      (∃ mode content, tree.stat (store.jobPath id) = .ok (.file mode content) ∧
        readText JobRecord.shape .blank content = (record, none)) ∧ record.invalid? = none := by
  rw [← readRecord_eq_iff]
  constructor
  · intro h
    obtain ⟨other, hanswer, hrest⟩ | ⟨error, hanswer⟩ := store.jobAnswer_cases id tree
    · cases h.symm.trans hanswer
      exact hrest
    · cases h.symm.trans hanswer
  · rintro ⟨hid, hread, hvalid⟩
    exact jobAnswer_of_readRecord hid hread hvalid

/-- A failure is answered just if its id is one, and its file is read and is valid. -/
theorem failureAnswer_eq_ok_iff {record : Failure.Record} :
    store.failureAnswer id tree = (record, true, none) ↔ IsJobId id ∧
      (∃ mode content, tree.stat (store.failurePath id) = .ok (.file mode content) ∧
        readText failureShape .blank content = (record, none)) ∧ record.invalid? = none := by
  rw [← readRecord_eq_iff]
  constructor
  · intro h
    obtain ⟨other, hanswer, hrest⟩ | ⟨hanswer, -⟩ | ⟨error, hanswer⟩ :=
      store.failureAnswer_cases id tree
    · cases h.symm.trans hanswer
      exact hrest
    · cases h.symm.trans hanswer
    · cases h.symm.trans hanswer
  · rintro ⟨hid, hread, hvalid⟩
    exact failureAnswer_of_readRecord hid hread hvalid

/-- A job has no failure just if its id is one and there is no file. -/
theorem failureAnswer_eq_none_iff {record : Failure.Record} :
    store.failureAnswer id tree = (record, false, none) ↔
      record = .blank ∧ IsJobId id ∧ tree.stat (store.failurePath id) = .error .notFound := by
  constructor
  · intro h
    obtain ⟨other, hanswer, -⟩ | ⟨hanswer, hid, hstat⟩ | ⟨error, hanswer⟩ :=
      store.failureAnswer_cases id tree
    · cases h.symm.trans hanswer
    · cases h.symm.trans hanswer
      exact ⟨rfl, hid, hstat⟩
    · cases h.symm.trans hanswer
  · rintro ⟨rfl, hid, hstat⟩
    exact failureAnswer_of_missing hid hstat

/-- A job is loaded as it is answered. -/
theorem loadJob_eq_ok_iff {record : JobRecord} :
    (store.loadJob id).on tree = (.ok record, after) ↔
      after = tree ∧ store.jobAnswer id tree = (record, none) := by
  rw [on_loadJob]
  obtain ⟨other, error⟩ := store.jobAnswer id tree
  cases error <;> simp [and_comm, eq_comm]

/-- A failure is loaded as it is answered. -/
theorem loadFailure_eq_ok_iff {record : Failure.Record} :
    (store.loadFailure id).on tree = (.ok (some record), after) ↔
      after = tree ∧ store.failureAnswer id tree = (record, true, none) := by
  rw [on_loadFailure]
  obtain ⟨other, isThere, error⟩ := store.failureAnswer id tree
  cases error <;> cases isThere <;> simp [and_comm, eq_comm]

/-! ## What is loaded -/

/-- `HoldsObject tree path fields members`: at the path there is a file that is one object with these
members, with nothing but white space around it, and the members suit the fields. -/
def HoldsObject (tree : Tree) (path : Bytes) (fields : List (Bytes × FieldType))
    (members : List (Bytes × Json)) : Prop :=
  (∃ mode content, tree.stat path = .ok (.file mode content) ∧
    Json.SpellsAlone Json.maxDepth (.object members) content) ∧
  ∀ member ∈ members, Suits fields member

/-- A valid record is read from a file just if the file holds an object that says it: `null` alone
says a blank record, and that is no valid one. -/
theorem readsFile_iff {α : Type} {shape : Shape α} {fields : List (Bytes × FieldType)} {path : Bytes}
    {record : α} {invalid? : α → Option Error} {said : List (Bytes × Json) → α}
    {blank : α} (hfills : ∀ {members record}, Fills shape blank members record ↔
      (∀ member ∈ members, Suits fields member) ∧ said members = record)
    (hblank : (invalid? blank).isSome = true) :
    (∃ mode content, tree.stat path = .ok (.file mode content) ∧
        readText shape blank content = (record, none)) ∧ invalid? record = none ↔
      ∃ members, HoldsObject tree path fields members ∧ said members = record ∧
        invalid? record = none := by
  constructor
  · rintro ⟨⟨mode, content, hstat, hread⟩, hvalid⟩
    rcases readText_eq_ok_iff.1 hread with ⟨members, hspells, hmembers⟩ | ⟨-, rfl⟩
    · obtain ⟨hsuits, hrecord⟩ := hfills.1 hmembers
      exact ⟨members, ⟨⟨mode, content, hstat, hspells⟩, hsuits⟩, hrecord, hvalid⟩
    · rw [hvalid] at hblank
      cases hblank
  · rintro ⟨members, ⟨⟨mode, content, hstat, hspells⟩, hsuits⟩, hrecord, hvalid⟩
    have hread := readText_eq_ok_iff.2 (.inl ⟨members, hspells, hfills.2 ⟨hsuits, hrecord⟩⟩)
    exact ⟨⟨mode, content, hstat, hread⟩, hvalid⟩

/-- **Strict reading.** A job is loaded just if its id is valid, its file holds one object whose
members suit the fields, and the record that they say is valid. The same is so of a failure, except
that there is none without an error if there is no file. Beside every error the record is blank. -/
theorem load_strict (store : Store) (id : Bytes) (tree : Tree) :
    (((store.loadJob id).on tree).2 = tree ∧ ((store.loadFailure id).on tree).2 = tree) ∧
    (∀ record, store.jobAnswer id tree = (record, none) ↔ IsJobId id ∧ ∃ members,
      HoldsObject tree (store.jobPath id) jobFields members ∧
      JobRecord.over .blank members = record ∧ record.invalid? = none) ∧
    (∀ record error, store.jobAnswer id tree = (record, some error) → record = .blank) ∧
    (∀ record, store.failureAnswer id tree = (record, true, none) ↔ IsJobId id ∧ ∃ members,
      HoldsObject tree (store.failurePath id) failureFields members ∧
      failureOver .blank members = record ∧ record.invalid? = none) ∧
    (∀ record, store.failureAnswer id tree = (record, false, none) ↔
      record = .blank ∧ IsJobId id ∧ tree.stat (store.failurePath id) = .error .notFound) ∧
    ∀ record isThere error, store.failureAnswer id tree = (record, isThere, some error) →
      record = .blank ∧ isThere = false := by
  refine ⟨⟨((store.loadJob_looksAt id).keeps tree).symm,
    ((store.loadFailure_looksAt id).keeps tree).symm⟩, fun record => ?_, ?_, fun record => ?_,
    fun record => failureAnswer_eq_none_iff, ?_⟩
  · rw [jobAnswer_eq_ok_iff]
    exact and_congr_right fun _ => readsFile_iff fills_job_iff (by decide)
  · intro record error h
    obtain ⟨other, hanswer, -⟩ | ⟨other, hanswer⟩ := store.jobAnswer_cases id tree
    · cases h.symm.trans hanswer
    · cases h.symm.trans hanswer
      rfl
  · rw [failureAnswer_eq_ok_iff]
    exact and_congr_right fun _ => readsFile_iff fills_failure_iff (by decide)
  · intro record isThere error h
    obtain ⟨other, hanswer, -⟩ | ⟨hanswer, -⟩ | ⟨other, hanswer⟩ := store.failureAnswer_cases id tree
    · cases h.symm.trans hanswer
    · cases h.symm.trans hanswer
    · cases h.symm.trans hanswer
      exact ⟨rfl, rfl⟩

namespace Sample

/-- An archive with two files that were not written by it. -/
def foreignTree : Tree where
  here := []
  nodes := [([bytes "rec"], .directory 0o755), ([bytes "rec", bytes "jobs"], .directory 0o755),
    ([bytes "rec", bytes "jobs", bytes "a"], .directory 0o755),
    ([bytes "rec", bytes "jobs", bytes "a", bytes "job.json"], .file 0o644
      (bytes " \x7b\"Job_Id\":\"b\",\"start_time\":\"2024-01-02T03:04:05Z\",\"job_id\":\"a\"," ++
        bytes "\"job_id\":null,\"end_time\":\"2024-01-02T03:04:05Z\",\"\u017ftatus\":\"ok\"," ++
        bytes "\"exit_code\":-7\x7d\n")),
    ([bytes "rec", bytes "jobs", bytes "a", bytes "failure.json"], .file 0o644 (bytes
      "\x7b\"class\":\"io\",\"code\":\"C\",\"message\":\"m\",\"extra\":1\x7d"))]
  links := []
  fresh := 7

def foreignRecord : JobRecord where
  jobId := bytes "a"
  sourceHash := []
  startTime := ⟨63839761445, 0, 0⟩
  endTime := ⟨63839761445, 0, 0⟩
  status := bytes "ok"
  exitCode := -7

/-- Names that are folded, given again and `null` are fine; a name that is no field's is not. -/
theorem load_strict_foreign :
    (∃ members, HoldsObject foreignTree (bytes "/rec/jobs/a/job.json") jobFields members ∧
      JobRecord.over .blank members = foreignRecord) ∧
    ∃ record isThere, Store.failureAnswer ⟨bytes "/rec"⟩ (bytes "a") foreignTree = (record, isThere,
        some (.plain (bytes "json: unknown field \"extra\""))) ∧
      record = .blank ∧ isThere = false := by
  obtain ⟨-, hjob, -, -, -, hfailure⟩ := load_strict ⟨bytes "/rec"⟩ (bytes "a") foreignTree
  have hanswer : Store.jobAnswer ⟨bytes "/rec"⟩ (bytes "a") foreignTree = (foreignRecord, none) :=
    Prod.ext (by decide +kernel) (Option.isNone_iff_eq_none.1 (by decide +kernel))
  have hunknown : Store.failureAnswer ⟨bytes "/rec"⟩ (bytes "a") foreignTree
      = (.blank, false, some (.plain (bytes "json: unknown field \"extra\""))) := by
    rfl
  obtain ⟨-, members, hholds, hrecord, -⟩ := (hjob foreignRecord).1 hanswer
  exact ⟨⟨members, hholds, hrecord⟩, _, _, hunknown, hfailure _ _ _ hunknown⟩

end Sample

end Store

end Archive

end FunctionChain
