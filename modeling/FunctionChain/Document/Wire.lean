import FunctionChain.Json.Decode

/-!
# Documents as they are read

The fields of a document while its members are being read. A field may be given more than once: each
time it is read into what the earlier ones left. A later array of calls is read over the earlier one
place by place, so a member that the later call does not mention keeps its earlier value; calls that
a shorter array cuts off stay behind it and come back under a longer one. An empty array or `null`
forgets them all.
-/

namespace FunctionChain

namespace Document

/-- A call while it is being read. A parameter may be `null`, which is told apart from a text. -/
structure WireCall where
  name : Bytes
  function : Bytes
  parameters : Option (List (Bytes × Option Bytes))
deriving Repr, DecidableEq

/-- The call before anything is read into it. -/
def WireCall.blank : WireCall := ⟨[], [], none⟩

/-- The calls read so far: those of the last array, and those that it cut off. -/
structure WireCalls where
  current : List WireCall
  cutOff : List WireCall
deriving Repr, DecidableEq

/-- No calls, and none cut off. -/
def WireCalls.none : WireCalls := ⟨[], []⟩

/-- Set the value of a key, in its old place if it has one. -/
def setParameter (parameters : List (Bytes × Option Bytes)) (key : Bytes) (value : Option Bytes) :
    List (Bytes × Option Bytes) :=
  if parameters.any (·.1 == key) then
    parameters.map fun (k, old) => if k == key then (k, value) else (k, old)
  else parameters ++ [(key, value)]

/-- Where the fields of a call are, as findings name it. -/
def callTarget (field : Bytes) : Json.Target := ⟨bytes "wireCall", [bytes "functions", field]⟩

/-- Read a parameter's value. One of the wrong type counts as the empty text. -/
def readParameter (value : Json) : Json.Reading (Option Bytes) :=
  match value with
  | .string written => ⟨some (Json.unquoted written), .none⟩
  | .null => ⟨.none, .none⟩
  | other =>
    ⟨some [], some (Json.wrongType other (some (callTarget (bytes "parameters"))) (bytes "string"))⟩

/-- Read the members of a parameter object into the parameters there are. -/
def readParameters (old : List (Bytes × Option Bytes)) (members : List (Bytes × Json)) :
    Json.Reading (List (Bytes × Option Bytes)) :=
  members.foldl
    (fun reading (written, value) =>
      let item := readParameter value
      ⟨setParameter reading.value (Json.unquoted written) item.value,
        reading.finding <|> item.finding⟩)
    ⟨old, .none⟩

/-- The fields of a call. -/
def callFields : List Bytes := [bytes "name", bytes "function", bytes "parameters"]

/-- Read one member of a call. -/
def readCallMember (call : WireCall) (field : Bytes) (value : Json) : Json.Reading WireCall :=
  if field == bytes "name" then
    let reading := Json.readText call.name (callTarget field) value
    ⟨{ call with name := reading.value }, reading.finding⟩
  else if field == bytes "function" then
    let reading := Json.readText call.function (callTarget field) value
    ⟨{ call with function := reading.value }, reading.finding⟩
  else match value with
    | .null => ⟨{ call with parameters := .none }, .none⟩
    | .object members =>
      let reading := readParameters (call.parameters.getD []) members
      ⟨{ call with parameters := some reading.value }, reading.finding⟩
    | other =>
      ⟨call, some (Json.wrongType other (some (callTarget field)) (bytes "map[string]*string"))⟩

/-- Read one element of the array of calls into a call. -/
def readCall (old : WireCall) (value : Json) : Json.Reading WireCall :=
  match value with
  | .null => ⟨old, .none⟩
  | .object members =>
    members.foldl
      (fun reading (written, value) =>
        match Json.fieldOf? callFields (Json.unquoted written) with
        | some field =>
          let next := readCallMember reading.value field value
          ⟨next.value, reading.finding <|> next.finding⟩
        | .none => reading)
      ⟨old, .none⟩
  | other =>
    ⟨old, some (Json.wrongType other (some ⟨bytes "document", [bytes "functions"]⟩)
      (bytes "graph.wireCall"))⟩

/-- Read the elements of an array over the calls there are. `done` holds the calls read so far in
reverse, and `old` what is left to read over. -/
def readCallsOver (old : List WireCall) (done : List WireCall) (finding : Option Json.Finding) :
    List Json → Json.Reading WireCalls
  | [] => ⟨⟨done.reverse, old⟩, finding⟩
  | item :: items =>
    let reading := readCall (old.headD .blank) item
    readCallsOver old.tail (reading.value :: done) (finding <|> reading.finding) items

/-- Read the member that holds the calls. -/
def readCalls (old : WireCalls) (value : Json) : Json.Reading WireCalls :=
  match value with
  | .null => ⟨.none, .none⟩
  | .array [] => ⟨.none, .none⟩
  | .array items => readCallsOver (old.current ++ old.cutOff) [] .none items
  | other =>
    ⟨old, some (Json.wrongType other (some ⟨bytes "document", [bytes "functions"]⟩)
      (bytes "[]graph.wireCall"))⟩

/-- Read the members of a document. -/
def readMembers (members : List (Bytes × Json)) : Json.Reading WireCalls :=
  members.foldl
    (fun reading (written, value) =>
      match Json.fieldOf? [bytes "functions"] (Json.unquoted written) with
      | some _ =>
        let next := readCalls reading.value value
        ⟨next.value, reading.finding <|> next.finding⟩
      | .none => reading)
    ⟨.none, .none⟩

end Document

end FunctionChain
