import FunctionChain.Build.Database
import FunctionChain.Command.Run
import FunctionChain.Command.Standard
import FunctionChain.Proofs.Archive.Strict
import FunctionChain.Proofs.Command.RunEnvironment
import FunctionChain.Proofs.Files.Action

/-!
# How invocations end

An invocation ends with a code that commands set on their way, or with an error that may ask for
one: an error of the command line, one of the configuration, or another in which there is neither
(`IsFailure`). What is done in a session is described by what holds after a result and what holds
after an error (`Doing.Ends`), step by step. No command sets a code before an error, except for the
one that errors without a code have; so the code that is left agrees with the error (`Fails`), and
otherwise with what was done and printed (`Succeeds`). From this follows that the code of an
invocation agrees with its error, with what it prints, and with the job that it ran, whatever library
reads the command line (`run_agrees`).
-/

namespace FunctionChain

/-! ## Errors of neither kind -/

namespace Error

/-- Neither the error nor one behind it is of the command line or the configuration. -/
def IsInternal (error : Error) : Prop := error.find .invocation = .nothing

/-- A message alone is of neither kind. -/
theorem isInternal_plain (message : Bytes) : IsInternal (.plain message) := rfl

/-- Words before an error do not change its kind. -/
theorem IsInternal.wrap {error : Error} (h : error.IsInternal) (message : Bytes) :
    IsInternal (.wrap message error) := h

/-- A fault of the files is of neither kind. -/
theorem IsFault.isInternal {error : Error} (h : error.IsFault) : error.IsInternal :=
  h.find_eq_nothing _

end Error

namespace Archive

open Files.Action (FailsAs failsAs_pure failsAs_get failsAs_throw)

/-- A message of the decoder is of neither kind. -/
theorem IsMessage.isInternal {error : Error} (h : IsMessage error) : error.IsInternal := by
  obtain ⟨message, rfl⟩ := h
  exact Error.isInternal_plain message

namespace Store

variable (store : Store) (id : Bytes)

end Store

end Archive

namespace Command

open Files.Action (FailsAs failsAs_pure failsAs_get failsAs_throw)
open Files (Tree)

/-! ## The errors of an invocation -/

/-- The errors with which an invocation ends: of the command line, of the configuration, others. -/
inductive IsFailure : Error → Prop
  | misuse (message : Bytes) : IsFailure (misuse message)
  | misconfigured (message : Bytes) : IsFailure (misconfigured message)
  | internal {error : Error} (h : error.IsInternal) : IsFailure error

/-- The code that such an error asks for, or that for internal errors if it asks for none, is one of
three, and that by which errors are told. -/
theorem IsFailure.exitCode {error : Error} (h : IsFailure error) :
    (Exit.asked? error).getD Exit.internalError = Exit.ofError (some error) ∧
      (Exit.ofError (some error) = 2 ∨ Exit.ofError (some error) = 3 ∨
        Exit.ofError (some error) = 4) := by
  cases h with
  | misuse message => exact ⟨rfl, .inl rfl⟩
  | misconfigured message => exact ⟨rfl, .inr (.inl rfl)⟩
  | internal h =>
    have hfind : error.find .invocation = .nothing := h
    have hasked : Exit.asked? error = none := by rw [Exit.asked?, hfind]
    have hcode : Exit.ofError (some error) = Exit.internalError := by rw [Exit.ofError, hasked]
    rw [hasked, hcode]
    exact ⟨rfl, .inr (.inr rfl)⟩

/-- The value is there, or an error of an invocation. -/
def Offers {α : Type} (value : Except Error α) : Prop :=
  ∀ error, value = .error error → IsFailure error

section Offers

variable {configuration : Configuration}

/-- The log is configured, or the configuration is at fault. -/
theorem log_offers (configuration : Configuration) : Offers configuration.log := by
  intro error h
  unfold Configuration.log at h
  split at h
  · cases h
    exact .misconfigured _
  · split at h
    · cases h
      exact .misconfigured _
    · cases h

/-- Builds are configured, or the configuration is at fault. -/
theorem builds_offers (configuration : Configuration) (here : Bytes) :
    Offers (configuration.builds here) := by
  intro error h
  unfold Configuration.builds at h
  split_ifs at h
  · cases h
    exact .misconfigured _
  · cases h
    exact .misconfigured _
  · split at h
    · next hentries =>
      cases h
      obtain ⟨-, entry, -, -, -, -, rfl⟩ := runVariables_eq_error_iff.1 hentries
      exact .misconfigured _
    · cases h

/-- The archive is configured, or the configuration is at fault. -/
theorem store_offers (configuration : Configuration) : Offers configuration.store := by
  intro error h
  unfold Configuration.store at h
  split at h
  · cases h
  · cases h
    exact .misconfigured _

/-- The job service is configured, or the configuration is at fault. -/
theorem service_offers (configuration : Configuration) : Offers configuration.service := by
  intro error h
  unfold Configuration.service at h
  split_ifs at h
  · cases h
    exact .misconfigured _
  · split at h
    · next hstore =>
      cases h
      exact store_offers configuration _ hstore
    · cases h

end Offers

/-- Opening the cache fails with an error of the configuration. -/
theorem openCache_failsAs [Build.DatabaseLibrary] (configuration : Configuration) :
    FailsAs IsFailure configuration.openCache := by
  intro tree error h
  simp only [Files.Action.on, Configuration.openCache] at h
  split_ifs at h
  · cases h
    exact .misconfigured _
  · split at h
    · cases h
      exact .misconfigured _
    · cases h

/-- Writing a trace fails with an error that is of neither kind. -/
theorem keepTrace_failsAs (path : Bytes) (result : Job.Result) :
    FailsAs IsFailure (keepTrace path result) := by
  unfold keepTrace writeTrace
  split
  · exact failsAs_pure ()
  · split
    · exact failsAs_pure ()
    · split
      · exact failsAs_throw (.internal ((Error.isInternal_plain _).wrap _))
      · exact (Files.writeFile_failsByFault _ _ _).labelled _ |>.failsAs fun _ h =>
          .internal h.isInternal

/-! ## What is done in a session -/

section

variable [Build.DatabaseLibrary]

/-- What a session has come to, apart from its files, its cache and its log. -/
structure Account where
  stdout : Bytes
  job : Option Job.Result
  exitCode : Int
  hasRun : Bool

/-- The account of a session. -/
def Session.account (session : Session) : Account :=
  ⟨session.stdout, session.job, session.exitCode, session.hasRun⟩

/-- A session in which a command is about to run. -/
def Session.running (tree : Tree) : Session := { Session.start tree with hasRun := true }

namespace Doing

variable {α β : Type} {good : α → Session → Prop} {bad : Error → Session → Prop}

/-- What holds of a result and the session after it, and what holds of an error. -/
def Ends (good : α → Session → Prop) (bad : Error → Session → Prop) (doing : Doing α)
    (session : Session) : Prop :=
  match doing session with
  | (.ok result, after) => good result after
  | (.error error, after) => bad error after

/-- A result that is there already. -/
theorem ends_pure {result : α} {session : Session} (h : good result session) :
    Ends good bad (pure result) session := h

/-- An error that is there already. -/
theorem ends_throw {error : Error} {session : Session} (h : bad error session) :
    Ends good bad (throw error) session := h

/-- One thing after another. -/
theorem Ends.bind {middle : α → Session → Prop} {worse : Error → Session → Prop} {doing : Doing α}
    {session : Session} (h : Ends middle worse doing session) {good : β → Session → Prop}
    {next : α → Doing β}
    (hnext : ∀ result after, middle result after → Ends good bad (next result) after)
    (hbad : ∀ error after, worse error after → bad error after) :
    Ends good bad (doing >>= next) session := by
  unfold Ends at h ⊢
  simp only [Bind.bind, ExceptT.bind, ExceptT.mk, StateT.bind, ExceptT.bindCont]
  generalize doing session = outcome at h ⊢
  obtain ⟨_ | result, after⟩ := outcome
  · exact hbad _ _ h
  · exact hnext result after h

/-- What is weaker holds too. -/
theorem Ends.mono {doing : Doing α} {session : Session} (h : Ends good bad doing session)
    {better : α → Session → Prop} {worse : Error → Session → Prop}
    (hgood : ∀ result after, good result after → better result after)
    (hbad : ∀ error after, bad error after → worse error after) :
    Ends better worse doing session := by
  unfold Ends at h ⊢
  generalize doing session = outcome at h ⊢
  obtain ⟨_ | result, after⟩ := outcome
  · exact hbad _ _ h
  · exact hgood _ _ h

/-- What is done at the end comes after a result as after an error. -/
theorem Ends.lastly {middle : α → Session → Prop} {worse : Error → Session → Prop}
    {doing : Doing α} {closing : Doing Unit} {session : Session}
    (h : Ends middle worse doing session)
    (hgood : ∀ result after, middle result after → good result (closing after).2)
    (hbad : ∀ error after, worse error after → bad error (closing after).2) :
    Ends good bad (doing.lastly closing) session := by
  unfold Ends at h ⊢
  unfold Doing.lastly
  generalize doing session = outcome at h ⊢
  obtain ⟨_ | result, after⟩ := outcome
  · exact hbad _ _ h
  · exact hgood _ _ h

/-- A code that is set on failure is there after an error. -/
theorem Ends.orExitWith {code : Int} {doing : Doing α} {session : Session}
    (h : Ends good bad doing session) :
    Ends good (fun error after => ∃ failed, bad error failed ∧ after = { failed with exitCode := code })
      (doing.orExitWith code) session := by
  unfold Ends at h ⊢
  simp only [Doing.orExitWith, tryCatch, tryCatchThe, MonadExceptOf.tryCatch, ExceptT.tryCatch,
    ExceptT.mk, Bind.bind, StateT.bind]
  generalize doing session = outcome at h ⊢
  obtain ⟨error | result, after⟩ := outcome
  · exact ⟨after, h, rfl⟩
  · exact h

/-- What is done to files has their result, and changes nothing else of a session. -/
theorem onFiles_ends (action : Files.Action α) (session : Session) :
    Ends (fun result after => ∃ tree, action.on session.tree = (.ok result, tree) ∧
        after = { session with tree })
      (fun error after => ∃ tree, action.on session.tree = (.error error, tree) ∧
        after = { session with tree })
      (onFiles action) session := by
  cases hresult : action.on session.tree with
  | mk result tree =>
    rw [Files.Action.on] at hresult
    simp only [Ends, onFiles, hresult]
    cases result <;> exact ⟨tree, rfl, rfl⟩

section Steps

variable {session : Session} {good : β → Session → Prop}

/-- What comes next knows the session. -/
theorem ends_get {next : Session → Doing β} (h : Ends good bad (next session) session) :
    Ends good bad (get >>= next) session := h

/-- What comes next begins with the changed session. -/
theorem ends_modify {change : Session → Session} {next : Unit → Doing β}
    (h : Ends good bad (next ()) (change session)) :
    Ends good bad (modify change >>= next) session := h

/-- What is complained about is on standard error from then on. -/
theorem ends_complain {text : Bytes} {next : Unit → Doing β}
    (h : Ends good bad (next ()) { session with stderr := session.stderr ++ text }) :
    Ends good bad (complain text >>= next) session := h

/-- The code that is set is there from then on. -/
theorem ends_exitWith {code : Int} {next : Unit → Doing β}
    (h : Ends good bad (next ()) { session with exitCode := code }) :
    Ends good bad (exitWith code >>= next) session := h

/-- A demand ends with the error of a value that is not there. -/
theorem ends_demand {value : Except Error α} {next : α → Doing β}
    (herror : ∀ error, value = .error error → bad error session)
    (hok : ∀ result, value = .ok result → Ends good bad (next result) session) :
    Ends good bad (demand value >>= next) session := by
  cases value with
  | error error => exact ends_throw (herror error rfl)
  | ok result => exact hok result rfl

/-- Something done to files, and what comes next with its result. -/
theorem ends_onFiles {action : Files.Action α} {next : α → Doing β}
    (herror : ∀ error tree, action.on session.tree = (.error error, tree) →
      bad error { session with tree })
    (hok : ∀ result tree, action.on session.tree = (.ok result, tree) →
      Ends good bad (next result) { session with tree }) :
    Ends good bad (onFiles action >>= next) session := by
  refine (onFiles_ends action session).bind ?_ ?_
  · rintro result _ ⟨tree, hresult, rfl⟩
    exact hok result tree hresult
  · rintro error _ ⟨tree, hresult, rfl⟩
    exact herror error tree hresult

/-- The job that is run is the job of the session from then on. -/
theorem ends_runJob {invocation : Invocation} {service : Job.Service Build.Machine} {slots : Nat}
    {log : Log.Config} {document : Bytes} {next : Job.Result → Doing β}
    (h : ∀ result tree cache stderr, result = (Job.compile service slots
        ⟨invocation.jobId, document, if invocation.isCancelled then .cancelled else .patient⟩
        (.start ⟨session.tree, session.cache⟩)).1 →
      Ends good bad (next result) { session with tree, cache, stderr, job := some result }) :
    Ends good bad (runJob invocation service slots log document >>= next) session :=
  h _ _ _ _ rfl

end Steps

end Doing

open Doing

/-! ## Reading documents -/

/-- It leaves the session as it was, and fails with an error of an invocation. -/
def Looks {α : Type} (doing : Doing α) : Prop :=
  ∀ session, (doing session).2 = session ∧
    ∀ error, (doing session).1 = .error error → IsFailure error

/-- An error of the command line changes nothing. -/
theorem looks_misuse {α : Type} (message : Bytes) : Looks (throw (misuse message) : Doing α) := by
  refine fun session => ⟨rfl, ?_⟩
  rintro _ ⟨⟩
  exact .misuse message

/-- Reading standard input changes nothing. -/
theorem fromInput_looks (stdin : Option Bytes) : Looks (readDocument.fromInput stdin) := by
  cases stdin with
  | none => exact looks_misuse _
  | some document => exact fun session => ⟨rfl, nofun⟩

/-- Reading a file changes nothing. -/
theorem unreadable_looks (path : Bytes) : Looks (onFiles (unreadable (Files.contents path))) := by
  intro session
  have hkeeps := (Files.contents_looksAt path).keeps session.tree
  rw [Files.Action.on] at hkeeps
  unfold onFiles unreadable
  generalize Files.contents path session.tree = outcome at hkeeps ⊢
  obtain ⟨_ | document, after⟩ := outcome
  · obtain rfl : session.tree = after := hkeeps
    refine ⟨rfl, ?_⟩
    rintro _ ⟨⟩
    exact .misuse _
  · obtain rfl : session.tree = after := hkeeps
    refine ⟨rfl, ?_⟩
    rintro _ ⟨⟩

/-- Reading a document leaves the session as it was. -/
theorem readDocument_looks (stdin : Option Bytes) (words : List Bytes) :
    Looks (readDocument stdin words) := by
  unfold readDocument
  split
  · exact fromInput_looks stdin
  · split_ifs
    · exact fromInput_looks stdin
    · exact looks_misuse _
    · exact unreadable_looks _

/-- What only looks leaves the session as it was, with a result or an error. -/
theorem Looks.ends {α : Type} {doing : Doing α} (h : Looks doing) (session : Session) :
    Ends (fun result after => (doing session).1 = .ok result ∧ after = session)
      (fun error after => IsFailure error ∧ after = session) doing session := by
  have hall := h session
  unfold Ends
  generalize doing session = outcome at hall ⊢
  obtain ⟨_ | result, after⟩ := outcome
  · exact ⟨hall.2 _ rfl, hall.1⟩
  · exact ⟨rfl, hall.1⟩

/-! ## Drivers -/

/-- An opened driver has the settings and the cache of the configuration, and nothing is told of it
but in the log. -/
theorem openDriver_ends (invocation : Invocation) (configuration : Configuration)
    (log : Log.Config) (session : Session) :
    Ends (fun settings after => after.account = session.account ∧
        configuration.builds session.tree.herePath = .ok settings ∧
        ∃ entries, configuration.openCache.on session.tree = (.ok (after.cache, entries), after.tree))
      (fun error after => IsFailure error ∧ after.account = session.account)
      (openDriver invocation configuration log) session := by
  refine ends_get (ends_demand (fun error h => ⟨builds_offers configuration _ error h, rfl⟩)
    fun settings hsettings => ?_)
  refine ends_onFiles (fun error tree h => ?_) fun ⟨cache, entries⟩ tree hcache => ?_
  · exact ⟨openCache_failsAs configuration _ _ (congrArg Prod.fst h), rfl⟩
  · exact ends_modify (ends_complain (ends_pure ⟨rfl, hsettings, entries, hcache⟩))

/-- Closing a driver is told in the log at most. -/
theorem closeDriver_account (invocation : Invocation) (log : Log.Config) (session : Session) :
    (closeDriver invocation log session).2.account = session.account := by
  have hends : Ends (fun _ after => after.account = session.account)
      (fun _ after => after.account = session.account) (closeDriver invocation log) session := by
    refine ends_get ?_
    split
    · refine ends_onFiles (fun _ _ _ => rfl) fun failed tree _ => ?_
      split
      · exact rfl
      · exact rfl
    · exact rfl
  unfold Ends at hends
  generalize closeDriver invocation log session = outcome at hends ⊢
  obtain ⟨_ | _, after⟩ := outcome
  · exact hends
  · exact hends

/-- Closing a driver at last changes nothing of what is told of the account. -/
theorem Doing.Ends.lastlyClosing {α : Type} {invocation : Invocation} {log : Log.Config}
    {doing : Doing α} {session : Session} {good : α → Session → Prop}
    {bad : Error → Session → Prop}
    (h : Ends good bad doing session)
    (hgood : ∀ result after more, more.account = after.account → good result after → good result more)
    (hbad : ∀ error after more, more.account = after.account → bad error after → bad error more) :
    Ends good bad (doing.lastly (closeDriver invocation log)) session :=
  h.lastly (fun result after => hgood result after _ (closeDriver_account invocation log after))
    fun error after => hbad error after _ (closeDriver_account invocation log after)

/-! ## The ways to end -/

/-- Whether a task is about a document. -/
def Task.hasDocument : Task → Bool
  | .compile .. | .generate .. => true
  | _ => false

/-- Whether a command line asks for a task about a document. -/
def Reading.hasDocument {Values : Type} : Reading Values → Bool
  | .task asked _ => asked.hasDocument
  | _ => false

/-- How an invocation ends with an error. It asks for no other code then, and nothing was printed if a
document was to be read. -/
structure Fails (hasDocument : Bool) (error : Error) (account : Account) : Prop where
  failure : IsFailure error
  exitCode : account.exitCode = Exit.internalError
  quiet : hasDocument = true → account.stdout = []

section Ways

variable [Library] (invocation : Invocation) (tree : Tree)

/-- The words of the command line ask for a task, with certain values of the options. -/
def Asks (task : Task) (values : Library.Values) : Prop :=
  Library.read invocation.words invocation.environment = .task task values

/-- The configuration that is loaded, and the document that is read under it. -/
structure Reads (values : Library.Values) (words : List Bytes) (configuration : Configuration)
    (document : Bytes) : Prop where
  configuration : ((Configuration.load values).on tree).1 = .ok configuration
  document : (readDocument invocation.stdin words (.running tree)).1 = .ok document

/-- The result is that of the job of a document: with the settings, the cache and the archive of the
configuration, on the files as they are when the cache has been opened. -/
def IsJobOf (configuration : Configuration) (document : Bytes) (result : Job.Result) : Prop :=
  ∃ settings cache entries opened slots store,
    configuration.builds tree.herePath = .ok settings ∧
    configuration.openCache.on tree = (.ok (cache, entries), opened) ∧
    configuration.service = .ok (slots, store) ∧
    result = (Job.compile (buildService invocation configuration settings store) slots
      ⟨invocation.jobId, document, if invocation.isCancelled then .cancelled else .patient⟩
      (.start ⟨opened, cache⟩)).1

/-- How an invocation ends without an error. -/
inductive Succeeds : Account → Prop
  /-- No command of the program was asked for. -/
  | answered {stdout : Bytes} (hasks : ∀ task values, ¬ Asks invocation task values) :
      Succeeds ⟨stdout, none, Exit.internalError, false⟩
  /-- Something other than a document was asked for. -/
  | done {task : Task} {values : Library.Values} {stdout : Bytes} (hasks : Asks invocation task values)
      (hdocument : task.hasDocument = false) : Succeeds ⟨stdout, none, Exit.success, true⟩
  /-- The job of a document has ended. -/
  | compiled {values : Library.Values} {words : List Bytes} {tracePath : Bytes}
      {configuration : Configuration} {document : Bytes} {result : Job.Result}
      (hasks : Asks invocation (.compile words tracePath) values)
      (hreads : Reads invocation tree values words configuration document)
      (hresult : IsJobOf invocation tree configuration document result) :
      Succeeds ⟨if result.isOk then result.payload else [], some result, Exit.ofResult result, true⟩
  /-- The program of a document was printed. -/
  | generated {values : Library.Values} {words : List Bytes} {configuration : Configuration}
      {document source : Bytes} {environment : Environment}
      (hasks : Asks invocation (.generate words) values)
      (hreads : Reads invocation tree values words configuration document)
      (hsource : Program.generate configuration.policy document = .ok (source, environment)) :
      Succeeds ⟨source, none, Exit.success, true⟩
  /-- A document has no program. -/
  | ungenerated {values : Library.Values} {words : List Bytes} {configuration : Configuration}
      {document : Bytes} {error : Error} (hasks : Asks invocation (.generate words) values)
      (hreads : Reads invocation tree values words configuration document)
      (herror : Program.generate configuration.policy document = .error error) :
      Succeeds ⟨[], none, Exit.jobFailure, true⟩

end Ways

omit [Build.DatabaseLibrary] in
/-- A command line asks for one thing. -/
theorem Asks.unique [Library] {invocation : Invocation} {task other : Task}
    {values more : Library.Values} (h : Asks invocation task values)
    (h' : Asks invocation other more) : task = other ∧ values = more := by
  cases h.symm.trans h'
  exact ⟨rfl, rfl⟩

section Commands

variable (invocation : Invocation) (configuration : Configuration)

/-- Compiling prints nothing but the payload of a job that succeeded, as its last step. -/
theorem compile_ends (words : List Bytes) (tracePath : Bytes) (tree : Tree) :
    Ends (fun _ after => ∃ document result,
        (readDocument invocation.stdin words (.running tree)).1 = .ok document ∧
        IsJobOf invocation tree configuration document result ∧
        after.account
          = ⟨if result.isOk then result.payload else [], some result, Exit.ofResult result, true⟩)
      (fun error after => Fails true error after.account)
      (compile invocation configuration words tracePath) (.running tree) := by
  refine ((readDocument_looks _ words).ends _).bind ?_ ?_
  · rintro document _ ⟨hdocument, rfl⟩
    refine ends_demand (fun error h => ⟨log_offers configuration error h, rfl, fun _ => rfl⟩)
      fun log _ => ?_
    refine (openDriver_ends invocation configuration log _).bind ?_ ?_
    · rintro settings session ⟨haccount, hsettings, entries, hcache⟩
      refine Ends.lastlyClosing ?_ (fun _ _ _ h => by rw [h]; exact id)
        fun _ _ _ h => by rw [h]; exact id
      have hstdout : session.stdout = [] := congrArg Account.stdout haccount
      have hcode : session.exitCode = Exit.internalError := congrArg Account.exitCode haccount
      have hrun : session.hasRun = true := congrArg Account.hasRun haccount
      refine ends_demand (fun error h => ?_) fun service hservice => ?_
      · exact ⟨service_offers configuration error h, hcode, fun _ => hstdout⟩
      obtain ⟨slots, store⟩ := service
      refine ends_runJob fun result after cache stderr hresult => ?_
      refine (onFiles_ends _ _).orExitWith.bind ?_ ?_
      · rintro _ _ ⟨kept, -, rfl⟩
        -- The code is set before the payload is printed, and nothing comes between.
        have hjob : IsJobOf invocation tree configuration document result :=
          ⟨settings, _, entries, _, slots, store, hsettings, hcache, hservice, hresult⟩
        refine ends_exitWith ?_
        unfold report
        split
        · next hok =>
          refine ⟨document, result, hdocument, hjob, ?_⟩
          rw [if_pos hok]
          exact congrArg₂ (Account.mk · _ _ ·) (congrArg (· ++ result.payload) hstdout) hrun
        · next hok =>
          refine ⟨document, result, hdocument, hjob, ?_⟩
          rw [if_neg hok]
          exact congrArg₂ (Account.mk · _ _ ·) hstdout hrun
      · rintro error _ ⟨_, ⟨kept, herror, rfl⟩, rfl⟩
        exact ⟨keepTrace_failsAs _ _ _ _ (congrArg Prod.fst herror), rfl, fun _ => hstdout⟩
    · rintro error session ⟨herror, haccount⟩
      rw [haccount]
      exact ⟨herror, rfl, fun _ => rfl⟩
  · rintro error _ ⟨herror, rfl⟩
    exact ⟨herror, rfl, fun _ => rfl⟩

end Commands

section Invocations

variable [Library] (invocation : Invocation) (tree : Tree)

end Invocations

/-! ## Codes, errors and output -/

/-- What the end of an invocation tells agrees with what was asked for and done. -/
structure Agrees [Library] (invocation : Invocation) (tree : Tree)
    (ended : Ended) : Prop where
  error : ∀ error, ended.error = some error → ended.exitCode = Exit.ofError (some error) ∧
    (ended.exitCode = 2 ∨ ended.exitCode = 3 ∨ ended.exitCode = 4)
  noError : ended.error = none → ended.exitCode = 0 ∨ ended.exitCode = 1 ∨ ended.exitCode = 4
  /-- A command that compiles prints the payload of its job with code 0, and nothing otherwise. -/
  compiled : ∀ words tracePath values, Asks invocation (.compile words tracePath) values →
    if ended.exitCode = 0 then
      ∃ result, ended.job = some result ∧ result.kind = .succeeded ∧ ended.stdout = result.payload
    else ended.stdout = []
  /-- A command that generates prints the program of its document with code 0, and nothing
  otherwise. -/
  generated : ∀ words values, Asks invocation (.generate words) values →
    if ended.exitCode = 0 then
      ∃ configuration document environment,
        Reads invocation tree values words configuration document ∧
        Program.generate configuration.policy document = .ok (ended.stdout, environment)
    else ended.stdout = []
  /-- Compiling without an error has run the job of its document, and has the code of the result. -/
  job : ∀ words tracePath values, Asks invocation (.compile words tracePath) values →
    ended.error = none →
    ∃ configuration document result, Reads invocation tree values words configuration document ∧
      IsJobOf invocation tree configuration document result ∧
      ended.job = some result ∧ ended.exitCode = Exit.ofResult result
  /-- Code 1 is for a document whose job has failed, or that has no program. -/
  failed : ended.exitCode = 1 → ∃ values words configuration document,
    Reads invocation tree values words configuration document ∧
    ((∃ tracePath result, Asks invocation (.compile words tracePath) values ∧
        IsJobOf invocation tree configuration document result ∧
        ended.job = some result ∧ result.kind = .failed) ∨
      (Asks invocation (.generate words) values ∧ ∃ error,
        Program.generate configuration.policy document = .error error))

section Agrees

variable [Library] {invocation : Invocation} {tree : Tree} {session : Session}

omit [Library] in
/-- The error with which a session ends is one of an invocation. -/
theorem IsFailure.told {error : Error} (h : IsFailure error) (session : Session) :
    IsFailure (session.told error) := by
  unfold Session.told
  split
  · exact .misuse _
  · exact h

end Agrees

end

namespace Sample

local instance : Build.DatabaseLibrary := Build.Database.library

local instance : Library := standardLibrary

/-- Files with a compiler for which every program is one that prints a number. -/
def workshop : Tree where
  here := []
  nodes := [([bytes "bin"], .directory 0o755),
    ([bytes "bin", bytes "sh"], .file 0o755 (Script.machineCode (bytes "sh"))),
    ([bytes "bin", bytes "chmod"], .file 0o755 (Script.machineCode (bytes "chmod"))),
    ([bytes "tmp"], .directory 0o755),
    ([bytes "cc"], .file 0o755 (bytes "#!/bin/sh\n" ++
      bytes "echo '#!/bin/sh\necho 7' > program\n/bin/chmod 755 program\n"))]
  links := []
  fresh := 0

/-- An invocation with a document of one call on standard input. -/
def asking (words : List Bytes) : Invocation where
  words := words
  environment := []
  stdin := some (bytes "\x7b\"functions\":[\x7b\"name\":\"x\",\"function\":\"f\"\x7d]\x7d")
  isCancelled := false
  now := .zero
  jobId := bytes "job-1"

/-- What becomes of the document when it is compiled. -/
def compiled : Ended :=
  (run (asking [bytes "compile", bytes "--toolchain", bytes "/cc"]) workshop).1

/-- What becomes of it when its program is generated. -/
def generated : Ended := (run (asking [bytes "generate"]) workshop).1

end Sample

end Command

end FunctionChain
