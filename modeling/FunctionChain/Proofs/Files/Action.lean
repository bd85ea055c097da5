import FunctionChain.Files.Action
import FunctionChain.Proofs.Failure.Classify

/-!
# Errors of file operations

What is put together from actions fails as these do (`FailsAs`). A file operation fails with a file
fault, or with a message before one (`FailsByFault`): this is so of the single operations, and so of
whatever is put together from them.
-/

namespace FunctionChain

namespace Files

namespace Action

variable {α β : Type}

/-! ## Actions step by step -/

/-- One action after another: the second sees the tree as the first has left it, and is not done
when that has failed. -/
theorem on_bind (action : Action α) (next : α → Action β) (tree : Tree) :
    (action >>= next).on tree = match action.on tree with
      | (.ok result, tree) => (next result).on tree
      | (.error error, tree) => (.error error, tree) := by
  unfold on
  simp only [Bind.bind, ExceptT.bind, ExceptT.mk, StateT.bind, ExceptT.bindCont]
  cases action tree with
  | mk result tree => cases result <;> rfl

/-- An action and what is done when it fails. -/
theorem on_tryCatch (action : Action α) (handle : Error → Action α) (tree : Tree) :
    (tryCatch action handle : Action α).on tree = match action.on tree with
      | (.ok result, tree) => (.ok result, tree)
      | (.error error, tree) => (handle error).on tree := by
  unfold on
  simp only [tryCatch, tryCatchThe, MonadExceptOf.tryCatch, ExceptT.tryCatch, ExceptT.mk, Bind.bind,
    StateT.bind]
  cases action tree with
  | mk result tree => cases result <;> rfl

/-! ## How actions fail -/

section FailsAs

variable {isSo : Error → Prop}

/-- All errors of an action are so. -/
def FailsAs (isSo : Error → Prop) (action : Action α) : Prop :=
  ∀ tree error, (action.on tree).1 = .error error → isSo error

/-- A result is no error. -/
theorem failsAs_pure (result : α) : FailsAs isSo (pure result : Action α) := nofun

/-- Looking at the tree does not fail. -/
theorem failsAs_get : FailsAs isSo (get : Action Tree) := nofun

/-- Setting the tree does not fail. -/
theorem failsAs_set (tree : Tree) : FailsAs isSo (set tree : Action PUnit) := nofun

/-- What is thrown fails as its error. -/
theorem failsAs_throw {error : Error} (h : isSo error) :
    FailsAs isSo (throw error : Action α) := by
  rintro tree _ ⟨⟩
  exact h

/-- One thing after another fails as one of them. -/
theorem FailsAs.bind {action : Action α} {next : α → Action β} (h : FailsAs isSo action)
    (hnext : ∀ result, FailsAs isSo (next result)) : FailsAs isSo (action >>= next) := by
  intro tree error he
  rw [on_bind] at he
  cases ha : action.on tree with
  | mk result after =>
    rw [ha] at he
    cases result with
    | ok result => exact hnext result after error he
    | error first =>
      cases he
      exact h tree error (congrArg Prod.fst ha)

/-- What is caught fails as its handler. -/
theorem FailsAs.tryCatch {isSoFirst : Error → Prop} {action : Action α} {handle : Error → Action α}
    (h : FailsAs isSoFirst action)
    (hhandle : ∀ error, isSoFirst error → FailsAs isSo (handle error)) :
    FailsAs isSo (tryCatch action handle : Action α) := by
  intro tree error he
  rw [on_tryCatch] at he
  cases ha : action.on tree with
  | mk result after =>
    rw [ha] at he
    cases result with
    | ok result => cases he
    | error first => exact hhandle first (h tree first (congrArg Prod.fst ha)) after error he

/-- Words are put before an error. -/
theorem FailsAs.labelled {isSoFirst : Error → Prop} {action : Action α} {message : Bytes}
    (h : FailsAs isSoFirst action) (hwrap : ∀ error, isSoFirst error → isSo (.wrap message error)) :
    FailsAs isSo (action.labelled message) := by
  intro tree error he
  simp only [on, Action.labelled] at he
  cases ha : action tree with
  | mk result after =>
    rw [ha] at he
    cases result with
    | ok result => cases he
    | error first =>
      cases he
      exact hwrap first (h tree first (congrArg Prod.fst ha))

end FailsAs

/-! ## File faults -/

/-- An action fails with file faults alone. -/
def FailsByFault (action : Action α) : Prop :=
  ∀ tree error, (action.on tree).1 = .error error → error.IsFault

/-- A fault is an error that faults are. -/
theorem FailsByFault.failsAs {isSo : Error → Prop} {action : Action α} (h : FailsByFault action)
    (hfault : ∀ error : Error, error.IsFault → isSo error) : FailsAs isSo action :=
  fun tree error he => hfault error (h tree error he)

/-- A result is no fault. -/
theorem failsByFault_pure (result : α) : FailsByFault (pure result) := failsAs_pure result

/-- Looking at the tree is no fault. -/
theorem failsByFault_get : FailsByFault (get : Action Tree) := failsAs_get

/-- Setting the tree is no fault. -/
theorem failsByFault_set (tree : Tree) : FailsByFault (set tree : Action PUnit) := failsAs_set tree

/-- Throwing a fault is one. -/
theorem failsByFault_throw {error : Error} (h : error.IsFault) :
    FailsByFault (throw error : Action α) :=
  failsAs_throw h

/-- A call that fails does so by a fault. -/
theorem failsByFault_fail (call : Bytes) (paths : List Bytes) (reason : Reason) :
    FailsByFault (fail call paths reason : Action α) :=
  failsByFault_throw (by exact trivial)

/-- One thing after another fails by a fault if each does. -/
theorem FailsByFault.bind {action : Action α} {next : α → Action β} (h : FailsByFault action)
    (hnext : ∀ result, FailsByFault (next result)) : FailsByFault (action >>= next) :=
  FailsAs.bind h hnext

/-- What is caught fails by a fault if its handler does. -/
theorem FailsByFault.tryCatch {action : Action α} {handle : Error → Action α}
    (h : FailsByFault action)
    (hhandle : ∀ error : Error, error.IsFault → FailsByFault (handle error)) :
    FailsByFault (tryCatch action handle : Action α) :=
  FailsAs.tryCatch h hhandle

/-- A fault with words before it is one. -/
theorem FailsByFault.labelled {action : Action α} (h : FailsByFault action) (message : Bytes) :
    FailsByFault (action.labelled message) :=
  FailsAs.labelled h fun _ hfault => hfault

end Action

open Files.Action

/-! ## The operations -/

/-- Reading a file fails by a fault at most. -/
theorem contents_failsByFault (path : Bytes) : FailsByFault (contents path) := by
  refine failsByFault_get.bind fun tree => ?_
  split
  · exact failsByFault_fail _ _ _
  · exact failsByFault_fail _ _ _
  · exact failsByFault_pure _

/-- Making a directory fails by a fault at most. -/
theorem makeDirectory_failsByFault (path : Bytes) (mode : Nat) :
    FailsByFault (makeDirectory path mode) := by
  refine failsByFault_get.bind fun tree => ?_
  split
  · exact failsByFault_fail _ _ _
  · split
    · exact failsByFault_fail _ _ _
    · exact failsByFault_set _

/-- Making a directory and those above it fails by a fault at most. -/
theorem makeDirectoriesWithin_failsByFault (mode depth : Nat) (path : Bytes) :
    FailsByFault (makeDirectoriesWithin mode depth path) := by
  induction depth generalizing path with
  | zero => exact failsByFault_fail _ _ _
  | succ depth ih =>
    unfold makeDirectoriesWithin
    refine failsByFault_get.bind fun tree => ?_
    split
    · exact failsByFault_pure _
    · exact failsByFault_fail _ _ _
    · split
      · exact (ih _).bind fun _ => makeDirectory_failsByFault path mode
      · exact makeDirectory_failsByFault path mode

/-- Writing a file fails by a fault at most. -/
theorem writeFile_failsByFault (path content : Bytes) (mode : Nat) :
    FailsByFault (writeFile path content mode) := by
  refine failsByFault_get.bind fun tree => ?_
  split
  · exact failsByFault_fail _ _ _
  · split
    · exact failsByFault_fail _ _ _
    · exact failsByFault_set _
    · exact failsByFault_set _

/-- Finding a fresh path fails by a fault at most. -/
theorem freshPath_failsByFault (directory start ending : Bytes) :
    FailsByFault (freshPath directory start ending) := by
  refine failsByFault_get.bind fun tree => ?_
  exact (failsByFault_set _).bind fun _ => failsByFault_pure _

/-- Creating a temporary file fails by a fault at most. -/
theorem createTemporary_failsByFault (directory start : Bytes) :
    FailsByFault (createTemporary directory start) := by
  refine (freshPath_failsByFault directory start []).bind fun path => ?_
  refine failsByFault_get.bind fun tree => ?_
  split
  · exact failsByFault_fail _ _ _
  · split
    · exact failsByFault_fail _ _ _
    · exact (failsByFault_set _).bind fun _ => failsByFault_pure _

/-- Making a temporary directory fails by a fault at most. -/
theorem makeTemporaryDirectory_failsByFault (directory pattern : Bytes) :
    FailsByFault (makeTemporaryDirectory directory pattern) := by
  unfold makeTemporaryDirectory
  split
  · exact failsByFault_fail _ _ _
  · refine (freshPath_failsByFault _ _ _).bind fun path => ?_
    exact (makeDirectory_failsByFault path _).bind fun _ => failsByFault_pure _

/-- Renaming a file fails by a fault at most. -/
theorem renameFile_failsByFault (source target : Bytes) :
    FailsByFault (renameFile source target) := by
  refine failsByFault_get.bind fun tree => ?_
  split
  · exact failsByFault_fail _ _ _
  · exact failsByFault_fail _ _ _
  · split
    · exact failsByFault_fail _ _ _
    · exact failsByFault_fail _ _ _
    · exact failsByFault_set _
    · exact failsByFault_set _

/-- Discarding a file fails by a fault at most. -/
theorem discard_failsByFault (path : Bytes) : FailsByFault (discard path) := by
  refine failsByFault_get.bind fun tree => ?_
  split
  · exact failsByFault_pure _
  · exact failsByFault_set _

/-- Replacing a file fails by a fault at most. -/
theorem replaceFile_failsByFault (path content : Bytes) (mode : Nat) :
    FailsByFault (replaceFile path content mode) := by
  refine (createTemporary_failsByFault _ _).bind fun temporary => ?_
  refine failsByFault_get.bind fun tree => ?_
  split
  · exact failsByFault_fail _ _ _
  · refine (failsByFault_set _).bind fun _ => ?_
    refine (renameFile_failsByFault temporary path).tryCatch fun error he => ?_
    exact (discard_failsByFault temporary).bind fun _ => failsByFault_throw he

/-- Bringing a directory to the disk fails by a fault at most. -/
theorem syncDirectory_failsByFault (path : Bytes) : FailsByFault (syncDirectory path) := by
  refine failsByFault_get.bind fun tree => ?_
  split
  · exact failsByFault_fail _ _ _
  · exact failsByFault_pure _

/-- Removing everything below a path fails by a fault at most. -/
theorem removeAll_failsByFault (path : Bytes) : FailsByFault (removeAll path) := by
  refine failsByFault_get.bind fun tree => ?_
  split
  · exact failsByFault_pure _
  · exact failsByFault_fail _ _ _
  · exact failsByFault_set _

end Files

end FunctionChain
