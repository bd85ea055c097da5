import FunctionChain.Proofs.Document.Meaning
import FunctionChain.Proofs.Reference.Strict
import Mathlib.Data.List.Nodup

/-!
# What resolving gives

A graph that is resolved gives one resolved call per call, in order, with the parameters as arguments
in the order of their keys (`resolve_arranges`), and an environment that reflects the names of the
calls with their positions (`bindings_tell_history`). Parameters are a map: no key occurs twice, and
the order in which they are given is not part of the graph. A call is only ever looked at through its
parameters in the order of their keys, so that order makes no difference to any result, to a
refusal no more than to a success.
-/

namespace FunctionChain

namespace Reference

/-! ## Parameters in order -/

/-- No key occurs twice among the parameters of a call. -/
def KeysOnce (call : Call) : Prop := ((parametersOf call).map (·.1)).Nodup

/-- Ordering takes no parameter away and repeats none. -/
theorem perm_orderedParameters (call : Call) :
    (orderedParameters call).Perm (parametersOf call) :=
  List.mergeSort_perm _ _

/-- Keys that occur once are in strict order. -/
theorem increasing_orderedParameters {call : Call} (h : KeysOnce call) :
    (orderedParameters call).Pairwise fun a b => Bytes.before a.1 b.1 = true := by
  have hkeys : ((orderedParameters call).map (·.1)).Nodup :=
    ((perm_orderedParameters call).map _).nodup_iff.2 h
  refine ((pairwise_orderedParameters call).and (List.pairwise_map.1 hkeys)).imp ?_
  rintro a b ⟨hle, hne⟩
  rw [Bytes.atMost, Bool.not_eq_true'] at hle
  cases hlt : Bytes.before a.1 b.1 with
  | true => rfl
  | false => exact absurd (Bytes.eq_of_not_before hlt hle) hne

/-- The order in which parameters are given does not matter. -/
theorem orderedParameters_congr {first second : Call} (h : KeysOnce first)
    (hperm : (parametersOf first).Perm (parametersOf second)) :
    orderedParameters first = orderedParameters second := by
  have hordered :
      (orderedParameters first).Perm (orderedParameters second) :=
    (perm_orderedParameters first).trans (hperm.trans (perm_orderedParameters second).symm)
  refine hordered.eq_of_pairwise ?_ (pairwise_orderedParameters first)
    (pairwise_orderedParameters second)
  intro a b ha hb hab hba
  have hkey : a.1 = b.1 := by
    rw [Bytes.atMost, Bool.not_eq_true'] at hab hba
    exact Bytes.eq_of_not_before hba hab
  have ha' : a ∈ parametersOf first := mem_orderedParameters.1 ha
  have hb' : b ∈ parametersOf first := hperm.mem_iff.2 (mem_orderedParameters.1 hb)
  exact List.inj_on_of_nodup_map h ha' hb' hkey

/-! ## Resolved calls -/

/-- The arguments are the parameters, each once, with strictly increasing keys, unchanged tokens and
the kinds of these. -/
structure Arranges (parameters : List (Bytes × Bytes)) (arguments : List Argument) : Prop where
  increasing : arguments.Pairwise fun a b => Bytes.before a.key b.key = true
  perm : (arguments.map fun argument => (argument.key, argument.token)).Perm parameters
  kind : ∀ argument ∈ arguments, argument.kind = Token.classify argument.token

/-- The resolved form of a call: its name, its function, and its parameters as arguments. -/
structure Resolves (call : Call) (resolved : ResolvedCall) : Prop where
  name : resolved.name = call.name
  function : resolved.function = call.function
  arguments : Arranges (parametersOf call) resolved.arguments

/-- The call with its parameters in order. -/
def resolvedOf (call : Call) : ResolvedCall :=
  ⟨call.name, call.function, (orderedParameters call).map toArgument⟩

/-- A call whose keys differ is resolved into its parameters in order. -/
theorem resolves_resolvedOf {call : Call} (h : KeysOnce call) : Resolves call (resolvedOf call) := by
  refine ⟨rfl, rfl, ?_, ?_, ?_⟩
  · exact List.pairwise_map.2 (increasing_orderedParameters h)
  · simpa [resolvedOf, toArgument, Function.comp_def] using perm_orderedParameters call
  · intro argument hmem
    obtain ⟨parameter, -, rfl⟩ := List.mem_map.1 hmem
    rfl

/-- The names of calls with their positions, the first of which is given. -/
def namedFrom (index : Nat) (calls : List Call) : List (Bytes × Int) :=
  (calls.zipIdx index).map fun (call, i) => (call.name, (i : Int))

section
variable {policy : ReferencePolicy} {index : Nat} {env final : Environment}
  {done calls : List ResolvedCall} {rest : List Call}

/-- **Resolving from a position on.** What is resolved are the calls that are left, and each has
declared its name. -/
theorem eq_of_resolveFrom {history : List (Bytes × Int)} (henv : env.Reflects history)
    (h : resolveFrom policy index env done rest = .ok (calls, final)) :
    calls = done.reverse ++ rest.map resolvedOf ∧
      final.Reflects (history ++ namedFrom index rest) := by
  induction rest generalizing index env done history with
  | nil =>
    cases h
    exact ⟨(List.append_nil _).symm, by simpa [namedFrom] using henv⟩
  | cons call rest ih =>
    cases hf : ((orderedParameters call).map toArgument).find? (isRefused policy env) with
    | some argument =>
      rw [resolveFrom_cons_of_some hf] at h
      cases h
    | none =>
      rw [resolveFrom_cons_of_none hf] at h
      obtain ⟨hcalls, hfinal⟩ := ih (henv.declare call.name index) h
      rw [List.append_assoc] at hfinal
      refine ⟨?_, hfinal⟩
      rw [hcalls, List.reverse_cons, List.append_assoc]
      rfl

/-- Calls are told by their names, their functions and their parameters as maps. -/
theorem resolveFrom_congr {first second : List Call}
    (h : List.Forall₂ Document.SameCall first second) (hkeys : ∀ call ∈ first, KeysOnce call) :
    resolveFrom policy index env done first = resolveFrom policy index env done second := by
  induction h generalizing index env done with
  | nil => rfl
  | @cons call other rest others hcall hrest ih =>
    rw [List.forall_mem_cons] at hkeys
    have hperm : (parametersOf call).Perm (parametersOf other) := by
      have hparameters := hcall.parameters
      unfold parametersOf
      generalize call.parameters = a, other.parameters = b at hparameters
      cases hparameters with
      | none => exact .refl _
      | some hperm => exact hperm
    have hordered := orderedParameters_congr hkeys.1 hperm
    have hnext {index : Nat} {env : Environment} {done : List ResolvedCall} :=
      @ih index env done hkeys.2
    simp only [resolveFrom, hordered, hcall.name, hcall.function, hnext]

end

/-- The calls of a graph, none for a graph that is missing. -/
def callsOf (graph : Option Graph) : List Call := (graph.map (·.calls)).getD []

/-- What a graph that is resolved gives: its calls, and an environment that reflects their names. -/
theorem eq_of_resolve {policy : ReferencePolicy} {graph : Option Graph}
    {calls : List ResolvedCall} {env : Environment}
    (h : resolve policy graph = .ok (calls, env)) :
    calls = (callsOf graph).map resolvedOf ∧ env.Reflects (namedFrom 0 (callsOf graph)) := by
  cases graph with
  | none =>
    cases h
    exact ⟨rfl, Environment.reflects_empty⟩
  | some graph => exact eq_of_resolveFrom Environment.reflects_empty h

/-- **Arguments in the order of their keys.** What is resolved has the calls of the graph in their
order, and of each the parameters as arguments in the strict order of their keys. How the parameters
were enumerated makes no difference to the calls, the environment or the error. A graph that is
missing gives nothing. -/
theorem resolve_arranges {graph other : Option Graph}
    (hkeys : ∀ call ∈ callsOf graph, KeysOnce call)
    (hsame : Option.Rel Document.SameGraph graph other) (policy : ReferencePolicy) :
    resolve policy other = resolve policy graph ∧
    (∀ calls env, resolve policy graph = .ok (calls, env) →
      List.Forall₂ Resolves (callsOf graph) calls) ∧
    resolve policy none = .ok ([], .empty) := by
  refine ⟨?_, fun calls env h => ?_, rfl⟩
  · cases hsame with
    | none => rfl
    | some hsame => exact (resolveFrom_congr hsame hkeys).symm
  · obtain ⟨rfl, -⟩ := eq_of_resolve h
    rw [List.forall₂_map_right_iff, List.forall₂_same]
    exact fun call hcall => resolves_resolvedOf (hkeys call hcall)

namespace Sample

/-- A call with two dangling references. -/
def ordered : Graph :=
  ⟨[⟨bytes "a", bytes "f",
    some [(bytes "X1", bytes "1"), (bytes "x10", bytes "c"), (bytes "x2", bytes "b")]⟩]⟩

/-- The same call with its parameters given in another order. -/
def shuffled : Graph :=
  ⟨[⟨bytes "a", bytes "f",
    some [(bytes "x2", bytes "b"), (bytes "X1", bytes "1"), (bytes "x10", bytes "c")]⟩]⟩

/-- In either order it is refused for the same reference, and the arguments are the same where it is
not refused. -/
theorem resolve_shuffled :
    (∀ call ∈ callsOf (some ordered), KeysOnce call) ∧
      Option.Rel Document.SameGraph (some ordered) (some shuffled) ∧
      resolve .strict shuffled = .error ⟨bytes "a", 0, bytes "x10", bytes "c"⟩ ∧
      ∃ calls env, resolve .passThrough shuffled = .ok (calls, env) ∧
        List.Forall₂ Resolves (callsOf (some ordered)) calls := by
  have hkeys : ∀ call ∈ callsOf (some ordered), KeysOnce call := by
    rw [callsOf, Option.map_some, Option.getD_some, ordered, List.forall_mem_singleton, KeysOnce]
    decide
  have hsame : Option.Rel Document.SameGraph (some ordered) (some shuffled) :=
    .some (.cons ⟨rfl, rfl, .some (by decide)⟩ .nil)
  obtain ⟨hstrict, -, -⟩ := resolve_arranges hkeys hsame .strict
  obtain ⟨hpassed, hcalls, -⟩ := resolve_arranges hkeys hsame .passThrough
  have hparameters : orderedParameters ⟨bytes "a", bytes "f",
      some [(bytes "X1", bytes "1"), (bytes "x10", bytes "c"), (bytes "x2", bytes "b")]⟩
        = [(bytes "X1", bytes "1"), (bytes "x10", bytes "c"), (bytes "x2", bytes "b")] :=
    List.mergeSort_of_pairwise (by decide)
  have hrefused : resolve .strict ordered = .error ⟨bytes "a", 0, bytes "x10", bytes "c"⟩ := by
    rw [resolve, ordered, resolveFrom, hparameters]
    rfl
  obtain ⟨⟨calls, env⟩, hresult⟩ : ∃ result, resolve .passThrough ordered = .ok result :=
    resolveFrom_of_ne_strict (by decide) 0 .empty [] _
  exact ⟨hkeys, hsame, hstrict.trans hrefused, calls, env, hpassed.trans hresult,
    hcalls calls env hresult⟩

end Sample

/-! ## The environment of a graph -/

/-- The call at the position has the name, and no call behind it has. -/
def IsLastNamed (calls : List Call) (name : Bytes) (i : Nat) : Prop :=
  (∃ call, calls[i]? = some call ∧ call.name = name) ∧
    ∀ (j : Nat) (call : Call), calls[j]? = some call → call.name = name → j ≤ i

/-- The names are those of the calls, with their places. -/
theorem namedFrom_getElem?_eq_some_iff {calls : List Call} {i : Nat} {entry : Bytes × Int} :
    (namedFrom 0 calls)[i]? = some entry ↔
      ∃ call, calls[i]? = some call ∧ entry = (call.name, (i : Int)) := by
  rw [namedFrom, List.getElem?_map, List.getElem?_zipIdx, Option.map_map, Option.map_eq_some_iff]
  simp [eq_comm]

/-- The latest place of a name is that of the last call with it. -/
theorem isLatest_namedFrom_iff {calls : List Call} {name : Bytes} {position : Int} :
    Environment.IsLatest (namedFrom 0 calls) name position ↔
      ∃ i : Nat, position = i ∧ IsLastNamed calls name i := by
  simp only [Environment.IsLatest, namedFrom_getElem?_eq_some_iff]
  constructor
  · rintro ⟨i, ⟨call, hcall, heq⟩, hlatest⟩
    cases heq
    exact ⟨i, rfl, ⟨call, hcall, rfl⟩, fun j other hother hname =>
      hlatest j _ ⟨other, hother, rfl⟩ hname⟩
  · rintro ⟨i, rfl, ⟨call, hcall, rfl⟩, hlast⟩
    refine ⟨i, ⟨call, hcall, rfl⟩, ?_⟩
    rintro j entry ⟨other, hother, rfl⟩ hname
    exact hlast j other hother hname

open Environment in
/-- **The latest declaration wins.** Whatever a new environment is asked, it reflects the declarations
made in it, and each request is answered from those before it. In particular the environment of a
graph binds each name to the last call that has it. -/
theorem bindings_tell_history :
    (∀ requests : List Request, (Environment.empty.after requests).Reflects (declarations requests)) ∧
    (∀ (before : List Request) (request : Request) (rest : List Request), ∃ answer,
      (answers .empty (before ++ request :: rest))[before.length]? = some answer ∧
        Tells (declarations before) request answer) ∧
    ∀ policy graph calls env, resolve policy graph = .ok (calls, env) →
      env.Reflects (namedFrom 0 (callsOf graph)) ∧
      ∀ name position, env.binding? name = some position ↔
        ∃ i : Nat, position = i ∧ IsLastNamed (callsOf graph) name i := by
  refine ⟨reflects_empty.after, fun before request rest => ?_, fun policy graph calls env h => ?_⟩
  · exact ⟨_, answers_getElem? _ before request rest, (reflects_empty.after before).tells request⟩
  · obtain ⟨-, hreflects⟩ := eq_of_resolve h
    refine ⟨hreflects, fun name position => ?_⟩
    rw [hreflects.bound, isLatest_namedFrom_iff]

namespace Sample

/-- Three calls, the last of which has the name of the first. -/
def rebound : Graph :=
  ⟨[⟨bytes "v", bytes "add", some [(bytes "a", bytes "1"), (bytes "b", bytes "2")]⟩,
    ⟨bytes "w", bytes "neg", some [(bytes "a", bytes "v")]⟩,
    ⟨bytes "v", bytes "mult", some [(bytes "a", bytes "w"), (bytes "b", bytes "2")]⟩]⟩

/-- The name is bound to the last of them and keeps its place. -/
theorem bindings_of_rebound :
    ∃ calls env, resolve .passThrough rebound = .ok (calls, env) ∧
      env.names = [bytes "v", bytes "w"] ∧ env.binding? (bytes "v") = some 2 ∧
      IsLastNamed rebound.calls (bytes "v") 2 := by
  obtain ⟨⟨calls, env⟩, hresult⟩ : ∃ result, resolve .passThrough rebound = .ok result :=
    resolveFrom_of_ne_strict (by decide) 0 .empty [] _
  have hlast : IsLastNamed rebound.calls (bytes "v") 2 := by
    refine ⟨⟨_, rfl, rfl⟩, fun j call hcall _ => ?_⟩
    exact Nat.le_of_lt_succ (List.getElem?_eq_some_iff.1 hcall).1
  obtain ⟨-, -, hresolved⟩ := bindings_tell_history
  obtain ⟨hreflects, hbound⟩ := hresolved _ _ _ _ hresult
  exact ⟨calls, env, hresult, hreflects.names.trans (by decide), (hbound _ _).2 ⟨2, rfl, hlast⟩,
    hlast⟩

end Sample

end Reference

end FunctionChain
