import FunctionChain.Proofs.Reference.Environment
import FunctionChain.Proofs.Text.Order
import FunctionChain.Reference.Resolve

/-!
# The strict policy

Under the strict policy a graph is resolved exactly when every identifier among its arguments names
an earlier call. The environment is built while the calls are gone through, so the argument is an
induction over the calls still to come: what is declared so far are the names of the calls before
(`DeclaresNames`), and each call adds its own name only after its arguments were looked at.

A graph that is refused is refused for its first dangling reference: that of the first call that has
one, and of its parameters the one with the smallest key.
-/

namespace FunctionChain

namespace Reference

/-- The environment has the names of these calls and no others. -/
def DeclaresNames (calls : List Call) (env : Environment) : Prop :=
  ∀ name, env.declared name = true ↔ ∃ call ∈ calls, call.name = name

/-- No calls declare nothing. -/
theorem declaresNames_empty : DeclaresNames [] .empty := by
  intro name
  simp [Environment.declared, Environment.empty]

/-- One more call is declared. -/
theorem DeclaresNames.declare {calls : List Call} {env : Environment}
    (h : DeclaresNames calls env) (call : Call) (position : Int) :
    DeclaresNames (calls ++ [call]) (env.declare call.name position).2 := by
  intro name
  rw [Environment.declared_declare_iff, h name]
  simp only [List.mem_append, List.mem_singleton]
  grind

/-! ## Dangling references -/

/-- The parameters of a call, in no particular order. -/
def parametersOf (call : Call) : List (Bytes × Bytes) := call.parameters.getD []

/-- A token that is an identifier and the name of none of these calls. -/
def Dangles (calls : List Call) (token : Bytes) : Prop :=
  Token.classify token = .identifier ∧ ∀ call ∈ calls, call.name ≠ token

/-- A parameter is refused just if it dangles. -/
theorem isRefused_strict_iff {calls : List Call} {env : Environment} (h : DeclaresNames calls env)
    {parameter : Bytes × Bytes} :
    isRefused .strict env (toArgument parameter) = true ↔ Dangles calls parameter.2 := by
  have hd := h parameter.2
  simp only [isRefused, toArgument, Dangles, Bool.and_eq_true, beq_iff_eq, Bool.not_eq_true']
  rw [← Bool.not_eq_true, hd]
  simp

/-- Other policies refuse nothing. -/
theorem isRefused_of_ne_strict {policy : ReferencePolicy} (h : policy ≠ .strict)
    (env : Environment) (argument : Argument) : isRefused policy env argument = false := by
  simp [isRefused, h]

/-- Ordering takes no parameter away. -/
theorem mem_orderedParameters {call : Call} {parameter : Bytes × Bytes} :
    parameter ∈ orderedParameters call ↔ parameter ∈ parametersOf call :=
  List.mem_mergeSort

/-- Parameters stand in the order of their keys. -/
theorem pairwise_orderedParameters (call : Call) :
    (orderedParameters call).Pairwise fun a b => Bytes.atMost a.1 b.1 = true := by
  apply List.pairwise_mergeSort
  · intro a b c
    exact Bytes.atMost_trans
  · intro a b
    exact Bytes.atMost_total a.1 b.1

/-- No argument is refused exactly when no parameter dangles. -/
theorem find?_isRefused_eq_none_iff {calls : List Call} {env : Environment}
    (h : DeclaresNames calls env) {call : Call} :
    ((orderedParameters call).map toArgument).find? (isRefused .strict env) = none ↔
      ∀ parameter ∈ parametersOf call, ¬ Dangles calls parameter.2 := by
  simp only [List.find?_eq_none, List.forall_mem_map, isRefused_strict_iff h,
    mem_orderedParameters]

/-- The argument that is refused is that of the dangling parameter with the smallest key. -/
theorem find?_isRefused_eq_some {calls : List Call} {env : Environment}
    (h : DeclaresNames calls env) {call : Call} {argument : Argument}
    (hf : ((orderedParameters call).map toArgument).find? (isRefused .strict env)
      = some argument) :
    (argument.key, argument.token) ∈ parametersOf call ∧ Dangles calls argument.token ∧
      ∀ parameter ∈ parametersOf call, Dangles calls parameter.2 →
        Bytes.atMost argument.key parameter.1 = true := by
  rw [List.find?_map, Option.map_eq_some_iff] at hf
  obtain ⟨found, hf, rfl⟩ := hf
  obtain ⟨hrefused, before, after, hsplit, hbefore⟩ := List.find?_eq_some_iff_append.1 hf
  have hmem : found ∈ orderedParameters call := by simp [hsplit]
  refine ⟨mem_orderedParameters.1 hmem, (isRefused_strict_iff h).1 hrefused, ?_⟩
  intro parameter hparameter hdangles
  have hordered := pairwise_orderedParameters call
  rw [hsplit, List.pairwise_append, List.pairwise_cons] at hordered
  have hwhere := mem_orderedParameters.2 hparameter
  rw [hsplit, List.mem_append, List.mem_cons] at hwhere
  rcases hwhere with hin | rfl | hin
  · -- A parameter with a smaller key would have been found first.
    have hnot := hbefore parameter hin
    have hyes : isRefused .strict env (toArgument parameter) = true :=
      (isRefused_strict_iff h).2 hdangles
    simp [hyes] at hnot
  · exact Bytes.atMost_refl _
  · exact hordered.2.1.1 parameter hin

/-! ## Resolving -/

/-- Every identifier among the arguments of the call at a position names a call before it. -/
def RefersBack (calls : List Call) (i : Nat) : Prop :=
  ∀ call, calls[i]? = some call →
    ∀ parameter ∈ parametersOf call, ¬ Dangles (calls.take i) parameter.2

/-- The report is that of a dangling reference, and of the call's dangling references the one with
the smallest key. -/
def ReportsDangling (calls : List Call) (undefined : Undefined) : Prop :=
  ∃ call, calls[undefined.index]? = some call ∧ undefined.call = call.name ∧
    (undefined.key, undefined.token) ∈ parametersOf call ∧
    Dangles (calls.take undefined.index) undefined.token ∧
    ∀ parameter ∈ parametersOf call, Dangles (calls.take undefined.index) parameter.2 →
      Bytes.atMost undefined.key parameter.1 = true

section
variable {policy : ReferencePolicy} {index : Nat} {env : Environment} {done : List ResolvedCall}
  {call : Call} {rest : List Call}

/-- A call none of whose arguments is refused is taken, and its name declared. -/
theorem resolveFrom_cons_of_none
    (h : ((orderedParameters call).map toArgument).find? (isRefused policy env) = none) :
    resolveFrom policy index env done (call :: rest)
      = resolveFrom policy (index + 1) (env.declare call.name index).2
        (⟨call.name, call.function, (orderedParameters call).map toArgument⟩ :: done) rest := by
  simp only [resolveFrom, h]

/-- A call with an argument that is refused ends the work. -/
theorem resolveFrom_cons_of_some {argument : Argument}
    (h : ((orderedParameters call).map toArgument).find? (isRefused policy env) = some argument) :
    resolveFrom policy index env done (call :: rest)
      = .error ⟨call.name, index, argument.key, argument.token⟩ := by
  simp only [resolveFrom, h]

end

/-- Only the strict policy refuses arguments. -/
theorem find?_isRefused_of_ne_strict {policy : ReferencePolicy} (h : policy ≠ .strict)
    (env : Environment) (arguments : List Argument) :
    arguments.find? (isRefused policy env) = none := by
  rw [List.find?_eq_none]
  intro argument _
  simp [isRefused_of_ne_strict h]

/-- Other policies resolve everything. -/
theorem resolveFrom_of_ne_strict {policy : ReferencePolicy} (h : policy ≠ .strict) (index : Nat)
    (env : Environment) (done : List ResolvedCall) (calls : List Call) :
    ∃ result, resolveFrom policy index env done calls = .ok result := by
  induction calls generalizing index env done with
  | nil => exact ⟨_, rfl⟩
  | cons call rest ih =>
    rw [resolveFrom_cons_of_none (find?_isRefused_of_ne_strict h _ _)]
    exact ih _ _ _

/-- What the strict policy resolves, it resolves as if references were passed through. -/
theorem resolveFrom_passThrough_of_strict {index : Nat} {env : Environment}
    {done : List ResolvedCall} {calls : List Call} {result : List ResolvedCall × Environment}
    (h : resolveFrom .strict index env done calls = .ok result) :
    resolveFrom .passThrough index env done calls = .ok result := by
  induction calls generalizing index env done with
  | nil => exact h
  | cons call rest ih =>
    cases hf : ((orderedParameters call).map toArgument).find? (isRefused .strict env) with
    | some argument =>
      rw [resolveFrom_cons_of_some hf] at h
      cases h
    | none =>
      rw [resolveFrom_cons_of_none hf] at h
      rw [resolveFrom_cons_of_none (find?_isRefused_of_ne_strict (by decide) _ _)]
      exact ih h

/-- The call at hand refers back when none of its arguments is refused. -/
theorem refersBack_here {before rest : List Call} {call : Call} {env : Environment}
    (henv : DeclaresNames before env)
    (hf : ((orderedParameters call).map toArgument).find? (isRefused .strict env) = none) :
    RefersBack (before ++ call :: rest) before.length := by
  intro other hother
  simp only [List.getElem?_append_right, Nat.le_refl, Nat.sub_self, List.getElem?_cons_zero,
    Option.some.injEq] at hother
  subst hother
  rw [List.take_left]
  exact (find?_isRefused_eq_none_iff henv).1 hf

/-- **Resolving from a position on.** Where the strict policy takes all calls that are left, each of
them refers back. -/
theorem refersBack_of_resolveFrom {before rest : List Call} {env : Environment}
    {done : List ResolvedCall} {result : List ResolvedCall × Environment}
    (henv : DeclaresNames before env)
    (h : resolveFrom .strict before.length env done rest = .ok result) :
    ∀ i, before.length ≤ i → RefersBack (before ++ rest) i := by
  induction rest generalizing before env done with
  | nil =>
    intro i hi call hcall
    rw [List.append_nil, List.getElem?_eq_none hi] at hcall
    cases hcall
  | cons call rest ih =>
    cases hf : ((orderedParameters call).map toArgument).find? (isRefused .strict env) with
    | some argument =>
      rw [resolveFrom_cons_of_some hf] at h
      cases h
    | none =>
      rw [resolveFrom_cons_of_none hf] at h
      intro i hi
      rcases Nat.lt_or_eq_of_le hi with hlt | rfl
      · have hnext := ih (henv.declare call before.length) (by simpa using h)
        rw [List.append_assoc, List.singleton_append, List.length_append] at hnext
        exact hnext i hlt
      · exact refersBack_here henv hf

/-- Where the strict policy refuses a call, it reports a dangling reference of it, and the calls
between the position and this one refer back. -/
theorem reportsDangling_of_resolveFrom {before rest : List Call} {env : Environment}
    {done : List ResolvedCall} {undefined : Undefined} (henv : DeclaresNames before env)
    (h : resolveFrom .strict before.length env done rest = .error undefined) :
    ReportsDangling (before ++ rest) undefined ∧
      ∀ i, before.length ≤ i → i < undefined.index → RefersBack (before ++ rest) i := by
  induction rest generalizing before env done with
  | nil => cases h
  | cons call rest ih =>
    cases hf : ((orderedParameters call).map toArgument).find? (isRefused .strict env) with
    | some argument =>
      rw [resolveFrom_cons_of_some hf] at h
      cases h
      obtain ⟨hmem, hdangles, hleast⟩ := find?_isRefused_eq_some henv hf
      refine ⟨⟨call, by simp, rfl, hmem, ?_, ?_⟩, fun i hi hlt => absurd hlt (Nat.not_lt.2 hi)⟩
      · rw [List.take_left]
        exact hdangles
      · rw [List.take_left]
        exact hleast
    | none =>
      rw [resolveFrom_cons_of_none hf] at h
      have hnext := ih (henv.declare call before.length) (by simpa using h)
      rw [List.append_assoc, List.singleton_append, List.length_append] at hnext
      refine ⟨hnext.1, fun i hi hlt => ?_⟩
      rcases Nat.lt_or_eq_of_le hi with hlt' | rfl
      · exact hnext.2 i hlt' hlt
      · exact refersBack_here henv hf

/-! ## Whole graphs -/

/-- A name that one of the first calls has is a name that a call at a smaller index has. -/
theorem exists_mem_take_iff {calls : List Call} {i : Nat} {name : Bytes} :
    (∃ earlier ∈ calls.take i, earlier.name = name) ↔
      ∃ j earlier, j < i ∧ calls[j]? = some earlier ∧ earlier.name = name := by
  constructor
  · rintro ⟨earlier, hmem, hname⟩
    obtain ⟨j, hj⟩ := List.mem_iff_getElem?.1 hmem
    rw [List.getElem?_take] at hj
    split at hj
    · next hlt => exact ⟨j, earlier, hlt, hj, hname⟩
    · cases hj
  · rintro ⟨j, earlier, hlt, hj, hname⟩
    refine ⟨earlier, List.mem_iff_getElem?.2 ⟨j, ?_⟩, hname⟩
    rw [List.getElem?_take, if_pos hlt, hj]

/-- A token dangles unless it is no identifier or a call has its name. -/
theorem not_dangles_iff {calls : List Call} {token : Bytes} :
    ¬ Dangles calls token ↔
      (Token.classify token = .identifier → ∃ call ∈ calls, call.name = token) := by
  constructor
  · intro h hid
    refine Classical.byContradiction fun hno => h ⟨hid, ?_⟩
    intro call hcall hname
    exact hno ⟨call, hcall, hname⟩
  · rintro h ⟨hid, hno⟩
    obtain ⟨call, hcall, hname⟩ := h hid
    exact hno call hcall hname

/-- A call refers back just if each of its identifiers is the name of an earlier call. -/
theorem refersBack_iff {calls : List Call} {i : Nat} :
    RefersBack calls i ↔ ∀ call, calls[i]? = some call → ∀ parameter ∈ parametersOf call,
      Token.classify parameter.2 = .identifier →
      ∃ j earlier, j < i ∧ calls[j]? = some earlier ∧ earlier.name = parameter.2 := by
  simp only [RefersBack, not_dangles_iff, exists_mem_take_iff]

/-- **The strict policy is exact.** It resolves a graph exactly when every identifier names an
earlier call, and then as if references were passed through. Otherwise the error names the first
call with a dangling reference, and of its parameters the dangling one with the smallest key. The
other policies refuse nothing. -/
theorem resolve_strict_exact (graph : Graph) :
    ((∃ result, resolve .strict graph = .ok result) ↔
      ∀ (i : Nat) (call : Call), graph.calls[i]? = some call → ∀ parameter ∈ parametersOf call,
        Token.classify parameter.2 = .identifier →
        ∃ (j : Nat) (earlier : Call), j < i ∧ graph.calls[j]? = some earlier ∧
          earlier.name = parameter.2) ∧
    (∀ result, resolve .strict graph = .ok result → resolve .passThrough graph = .ok result) ∧
    (∀ undefined, resolve .strict graph = .error undefined →
      ReportsDangling graph.calls undefined ∧ (∀ i < undefined.index, RefersBack graph.calls i) ∧
      undefined.toError = .resolve Failure.Code.undefinedReference undefined.call
        (bytes "parameter " ++ Quoted.quote undefined.key ++ bytes " of call "
          ++ Decimal.ofNat undefined.index ++ bytes " references "
          ++ Quoted.quote undefined.token ++ bytes " before it is bound")) ∧
    (∀ policy, policy ≠ .strict → ∃ result, resolve policy graph = .ok result) := by
  refine ⟨⟨?_, ?_⟩, ?_, ?_, ?_⟩
  · rintro ⟨result, h⟩ i
    have hback := refersBack_of_resolveFrom declaresNames_empty h i (Nat.zero_le _)
    exact refersBack_iff.1 hback
  · intro hback
    cases h : resolve .strict graph with
    | ok result => exact ⟨result, rfl⟩
    | error undefined =>
      obtain ⟨⟨call, hcall, -, hmem, hdangles, -⟩, -⟩ :=
        reportsDangling_of_resolveFrom declaresNames_empty h
      exact absurd hdangles (refersBack_iff.2 (hback undefined.index) call hcall _ hmem)
  · intro result h
    exact resolveFrom_passThrough_of_strict h
  · intro undefined h
    obtain ⟨hreport, hbefore⟩ := reportsDangling_of_resolveFrom declaresNames_empty h
    exact ⟨hreport, fun i hi => hbefore i (Nat.zero_le _) hi, rfl⟩
  · intro policy h
    exact resolveFrom_of_ne_strict h 0 .empty [] graph.calls

end Reference

end FunctionChain
