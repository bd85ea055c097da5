import FunctionChain.Reference.Environment
import Mathlib.Data.List.Nodup

/-!
# Environments and their histories

An environment keeps three things in step: the map that tells what a name is bound to, the list of
the names in the order of their first declaration, and the count of the declarations that added no
name. What links the first two is that the keys of the map are the names of the list, each once
(`IsLinked`); every declaration keeps that (`IsLinked.declare`).

So an environment is told by the declarations that were made in it, whatever else it was asked in
between. Its names are those that were declared, in the order of their first declaration, and each is
bound to the position that was declared last (`Reflects`). One declaration more keeps this
(`Reflects.declare`), so it holds after any use of an environment (`Reflects.after`), and every
request is answered from the declarations before it (`Tells`).
-/

namespace FunctionChain

namespace Environment

section
variable (env : Environment) (name : Bytes) (position : Int) (other : Bytes)

/-! ## One declaration -/

/-- A declaration is answered by whether its name was bound before. -/
theorem declare_flag : (env.declare name position).1 = env.declared name := by
  unfold declare declared
  cases (env.index.lookup name).isSome <;> rfl

/-- Bound or not, the name gets its position in the map. -/
theorem index_declare :
    (env.declare name position).2.index = Association.assign env.index name position := by
  unfold declare
  split <;> rfl

/-- Only a name that was not bound is added to the list. -/
theorem order_declare : (env.declare name position).2.order
    = if env.declared name then env.order else env.order ++ [name] := by
  unfold declare declared
  split <;> rfl

/-- Only a name that was bound is counted as bound again. -/
theorem rebinds_declare : (env.declare name position).2.rebinds
    = if env.declared name then env.rebinds + 1 else env.rebinds := by
  unfold declare declared
  split <;> rfl

/-- The position that was declared last is the one that a name is bound to. -/
theorem binding?_declare : (env.declare name position).2.binding? other
    = if other = name then some position else env.binding? other := by
  rw [binding?, index_declare, Association.lookup_assign]
  simp only [beq_iff_eq, binding?]

/-- Declaring a name binds it, and leaves every other name as it was. -/
theorem declared_declare_iff :
    (env.declare name position).2.declared other = true ↔
      env.declared other = true ∨ other = name := by
  change ((env.declare name position).2.binding? other).isSome = true ↔
    (env.binding? other).isSome = true ∨ other = name
  rw [binding?_declare]
  split
  · next h => simp [h]
  · next h => simp [h]

/-- A declaration either adds a name or rebinds one. -/
theorem size_add_rebinds_declare :
    (env.declare name position).2.size + (env.declare name position).2.rebinds
      = env.size + env.rebinds + 1 := by
  rw [size, size, order_declare, rebinds_declare]
  cases env.declared name with
  | true => exact (Nat.add_assoc _ _ _).symm
  | false =>
    simp only [Bool.false_eq_true, if_false, List.length_append, List.length_singleton]
    omega

end

/-! ## The map and the list -/

/-- The map and the list of an environment tell of the same names: the keys of the map are the names
of the list, and none of them occurs twice. -/
structure IsLinked (env : Environment) : Prop where
  keys : (env.index.map (·.1)).Perm env.order
  nodup : env.order.Nodup

/-- A name is declared just if it stands in the index. -/
theorem declared_iff_mem_keys {env : Environment} {name : Bytes} :
    env.declared name = true ↔ name ∈ env.index.map (·.1) := by
  rw [declared, List.lookup_isSome_iff, List.mem_map]
  simp only [beq_iff_eq]
  grind

section
variable {env : Environment} (h : env.IsLinked)
include h

/-- A name is bound exactly when it is listed. -/
theorem IsLinked.declared_iff {name : Bytes} : env.declared name = true ↔ name ∈ env.names :=
  declared_iff_mem_keys.trans h.keys.mem_iff

/-- A name is listed by its first declaration and keeps its place. -/
theorem IsLinked.names_declare (name : Bytes) (position : Int) :
    (env.declare name position).2.names
      = if name ∈ env.names then env.names else env.names ++ [name] := by
  rw [names, order_declare]
  simp only [h.declared_iff]
  rfl

/-- **The link is kept.** A key that the map had loses its old entry, so it is there once; a key that
it did not have is new to the list too. -/
theorem IsLinked.declare (name : Bytes) (position : Int) :
    (env.declare name position).2.IsLinked := by
  have hfilter : ((env.index.filter (·.1 != name)).map (·.1)).Perm (env.order.erase name) := by
    rw [h.nodup.erase_eq_filter]
    have hkeys := h.keys.filter (· != name)
    rwa [List.filter_map] at hkeys
  have hindex : ((env.declare name position).2.index.map (·.1)).Perm
      (name :: env.order.erase name) := by
    rw [index_declare, Association.assign, List.map_cons]
    exact hfilter.cons name
  have horder := order_declare env name position
  cases hdeclared : env.declared name with
  | true =>
    rw [hdeclared, if_pos rfl] at horder
    refine ⟨?_, by rw [horder]; exact h.nodup⟩
    rw [horder]
    exact hindex.trans (List.perm_cons_erase (h.declared_iff.1 hdeclared)).symm
  | false =>
    rw [hdeclared, if_neg (by decide)] at horder
    have hnew : name ∉ env.order := by
      rw [← Bool.not_eq_true, h.declared_iff] at hdeclared
      exact hdeclared
    rw [List.erase_of_not_mem hnew] at hindex
    have hlast : (env.order ++ [name]).Perm (name :: env.order) := List.perm_append_singleton _ _
    refine ⟨?_, ?_⟩
    · rw [horder]
      exact hindex.trans hlast.symm
    · rw [horder]
      exact hlast.nodup_iff.2 (List.nodup_cons.2 ⟨hnew, h.nodup⟩)

end

/-- The empty environment is linked. -/
theorem isLinked_empty : IsLinked .empty := ⟨.nil, .nil⟩

/-! ## Histories -/

/-- The name was declared with this position, and not again after that. -/
def IsLatest (history : List (Bytes × Int)) (name : Bytes) (position : Int) : Prop :=
  ∃ i, history[i]? = some (name, position) ∧
    ∀ (j : Nat) (entry : Bytes × Int), history[j]? = some entry → entry.1 = name → j ≤ i

/-- The environment is what the declarations of the history make of an empty one: it lists the
distinct names in the order of their first declaration, binds each to its latest position, and counts
the declarations that added no name. Its map and its list are linked. -/
structure Reflects (env : Environment) (history : List (Bytes × Int)) : Prop
    extends env.IsLinked where
  names : env.names = (history.map (·.1)).eraseDups
  declared : ∀ name, env.declared name = true ↔ name ∈ history.map (·.1)
  bound : ∀ name position, env.binding? name = some position ↔ IsLatest history name position
  unbound : ∀ name, env.binding? name = none ↔ name ∉ history.map (·.1)
  size : env.size = (history.map (·.1)).eraseDups.length
  total : env.size + env.rebinds = history.length

/-- A place in a list with one more entry. -/
theorem getElem?_concat_eq_some_iff {α : Type} {list : List α} {last entry : α} {i : Nat} :
    (list ++ [last])[i]? = some entry ↔
      i = list.length ∧ entry = last ∨ list[i]? = some entry := by
  rcases Nat.lt_or_ge i list.length with hi | hi
  · rw [List.getElem?_append_left hi]
    exact (or_iff_right fun h => absurd h.1 (Nat.ne_of_lt hi)).symm
  · rw [List.getElem?_append_right hi, List.getElem?_singleton, List.getElem?_eq_none hi]
    split
    · next hzero =>
      have heq : i = list.length := by omega
      simp [heq, eq_comm]
    · next hne =>
      have hne' : i ≠ list.length := by omega
      simp [hne']

/-- The declaration that is made last is the latest of its name, and of no other. -/
theorem isLatest_concat_iff {history : List (Bytes × Int)} {declared : Bytes} {place : Int}
    {name : Bytes} {position : Int} :
    IsLatest (history ++ [(declared, place)]) name position ↔
      if name = declared then position = place else IsLatest history name position := by
  simp only [IsLatest, getElem?_concat_eq_some_iff, Prod.mk.injEq]
  have hlt {i : Nat} {entry : Bytes × Int} (h : history[i]? = some entry) : i < history.length :=
    (List.getElem?_eq_some_iff.1 h).1
  split
  · next heq =>
    subst heq
    constructor
    · rintro ⟨i, ⟨-, -, hplace⟩ | hin, hlatest⟩
      · exact hplace
      · have hle := hlatest history.length (name, place) (.inl ⟨rfl, rfl⟩) rfl
        exact absurd (hlt hin) (Nat.not_lt.2 hle)
    · rintro rfl
      refine ⟨history.length, .inl ⟨rfl, rfl, rfl⟩, ?_⟩
      rintro j entry (⟨rfl, -⟩ | hj) -
      · exact Nat.le_refl _
      · exact Nat.le_of_lt (hlt hj)
  · next hne =>
    constructor
    · rintro ⟨i, ⟨-, heq, -⟩ | hin, hlatest⟩
      · exact absurd heq hne
      · exact ⟨i, hin, fun j entry hj => hlatest j entry (.inr hj)⟩
    · rintro ⟨i, hin, hlatest⟩
      refine ⟨i, .inr hin, ?_⟩
      rintro j entry (⟨-, rfl⟩ | hj) hname
      · exact absurd hname.symm hne
      · exact hlatest j entry hj hname

/-- A last name is new just if it has not been there. -/
theorem eraseDups_concat (names : List Bytes) (name : Bytes) :
    (names ++ [name]).eraseDups
      = if name ∈ names.eraseDups then names.eraseDups else names.eraseDups ++ [name] := by
  rw [List.eraseDups_append]
  simp only [List.mem_eraseDups]
  split
  · next h => simp [List.removeAll, h]
  · next h => simp [List.removeAll, h, List.eraseDups_cons]

/-- The empty environment reflects no requests. -/
theorem reflects_empty : Reflects .empty [] where
  toIsLinked := isLinked_empty
  names := rfl
  declared := by simp [Environment.declared, empty]
  bound := by simp [IsLatest, binding?, empty]
  unbound := by simp [binding?, empty]
  size := rfl
  total := rfl

/-- **One declaration more.** The environment goes on to reflect its history. -/
theorem Reflects.declare {env : Environment} {history : List (Bytes × Int)}
    (h : env.Reflects history) (name : Bytes) (position : Int) :
    (env.declare name position).2.Reflects (history ++ [(name, position)]) := by
  have hlinked := h.toIsLinked.declare name position
  have hnames : (env.declare name position).2.names
      = ((history ++ [(name, position)]).map (·.1)).eraseDups := by
    rw [h.names_declare, List.map_append, List.map_singleton, eraseDups_concat, h.names]
  have hdeclared (other : Bytes) : (env.declare name position).2.declared other = true ↔
      other ∈ (history ++ [(name, position)]).map (·.1) := by
    rw [hlinked.declared_iff, hnames, List.mem_eraseDups]
  refine ⟨hlinked, hnames, hdeclared, fun other place => ?_, fun other => ?_, ?_, ?_⟩
  · rw [binding?_declare, isLatest_concat_iff]
    split
    · rw [Option.some.injEq, eq_comm]
    · exact h.bound other place
  · rw [← hdeclared, ← Option.not_isSome_iff_eq_none]
    rfl
  · rw [← hnames]
    rfl
  · rw [size_add_rebinds_declare, h.total, List.length_append, List.length_singleton]

/-! ## Sessions -/

/-- What an environment can be asked. -/
inductive Request where
  | declare (name : Bytes) (position : Int)
  | declared (name : Bytes)
  | binding (name : Bytes)
  | names
  | size
  | rebinds

/-- What it answers. -/
inductive Answer where
  | flag (value : Bool)
  | position (found : Option Int)
  | names (listed : List Bytes)
  | count (number : Nat)

/-- The answer to a request. -/
def Request.answer (env : Environment) : Request → Answer
  | .declare name position => .flag (env.declare name position).1
  | .declared name => .flag (env.declared name)
  | .binding name => .position (env.binding? name)
  | .names => .names env.names
  | .size => .count env.size
  | .rebinds => .count env.rebinds

/-- The environment after a request. Only declarations change it. -/
def Request.effect (env : Environment) : Request → Environment
  | .declare name position => (env.declare name position).2
  | _ => env

/-- The declaration that a request makes. -/
def Request.declaration? : Request → Option (Bytes × Int)
  | .declare name position => some (name, position)
  | _ => none

/-- The declarations among requests. -/
def declarations (requests : List Request) : List (Bytes × Int) :=
  requests.filterMap Request.declaration?

/-- The environment after requests. -/
def after (env : Environment) (requests : List Request) : Environment :=
  requests.foldl Request.effect env

/-- The answers to requests that are made one after another. -/
def answers : Environment → List Request → List Answer
  | _, [] => []
  | env, request :: rest => request.answer env :: answers (request.effect env) rest

/-- What the declarations of the past say about a request: a declaration and the question for a name
are answered by whether the name occurred, and the rest by what is to be listed, looked up or
counted. -/
inductive Tells (history : List (Bytes × Int)) : Request → Answer → Prop
  | declare (name : Bytes) (position : Int) :
    Tells history (.declare name position) (.flag (decide (name ∈ history.map (·.1))))
  | declared (name : Bytes) :
    Tells history (.declared name) (.flag (decide (name ∈ history.map (·.1))))
  | bound {name : Bytes} {position : Int} (h : IsLatest history name position) :
    Tells history (.binding name) (.position (some position))
  | unbound {name : Bytes} (h : name ∉ history.map (·.1)) :
    Tells history (.binding name) (.position none)
  | names : Tells history .names (.names (history.map (·.1)).eraseDups)
  | size : Tells history .size (.count (history.map (·.1)).eraseDups.length)
  | rebinds {number : Nat}
    (h : (history.map (·.1)).eraseDups.length + number = history.length) :
    Tells history .rebinds (.count number)

variable {env : Environment} {history : List (Bytes × Int)}

/-- An environment answers from its history. -/
theorem Reflects.tells (h : env.Reflects history) (request : Request) :
    Tells history request (request.answer env) := by
  have hflag (name : Bytes) : env.declared name = decide (name ∈ history.map (·.1)) := by
    rw [Bool.eq_iff_iff, decide_eq_true_iff]
    exact h.declared name
  cases request with
  | declare name position =>
    rw [Request.answer, declare_flag, hflag]
    exact .declare name position
  | declared name =>
    rw [Request.answer, hflag]
    exact .declared name
  | binding name =>
    rw [Request.answer]
    cases hbinding : env.binding? name with
    | none => exact .unbound ((h.unbound name).1 hbinding)
    | some position => exact .bound ((h.bound name position).1 hbinding)
  | names =>
    rw [Request.answer, h.names]
    exact .names
  | size =>
    rw [Request.answer, h.size]
    exact .size
  | rebinds => exact .rebinds (h.size ▸ h.total)

/-- A request adds its declaration to the history, if it makes one. -/
theorem Reflects.effect (h : env.Reflects history) (request : Request) :
    (request.effect env).Reflects (history ++ declarations [request]) := by
  cases request with
  | declare name position => exact h.declare name position
  | declared | binding | names | size | rebinds =>
    rw [declarations, List.filterMap_cons_none rfl, List.filterMap_nil, List.append_nil]
    exact h

/-- **Any use of an environment.** After requests it reflects the declarations among them, behind
those that were made before. -/
theorem Reflects.after (h : env.Reflects history) (requests : List Request) :
    (env.after requests).Reflects (history ++ declarations requests) := by
  induction requests generalizing env history with
  | nil => simpa [declarations, Environment.after] using h
  | cons request rest ih =>
    have hrest := ih (h.effect request)
    rwa [List.append_assoc, declarations, declarations, ← List.filterMap_append,
      List.singleton_append] at hrest

/-- Each answer is given by the environment that the requests before have left. -/
theorem answers_getElem? (env : Environment) (before : List Request) (request : Request)
    (rest : List Request) :
    (answers env (before ++ request :: rest))[before.length]?
      = some (request.answer (env.after before)) := by
  induction before generalizing env with
  | nil => rfl
  | cons first before ih => exact ih (first.effect env)

end Environment

end FunctionChain
