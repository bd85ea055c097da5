import FunctionChain.Program.Source
import FunctionChain.Proofs.Text.Cutting
import Mathlib.Data.List.DropRight
import Mathlib.Data.List.Forall2
import Mathlib.Tactic.MkIffOfInductiveProp

/-!
# Programs tell their calls

A generated program is a list of lines, and those of `main` are one declaration per call and a
return. A declaration is read back by cutting it where the first space, the first parenthesis and
the commas stand (`readStatement?`), so the calls are read off the program if none of these stands
in a part where the reader looks for it (`IsTellable`). Then programs are the same only if their
calls are (`render_tells_calls`).
-/

namespace FunctionChain

namespace Program

/-! ## What is read -/

/-- What a program says of a call. The keys and the kinds of the arguments are not told. -/
structure Declaration where
  name : Bytes
  function : Bytes
  tokens : List Bytes

/-- What the program says of the call. -/
def declarationOf (call : ResolvedCall) : Declaration :=
  ⟨call.name, call.function, call.arguments.map (·.token)⟩

/-- The tokens between commas. Each stands behind a space, which is left out before the first. -/
def readTokens (text : Bytes) : List Bytes :=
  if text = [] then []
  else (Bytes.splitOn (byte ' ' :: text) (byte ',')).map (List.drop 1)

/-- The declaration in a line: the name goes to the first space, the function to the first
parenthesis, and the tokens to the last one. -/
def readStatement? (line : Bytes) : Option Declaration := do
  let rest ← line.after? (bytes "    auto ")
  let (name, rest) ← rest.cut? (byte ' ')
  let rest ← rest.after? (bytes "= ")
  let (function, rest) ← rest.cut? (byte '(')
  return ⟨name, function, readTokens (rest.rdrop 2)⟩

/-- The line that opens `main`. -/
def opening : Bytes := bytes "int main() \x7b"

/-- The line that closes it. -/
def closing : Bytes := bytes "\x7d"

/-- The lines between the opening of `main` and its closing brace. -/
def mainLines (text : Bytes) : List Bytes :=
  (((Bytes.splitOn text (byte '\n')).dropWhile (· != opening)).drop 1).takeWhile (· != closing)

/-- The declarations in `main`. -/
def readProgram (text : Bytes) : List Declaration := (mainLines text).filterMap readStatement?

/-- The line that returns the last name, or `0`. -/
def returnLine (calls : List ResolvedCall) : Bytes :=
  bytes "    return " ++ (calls.getLast?.map (·.name)).getD (bytes "0") ++ bytes ";"

/-! ## Calls that can be told -/

/-- A token that is told from its neighbours. -/
@[mk_iff]
structure IsTellableToken (token : Bytes) : Prop where
  notEmpty : token ≠ []
  noNewline : byte '\n' ∉ token
  noComma : byte ',' ∉ token

/-- A call that is told by its declaration. -/
@[mk_iff]
structure IsTellable (call : ResolvedCall) : Prop where
  nameSpace : byte ' ' ∉ call.name
  nameNewline : byte '\n' ∉ call.name
  functionNewline : byte '\n' ∉ call.function
  functionParenthesis : byte '(' ∉ call.function
  token : ∀ argument ∈ call.arguments, IsTellableToken argument.token

instance (token : Bytes) : Decidable (IsTellableToken token) :=
  decidable_of_iff _ (isTellableToken_iff token).symm

instance (call : ResolvedCall) : Decidable (IsTellable call) :=
  decidable_of_iff _ (isTellable_iff call).symm

section
variable {call : ResolvedCall}

/-- Tokens are read back from between their commas. -/
theorem readTokens_joined {tokens : List Bytes} (h : ∀ token ∈ tokens, IsTellableToken token) :
    readTokens (Bytes.joined (bytes ", ") tokens) = tokens := by
  cases tokens with
  | nil => rfl
  | cons first rest =>
    -- A separator is a comma and a space, and the space goes to the piece behind it.
    have hspaced : byte ' ' :: Bytes.joined (bytes ", ") (first :: rest)
        = Bytes.joined [byte ','] ((first :: rest).map (byte ' ' :: ·)) := by
      rw [List.map_cons, Bytes.joined, Bytes.joined, List.flatMap_map]
      rfl
    have hpieces : ∀ piece ∈ (first :: rest).map (byte ' ' :: ·), byte ',' ∉ piece := by
      rw [List.forall_mem_map]
      exact fun token hmem =>
        List.not_mem_cons_of_ne_of_not_mem (by decide) (h token hmem).noComma
    have hdrop : ((first :: rest).map (byte ' ' :: ·)).map (List.drop 1) = first :: rest := by
      rw [List.map_map]
      exact List.map_id _
    have hne : Bytes.joined (bytes ", ") (first :: rest) ≠ [] := fun heq =>
      (h first (List.mem_cons_self ..)).notEmpty (List.append_eq_nil_iff.1 heq).1
    rw [readTokens, if_neg hne, hspaced, Bytes.splitOn_joined (by simp) hpieces, hdrop]

/-- A declaration is read back. -/
theorem readStatement?_statement (h : IsTellable call) :
    readStatement? (statement call) = some (declarationOf call) := by
  have hstatement : statement call = bytes "    auto " ++ (call.name ++ byte ' ' ::
      (bytes "= " ++ (call.function ++ byte '(' ::
        (Bytes.joined (bytes ", ") (call.arguments.map (·.token)) ++ bytes ");")))) := by
    have hequals : bytes " = " = byte ' ' :: bytes "= " := rfl
    have hparenthesis : bytes "(" = [byte '('] := rfl
    simp [statement, hequals, hparenthesis]
  have hend (text : Bytes) : (text ++ bytes ");").rdrop 2 = text :=
    List.rdrop_append_length
  have htokens : ∀ token ∈ call.arguments.map (·.token), IsTellableToken token :=
    List.forall_mem_map.2 h.token
  rw [hstatement, readStatement?, Bytes.after?_append]
  simp [Bytes.cut?_append h.nameSpace, Bytes.after?_append, Bytes.cut?_append h.functionParenthesis,
    hend, readTokens_joined htokens, declarationOf]

/-- Joined tokens stay on one line. -/
theorem not_newline_mem_joined {tokens : List Bytes} (h : ∀ token ∈ tokens, byte '\n' ∉ token) :
    byte '\n' ∉ Bytes.joined (bytes ", ") tokens := by
  cases tokens with
  | nil => exact List.not_mem_nil
  | cons first rest =>
    rw [List.forall_mem_cons] at h
    have hcomma : byte '\n' ∉ bytes ", " := by decide
    simpa [Bytes.joined, h.1, hcomma] using h.2

/-- A statement stays on one line. -/
theorem not_newline_mem_statement (h : IsTellable call) : byte '\n' ∉ statement call := by
  have htokens : byte '\n' ∉ Bytes.joined (bytes ", ") (call.arguments.map (·.token)) :=
    not_newline_mem_joined (List.forall_mem_map.2 fun argument hmem =>
      (h.token argument hmem).noNewline)
  simp only [statement, List.mem_append, not_or]
  exact ⟨⟨⟨⟨⟨⟨by decide, h.nameNewline⟩, by decide⟩, h.functionNewline⟩, by decide⟩, htokens⟩,
    by decide⟩

end

/-! ## The lines of a program -/

/-- The result of a program is that of its last call, or zero. -/
theorem resultName_eq (calls : List ResolvedCall) :
    resultName calls = (calls.getLast?.map (·.name)).getD (bytes "0") := by
  unfold resultName
  cases calls.getLast? <;> rfl

/-- The lines of the program. -/
def lines (calls : List ResolvedCall) : List Bytes :=
  prologue.map includeLine ++ [[], opening] ++ calls.map statement ++ [returnLine calls, closing]

/-- A program is its lines. -/
theorem render_eq_lines (calls : List ResolvedCall) :
    render calls = (lines calls).flatMap (· ++ [byte '\n']) := by
  have hopening : bytes "\nint main() \x7b\n" = byte '\n' :: (opening ++ [byte '\n']) := rfl
  have hclosing : bytes ";\n\x7d\n" = bytes ";" ++ byte '\n' :: (closing ++ [byte '\n']) := rfl
  simp [render, lines, prologueText, returnLine, resultName_eq, hopening, hclosing,
    List.flatMap_map]

/-- The last statement stays on one line. -/
theorem not_newline_mem_returnLine {calls : List ResolvedCall}
    (h : ∀ call ∈ calls, IsTellable call) : byte '\n' ∉ returnLine calls := by
  have hresult : byte '\n' ∉ (calls.getLast?.map (·.name)).getD (bytes "0") := by
    cases hlast : calls.getLast? with
    | none => decide
    | some call => exact (h call (List.mem_of_getLast? hlast)).nameNewline
  simp only [returnLine, List.mem_append, not_or]
  exact ⟨⟨by decide, hresult⟩, by decide⟩

/-- The lines of the program are what newlines cut it into. -/
theorem splitOn_render {calls : List ResolvedCall} (h : ∀ call ∈ calls, IsTellable call) :
    Bytes.splitOn (render calls) (byte '\n') = lines calls ++ [[]] := by
  have hlines : ∀ line ∈ lines calls, byte '\n' ∉ line := by
    have hprologue : ∀ header ∈ prologue, byte '\n' ∉ includeLine header := by decide
    simp only [lines, List.forall_mem_append, List.forall_mem_map]
    refine ⟨⟨⟨hprologue, by decide⟩, fun call hmem => not_newline_mem_statement (h call hmem)⟩, ?_⟩
    rw [List.forall_mem_cons, List.forall_mem_singleton]
    exact ⟨not_newline_mem_returnLine h, by decide⟩
  rw [render_eq_lines, ← List.append_nil ((lines calls).flatMap _), Bytes.splitOn_closed hlines]
  rfl

/-- The lines of `main` are the declarations of the calls in order and one return. -/
theorem mainLines_render {calls : List ResolvedCall} (h : ∀ call ∈ calls, IsTellable call) :
    mainLines (render calls) = calls.map statement ++ [returnLine calls] := by
  have hbefore : ∀ line ∈ prologue.map includeLine ++ [[]], (line != opening) = true := by decide
  have hwithin : ∀ line ∈ calls.map statement ++ [returnLine calls], (line != closing) = true := by
    rw [List.forall_mem_append, List.forall_mem_map, List.forall_mem_singleton]
    exact ⟨fun _ _ => rfl, rfl⟩
  have hlines : lines calls ++ [[]] = (prologue.map includeLine ++ [[]]) ++
      opening :: ((calls.map statement ++ [returnLine calls]) ++ [closing, []]) := by
    simp [lines]
  rw [mainLines, splitOn_render h, hlines, List.dropWhile_append_of_pos hbefore,
    List.dropWhile_cons_of_neg (by simp), List.drop_one, List.tail_cons,
    List.takeWhile_append_of_pos hwithin, List.takeWhile_cons_of_neg (by simp), List.append_nil]

/-- The calls are read off the program. -/
theorem readProgram_render {calls : List ResolvedCall} (h : ∀ call ∈ calls, IsTellable call) :
    readProgram (render calls) = calls.map declarationOf := by
  have hstatements : (calls.map statement).filterMap readStatement? = calls.map declarationOf := by
    rw [List.filterMap_map]
    exact List.filterMap_eq_map_iff_forall_eq_some.2 fun call hmem =>
      readStatement?_statement (h call hmem)
  have hreturn : readStatement? (returnLine calls) = none := rfl
  rw [readProgram, mainLines_render h, List.filterMap_append, hstatements,
    List.filterMap_cons_none hreturn, List.filterMap_nil, List.append_nil]

/-! ## Calls with the same program -/

/-- The calls have the same name, the same function and the same tokens. -/
structure Agrees (first second : ResolvedCall) : Prop where
  name : first.name = second.name
  function : first.function = second.function
  tokens : first.arguments.map (·.token) = second.arguments.map (·.token)

/-- Calls are declared alike just if they agree. -/
theorem declarationOf_eq_iff {first second : ResolvedCall} :
    declarationOf first = declarationOf second ↔ Agrees first second := by
  simp only [declarationOf, Declaration.mk.injEq]
  exact ⟨fun ⟨hname, hfunction, htokens⟩ => ⟨hname, hfunction, htokens⟩,
    fun h => ⟨h.name, h.function, h.tokens⟩⟩

/-- Calls that agree have the same statement. -/
theorem Agrees.statement_eq {first second : ResolvedCall} (h : Agrees first second) :
    statement first = statement second := by
  rw [statement, statement, h.name, h.function, h.tokens]

/-- What is the same for calls that agree is the same all along. -/
theorem map_eq_of_agrees {α : Type} {f : ResolvedCall → α} {c d : List ResolvedCall}
    (hf : ∀ first second, Agrees first second → f first = f second)
    (h : List.Forall₂ Agrees c d) : c.map f = d.map f := by
  rw [← List.forall₂_eq_eq_eq, List.forall₂_map_left_iff, List.forall₂_map_right_iff]
  exact h.imp hf

/-- Calls that agree have the same program. -/
theorem render_congr {c d : List ResolvedCall} (h : List.Forall₂ Agrees c d) :
    render c = render d := by
  have hstatements : c.map statement = d.map statement :=
    map_eq_of_agrees (fun _ _ => Agrees.statement_eq) h
  have hnames : c.map (·.name) = d.map (·.name) := map_eq_of_agrees (fun _ _ => Agrees.name) h
  have hreturn : returnLine c = returnLine d := by
    rw [returnLine, returnLine, ← List.getLast?_map, ← List.getLast?_map, hnames]
  rw [render_eq_lines, render_eq_lines, lines, lines, hstatements, hreturn]

/-- **Programs tell their calls.** Calls have the same program exactly when there are as many of
them and each agrees with its counterpart. In `main` there is one declaration per call, in order, and
one line that returns the last name, or `0` if there is none. -/
theorem render_tells_calls {c d : List ResolvedCall} (hc : ∀ call ∈ c, IsTellable call)
    (hd : ∀ call ∈ d, IsTellable call) :
    (render c = render d ↔ List.Forall₂ Agrees c d) ∧
      mainLines (render c) = c.map statement ++
        [bytes "    return " ++ (c.getLast?.map (·.name)).getD (bytes "0") ++ bytes ";"] := by
  refine ⟨⟨fun heq => ?_, render_congr⟩, mainLines_render hc⟩
  have hread : c.map declarationOf = d.map declarationOf := by
    rw [← readProgram_render hc, ← readProgram_render hd, heq]
  rw [← List.forall₂_eq_eq_eq, List.forall₂_map_left_iff, List.forall₂_map_right_iff] at hread
  exact hread.imp fun _ _ => declarationOf_eq_iff.1

/-- A comma within a token is not told from one between tokens. -/
example : statement ⟨bytes "x", bytes "f", [⟨bytes "k", bytes "1, 2", .identifier⟩]⟩
    = statement ⟨bytes "x", bytes "f",
        [⟨bytes "k", bytes "1", .numeric⟩, ⟨bytes "l", bytes "2", .numeric⟩]⟩ := by decide

namespace Sample

/-- Two calls, with a token that has a parenthesis, a space and an equals sign in it. -/
def keyed : List ResolvedCall :=
  [⟨bytes "x", bytes "make key", []⟩,
   ⟨bytes "y", bytes "eval",
    [⟨bytes "at", bytes "x) = (7", .identifier⟩, ⟨bytes "of", bytes "2", .numeric⟩]⟩]

/-- The same calls with other keys. -/
def rekeyed : List ResolvedCall :=
  [⟨bytes "x", bytes "make key", []⟩,
   ⟨bytes "y", bytes "eval",
    [⟨bytes "a", bytes "x) = (7", .identifier⟩, ⟨bytes "b", bytes "2", .numeric⟩]⟩]

/-- The keys make no difference to the program, a call less does. -/
theorem render_keyed :
    (∀ call ∈ keyed, IsTellable call) ∧ keyed ≠ rekeyed ∧ render keyed = render rekeyed ∧
      render keyed ≠ render [⟨bytes "x", bytes "make key", []⟩] ∧
      mainLines (render keyed) = [bytes "    auto x = make key();",
        bytes "    auto y = eval(x) = (7, 2);", bytes "    return y;"] := by
  have hkeyed : ∀ call ∈ keyed, IsTellable call := by decide
  obtain ⟨hsame, hlines⟩ := render_tells_calls hkeyed (by decide : ∀ call ∈ rekeyed, IsTellable call)
  obtain ⟨hless, -⟩ := render_tells_calls hkeyed
    (by decide : ∀ call ∈ [⟨bytes "x", bytes "make key", []⟩], IsTellable call)
  have hagree : List.Forall₂ Agrees keyed rekeyed :=
    .cons ⟨rfl, rfl, rfl⟩ (.cons ⟨rfl, rfl, rfl⟩ .nil)
  refine ⟨hkeyed, by decide, hsame.2 hagree, fun heq => ?_, hlines.trans (by decide)⟩
  exact absurd (hless.1 heq).length_eq (by decide)

end Sample

end Program

end FunctionChain
