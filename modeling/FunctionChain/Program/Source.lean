import FunctionChain.Reference.Token

/-!
# Generated programs

Resolved calls are rendered into one C++ source file: the declarations the primitive library
needs, then a `main` with one declaration per call and a return of the last bound name. Rendering
is a function of the calls, so equal calls give byte-identical programs.
-/

namespace FunctionChain

/-- One argument of a resolved call. -/
structure Argument where
  key : Bytes
  token : Bytes
  kind : TokenKind
deriving Repr, DecidableEq

/-- A call that is ready for rendering. -/
structure ResolvedCall where
  name : Bytes
  function : Bytes
  arguments : List Argument
deriving Repr, DecidableEq

/-- One header that the generated program includes. -/
structure Include where
  path : Bytes
  system : Bool
deriving Repr, DecidableEq

namespace Program

/-- The line that includes a header. -/
def includeLine (header : Include) : Bytes :=
  if header.system then bytes "#include <" ++ header.path ++ bytes ">"
  else bytes "#include \"" ++ header.path ++ bytes "\""

/-- Every header the generated program needs. Headers of the primitive library are relative to its
root, which reaches the compiler as an include directory. -/
def prologue : List Include :=
  ["iostream", "functional", "map", "string", "vector"].map (⟨bytes ·, true⟩)
  ++ ["comm/comm.hpp",
      "fss-base/dcf/distributed_comparison_function.hpp",
      "fss-base/ddcf/dual_dcf.hpp",
      "fss-base/dpf/distributed_point_function.hpp",
      "fss-base/prg/prg.hpp",
      "fss-gate/comp/integer_comparison.hpp",
      "fss-gate/fm-index/fss_fmi.hpp",
      "fss-gate/internal/fsskey_io.hpp",
      "fss-gate/rank/fss_rank.hpp",
      "fss-gate/zt/zero_test_dpf.hpp",
      "tools/secret_sharing.hpp",
      "tools/tools.hpp",
      "utils/file_io.hpp",
      "utils/utils.hpp"].map (⟨bytes ·, false⟩)

/-- The lines of the prologue, each with its newline. -/
def prologueText : Bytes := prologue.flatMap fun header => includeLine header ++ [byte '\n']

/-- The declaration of one call, indented. -/
def statement (call : ResolvedCall) : Bytes :=
  bytes "    auto " ++ call.name ++ bytes " = " ++ call.function ++ bytes "("
    ++ Bytes.joined (bytes ", ") (call.arguments.map (·.token)) ++ bytes ");"

/-- The name that the program returns: the last one, or `0` when there are no calls. -/
def resultName (calls : List ResolvedCall) : Bytes :=
  match calls.getLast? with
  | some call => call.name
  | none => bytes "0"

/-- The program for the calls. -/
def render (calls : List ResolvedCall) : Bytes :=
  prologueText ++ bytes "\nint main() \x7b\n"
    ++ calls.flatMap (fun call => statement call ++ [byte '\n'])
    ++ bytes "    return " ++ resultName calls ++ bytes ";\n\x7d\n"

end Program

end FunctionChain
