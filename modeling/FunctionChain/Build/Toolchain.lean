import FunctionChain.Digest.Sha256
import FunctionChain.Files.Path

/-!
# Toolchains

The external compiler and how it is called. The command line is the optimisation flag, the include
directories, further compiler arguments, the source file, the output file and the linker arguments,
in this order.

A toolchain and a source have a *cache key*: the digest of all that the artifact depends on. What is
digested is written with lengths before each text and counts before each list, so that no two
different inputs are written alike.
-/

namespace FunctionChain

namespace Build

/-- A compiler invocation, source and output file apart. -/
structure Toolchain where
  command : Bytes
  optimisation : Bytes
  includeDirs : List Bytes
  compileArgs : List Bytes
  linkArgs : List Bytes
  /-- Names the build of the library that is linked. It is no argument; it only tells cache entries
  apart. -/
  libraryVersion : Bytes
deriving Repr, DecidableEq

namespace Toolchain

/-- The compiler that is used unless another is named. -/
def standard : Toolchain := ⟨bytes "g++", bytes "-O2", [], [], [], []⟩

/-- The arguments that compile a source file into an artifact. -/
def arguments (toolchain : Toolchain) (source artifact : Bytes) : List Bytes :=
  (if toolchain.optimisation.isEmpty then [] else [toolchain.optimisation])
  ++ toolchain.includeDirs.flatMap (fun dir => [bytes "-I", dir])
  ++ toolchain.compileArgs
  ++ [source, bytes "-o", artifact]
  ++ toolchain.linkArgs

/-- The toolchain with include directories, and a command that is a path, made absolute. A command
without a slash is left to be looked up. -/
def absolute (here : Bytes) (toolchain : Toolchain) : Toolchain :=
  { toolchain with
    command :=
      if toolchain.command.contains Path.slash && !Path.isRooted toolchain.command then
        Path.absolute here toolchain.command
      else toolchain.command
    includeDirs := toolchain.includeDirs.map (Path.absolute here) }

end Toolchain

/-! ## Cache keys -/

namespace CacheKey

/-- A text after its length. -/
def field (text : Bytes) : Bytes := Sha256.bigEndian64 text.length ++ text

/-- The texts of a list, each after its length, after their number. -/
def fields (texts : List Bytes) : Bytes :=
  Sha256.bigEndian64 texts.length ++ texts.flatMap field

/-- All that an artifact depends on, in one text. -/
def input (toolchain : Toolchain) (source : Bytes) : Bytes :=
  field toolchain.command ++ field toolchain.optimisation
  ++ fields toolchain.includeDirs ++ fields toolchain.compileArgs ++ fields toolchain.linkArgs
  ++ field toolchain.libraryVersion ++ field source

/-- The key under which the artifact of a source is kept. -/
def compute (toolchain : Toolchain) (source : Bytes) : Bytes :=
  Sha256.hexDigest (input toolchain source)

end CacheKey

end Build

end FunctionChain
