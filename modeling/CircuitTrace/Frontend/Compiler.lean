import CircuitTrace.Frontend.Request
import CircuitTrace.Netlist
import CircuitTrace.Unicode.Lossy

namespace CircuitTrace

inductive CompileError where
  | noSources
  | notStarted (program : String) (fault : FileFault)
  | failed (program : String) (status : Option Int) (stderr : String)
  | invalidOutput (path : String) (cause : Error)
  | directory (path : String) (fault : FileFault)
deriving DecidableEq

namespace CompileError

/-- How a program ended; without a status it was ended by a signal. -/
def ending : Option Int → String
  | some code => "status " ++ toString code
  | none => "a signal"

def message : CompileError → String
  | noSources => "No source files given"
  | notStarted program fault => "Failed to run " ++ program ++ ": " ++ fault.message
  | failed program status stderr =>
    program ++ " exited with " ++ ending status ++ ": " ++ stderr
  | invalidOutput path cause => "Invalid output " ++ path ++ ": " ++ cause.message
  | directory path fault => "IO error on " ++ path ++ ": " ++ fault.message

end CompileError

inductive CompileFailure where
  | compiling (cause : CompileError)
  | loading (cause : Error)
deriving DecidableEq

namespace CompileFailure

def message : CompileFailure → String
  | compiling cause => "Compile error: " ++ cause.message
  | loading cause => cause.message

end CompileFailure

structure Compiler where
  program : String
  name : String
  arguments : List String := []
deriving DecidableEq

namespace Compiler

/-- The components of a path; empty ones and single dots lead nowhere. -/
def pathComponents (path : String) : List (List Char) :=
  (split '/' path.toList).filter fun part => part ≠ [] ∧ part ≠ ['.']

/-- The last component of a path, unless it leads back to a parent. -/
def fileName? (path : String) : Option String :=
  match (pathComponents path).getLast? with
  | none => none
  | some last => if last = ['.', '.'] then none else some (String.ofList last)

def ofProgram (program : String) : Compiler :=
  { program, name := (fileName? program).getD "front-end" }

def commandLine (c : Compiler) (r : CompileRequest) (output : String) : List String :=
  c.arguments ++ r.includeDirs.map ("-I" ++ ·) ++ r.defines.map ("-D" ++ ·) ++
    (match r.top with
      | some top => ["--top-module", top]
      | none => []) ++
    ["-o", output] ++ r.sources

end Compiler

/-- What a program that was started did: how it ended, what it wrote to standard error, and the
content of the output file if it wrote one. -/
structure ProgramRun where
  status : Option Int
  stderr : List UInt8
  output : Option ByteArray

structure Host where
  tempDir : String
  createDir : String → Except FileFault Unit
  freshFile : String → String
  run : String → List String → Except FileFault ProgramRun

structure Compilation (ε α : Type) where
  result : Except ε α
  started : Option (List String)
  outputLeft : Bool

namespace Compiler

def compile (c : Compiler) (host : Host) (r : CompileRequest) :
    Compilation CompileError Description :=
  if r.sources.isEmpty then ⟨.error .noSources, none, false⟩
  else
    let dir := r.outputDir.getD host.tempDir
    match host.createDir dir with
    | .error fault => ⟨.error (.directory dir fault), none, false⟩
    | .ok () =>
      let output := host.freshFile dir
      let arguments := c.commandLine r output
      match host.run c.program arguments with
      | .error fault => ⟨.error (.notStarted c.program fault), none, false⟩
      | .ok run =>
        if run.status = some 0 then
          ⟨(Description.ofFile output run.output).mapError (.invalidOutput output), some arguments,
            r.keepOutput && run.output.isSome⟩
        else
          ⟨.error (.failed c.name run.status (Unicode.trim (Unicode.decodeLossy run.stderr))),
            some arguments, run.output.isSome⟩

def compileNetlist (c : Compiler) (host : Host) (r : CompileRequest) :
    Compilation CompileFailure Netlist :=
  let compilation := c.compile host r
  { compilation with
    result := match compilation.result with
      | .error cause => .error (.compiling cause)
      | .ok description => (Netlist.ofDescription description).mapError .loading }

end Compiler

end CircuitTrace
