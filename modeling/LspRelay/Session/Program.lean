import LspRelay.CommandLine.Parse
import LspRelay.Log.Filter
import LspRelay.Session.Serve

namespace LspRelay

/-- The variables that the program heeds: an interpreter's name, and a log filter. -/
structure Environment where
  interpreter : Option String
  logFilter : Option String
  deriving Repr, DecidableEq

structure ProgramRun where
  code : Nat
  output : List UInt8
  errors : List UInt8
  deriving Repr, DecidableEq

namespace ProgramRun

/-- Help and version are answers; a mistake is told on the error stream. -/
def ofRefusal (r : CommandLine.Refusal) : ProgramRun :=
  if r.isMistake then ⟨1, [], r.printed⟩ else ⟨0, r.printed, []⟩

/-- A filter in the environment outdoes the verbosity, unless it cannot be read. -/
def filter (env : Environment) (settings : Settings) : Log.Filter :=
  match env.logFilter.bind Log.Filter.ofText? with
  | some filter => filter
  | none => (Log.Filter.ofText? settings.logFilter).getD []

def printed (filter : Log.Filter) : Entry → List UInt8
  | .record r => if filter.admits r then Utf8.ofString (r.line ++ "\n") else []
  | .server bytes => bytes

end ProgramRun

/-- Runs the program. A session that fails ends with code 1. -/
def Host.runProgram (h : Host) (args : List String) (env : Environment) (input : List UInt8) :
    ProgramRun :=
  match CommandLine.parse env.interpreter args with
  | .error refusal => .ofRefusal refusal
  | .ok settings =>
    let session := h.serve settings (.ofBytes input) .unlimited
    let errors := session.entries.flatMap (ProgramRun.printed (ProgramRun.filter env settings))
    match session.answer with
    | .ok code => ⟨code, Step.written session.client, errors⟩
    | .error failure =>
      ⟨1, Step.written session.client,
        errors ++ Utf8.ofString ("error: " ++ failure.message ++ "\n")⟩

end LspRelay
