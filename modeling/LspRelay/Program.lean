import LspRelay.Host.Known
import LspRelay.Session.Program

namespace LspRelay

def Session.serve (settings : Settings) (source : Source) (sink : Sink) : Session :=
  Host.known.serve settings source sink

def runProgram (args : List String) (env : Environment) (input : List UInt8) : ProgramRun :=
  Host.known.runProgram args env input

end LspRelay
