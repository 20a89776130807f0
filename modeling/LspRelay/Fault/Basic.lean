import LspRelay.Fault.System

namespace LspRelay

/-- Why launching a program, or reading or writing a stream, failed. -/
inductive IoError where
  | system (e : SystemError)
  | nulByte
  | writeZero
  | named (text : String)
  deriving Repr, DecidableEq

def IoError.message : IoError → String
  | system e => e.message
  | nulByte => "nul byte found in provided data"
  | writeZero => "write zero"
  | named text => text

inductive Fault where
  | spawnFailed (command : String) (cause : IoError)
  | missingPipe (pipe : String)
  | stream (cause : IoError)
  deriving Repr, DecidableEq

namespace Fault

def message : Fault → String
  | spawnFailed command cause =>
    "failed to spawn language server '" ++ command ++ "': " ++ cause.message
  | missingPipe pipe => "failed to take child " ++ pipe
  | stream cause => "stream error: " ++ cause.message

def cause? : Fault → Option IoError
  | spawnFailed _ cause => some cause
  | missingPipe _ => none
  | stream cause => some cause

def chain (context : String) (f : Fault) : String :=
  ": ".intercalate (context :: f.message :: (f.cause?.map IoError.message).toList)

end Fault

end LspRelay
