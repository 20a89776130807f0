namespace LspRelay

/-- A server with its arguments, a runtime to launch it with, and how much to log. -/
structure Settings where
  server : String
  serverArgs : List String
  interpreter : Option String
  verbose : Nat
  deriving Repr, DecidableEq

namespace Settings

/-- The program to launch and its arguments; a runtime takes the server as its first argument. -/
def launch (s : Settings) : String × List String :=
  match s.interpreter with
  | some interpreter => (interpreter, s.server :: s.serverArgs)
  | none => (s.server, s.serverArgs)

def logFilter (s : Settings) : String :=
  match s.verbose with
  | 0 => "warn"
  | 1 => "info"
  | 2 => "debug"
  | _ => "trace"

end Settings

end LspRelay
