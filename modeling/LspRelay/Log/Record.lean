namespace LspRelay.Log

/-- Levels from the most severe on. -/
inductive Level where
  | error
  | warn
  | info
  | debug
  | trace
  deriving Repr, DecidableEq

namespace Level

def rank : Level → Nat
  | error => 0
  | warn => 1
  | info => 2
  | debug => 3
  | trace => 4

def name : Level → String
  | error => "error"
  | warn => "warn"
  | info => "info"
  | debug => "debug"
  | trace => "trace"

def all : List Level := [error, warn, info, debug, trace]

def ofName? (s : String) : Option Level :=
  all.find? fun l => s.toLower = l.name

end Level

/-- What a record is about. -/
inductive Topic where
  | session
  | launch
  | relay
  | toServer
  | toClient
  deriving Repr, DecidableEq

def Topic.name : Topic → String
  | session => "lsp_shim::app"
  | launch => "lsp_shim::lsp::stdio_transport"
  | relay => "lsp_shim::lsp::pump"
  | toServer => "lsp_shim::lsp::inbound"
  | toClient => "lsp_shim::lsp::outbound"

/-- An event with its fields, each a name and the text of its value. -/
structure Record where
  topic : Topic
  level : Level
  message : String
  fields : List (String × String)
  deriving Repr, DecidableEq

def Record.names (r : Record) : List String :=
  "message" :: r.fields.map Prod.fst

/-- The level right-aligned in five columns, the message, then the fields in order. -/
def Record.line (r : Record) : String :=
  let level := r.level.name.toUpper
  let padding := String.ofList (List.replicate (5 - level.length) ' ')
  let fields := r.fields.map fun (name, value) => " " ++ name ++ "=" ++ value
  padding ++ level ++ " " ++ r.message ++ String.join fields

end LspRelay.Log
