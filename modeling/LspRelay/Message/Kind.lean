namespace LspRelay

/-- A notification in a document's life, or a request for completions. -/
inductive DocumentKind where
  | lifecycle
  | completion
  deriving Repr, DecidableEq

namespace DocumentKind

def lifecycleMethods : List String :=
  ["textDocument/didOpen", "textDocument/didChange", "textDocument/didClose",
   "textDocument/willSave", "textDocument/didSave"]

def completionMethod : String := "textDocument/completion"

def ofMethod? (method : String) : Option DocumentKind :=
  if method ∈ lifecycleMethods then some lifecycle
  else if method = completionMethod then some completion
  else none

end DocumentKind

def logMethod : String := "window/logMessage"

end LspRelay
