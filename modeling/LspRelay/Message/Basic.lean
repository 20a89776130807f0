import LspRelay.Json.Reader
import LspRelay.Message.Kind

namespace LspRelay

open Json (Value)

inductive Message where
  | document (kind : DocumentKind) (method : String) (uri : String) (value : Value)
  | logMessage (message : Value) (value : Value)
  | other

/-- The field of a one-field record: an object's member of that name, or an array's only item. -/
def onlyField? (name : String) : Value → Option Value
  | .object ms => ms.lookup name
  | .array [v] => some v
  | _ => none

def documentUri? (v : Value) : Option String := do
  let params ← v.member? "params"
  let document ← onlyField? "textDocument" params
  let uri ← onlyField? "uri" document
  uri.string?

/-- A log message that is there and is no string; an explicit null is there. -/
def unquotedMessage? (v : Value) : Option Value := do
  let params ← v.member? "params"
  let message ← onlyField? "message" params
  if message.string?.isSome then none else some message

def uriPath : List String := ["params", "textDocument", "uri"]

def messagePath : List String := ["params", "message"]

/-- The same message with another URI, if the URI stands at its path. -/
def setUri? (uri : String) (v : Value) : Option Value :=
  v.set? uriPath (.string uri)

namespace Message

def ofValue (v : Value) : Message :=
  match (v.member? "method").bind Json.Tree.string? with
  | none => other
  | some method =>
    match DocumentKind.ofMethod? method with
    | some kind =>
      match documentUri? v with
      | some uri => document kind method uri v
      | none => other
    | none =>
      if method = logMethod then
        match unquotedMessage? v with
        | some message => logMessage message v
        | none => other
      else other

/-- A body that is no JSON is some other message. -/
def ofBody (body : List UInt8) : Message :=
  match Value.ofBytes? body with
  | some v => ofValue v
  | none => other

end Message

end LspRelay
