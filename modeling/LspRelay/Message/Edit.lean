import LspRelay.Document.Uri
import LspRelay.Json.Writer
import LspRelay.Log.Record
import LspRelay.Message.Basic

namespace LspRelay

/-- The bodies to send in place of one, and what there is to log about them. -/
structure Edited where
  bodies : List (List UInt8)
  notes : List Log.Record
  deriving Repr, DecidableEq

abbrev Edit := List UInt8 → Edited

namespace Edit

def unchanged : Edit := fun body => ⟨[body], []⟩

/-- The canonical text of a URI, if it is another text. -/
def renamed? (uri : String) : Option String :=
  (canonicalUri? uri).filter (· ≠ uri)

def editNote (kind : DocumentKind) (method old new : String) : Log.Record :=
  let message := match kind with
    | .lifecycle => "Mirroring lifecycle notification"
    | .completion => "Normalizing completion request"
  ⟨.toServer, .debug, message, [("method", method), ("from", old), ("to", new)]⟩

def toServer : Edit := fun body =>
  match Message.ofBody body with
  | .document kind method uri value =>
    match renamed? uri with
    | none =>
      ⟨[body], [⟨.toServer, .trace, "URI needs no normalization",
        [("method", method), ("uri", uri)]⟩]⟩
    | some new =>
      match setUri? new value with
      | none => ⟨[body], []⟩
      | some v =>
        let note := editNote kind method uri new
        match kind with
        | .lifecycle => ⟨[body, v.bytes], [note]⟩
        | .completion => ⟨[v.bytes], [note]⟩
  | _ =>
    ⟨[body], [⟨.toServer, .trace, "Forwarding client message unchanged",
      [("body_len", toString body.length)]⟩]⟩

def toClient : Edit := fun body =>
  match Message.ofBody body with
  | .logMessage message value =>
    match value.set? messagePath (.string message.text) with
    | none => ⟨[body], []⟩
    | some v =>
      ⟨[v.bytes], [⟨.toClient, .debug, "Stringified non-string window/logMessage payload", []⟩]⟩
  | _ => ⟨[body], []⟩

end Edit

end LspRelay
