import LspRelay.Proofs.Chaining
import LspRelay.Proofs.LogMessages

namespace LspRelay.Proofs.FixedPoints
open Json (Value)
open Chaining DocumentCopies Documents Json.Text Json.TreeEdits Json.Trees LogMessages Uris

variable {body w : List UInt8} {v v' message : Value} {kind : DocumentKind}
  {method old new : String}

/-- A printed copy has the new text in its place when it is read, if it can be read. -/
theorem string_of_copy {x y : Value} {ks : List String} {s : String}
    (hparsed : Value.ofBytes? body = some v) (hr : Replaced x (.string s) ks v v')
    (hy : Value.ofBytes? v'.bytes = some y) : y.get? ks = some (.string s) :=
  string_ofBytes?_bytes ((fits_of_parsed hparsed).replaced hr) hr.get?_new hy

/-- A log message that was put into text is not put into text again. -/
theorem not_unquoted_of_copy (h : Unquoted body v message)
    (hr : Replaced message (.string message.text) messagePath v v') (y other : Value) :
    ¬ Unquoted v'.bytes y other := by
  intro hagain
  have hstring := string_of_copy h.parsed hr hagain.parsed
  rw [hagain.held] at hstring
  exact hagain.plain _ (Option.some.inj hstring)

/-- A document message whose URI was put into its canonical text has no other copy. -/
theorem not_renamable_of_copy (h : Renamable body v kind method old new)
    (hr : Replaced (.string old) (.string new) uriPath v v') {y : Value} {kind' : DocumentKind}
    {method' old' new' : String} : ¬ Renamable v'.bytes y kind' method' old' new' := by
  intro hagain
  have hstring := string_of_copy h.parsed hr hagain.parsed
  rw [hagain.uri] at hstring
  cases hstring
  exact nomatch hagain.canonical.symm.trans (canonicalUri?_canonical h.canonical)

/-- One body goes to the client for one that came, and the edit leaves it alone. -/
theorem exists_sent (body : List UInt8) :
    ∃ sent, (Edit.toClient body).bodies = [sent] ∧ Edit.toClient sent = Edit.unchanged sent := by
  by_cases hsame : Edit.toClient body = Edit.unchanged body
  · exact ⟨body, congrArg Edited.bodies hsame, hsame⟩
  · obtain ⟨v, message, h⟩ := unquoted_of_changed hsame
    obtain ⟨v', hr⟩ := exists_replaced h.held (.string message.text)
    refine ⟨v'.bytes, bodies_of_unquoted h hr, Classical.byContradiction fun hagain => ?_⟩
    obtain ⟨y, other, h'⟩ := unquoted_of_changed hagain
    exact not_unquoted_of_copy h hr y other h'

/-- What goes to the client for a body, whether it was edited or not, goes through the edit again as
it is; so one edit in a row with itself is the edit. -/
theorem toClient_idempotent (body : List UInt8) :
    ∃ sent, (Edit.toClient body).bodies = [sent] ∧ Edit.toClient sent = Edit.unchanged sent ∧
      chained Edit.toClient Edit.toClient body = Edit.toClient body := by
  obtain ⟨sent, hsent, hstays⟩ := exists_sent body
  refine ⟨sent, hsent, hstays, ?_⟩
  simp only [chained, hsent, hstays, Edit.unchanged, List.flatMap_cons, List.flatMap_nil,
    List.append_nil]
  rw [← hsent]

/-- A copy that goes to the server is sent on as it is by the next in line: it has no copy. -/
theorem toServer_copy_stays (hw : w ∈ (Edit.toServer body).bodies) (hne : w ≠ body) :
    (Edit.toServer w).bodies = [w] := by
  obtain ⟨v, v', kind, method, old, new, h, hr, -, rfl⟩ := copy_of_bodies hw hne
  refine Classical.byContradiction fun hagain => ?_
  obtain ⟨y, kind', method', old', new', h'⟩ := renamable_of_bodies hagain
  exact not_renamable_of_copy h hr h'

/-- A notification whose number changes as it is printed, with a URI that lacks its slashes. -/
theorem toServer_copy_stays_decimal :
    let body := Utf8.encode ("\x7b\"method\":\"textDocument/didSave\",\"id\":-1.50e2," ++
      "\"params\":\x7b\"textDocument\":\x7b\"uri\":\"file:C:\"\x7d\x7d\x7d").toList
    let copy := Utf8.encode ("\x7b\"method\":\"textDocument/didSave\",\"id\":-150.0," ++
      "\"params\":\x7b\"textDocument\":\x7b\"uri\":\"file:///c%3A/\"\x7d\x7d\x7d").toList
    (Edit.toServer body).bodies = [body, copy] ∧ copy ≠ body ∧
      (Edit.toServer copy).bodies = [copy] := by
  intro body copy
  have hsent : (Edit.toServer body).bodies = [body, copy] := by decide +kernel
  have hne : copy ≠ body := by decide +kernel
  exact ⟨hsent, hne, toServer_copy_stays (by simp [hsent]) hne⟩

end LspRelay.Proofs.FixedPoints
