import LspRelay.Message.Edit
import LspRelay.Proofs.JsonText
import LspRelay.Proofs.TreeEdits
import LspRelay.Proofs.Uris

namespace LspRelay.Proofs.Documents
open Json (Value)
open Json.Numbers Json.Text Json.TreeEdits Json.Trees Uris

variable {body : List UInt8} {v w : Value} {kind : DocumentKind} {method old new : String}

theorem ofMethod?_eq_some_iff :
    DocumentKind.ofMethod? method = some kind ↔
      kind = .lifecycle ∧ method ∈ DocumentKind.lifecycleMethods ∨
        kind = .completion ∧ method = DocumentKind.completionMethod := by
  have hc : DocumentKind.completionMethod ∉ DocumentKind.lifecycleMethods := by decide
  unfold DocumentKind.ofMethod?
  split
  · rename_i hm
    have hne : method ≠ DocumentKind.completionMethod := fun he => hc (he ▸ hm)
    simp [hm, hne, eq_comm]
  · rename_i hm
    split
    · rename_i he
      subst he
      simp [hc, eq_comm]
    · rename_i he
      simp [hm, he]

theorem string?_eq_some_iff {s : String} : v.string? = some s ↔ v = .string s := by
  cases v <;> simp [Json.Tree.string?]

theorem bind_string?_eq_some_iff {k s : String} :
    (v.member? k).bind Json.Tree.string? = some s ↔ v.member? k = some (.string s) := by
  cases v.member? k with
  | none => simp
  | some x => simpa using string?_eq_some_iff

theorem ofValue_eq_document_iff {uri : String} :
    Message.ofValue v = .document kind method uri w ↔
      v = w ∧ v.member? "method" = some (.string method) ∧
        DocumentKind.ofMethod? method = some kind ∧ documentUri? v = some uri := by
  rw [← bind_string?_eq_some_iff]
  unfold Message.ofValue
  cases (v.member? "method").bind Json.Tree.string? with
  | none => simp
  | some m =>
    simp only [Option.some.injEq]
    cases hk : DocumentKind.ofMethod? m with
    | none =>
      constructor
      · intro h
        dsimp only at h
        split at h
        · split at h <;> cases h
        · cases h
      · rintro ⟨_, rfl, h, _⟩
        rw [hk] at h
        cases h
    | some k =>
      cases hu : documentUri? v with
      | none => simp
      | some u =>
        simp only [Message.document.injEq, Option.some.injEq]
        constructor
        · rintro ⟨rfl, rfl, rfl, rfl⟩
          exact ⟨rfl, rfl, hk, rfl⟩
        · rintro ⟨rfl, rfl, h, rfl⟩
          rw [hk] at h
          exact ⟨Option.some.inj h, rfl, rfl, rfl⟩

/-- Everything that makes a body a document message. -/
theorem ofBody_eq_document_iff {uri : String} :
    Message.ofBody body = .document kind method uri v ↔
      Value.ofBytes? body = some v ∧ v.member? "method" = some (.string method) ∧
        DocumentKind.ofMethod? method = some kind ∧ documentUri? v = some uri := by
  unfold Message.ofBody
  cases Value.ofBytes? body with
  | none => simp
  | some x =>
    simp only [ofValue_eq_document_iff, Option.some.injEq]
    constructor
    · rintro ⟨rfl, h⟩
      exact ⟨rfl, h⟩
    · rintro ⟨rfl, h⟩
      exact ⟨rfl, h⟩

theorem onlyField?_of_member? {k : String} {x : Value} (h : v.member? k = some x) :
    onlyField? k v = some x := by
  cases v with
  | object ms => exact h
  | _ => simp [Json.Tree.member?] at h

/-- Where keys lead to the URI, recognition takes it from the same place. -/
theorem documentUri?_of_get? {uri : Value} (h : v.get? uriPath = some uri) :
    documentUri? v = uri.string? := by
  simp only [uriPath, Json.Tree.get?, Option.bind_eq_some_iff, Option.some.injEq] at h
  obtain ⟨params, hp, document, hd, x, hu, rfl⟩ := h
  simp [documentUri?, hp, onlyField?_of_member? hd, onlyField?_of_member? hu]

/-- A document message whose URI has a canonical text and stands where keys alone lead to it. A
record that is written as an array leads nowhere. -/
structure Renamable (body : List UInt8) (v : Value) (kind : DocumentKind)
    (method old new : String) : Prop where
  parsed : Value.ofBytes? body = some v
  named : v.member? "method" = some (.string method)
  classified : kind = .lifecycle ∧ method ∈ DocumentKind.lifecycleMethods ∨
    kind = .completion ∧ method = DocumentKind.completionMethod
  uri : v.get? uriPath = some (.string old)
  canonical : canonicalUri? old = some new

theorem Renamable.ofBody (h : Renamable body v kind method old new) :
    Message.ofBody body = .document kind method old v := by
  refine ofBody_eq_document_iff.mpr ⟨h.parsed, h.named, ofMethod?_eq_some_iff.mpr h.classified, ?_⟩
  exact documentUri?_of_get? h.uri

theorem renamed?_eq_some_iff : Edit.renamed? old = some new ↔ canonicalUri? old = some new := by
  constructor
  · intro h
    exact (Option.filter_eq_some_iff.mp h).1
  · intro h
    exact Option.filter_eq_some_iff.mpr ⟨h, by simpa using canonicalUri?_ne h⟩

/-- What is sent for a body that has a copy: a notification goes before it, a request stays. -/
def outgoing (body copy : List UInt8) : DocumentKind → List (List UInt8)
  | .lifecycle => [body, copy]
  | .completion => [copy]

theorem bodies_of_renamable (h : Renamable body v kind method old new)
    (hw : Replaced (.string old) (.string new) uriPath v w) :
    (Edit.toServer body).bodies = outgoing body w.bytes kind := by
  have hs : setUri? new v = some w := set?_eq_some_iff.mpr ⟨_, hw⟩
  simp only [Edit.toServer, h.ofBody, renamed?_eq_some_iff.mpr h.canonical, hs]
  cases kind <;> rfl

/-- Another body is sent only in place of or after one whose URI is renamed. -/
theorem renamable_of_bodies (h : (Edit.toServer body).bodies ≠ [body]) :
    ∃ v kind method old new, Renamable body v kind method old new := by
  unfold Edit.toServer at h
  split at h
  · rename_i kind method uri v hb
    obtain ⟨hp, hm, hk, hu⟩ := ofBody_eq_document_iff.mp hb
    split at h
    · exact absurd rfl h
    · rename_i new hn
      split at h
      · exact absurd rfl h
      · rename_i w hs
        obtain ⟨old, hr⟩ := set?_eq_some_iff.mp hs
        have hg := hr.get?_old
        rw [documentUri?_of_get? hg] at hu
        rw [string?_eq_some_iff.mp hu] at hg
        exact ⟨v, kind, method, uri, new, hp, hm, ofMethod?_eq_some_iff.mp hk, hg,
          renamed?_eq_some_iff.mp hn⟩
  · exact absurd rfl h

/-- To the server, a body goes on as it came unless it is a document message of the kinds named,
with a URI that has a canonical text at its path of keys; then its copy differs from it in the URI
and nothing else, in no member and no order of members. -/
theorem toServer_bodies (body : List UInt8) :
    (∀ v kind method old new, Renamable body v kind method old new →
      ∃ w, Replaced (.string old) (.string new) uriPath v w ∧
        (Edit.toServer body).bodies = outgoing body w.bytes kind) ∧
    ((∀ v kind method old new, ¬ Renamable body v kind method old new) →
      (Edit.toServer body).bodies = [body]) := by
  refine ⟨?_, ?_⟩
  · intro v kind method old new h
    obtain ⟨w, hw⟩ := exists_replaced h.uri (.string new)
    exact ⟨w, hw, bodies_of_renamable h hw⟩
  · intro h
    refine Classical.byContradiction fun hne => ?_
    obtain ⟨v, kind, method, old, new, hr⟩ := renamable_of_bodies hne
    exact h v kind method old new hr

def completion (uri : String) : Value :=
  .object [("id", .number (.int (-7))), ("method", .string "textDocument/completion"),
    ("params", .object [("textDocument", .object [("uri", .string uri)])])]

theorem fits_completion (uri : String) : Fits IsInt Json.maxDepth (completion uri) := by
  have hid : Fits IsInt 126 (.number (.int (-7))) := .number ⟨-7, by simp [InRange], rfl⟩
  have hdocument : Fits IsInt 125 (.object [("uri", .string uri)]) :=
    .object (by simp) (by simpa using .string uri)
  have hparams : Fits IsInt 126 (.object [("textDocument", .object [("uri", .string uri)])]) :=
    .object (by simp) (by simpa using hdocument)
  refine .object (by simp) ?_
  simp only [List.forall_mem_cons]
  exact ⟨hid, .string _, hparams, by simp⟩

theorem toServer_bodies_completion :
    (∃ w, Replaced (.string "file:///C:/a") (.string "file:///c%3A/a") uriPath
        (completion "file:///C:/a") w ∧
      (Edit.toServer (completion "file:///C:/a").bytes).bodies = [w.bytes]) ∧
    (Edit.toServer (completion "file:///a").bytes).bodies = [(completion "file:///a").bytes] := by
  refine ⟨(toServer_bodies _).1 _ .completion "textDocument/completion" _ _ ?_,
    (toServer_bodies _).2 ?_⟩
  · exact ⟨ofBytes?_bytes (fits_completion _), rfl, .inr ⟨rfl, rfl⟩, rfl, by decide +kernel⟩
  · intro v kind method old new h
    cases Option.some.inj ((ofBytes?_bytes (fits_completion "file:///a")).symm.trans h.parsed)
    cases h.uri
    have hnone : canonicalUri? "file:///a" = none := by decide +kernel
    cases hnone.symm.trans h.canonical

end LspRelay.Proofs.Documents
