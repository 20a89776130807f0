import LspRelay.Proofs.Documents

namespace LspRelay.Proofs.DocumentCopies
open Json (Literal Value)
open Documents Json.Numbers Json.Reading Json.Text Json.TreeEdits Json.Trees

variable {body w : List UInt8} {v v' : Value} {kind : DocumentKind} {method old new : String}

/-- The numbers of a body as they are written, without those that a later member with the same key
takes the place of. -/
def literals (body : List UInt8) : List Literal :=
  match (Utf8.decode? body).bind (Json.Tree.ofChars? some) with
  | some t => numbers t
  | none => []

/-- The value of a body that writes its numbers as integers has integers for numbers. -/
theorem fits_ofBytes? (hints : ∀ l ∈ literals body, IsInteger l)
    (h : Value.ofBytes? body = some v) : Fits IsInt Json.maxDepth v := by
  obtain ⟨cs, hcs, h⟩ := Option.bind_eq_some_iff.mp h
  obtain ⟨t, ht, hc⟩ := ofChars?_converted h
  have hlit : literals body = numbers t := by simp [literals, hcs, ht]
  refine (fits_ofChars? ht).converted hc ?_
  intro l hl n hn
  obtain ⟨k, hk, hk'⟩ := (hints l (hlit ▸ hl)).number?
  exact ⟨k, hk, Option.some.inj (hn.symm.trans hk')⟩

/-- Renaming the URI of a document message gives a document message that differs in that only. -/
theorem ofBody_of_replaced (h : Renamable body v kind method old new)
    (hr : Replaced (.string old) (.string new) uriPath v v') (hw : Value.ofBytes? w = some v') :
    Message.ofBody w = .document kind method new v' := by
  have hnamed : v'.member? "method" = some (.string method) := by
    rw [hr.member?_of_ne (by decide), h.named]
  exact ofBody_eq_document_iff.mpr
    ⟨hw, hnamed, ofMethod?_eq_some_iff.mpr h.classified, documentUri?_of_get? hr.get?_new⟩

/-- A body that is sent and is not the one that came is the copy of a document message. -/
theorem copy_of_bodies (hw : w ∈ (Edit.toServer body).bodies) (hne : w ≠ body) :
    ∃ v v' kind method old new, Renamable body v kind method old new ∧
      Replaced (.string old) (.string new) uriPath v v' ∧
      (Edit.toServer body).bodies = outgoing body w kind ∧ v'.bytes = w := by
  have hcopied : (Edit.toServer body).bodies ≠ [body] := by
    intro he
    rw [he] at hw
    exact hne (List.mem_singleton.mp hw)
  obtain ⟨v, kind, method, old, new, h⟩ := renamable_of_bodies hcopied
  obtain ⟨v', hr⟩ := exists_replaced h.uri (.string new)
  have hbodies := bodies_of_renamable h hr
  have hcopy : w = v'.bytes := by
    rw [hbodies] at hw
    cases kind with
    | lifecycle => simpa [outgoing, hne] using hw
    | completion => simpa [outgoing] using hw
  exact ⟨v, v', kind, method, old, new, h, hr, hcopy ▸ hbodies, hcopy.symm⟩

/-- A copy that goes to the server reads back as the message it was made of with another URI: no
other value has changed, and it is a document message of the same kind and method. -/
theorem copy_reads_back (hints : ∀ l ∈ literals body, IsInteger l)
    (hw : w ∈ (Edit.toServer body).bodies) (hne : w ≠ body) :
    ∃ v v' kind method old new, canonicalUri? old = some new ∧
      Message.ofBody body = .document kind method old v ∧
      (Edit.toServer body).bodies = outgoing body w kind ∧
      Value.ofBytes? body = some v ∧ Value.ofBytes? w = some v' ∧
      Replaced (.string old) (.string new) uriPath v v' ∧
      Message.ofBody w = .document kind method new v' := by
  obtain ⟨v, v', kind, method, old, new, h, hr, hbodies, rfl⟩ := copy_of_bodies hw hne
  have hback : Value.ofBytes? v'.bytes = some v' :=
    ofBytes?_bytes ((fits_ofBytes? hints h.parsed).replaced hr)
  exact ⟨v, v', kind, method, old, new, h.canonical, h.ofBody, hbodies, h.parsed, hback, hr,
    ofBody_of_replaced h hr hback⟩

theorem copy_reads_back_completion :
    (∀ l ∈ literals (completion "file:///C:/a").bytes, IsInteger l) ∧
      ∃ v v' kind method old new, canonicalUri? old = some new ∧
        Message.ofBody (completion "file:///C:/a").bytes = .document kind method old v ∧
        (Edit.toServer (completion "file:///C:/a").bytes).bodies =
          outgoing (completion "file:///C:/a").bytes (completion "file:///c%3A/a").bytes kind ∧
        Value.ofBytes? (completion "file:///C:/a").bytes = some v ∧
        Value.ofBytes? (completion "file:///c%3A/a").bytes = some v' ∧
        Replaced (.string old) (.string new) uriPath v v' ∧
        Message.ofBody (completion "file:///c%3A/a").bytes = .document kind method new v' := by
  have hints : ∀ l ∈ literals (completion "file:///C:/a").bytes, IsInteger l := by
    have hl : literals (completion "file:///C:/a").bytes = [⟨true, ['7'], [], none⟩] := by
      decide +kernel
    rw [hl]
    simp only [List.mem_singleton, forall_eq]
    exact ⟨⟨rfl, rfl⟩, nofun, fun _ => by decide⟩
  exact ⟨hints, copy_reads_back hints (by decide +kernel) (by decide +kernel)⟩

end LspRelay.Proofs.DocumentCopies
