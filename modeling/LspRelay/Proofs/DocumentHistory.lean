import LspRelay.Proofs.DocumentCopies
import Mathlib.Data.List.Forall2

namespace LspRelay.Proofs.DocumentHistory
open Json (Value)
open Documents DocumentCopies Json.Numbers Json.Text Json.TreeEdits Json.Trees Uris

def uri? : Message → Option String
  | .document _ _ uri _ => some uri
  | _ => none

/-- The document messages among some bodies whose URI is one of those asked for. -/
def documents (named : String → Bool) (bodies : List (List UInt8)) : List Message :=
  (bodies.map Message.ofBody).filter fun m => (uri? m).any named

/-- A URI with this canonical text, or that text itself. -/
def spells (name uri : String) : Bool := uri = name ∨ canonicalUri? uri = some name

def forwarded (bodies : List (List UInt8)) : List (List UInt8) :=
  bodies.flatMap fun body => (Edit.toServer body).bodies

/-- The same document message with nothing but its URI changed, or not even that. -/
inductive Renamed (new : String) : Message → Message → Prop where
  | document {kind : DocumentKind} {method old : String} {v w : Value}
      (uri : Replaced (.string old) (.string new) uriPath v w) :
      Renamed new (.document kind method old v) (.document kind method new w)

/-- A body whose document, if it names one, has its URI where keys alone lead to it. -/
def Placed (body : List UInt8) : Prop :=
  ∀ kind method uri v, Message.ofBody body = .document kind method uri v →
    v.get? uriPath = some (.string uri)

variable {body : List UInt8} {v : Value} {kind : DocumentKind} {method old new name : String}

theorem document_of_uri? {m : Message} {uri : String} (h : uri? m = some uri) :
    ∃ kind method v, m = .document kind method uri v := by
  cases m with
  | document kind method old v =>
    cases h
    exact ⟨kind, method, v, rfl⟩
  | _ => cases h

theorem documents_append (named : String → Bool) (early late : List (List UInt8)) :
    documents named (early ++ late) = documents named early ++ documents named late := by
  simp [documents]

theorem documents_cons (named : String → Bool) (body : List UInt8) (bodies : List (List UInt8)) :
    documents named (body :: bodies) = documents named [body] ++ documents named bodies :=
  documents_append named [body] bodies

theorem documents_of_document {named : String → Bool} {uri : String}
    (h : Message.ofBody body = .document kind method uri v) :
    documents named [body] = if named uri then [.document kind method uri v] else [] := by
  cases hn : named uri <;> simp [documents, h, uri?, hn]

theorem documents_of_other {named : String → Bool} (h : uri? (Message.ofBody body) = none) :
    documents named [body] = [] := by
  simp [documents, h]

theorem forwarded_append (early late : List (List UInt8)) :
    forwarded (early ++ late) = forwarded early ++ forwarded late := List.flatMap_append

theorem forwarded_cons (body : List UInt8) (bodies : List (List UInt8)) :
    forwarded (body :: bodies) = (Edit.toServer body).bodies ++ forwarded bodies :=
  List.flatMap_cons

theorem placed_of_get? {uri : String} (hb : Value.ofBytes? body = some v)
    (hu : v.get? uriPath = some (.string uri)) : Placed body := by
  intro kind method named w hw
  obtain ⟨hparsed, -, -, hnamed⟩ := ofBody_eq_document_iff.mp hw
  cases hb.symm.trans hparsed
  rw [documentUri?_of_get? hu] at hnamed
  cases hnamed
  exact hu

theorem Placed.renamable (h : Placed body) (hb : Message.ofBody body = .document kind method old v)
    (hc : canonicalUri? old = some new) : Renamable body v kind method old new := by
  obtain ⟨hparsed, hnamed, hkind, -⟩ := ofBody_eq_document_iff.mp hb
  exact ⟨hparsed, hnamed, ofMethod?_eq_some_iff.mp hkind, h _ _ _ _ hb, hc⟩

/-- A document message with a canonical text for its URI has a copy, which is a document message
under that text. -/
theorem exists_copy (hints : ∀ l ∈ literals body, IsInteger l)
    (h : Renamable body v kind method old new) :
    ∃ w, (Edit.toServer body).bodies = outgoing body w.bytes kind ∧
      Replaced (.string old) (.string new) uriPath v w ∧
      Message.ofBody w.bytes = .document kind method new w := by
  obtain ⟨w, hr⟩ := exists_replaced h.uri (.string new)
  have hback : Value.ofBytes? w.bytes = some w :=
    ofBytes?_bytes ((fits_ofBytes? hints h.parsed).replaced hr)
  exact ⟨w, bodies_of_renamable h hr, hr, ofBody_of_replaced h hr hback⟩

/-- A body is sent on as it came if it names no document, or one whose URI stays. -/
theorem bodies_of_unnamed (h : (uri? (Message.ofBody body)).bind canonicalUri? = none) :
    (Edit.toServer body).bodies = [body] := by
  refine Classical.byContradiction fun hne => ?_
  obtain ⟨v, kind, method, old, new, hr⟩ := renamable_of_bodies hne
  rw [hr.ofBody] at h
  exact nomatch hr.canonical.symm.trans h

/-- A message whose URI stays tells of the document if that is its URI. -/
theorem documents_of_kept (hplaced : Placed body)
    (hb : Message.ofBody body = .document kind method old v) (hc : canonicalUri? old = none) :
    List.Forall₂ (Renamed name) (documents (spells name) [body])
      (documents (· = name) (Edit.toServer body).bodies) := by
  have hsent : (Edit.toServer body).bodies = [body] :=
    bodies_of_unnamed (by simpa [hb, uri?] using hc)
  rw [hsent, documents_of_document hb, documents_of_document hb]
  by_cases hn : old = name
  · subst hn
    obtain ⟨w, hr⟩ := exists_replaced (hplaced _ _ _ _ hb) (.string old)
    have hsame : Replaced (.string old) (.string old) uriPath v v := hr.eq_self ▸ hr
    simpa [spells] using Renamed.document hsame
  · simp [spells, hn, hc]

/-- A message whose URI has a canonical text tells of the document if that is the text: its copy
does, and the message itself does not. -/
theorem documents_of_copied (hcanonical : canonicalUri? name = none)
    (hints : ∀ l ∈ literals body, IsInteger l) (h : Renamable body v kind method old new) :
    List.Forall₂ (Renamed name) (documents (spells name) [body])
      (documents (· = name) (Edit.toServer body).bodies) := by
  obtain ⟨w, hsent, hr, hw⟩ := exists_copy hints h
  have hne : old ≠ name := by
    rintro rfl
    exact nomatch h.canonical.symm.trans hcanonical
  have hcopy : documents (· = name) (Edit.toServer body).bodies =
      documents (· = name) [w.bytes] := by
    have hbody : documents (· = name) [body] = [] := by
      rw [documents_of_document h.ofBody]
      simp [hne]
    cases kind with
    | lifecycle => rw [hsent, outgoing, documents_cons, hbody, List.nil_append]
    | completion => rw [hsent, outgoing]
  rw [hcopy, documents_of_document h.ofBody, documents_of_document hw]
  by_cases hn : new = name
  · subst hn
    simpa [spells, h.canonical] using Renamed.document hr
  · simp [spells, hne, h.canonical, hn]

/-- One body: what is sent for it tells of the document once if it does, and else not at all. -/
theorem documents_bodies (hcanonical : canonicalUri? name = none)
    (hints : ∀ l ∈ literals body, IsInteger l) (hplaced : Placed body) :
    List.Forall₂ (Renamed name) (documents (spells name) [body])
      (documents (· = name) (Edit.toServer body).bodies) := by
  cases hu : uri? (Message.ofBody body) with
  | none =>
    rw [bodies_of_unnamed (by simp [hu]), documents_of_other hu, documents_of_other hu]
    exact .nil
  | some old =>
    obtain ⟨kind, method, v, hb⟩ := document_of_uri? hu
    cases hc : canonicalUri? old with
    | none => exact documents_of_kept hplaced hb hc
    | some new => exact documents_of_copied hcanonical hints (hplaced.renamable hb hc)

theorem documents_forwarded (hcanonical : canonicalUri? name = none) {bodies : List (List UInt8)}
    (hints : ∀ body ∈ bodies, ∀ l ∈ literals body, IsInteger l)
    (hplaced : ∀ body ∈ bodies, Placed body) :
    List.Forall₂ (Renamed name) (documents (spells name) bodies)
      (documents (· = name) (forwarded bodies)) := by
  induction bodies with
  | nil => exact .nil
  | cons body bodies ih =>
    obtain ⟨hint, hints⟩ := List.forall_mem_cons.mp hints
    obtain ⟨hplace, hplaced⟩ := List.forall_mem_cons.mp hplaced
    rw [documents_cons, forwarded_cons, documents_append]
    exact List.rel_append (documents_bodies hcanonical hint hplace) (ih hints hplaced)

/-- Among all that is sent for some bodies, the messages about one document under its canonical URI
are those among the bodies that name it in any spelling: one for one, in order, and with nothing
changed but the URI. A notification in another spelling is sent as it came too, right before its
copy. -/
theorem history_of_bodies {bodies : List (List UInt8)} (u : DriveUri)
    (hints : ∀ body ∈ bodies, ∀ l ∈ literals body, IsInteger l)
    (hplaced : ∀ body ∈ bodies, Placed body) :
    let name := String.ofList u.chars
    List.Forall₂ (Renamed name) (documents (spells name) bodies)
        (documents (· = name) (forwarded bodies)) ∧
      ∀ early body late method old v new, bodies = early ++ body :: late →
        Message.ofBody body = .document .lifecycle method old v → canonicalUri? old = some new →
        ∃ copy, forwarded bodies = forwarded early ++ body :: copy :: forwarded late ∧
          Renamed new (Message.ofBody body) (Message.ofBody copy) := by
  intro name
  refine ⟨documents_forwarded (canonicalUri?_chars u) hints hplaced, ?_⟩
  rintro early body late method old v new rfl hb hc
  have hmem : body ∈ early ++ body :: late := by simp
  obtain ⟨w, hsent, hr, hw⟩ := exists_copy (hints body hmem) ((hplaced body hmem).renamable hb hc)
  refine ⟨w.bytes, ?_, ?_⟩
  · rw [forwarded_append, forwarded_cons, hsent]
    rfl
  · rw [hb, hw]
    exact .document hr

def saved (uri : String) : Value :=
  .object [("method", .string "textDocument/didSave"),
    ("params", .object [("textDocument", .object [("uri", .string uri)])])]

theorem fits_saved (uri : String) : Fits IsInt Json.maxDepth (saved uri) := by
  have hdocument : Fits IsInt 125 (.object [("uri", .string uri)]) :=
    .object (by simp) (by simpa using .string uri)
  have hparams : Fits IsInt 126 (.object [("textDocument", .object [("uri", .string uri)])]) :=
    .object (by simp) (by simpa using hdocument)
  refine .object (by simp) ?_
  simp only [List.forall_mem_cons]
  exact ⟨.string _, hparams, by simp⟩

/-- Three spellings of one document, the canonical one among them, another document and a body that
is no text. -/
theorem history_of_spellings :
    let early := [(completion "file:///c%3A/a").bytes, (saved "file:///D:/b").bytes]
    let late : List (List UInt8) := [[255], (completion "file:c:/a").bytes]
    let bodies := early ++ (saved "file:///C:/a").bytes :: late
    let name := String.ofList (DriveUri.chars ⟨'c', ['/', 'a']⟩)
    (documents (spells name) bodies).length = 3 ∧
      List.Forall₂ (Renamed name) (documents (spells name) bodies)
        (documents (· = name) (forwarded bodies)) ∧
      ∃ copy, forwarded bodies =
          forwarded early ++ (saved "file:///C:/a").bytes :: copy :: forwarded late ∧
        Renamed "file:///c%3A/a" (Message.ofBody (saved "file:///C:/a").bytes)
          (Message.ofBody copy) := by
  intro early late bodies name
  have hints : ∀ body ∈ bodies, ∀ l ∈ literals body, IsInteger l := by
    have hl : ∀ body ∈ bodies, ∀ l ∈ literals body, l = ⟨true, ['7'], [], none⟩ := by
      decide +kernel
    intro body hb l hm
    rw [hl body hb l hm]
    exact ⟨⟨rfl, rfl⟩, nofun, fun _ => by decide⟩
  have hcompletion : ∀ uri, Placed (completion uri).bytes := fun uri =>
    placed_of_get? (ofBytes?_bytes (fits_completion uri)) rfl
  have hsaved : ∀ uri, Placed (saved uri).bytes := fun uri =>
    placed_of_get? (ofBytes?_bytes (fits_saved uri)) rfl
  have hother : Placed [255] := by
    intro kind method uri v hb
    have hparsed := (ofBody_eq_document_iff.mp hb).1
    exact nomatch (show Value.ofBytes? [255] = none by decide).symm.trans hparsed
  have hplaced : ∀ body ∈ bodies, Placed body := by
    simp only [bodies, early, late, List.cons_append, List.nil_append, List.forall_mem_cons]
    exact ⟨hcompletion _, hsaved _, hsaved _, hother, hcompletion _, by simp⟩
  obtain ⟨hhistory, hmirrored⟩ := history_of_bodies ⟨'c', ['/', 'a']⟩ hints hplaced
  have hparsed := ofBytes?_bytes (fits_saved "file:///C:/a")
  have hdocument : Message.ofBody (saved "file:///C:/a").bytes =
      .document .lifecycle "textDocument/didSave" "file:///C:/a" (saved "file:///C:/a") :=
    ofBody_eq_document_iff.mpr ⟨hparsed, rfl, by decide, rfl⟩
  exact ⟨by decide +kernel, hhistory,
    hmirrored early _ late _ _ _ _ rfl hdocument (by decide +kernel)⟩

end LspRelay.Proofs.DocumentHistory
