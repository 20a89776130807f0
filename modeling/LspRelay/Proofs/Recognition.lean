import LspRelay.Proofs.LogMessages

namespace LspRelay.Proofs.Recognition
open Json (Value)
open Documents Json.Text Json.TreeEdits Json.Trees LogMessages

variable {body : List UInt8} {v x message params document : Value} {kind : DocumentKind}
  {name method uri new : String}

/-- The value of a record with one field: the member of that name, whatever other members there are,
or the only item of an array. -/
inductive Field (name : String) : Value → Value → Prop where
  | member {ms : List (String × Value)} {x : Value} (held : ms.lookup name = some x) :
      Field name (.object ms) x
  | item (x : Value) : Field name (.array [x]) x

theorem onlyField?_eq_some_iff : onlyField? name v = some x ↔ Field name v x := by
  constructor
  · intro h
    unfold onlyField? at h
    split at h
    · exact .member h
    · cases h
      exact .item x
    · cases h
  · intro h
    cases h with
    | member held => exact held
    | item => rfl

/-- With a record that is written as an object, the field is reached by its key. -/
theorem Field.member? {ms : List (String × Value)} (h : Field name (.object ms) x) :
    Json.Tree.member? name (.object ms) = some x := by
  cases h with
  | member held => exact held

/-- A body that names a document: an object with a method of the kinds named, whose parameters and
their document are records, each in either form, down to a string. -/
structure NamesDocument (body : List UInt8) (kind : DocumentKind) (method uri : String)
    (v : Value) : Prop where
  parsed : Value.ofBytes? body = some v
  object : ∃ ms, v = .object ms
  named : v.member? "method" = some (.string method)
  classified : kind = .lifecycle ∧ method ∈ DocumentKind.lifecycleMethods ∨
    kind = .completion ∧ method = DocumentKind.completionMethod
  located : ∃ params document, v.member? "params" = some params ∧
    Field "textDocument" params document ∧ Field "uri" document (.string uri)

/-- A body that logs something other than a string. -/
structure LogsValue (body : List UInt8) (message v : Value) : Prop where
  parsed : Value.ofBytes? body = some v
  object : ∃ ms, v = .object ms
  named : v.member? "method" = some (.string logMethod)
  located : ∃ params, v.member? "params" = some params ∧ Field "message" params message
  plain : ∀ s, message ≠ .string s

theorem object_of_member? (h : v.member? name = some x) : ∃ ms, v = .object ms := by
  cases v with
  | object ms => exact ⟨ms, rfl⟩
  | _ => cases h

theorem documentUri?_eq_some_iff :
    documentUri? v = some uri ↔
      ∃ params document, v.member? "params" = some params ∧
        Field "textDocument" params document ∧ Field "uri" document (.string uri) := by
  simp only [documentUri?, Option.bind_eq_bind, Option.bind_eq_some_iff, string?_eq_some_iff,
    onlyField?_eq_some_iff]
  constructor
  · rintro ⟨params, hp, document, hd, x, hu, rfl⟩
    exact ⟨params, document, hp, hd, hu⟩
  · rintro ⟨params, document, hp, hd, hu⟩
    exact ⟨params, hp, document, hd, _, hu, rfl⟩

theorem ofBody_eq_document_iff_names :
    Message.ofBody body = .document kind method uri v ↔ NamesDocument body kind method uri v := by
  rw [ofBody_eq_document_iff, ofMethod?_eq_some_iff, documentUri?_eq_some_iff]
  constructor
  · rintro ⟨hparsed, hnamed, hclassified, hlocated⟩
    exact ⟨hparsed, object_of_member? hnamed, hnamed, hclassified, hlocated⟩
  · rintro ⟨hparsed, -, hnamed, hclassified, hlocated⟩
    exact ⟨hparsed, hnamed, hclassified, hlocated⟩

theorem ofBody_eq_logMessage_iff_logs :
    Message.ofBody body = .logMessage message v ↔ LogsValue body message v := by
  rw [ofBody_eq_logMessage_iff, unquotedMessage?_eq_some_iff]
  simp only [Option.bind_eq_some_iff, onlyField?_eq_some_iff]
  constructor
  · rintro ⟨hparsed, hnamed, hlocated, hplain⟩
    exact ⟨hparsed, object_of_member? hnamed, hnamed, hlocated, hplain⟩
  · rintro ⟨hparsed, -, hnamed, hlocated, hplain⟩
    exact ⟨hparsed, hnamed, hlocated, hplain⟩

theorem ofBody_eq_other_iff :
    Message.ofBody body = .other ↔
      (∀ kind method uri v, ¬ NamesDocument body kind method uri v) ∧
        ∀ message v, ¬ LogsValue body message v := by
  simp only [← ofBody_eq_document_iff_names, ← ofBody_eq_logMessage_iff_logs]
  cases Message.ofBody body <;> simp

/-- Parameters and document that are both written as objects. -/
def Keyed (v : Value) : Prop :=
  ∃ ps ds, v.member? "params" = some (.object ps) ∧ ps.lookup "textDocument" = some (.object ds)

theorem keyed_of_get? (h : v.get? uriPath = some x) : Keyed v := by
  simp only [uriPath, Json.Tree.get?, Option.bind_eq_some_iff] at h
  obtain ⟨params, hp, document, hd, _, hu, -⟩ := h
  obtain ⟨ps, rfl⟩ := object_of_member? hd
  obtain ⟨ds, rfl⟩ := object_of_member? hu
  exact ⟨ps, ds, hp, hd⟩

/-- Through objects alone the keys lead to the URI that was recognised. -/
theorem NamesDocument.get?_of_keyed (h : NamesDocument body kind method uri v) (hk : Keyed v) :
    v.get? uriPath = some (.string uri) := by
  obtain ⟨params, document, hp, hd, hu⟩ := h.located
  obtain ⟨ps, ds, hps, hds⟩ := hk
  cases hp.symm.trans hps
  cases hd.member?.symm.trans hds
  simp [uriPath, Json.Tree.get?, hps, hd.member?, hu.member?]

/-- The URI of a document message can be replaced through its keys if and only if objects alone lead
to it. -/
theorem NamesDocument.setUri?_isSome_iff (h : NamesDocument body kind method uri v) :
    (setUri? new v).isSome ↔ Keyed v := by
  rw [setUri?, set?_isSome_iff]
  constructor
  · rintro ⟨old, hg⟩
    exact keyed_of_get? hg
  · intro hk
    exact ⟨_, h.get?_of_keyed hk⟩

theorem LogsValue.get?_isSome_iff (h : LogsValue body message v) :
    (v.get? messagePath).isSome ↔ ∃ ps, v.member? "params" = some (.object ps) := by
  obtain ⟨params, hp, hm⟩ := h.located
  simp only [messagePath, Json.Tree.get?, hp, Option.bind_some, Option.isSome_bind]
  constructor
  · intro hsome
    cases hm with
    | member held => exact ⟨_, rfl⟩
    | item => simp [Json.Tree.member?] at hsome
  · rintro ⟨ps, hps⟩
    cases hps
    simp [hm.member?]

theorem LogsValue.get?_eq (h : LogsValue body message v) (hg : v.get? messagePath = some x) :
    x = message := by
  obtain ⟨params, hp, hm⟩ := h.located
  have hfield := params_message_of_get? hg
  rw [hp, Option.bind_some, onlyField?_eq_some_iff.mpr hm] at hfield
  exact (Option.some.inj hfield).symm

/-- What a body is recognised as, told by its shape. A recognised URI can be replaced if and only if
objects alone lead to it, and it is that very URI which is replaced; a recognised log message is
found by its keys if and only if the parameters are an object, and it is that very value which is
found. -/
theorem recognised_by_shape (body : List UInt8) :
    (∀ kind method uri v, Message.ofBody body = .document kind method uri v ↔
      NamesDocument body kind method uri v) ∧
    (∀ message v, Message.ofBody body = .logMessage message v ↔ LogsValue body message v) ∧
    (Message.ofBody body = .other ↔
      (∀ kind method uri v, ¬ NamesDocument body kind method uri v) ∧
        ∀ message v, ¬ LogsValue body message v) ∧
    (∀ kind method uri v, Message.ofBody body = .document kind method uri v → ∀ new,
      ((setUri? new v).isSome ↔ Keyed v) ∧
        ∀ w, setUri? new v = some w → Replaced (.string uri) (.string new) uriPath v w) ∧
    ∀ message v, Message.ofBody body = .logMessage message v →
      ((v.get? messagePath).isSome ↔ ∃ ps, v.member? "params" = some (.object ps)) ∧
        ∀ x, v.get? messagePath = some x → x = message := by
  refine ⟨fun _ _ _ _ => ofBody_eq_document_iff_names, fun _ _ => ofBody_eq_logMessage_iff_logs,
    ofBody_eq_other_iff, ?_, ?_⟩
  · intro kind method uri v hb new
    have h := ofBody_eq_document_iff_names.mp hb
    refine ⟨h.setUri?_isSome_iff, ?_⟩
    intro w hw
    obtain ⟨old, hr⟩ := set?_eq_some_iff.mp hw
    have hold := hr.get?_old
    rw [h.get?_of_keyed (keyed_of_get? hold)] at hold
    cases hold
    exact hr
  · intro message v hb
    have h := ofBody_eq_logMessage_iff_logs.mp hb
    exact ⟨h.get?_isSome_iff, fun x hx => h.get?_eq hx⟩

/-- A request to complete whose records are both written as arrays. -/
def listed (uri : String) : Value :=
  .object [("method", .string "textDocument/completion"),
    ("params", .array [.array [.string uri]])]

theorem names_listed (uri : String) :
    NamesDocument (listed uri).bytes .completion "textDocument/completion" uri (listed uri) := by
  have hfits : Fits IsInt 125 (.array [.string uri]) := .array (by simpa using .string uri)
  have hparams : Fits IsInt 126 (.array [.array [.string uri]]) := .array (by simpa using hfits)
  refine ⟨ofBytes?_bytes (.object (by simp) ?_), ⟨_, rfl⟩, rfl, .inr ⟨rfl, rfl⟩,
    ⟨_, _, rfl, .item _, .item _⟩⟩
  simp only [List.forall_mem_cons]
  exact ⟨.string _, hparams, by simp⟩

theorem names_completion (uri : String) :
    NamesDocument (completion uri).bytes .completion "textDocument/completion" uri
      (completion uri) :=
  ⟨ofBytes?_bytes (fits_completion uri), ⟨_, rfl⟩, rfl, .inr ⟨rfl, rfl⟩,
    ⟨_, _, rfl, .member rfl, .member rfl⟩⟩

theorem recognised_by_shape_listed :
    Message.ofBody (listed "file:///C:/a").bytes =
        .document .completion "textDocument/completion" "file:///C:/a" (listed "file:///C:/a") ∧
      ¬ Keyed (listed "file:///C:/a") ∧ ¬ (setUri? "file:///d:/" (listed "file:///C:/a")).isSome ∧
      (setUri? "file:///d:/" (completion "file:///C:/a")).isSome ∧
      Message.ofBody (logged clutter).bytes = .logMessage clutter (logged clutter) ∧
      ((logged clutter).get? messagePath).isSome := by
  obtain ⟨hnames, -, -, hslot, -⟩ := recognised_by_shape (listed "file:///C:/a").bytes
  have hlisted := (hnames _ _ _ _).mpr (names_listed "file:///C:/a")
  have hunkeyed : ¬ Keyed (listed "file:///C:/a") := by
    rintro ⟨ps, ds, hp, -⟩
    cases hp
  obtain ⟨hnames', -, -, hslot', -⟩ := recognised_by_shape (completion "file:///C:/a").bytes
  have hcompletion := (hnames' _ _ _ _).mpr (names_completion "file:///C:/a")
  obtain ⟨-, hlogs, -, -, hheld⟩ := recognised_by_shape (logged clutter).bytes
  have hlogged := (hlogs clutter (logged clutter)).mpr
    ⟨unquoted_clutter.parsed, ⟨_, rfl⟩, rfl, ⟨_, rfl, .member rfl⟩, unquoted_clutter.plain⟩
  exact ⟨hlisted, hunkeyed, mt (hslot _ _ _ _ hlisted _).1.mp hunkeyed,
    (hslot' _ _ _ _ hcompletion _).1.mpr ⟨_, _, rfl, rfl⟩, hlogged,
    (hheld _ _ hlogged).1.mpr ⟨_, rfl⟩⟩

end LspRelay.Proofs.Recognition
