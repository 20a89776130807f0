import LspRelay.Proofs.DocumentCopies

namespace LspRelay.Proofs.LogMessages
open Json (Value)
open Documents DocumentCopies Json.Numbers Json.Text Json.TreeEdits Json.Trees

variable {body : List UInt8} {v w message : Value}

theorem not_string_iff : v.string? = none ↔ ∀ s, v ≠ .string s := by
  cases v <;> simp [Json.Tree.string?]

theorem unquotedMessage?_eq_some_iff :
    unquotedMessage? v = some message ↔
      (v.member? "params").bind (onlyField? "message") = some message ∧
        ∀ s, message ≠ .string s := by
  rw [← not_string_iff]
  unfold unquotedMessage?
  cases v.member? "params" with
  | none => simp
  | some params =>
    cases hm : onlyField? "message" params with
    | none => simp [hm]
    | some m =>
      simp only [Option.bind_eq_bind, Option.bind_some, hm, Option.some.injEq]
      constructor
      · intro h
        split at h
        · cases h
        · rename_i hs
          cases h
          exact ⟨rfl, by simpa using hs⟩
      · rintro ⟨rfl, hs⟩
        simp [hs]

theorem ofMethod?_logMethod : DocumentKind.ofMethod? logMethod = none := by decide +kernel

theorem ofValue_eq_logMessage_iff :
    Message.ofValue v = .logMessage message w ↔
      v = w ∧ v.member? "method" = some (.string logMethod) ∧
        unquotedMessage? v = some message := by
  rw [← bind_string?_eq_some_iff]
  unfold Message.ofValue
  cases (v.member? "method").bind Json.Tree.string? with
  | none => simp
  | some m =>
    simp only [Option.some.injEq]
    by_cases hm : m = logMethod
    · subst hm
      rw [ofMethod?_logMethod]
      cases unquotedMessage? v with
      | none => simp
      | some x =>
        simp only [if_true, Message.logMessage.injEq, true_and, Option.some.injEq]
        exact and_comm
    · simp only [hm, if_false, false_and, and_false, iff_false]
      intro h
      split at h
      · split at h <;> cases h
      · cases h

/-- Everything that makes a body a log message that is no string. -/
theorem ofBody_eq_logMessage_iff :
    Message.ofBody body = .logMessage message v ↔
      Value.ofBytes? body = some v ∧ v.member? "method" = some (.string logMethod) ∧
        unquotedMessage? v = some message := by
  unfold Message.ofBody
  cases Value.ofBytes? body with
  | none => simp
  | some x =>
    simp only [ofValue_eq_logMessage_iff, Option.some.injEq]
    constructor
    · rintro ⟨rfl, h⟩
      exact ⟨rfl, h⟩
    · rintro ⟨rfl, h⟩
      exact ⟨rfl, h⟩

/-- A log message that is no string and stands where keys alone lead to it. Parameters that are
written as an array lead nowhere. -/
structure Unquoted (body : List UInt8) (v message : Value) : Prop where
  parsed : Value.ofBytes? body = some v
  named : v.member? "method" = some (.string logMethod)
  held : v.get? messagePath = some message
  plain : ∀ s, message ≠ .string s

/-- Where keys lead to the message, recognition takes it from the same place. -/
theorem params_message_of_get? (h : v.get? messagePath = some message) :
    (v.member? "params").bind (onlyField? "message") = some message := by
  simp only [messagePath, Json.Tree.get?, Option.bind_eq_some_iff, Option.some.injEq] at h
  obtain ⟨params, hp, x, hm, rfl⟩ := h
  rw [hp]
  exact onlyField?_of_member? hm

theorem Unquoted.ofBody (h : Unquoted body v message) :
    Message.ofBody body = .logMessage message v :=
  ofBody_eq_logMessage_iff.mpr ⟨h.parsed, h.named,
    unquotedMessage?_eq_some_iff.mpr ⟨params_message_of_get? h.held, h.plain⟩⟩

theorem bodies_of_unquoted (h : Unquoted body v message)
    (hw : Replaced message (.string message.text) messagePath v w) :
    (Edit.toClient body).bodies = [w.bytes] := by
  have hs : v.set? messagePath (.string message.text) = some w := set?_eq_some_iff.mpr ⟨_, hw⟩
  simp only [Edit.toClient, h.ofBody, hs]

/-- Only a body whose message is put into text is not left alone. -/
theorem unquoted_of_changed (h : Edit.toClient body ≠ Edit.unchanged body) :
    ∃ v message, Unquoted body v message := by
  unfold Edit.toClient at h
  split at h
  · rename_i message v hb
    obtain ⟨hp, hn, hm⟩ := ofBody_eq_logMessage_iff.mp hb
    obtain ⟨hfield, hplain⟩ := unquotedMessage?_eq_some_iff.mp hm
    split at h
    · exact absurd rfl h
    · rename_i w hs
      obtain ⟨old, hr⟩ := set?_eq_some_iff.mp hs
      have hg := hr.get?_old
      have hsame : some old = some message := (params_message_of_get? hg).symm.trans hfield
      cases hsame
      exact ⟨v, message, hp, hn, hg, hplain⟩
  · exact absurd rfl h

/-- Another body is sent only in place of one whose message is put into text. -/
theorem unquoted_of_bodies (h : (Edit.toClient body).bodies ≠ [body]) :
    ∃ v message, Unquoted body v message :=
  unquoted_of_changed fun he => h (congrArg Edited.bodies he)

/-- A body that is sent and is not the one that came has the text of a log message in it. -/
theorem text_of_bodies {sent : List UInt8} (hsent : sent ∈ (Edit.toClient body).bodies)
    (hne : sent ≠ body) :
    ∃ v w message, Unquoted body v message ∧
      Replaced message (.string message.text) messagePath v w ∧ w.bytes = sent := by
  have hchanged : (Edit.toClient body).bodies ≠ [body] := by
    intro he
    rw [he] at hsent
    exact hne (List.mem_singleton.mp hsent)
  obtain ⟨v, message, h⟩ := unquoted_of_bodies hchanged
  obtain ⟨w, hr⟩ := exists_replaced h.held (.string message.text)
  rw [bodies_of_unquoted h hr] at hsent
  exact ⟨v, w, message, h, hr, (List.mem_singleton.mp hsent).symm⟩

/-- To the client, a body goes on as it came unless it is a log message with something other than a
string at its path of keys; then one body goes in its place, which has the text of that value there
and differs in no other member and no order of members. -/
theorem toClient_bodies (body : List UInt8) :
    (∀ v message, Unquoted body v message →
      ∃ w, Replaced message (.string message.text) messagePath v w ∧
        (Edit.toClient body).bodies = [w.bytes]) ∧
    ((∀ v message, ¬ Unquoted body v message) → (Edit.toClient body).bodies = [body]) := by
  refine ⟨?_, ?_⟩
  · intro v message h
    obtain ⟨w, hw⟩ := exists_replaced h.held (.string message.text)
    exact ⟨w, hw, bodies_of_unquoted h hw⟩
  · intro h
    refine Classical.byContradiction fun hne => ?_
    obtain ⟨v, message, hu⟩ := unquoted_of_bodies hne
    exact h v message hu

def logged (message : Value) : Value :=
  .object [("method", .string logMethod),
    ("params", .object [("type", .number (.int 3)), ("message", message)])]

theorem fits_logged (h : Fits IsInt 125 message) : Fits IsInt Json.maxDepth (logged message) := by
  have hparams : Fits IsInt 126 (.object [("type", .number (.int 3)), ("message", message)]) := by
    refine .object (by simp) ?_
    simp only [List.forall_mem_cons]
    exact ⟨.number ⟨3, by simp [InRange], rfl⟩, h, by simp⟩
  refine .object (by simp) ?_
  simp only [List.forall_mem_cons]
  exact ⟨.string _, hparams, by simp⟩

def clutter : Value :=
  .array [.string "\"C:\\\n\x1f\"", .number (.int (-9223372036854775808)), .null]

theorem unquoted_clutter : Unquoted (logged clutter).bytes (logged clutter) clutter := by
  have hfits : Fits IsInt 125 clutter := by
    refine .array ?_
    simp only [List.forall_mem_cons]
    exact ⟨.string _, .number ⟨-9223372036854775808, by simp [InRange], rfl⟩, .null, by simp⟩
  exact ⟨ofBytes?_bytes (fits_logged hfits), rfl, rfl, by simp [clutter]⟩

theorem toClient_bodies_clutter :
    (∃ w, Replaced clutter (.string clutter.text) messagePath (logged clutter) w ∧
      (Edit.toClient (logged clutter).bytes).bodies = [w.bytes]) ∧
    (Edit.toClient (logged (.string "ready")).bytes).bodies =
      [(logged (.string "ready")).bytes] := by
  refine ⟨(toClient_bodies _).1 _ _ unquoted_clutter, (toClient_bodies _).2 ?_⟩
  intro v message h
  cases Option.some.inj ((ofBytes?_bytes (fits_logged (.string "ready"))).symm.trans h.parsed)
  cases h.held
  exact h.plain "ready" rfl

/-- What a client is sent for a log message of integers reads back: the text in place of the message
is the text of that very message, and every other member is as it was. -/
theorem message_reads_back (hints : ∀ l ∈ literals body, IsInteger l)
    (h : Unquoted body v message) :
    ∃ sent w text, (Edit.toClient body).bodies = [sent] ∧ Value.ofBytes? sent = some w ∧
      w.get? messagePath = some (.string text) ∧ Value.ofString? text = some message ∧
      Replaced message (.string text) messagePath v w := by
  obtain ⟨w, hw⟩ := exists_replaced h.held (.string message.text)
  have hfits := fits_ofBytes? hints h.parsed
  exact ⟨w.bytes, w, message.text, bodies_of_unquoted h hw, ofBytes?_bytes (hfits.replaced hw),
    hw.get?_new, ofString?_text (hfits.get? h.held), hw⟩

theorem message_reads_back_clutter :
    (∀ l ∈ literals (logged clutter).bytes, IsInteger l) ∧
      Unquoted (logged clutter).bytes (logged clutter) clutter ∧
      ∃ sent w text, (Edit.toClient (logged clutter).bytes).bodies = [sent] ∧
        Value.ofBytes? sent = some w ∧ w.get? messagePath = some (.string text) ∧
        Value.ofString? text = some clutter ∧
        Replaced clutter (.string text) messagePath (logged clutter) w := by
  have hints : ∀ l ∈ literals (logged clutter).bytes, IsInteger l := by
    have hl : literals (logged clutter).bytes =
        [⟨false, ['3'], [], none⟩, ⟨true, "9223372036854775808".toList, [], none⟩] := by
      decide +kernel
    rw [hl]
    simp only [List.forall_mem_cons]
    exact ⟨⟨⟨rfl, rfl⟩, fun _ => by decide +kernel, nofun⟩,
      ⟨⟨rfl, rfl⟩, nofun, fun _ => by decide +kernel⟩, by simp⟩
  exact ⟨hints, unquoted_clutter, message_reads_back hints unquoted_clutter⟩

end LspRelay.Proofs.LogMessages
