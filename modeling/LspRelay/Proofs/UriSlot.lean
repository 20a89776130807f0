import LspRelay.Proofs.Recognition

namespace LspRelay.Proofs.UriSlot
open Json (Value)
open Documents Json.TreeEdits Recognition

variable {v w : Value} {a b : String}

/-- Whether a URI could be put in, and the message after it. One that has no place for it stays. -/
def putUri (uri : String) (v : Value) : Bool × Value :=
  match setUri? uri v with
  | some w => (true, w)
  | none => (false, v)

def slot : List Access := uriPath.map .key

/-- Objects alone that lead to a value in the place of the URI, be it a string or not. -/
def HasSlot (v : Value) : Prop :=
  ∃ ms ps ds x, v = .object ms ∧ ms.lookup "params" = some (.object ps) ∧
    ps.lookup "textDocument" = some (.object ds) ∧ ds.lookup "uri" = some x

theorem hasSlot_iff : HasSlot v ↔ ∃ x, v.get? uriPath = some x := by
  constructor
  · rintro ⟨ms, ps, ds, x, rfl, hp, hd, hu⟩
    exact ⟨x, by simp [uriPath, Json.Tree.get?, Json.Tree.member?, hp, hd, hu]⟩
  · rintro ⟨x, hx⟩
    simp only [uriPath, Json.Tree.get?, Option.bind_eq_some_iff, Option.some.injEq] at hx
    obtain ⟨params, hp, document, hd, y, hu, rfl⟩ := hx
    obtain ⟨ms, rfl⟩ := object_of_member? hp
    obtain ⟨ps, rfl⟩ := object_of_member? hd
    obtain ⟨ds, rfl⟩ := object_of_member? hu
    exact ⟨ms, ps, ds, y, rfl, hp, hd, hu⟩

theorem putUri_of_some (h : setUri? a v = some w) : putUri a v = (true, w) := by
  simp [putUri, h]

theorem putUri_of_none (h : setUri? a v = none) : putUri a v = (false, v) := by
  simp [putUri, h]

theorem putUri_done_iff : (putUri a v).1 = true ↔ HasSlot v := by
  have hset : (setUri? a v).isSome ↔ ∃ x, v.get? uriPath = some x := set?_isSome_iff
  rw [hasSlot_iff, ← hset]
  cases hs : setUri? a v with
  | none => simp [putUri_of_none hs]
  | some w => simp [putUri_of_some hs]

/-- What has been put in differs from the message in that place only. -/
theorem replaced_of_done (h : (putUri a v).1 = true) :
    ∃ old, Replaced old (.string a) uriPath v (putUri a v).2 := by
  cases hs : setUri? a v with
  | none => simp [putUri_of_none hs] at h
  | some w =>
    rw [putUri_of_some hs]
    exact set?_eq_some_iff.mp hs

theorem putUri_of_not_done (h : (putUri a v).1 = false) : (putUri a v).2 = v := by
  cases hs : setUri? a v with
  | none => rw [putUri_of_none hs]
  | some w => simp [putUri_of_some hs] at h

theorem putUri_putUri (a b : String) (v : Value) : putUri b (putUri a v).2 = putUri b v := by
  cases hs : setUri? a v with
  | none => rw [putUri_of_none hs]
  | some w =>
    obtain ⟨old, hr⟩ := set?_eq_some_iff.mp hs
    obtain ⟨x, hv, hw⟩ := hr.again (.string b)
    rw [putUri_of_some hs, putUri_of_some (set?_eq_some_iff.mpr ⟨_, hv⟩),
      putUri_of_some (set?_eq_some_iff.mpr ⟨_, hw⟩)]

theorem putUri_of_get? (h : v.get? uriPath = some (.string a)) : putUri a v = (true, v) :=
  putUri_of_some (set?_get? h)

/-- A URI can be put into a message if and only if objects alone lead to its place. Then it stands
there, whatever lies neither on the way to it nor behind it is as it was, and no object outside that
place has other keys or another order of them; if it cannot, the message stays. The second of two
URIs counts as if it were the only one, and putting in the one that is there changes nothing. -/
theorem putUri_lens (v : Value) (a b : String) :
    ((putUri a v).1 = true ↔ HasSlot v) ∧
    ((putUri a v).1 = true →
      at? (putUri a v).2 slot = some (.string a) ∧
      (∀ p, ¬ p <+: slot → ¬ slot <+: p → at? (putUri a v).2 p = at? v p) ∧
      ∀ p, ¬ slot <+: p → (at? (putUri a v).2 p).bind keys? = (at? v p).bind keys?) ∧
    ((putUri a v).1 = false → (putUri a v).2 = v) ∧
    putUri b (putUri a v).2 = putUri b v ∧
    (at? v slot = some (.string a) → putUri a v = (true, v)) := by
  refine ⟨putUri_done_iff, ?_, putUri_of_not_done, putUri_putUri a b v, ?_⟩
  · intro h
    obtain ⟨old, hr⟩ := replaced_of_done h
    refine ⟨(at?_keys _ uriPath).trans hr.get?_new, ?_, ?_⟩
    · intro p hbefore hbehind
      exact hr.at?_of_apart hbefore hbehind
    · intro p hbehind
      exact hr.keys?_at? hbehind
  · intro h
    rw [slot, at?_keys] at h
    exact putUri_of_get? h

/-- A place that holds a number, between an array and a member of the same name further up. -/
theorem putUri_lens_number :
    let params (uri : Value) : Value :=
      .object [("list", .array [.null, .bool true]), ("textDocument", .object [("uri", uri)])]
    let v (uri : Value) : Value := .object [("uri", .string "file:///d:/"), ("params", params uri)]
    putUri "a" (v (.number (.int 7))) = (true, v (.string "a")) ∧ HasSlot (v (.number (.int 7))) ∧
      at? (v (.string "a")) slot = some (.string "a") ∧
      at? (v (.string "a")) [.key "params", .key "list", .index 1] =
        at? (v (.number (.int 7))) [.key "params", .key "list", .index 1] ∧
      putUri "b" (v (.string "a")) = putUri "b" (v (.number (.int 7))) ∧
      putUri "a" (v (.string "a")) = (true, v (.string "a")) ∧
      putUri "a" (.array [v (.number (.int 7))]) = (false, .array [v (.number (.int 7))]) := by
  intro params v
  have hput : putUri "a" (v (.number (.int 7))) = (true, v (.string "a")) := rfl
  obtain ⟨hdone, hframe, -, hagain, -⟩ := putUri_lens (v (.number (.int 7))) "a" "b"
  obtain ⟨-, -, -, -, hsame⟩ := putUri_lens (v (.string "a")) "a" "b"
  have htrue : (putUri "a" (v (.number (.int 7)))).1 = true := by rw [hput]
  obtain ⟨hslot, hapart, -⟩ := hframe htrue
  rw [hput] at hslot hapart hagain
  refine ⟨hput, hdone.mp htrue, hslot, hapart _ ?_ ?_, hagain, hsame hslot, rfl⟩
  · simp [slot, uriPath, List.cons_prefix_cons]
  · simp [slot, uriPath, List.cons_prefix_cons]

end LspRelay.Proofs.UriSlot
