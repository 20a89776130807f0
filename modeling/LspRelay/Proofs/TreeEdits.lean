import LspRelay.Json.Value

namespace LspRelay.Json.TreeEdits

variable {N : Type} {old new v w : Tree N} {k : String} {ks : List String}

/-- Two trees with the same members in the same order, but for what stands at one path of keys. -/
inductive Replaced (old new : Tree N) : List String → Tree N → Tree N → Prop where
  | here : Replaced old new [] old new
  | member {k : String} {ks : List String} {v w : Tree N} {before after : List (String × Tree N)}
      (first : k ∉ before.map Prod.fst) (inner : Replaced old new ks v w) :
      Replaced old new (k :: ks) (.object (before ++ (k, v) :: after))
        (.object (before ++ (k, w) :: after))

theorem lookup_split {ms : List (String × Tree N)} :
    ms.lookup k = some v ↔
      ∃ before after, ms = before ++ (k, v) :: after ∧ k ∉ before.map Prod.fst := by
  rw [List.lookup_eq_some_iff]
  constructor
  · rintro ⟨before, after, rfl, h⟩
    refine ⟨before, after, rfl, ?_⟩
    intro hk
    obtain ⟨m, hm, he⟩ := List.mem_map.mp hk
    simpa [he] using h m hm
  · rintro ⟨before, after, rfl, h⟩
    refine ⟨before, after, rfl, ?_⟩
    intro m hm
    simpa using fun he : k = m.1 => h (List.mem_map.mpr ⟨m, hm, he.symm⟩)

theorem insert_split {before after : List (String × Tree N)} (h : k ∉ before.map Prod.fst) :
    Tree.insert k w (before ++ (k, v) :: after) = before ++ (k, w) :: after := by
  induction before with
  | nil => simp [Tree.insert]
  | cons m before ih =>
    simp only [List.map_cons, List.mem_cons, not_or] at h
    simp [Tree.insert, Ne.symm h.1, ih h.2]

/-- An edit changes the value at its path and nothing else. -/
theorem set?_eq_some_iff : v.set? ks new = some w ↔ ∃ old, Replaced old new ks v w := by
  induction ks generalizing v w with
  | nil =>
    constructor
    · intro h
      have he : new = w := by simpa [Tree.set?] using h
      subst he
      exact ⟨v, .here⟩
    · rintro ⟨old, h⟩
      cases h
      simp [Tree.set?]
  | cons k ks ih =>
    constructor
    · intro h
      cases v with
      | object ms =>
        simp only [Tree.set?, Option.bind_eq_bind, Option.bind_eq_some_iff,
          Option.some.injEq] at h
        obtain ⟨inner, hl, changed, hs, rfl⟩ := h
        obtain ⟨before, after, rfl, hk⟩ := lookup_split.mp hl
        obtain ⟨old, hr⟩ := ih.mp hs
        rw [insert_split hk]
        exact ⟨old, .member hk hr⟩
      | _ => simp [Tree.set?] at h
    · rintro ⟨old, h⟩
      cases h with
      | member first inner =>
        rename_i v w before after
        simp [Tree.set?, lookup_split.mpr ⟨before, after, rfl, first⟩, ih.mpr ⟨old, inner⟩,
          insert_split first]

theorem Replaced.get?_old (h : Replaced old new ks v w) : v.get? ks = some old := by
  induction h with
  | here => rfl
  | member first inner ih =>
    simpa [Tree.get?, Tree.member?, lookup_split.mpr ⟨_, _, rfl, first⟩] using ih

theorem Replaced.get?_new (h : Replaced old new ks v w) : w.get? ks = some new := by
  induction h with
  | here => rfl
  | member first inner ih =>
    simpa [Tree.get?, Tree.member?, lookup_split.mpr ⟨_, _, rfl, first⟩] using ih

/-- A value that is there can be replaced. -/
theorem exists_replaced (h : v.get? ks = some old) (new : Tree N) :
    ∃ w, Replaced old new ks v w := by
  induction ks generalizing v with
  | nil =>
    have he : v = old := by simpa [Tree.get?] using h
    subst he
    exact ⟨new, .here⟩
  | cons k ks ih =>
    simp only [Tree.get?, Option.bind_eq_some_iff] at h
    obtain ⟨inner, hm, hg⟩ := h
    obtain ⟨changed, hr⟩ := ih hg
    cases v with
    | object ms =>
      obtain ⟨before, after, rfl, hk⟩ := lookup_split.mp hm
      exact ⟨_, .member hk hr⟩
    | _ => simp [Tree.member?] at hm

/-- What can be replaced is what is there. -/
theorem set?_isSome_iff : (v.set? ks new).isSome ↔ ∃ old, v.get? ks = some old := by
  rw [Option.isSome_iff_exists]
  constructor
  · rintro ⟨w, hw⟩
    obtain ⟨old, hr⟩ := set?_eq_some_iff.mp hw
    exact ⟨old, hr.get?_old⟩
  · rintro ⟨old, hg⟩
    obtain ⟨w, hr⟩ := exists_replaced hg new
    exact ⟨w, set?_eq_some_iff.mpr ⟨old, hr⟩⟩

/-- Putting back what was there changes nothing. -/
theorem Replaced.eq_self (h : Replaced old old ks v w) : w = v := by
  induction h with
  | here => rfl
  | member first inner ih => rw [ih]

/-- What can be put in once can be put in again, over the old value as over the new one. -/
theorem Replaced.again (h : Replaced old new ks v w) (other : Tree N) :
    ∃ x, Replaced old other ks v x ∧ Replaced new other ks w x := by
  induction h with
  | here => exact ⟨other, .here, .here⟩
  | member first inner ih =>
    obtain ⟨x, hv, hw⟩ := ih
    exact ⟨_, .member first hv, .member first hw⟩

theorem set?_get? (h : v.get? ks = some old) : v.set? ks old = some v := by
  obtain ⟨w, hr⟩ := exists_replaced h old
  rw [set?_eq_some_iff.mpr ⟨old, hr⟩, hr.eq_self]

theorem lookup_of_ne {before after : List (String × Tree N)} {j : String} (hj : j ≠ k) :
    (before ++ (k, w) :: after).lookup j = (before ++ (k, v) :: after).lookup j := by
  have hb : (j == k) = false := by simpa using hj
  simp [List.lookup_append, List.lookup_cons, hb]

/-- Members with other keys are the same before and after. -/
theorem Replaced.member?_of_ne {j : String} (h : Replaced old new (k :: ks) v w) (hj : j ≠ k) :
    w.member? j = v.member? j := by
  cases h with
  | member first inner => exact lookup_of_ne hj

/-- A way from a value into it: to a member of an object or to an item of an array. -/
inductive Access where
  | key (k : String)
  | index (i : Nat)
  deriving Repr, DecidableEq

def at? : Tree N → List Access → Option (Tree N)
  | v, [] => some v
  | .object ms, .key k :: p => (ms.lookup k).bind (at? · p)
  | .array vs, .index i :: p => vs[i]?.bind (at? · p)
  | _, _ :: _ => none

def keys? : Tree N → Option (List String)
  | .object ms => some (ms.map Prod.fst)
  | _ => none

theorem at?_keys (v : Tree N) (ks : List String) : at? v (ks.map .key) = v.get? ks := by
  induction ks generalizing v with
  | nil => cases v <;> rfl
  | cons k ks ih => cases v <;> simp [at?, Tree.get?, Tree.member?, ih]

/-- What is no object is where it was after an edit, unless it was in what the edit replaces. -/
theorem Replaced.at?_of_leaf {x : Tree N} (h : Replaced old new ks v w)
    (hleaf : ∀ ms, x ≠ .object ms) {p : List Access} (hx : at? v p = some x) :
    at? w p = some x ∨ ∃ q, p = ks.map .key ++ q ∧ at? old q = some x := by
  induction h generalizing p with
  | here => exact .inr ⟨p, rfl, hx⟩
  | @member k ks v w before after first inner ih =>
    cases p with
    | nil =>
      cases hx
      exact absurd rfl (hleaf _)
    | cons step p =>
      cases step with
      | index i => cases hx
      | key j =>
        by_cases hj : j = k
        · subst hj
          simp only [at?, lookup_split.mpr ⟨before, after, rfl, first⟩, Option.bind_some] at hx ⊢
          rcases ih hx with hsame | ⟨q, rfl, hq⟩
          · exact .inl hsame
          · exact .inr ⟨q, rfl, hq⟩
        · left
          simp only [at?, lookup_of_ne (v := v) (w := w) hj] at hx ⊢
          exact hx

/-- An edit is not seen along a path that neither leads through its place nor ends before it. -/
theorem Replaced.at?_of_apart (h : Replaced old new ks v w) {p : List Access}
    (hbefore : ¬ p <+: ks.map .key) (hbehind : ¬ ks.map .key <+: p) : at? w p = at? v p := by
  induction h generalizing p with
  | here => exact absurd List.nil_prefix hbehind
  | @member k ks v w before after first inner ih =>
    cases p with
    | nil => exact absurd List.nil_prefix hbefore
    | cons step p =>
      cases step with
      | index i => rfl
      | key j =>
        by_cases hj : j = k
        · subst hj
          rw [List.map_cons, List.cons_prefix_cons] at hbefore hbehind
          have hsame := ih (mt (.intro rfl) hbefore) (mt (.intro rfl) hbehind)
          simp only [at?, lookup_split.mpr ⟨before, after, rfl, first⟩, Option.bind_some, hsame]
        · simp only [at?, lookup_of_ne (v := v) (w := w) hj]

/-- Before the place of an edit and beside it, every object keeps its keys in their order. -/
theorem Replaced.keys?_at? (h : Replaced old new ks v w) {p : List Access}
    (hbehind : ¬ ks.map .key <+: p) : (at? w p).bind keys? = (at? v p).bind keys? := by
  induction h generalizing p with
  | here => exact absurd List.nil_prefix hbehind
  | @member k ks v w before after first inner ih =>
    cases p with
    | nil => simp [at?, keys?]
    | cons step p =>
      cases step with
      | index i => rfl
      | key j =>
        by_cases hj : j = k
        · subst hj
          rw [List.map_cons, List.cons_prefix_cons] at hbehind
          have hsame := ih (mt (.intro rfl) hbehind)
          simp only [at?, lookup_split.mpr ⟨before, after, rfl, first⟩, Option.bind_some, hsame]
        · simp only [at?, lookup_of_ne (v := v) (w := w) hj]

end LspRelay.Json.TreeEdits
