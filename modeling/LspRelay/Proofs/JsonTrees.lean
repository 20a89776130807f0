import LspRelay.Proofs.TreeEdits

namespace LspRelay.Json.Trees
open TreeEdits

variable {N M : Type}

mutual

def numbers : Tree N → List N
  | .number n => [n]
  | .array vs => numbersOfItems vs
  | .object ms => numbersOfMembers ms
  | _ => []

def numbersOfItems : List (Tree N) → List N
  | [] => []
  | v :: vs => numbers v ++ numbersOfItems vs

def numbersOfMembers : List (String × Tree N) → List N
  | [] => []
  | (_, v) :: ms => numbers v ++ numbersOfMembers ms

end

mutual

/-- The same tree over what its numbers stand for, if each stands for something. -/
def convert? (number : N → Option M) : Tree N → Option (Tree M)
  | .null => some .null
  | .bool b => some (.bool b)
  | .number n => (number n).map .number
  | .string s => some (.string s)
  | .array vs => (convertItems? number vs).map .array
  | .object ms => (convertMembers? number ms).map .object

def convertItems? (number : N → Option M) : List (Tree N) → Option (List (Tree M))
  | [] => some []
  | v :: vs => (convert? number v).bind fun w => (convertItems? number vs).map (w :: ·)

def convertMembers? (number : N → Option M) :
    List (String × Tree N) → Option (List (String × Tree M))
  | [] => some []
  | (k, v) :: ms =>
    (convert? number v).bind fun w => (convertMembers? number ms).map ((k, w) :: ·)

end

/-- A tree whose arrays and objects nest at most so deep, with each key once in its object and all
numbers of one kind. -/
inductive Fits (good : N → Prop) : Nat → Tree N → Prop where
  | null {depth : Nat} : Fits good depth .null
  | bool {depth : Nat} (b : Bool) : Fits good depth (.bool b)
  | number {depth : Nat} {n : N} (h : good n) : Fits good depth (.number n)
  | string {depth : Nat} (s : String) : Fits good depth (.string s)
  | array {depth : Nat} {vs : List (Tree N)} (items : ∀ v ∈ vs, Fits good depth v) :
      Fits good (depth + 1) (.array vs)
  | object {depth : Nat} {ms : List (String × Tree N)} (keys : (ms.map Prod.fst).Nodup)
      (members : ∀ m ∈ ms, Fits good depth m.2) : Fits good (depth + 1) (.object ms)

variable {good : N → Prop} {depth : Nat} {v : Tree N}

theorem keys_insert (k : String) (v : Tree N) (ms : List (String × Tree N)) :
    (Tree.insert k v ms).map Prod.fst =
      if k ∈ ms.map Prod.fst then ms.map Prod.fst else ms.map Prod.fst ++ [k] := by
  induction ms with
  | nil => simp [Tree.insert]
  | cons m ms ih =>
    obtain ⟨l, w⟩ := m
    by_cases hl : l = k
    · simp [Tree.insert, hl]
    · have hk : ¬ k = l := fun h => hl h.symm
      simp only [Tree.insert, hl, if_false, List.map_cons, ih, List.mem_cons, hk, false_or]
      split <;> simp

theorem nodup_insert {k : String} {v : Tree N} {ms : List (String × Tree N)}
    (h : (ms.map Prod.fst).Nodup) : ((Tree.insert k v ms).map Prod.fst).Nodup := by
  rw [keys_insert]
  split
  · exact h
  · rename_i hk
    refine List.nodup_append.mpr ⟨h, by simp, ?_⟩
    intro a ha b hb he
    rw [List.mem_singleton.mp hb] at he
    exact hk (he ▸ ha)

theorem mem_insert {k : String} {v : Tree N} {ms : List (String × Tree N)}
    {m : String × Tree N} (h : m ∈ Tree.insert k v ms) : m = (k, v) ∨ m ∈ ms := by
  induction ms with
  | nil => simpa [Tree.insert] using h
  | cons x ms ih =>
    obtain ⟨l, w⟩ := x
    simp only [Tree.insert] at h
    split at h
    · rename_i hl
      rcases List.mem_cons.mp h with rfl | h
      · exact .inl (by rw [hl])
      · exact .inr (List.mem_cons_of_mem _ h)
    · rcases List.mem_cons.mp h with rfl | h
      · exact .inr (List.mem_cons_self ..)
      · rcases ih h with h | h
        · exact .inl h
        · exact .inr (List.mem_cons_of_mem _ h)

/-- Members that share no key are kept as they are. -/
theorem insert_of_not_mem {k : String} {v : Tree N} {ms : List (String × Tree N)}
    (h : k ∉ ms.map Prod.fst) : Tree.insert k v ms = ms ++ [(k, v)] := by
  induction ms with
  | nil => rfl
  | cons m ms ih =>
    obtain ⟨l, w⟩ := m
    simp only [List.map_cons, List.mem_cons, not_or] at h
    simp [Tree.insert, Ne.symm h.1, ih h.2]

theorem foldl_insert_of_nodup {kept ms : List (String × Tree N)}
    (h : ((kept ++ ms).map Prod.fst).Nodup) :
    ms.foldl (fun kept m => Tree.insert m.1 m.2 kept) kept = kept ++ ms := by
  induction ms generalizing kept with
  | nil => simp
  | cons m ms ih =>
    have hm : m.1 ∉ kept.map Prod.fst := by
      intro hk
      rw [List.map_append, List.nodup_append] at h
      exact h.2.2 m.1 hk m.1 (by simp) rfl
    rw [List.foldl_cons, insert_of_not_mem hm, ih (by simpa using h)]
    simp

theorem ofMembers_of_nodup {ms : List (String × Tree N)} (h : (ms.map Prod.fst).Nodup) :
    Tree.ofMembers ms = .object ms := by
  have hfold := foldl_insert_of_nodup (by simpa using h : (([] ++ ms).map Prod.fst).Nodup)
  simp [Tree.ofMembers, hfold]

theorem fits_ofMembers {ms : List (String × Tree N)} (h : ∀ m ∈ ms, Fits good depth m.2) :
    Fits good (depth + 1) (Tree.ofMembers ms) := by
  have hfold : ∀ kept : List (String × Tree N), (kept.map Prod.fst).Nodup →
      (∀ m ∈ kept, Fits good depth m.2) →
      Fits good (depth + 1)
        (.object (ms.foldl (fun kept m => Tree.insert m.1 m.2 kept) kept)) := by
    induction ms with
    | nil => exact fun kept hk hf => .object hk hf
    | cons m ms ih =>
      intro kept hk hf
      refine ih (fun x hx => h x (by simp [hx])) _ (nodup_insert hk) ?_
      intro x hx
      rcases mem_insert hx with rfl | hx
      · exact h m (by simp)
      · exact hf x hx
  exact hfold [] (by simp) (by simp)

theorem Fits.mono {deeper : Nat} (h : Fits good depth v) (hd : depth ≤ deeper) :
    Fits good deeper v := by
  induction h generalizing deeper with
  | null => exact .null
  | bool b => exact .bool b
  | number hg => exact .number hg
  | string s => exact .string s
  | array items ih =>
    obtain ⟨d, rfl⟩ : ∃ d, deeper = d + 1 := ⟨deeper - 1, by omega⟩
    exact .array fun v hv => ih v hv (by omega)
  | object keys members ih =>
    obtain ⟨d, rfl⟩ : ∃ d, deeper = d + 1 := ⟨deeper - 1, by omega⟩
    exact .object keys fun m hm => ih m hm (by omega)

theorem Fits.weaken {good' : N → Prop} (h : Fits good depth v) (hg : ∀ n, good n → good' n) :
    Fits good' depth v := by
  induction h with
  | null => exact .null
  | bool b => exact .bool b
  | number hn => exact .number (hg _ hn)
  | string s => exact .string s
  | array items ih => exact .array ih
  | object keys members ih => exact .object keys ih

/-- What stands at a path of keys is no deeper than the tree around it. -/
theorem Fits.get? {ks : List String} {x : Tree N} (h : Fits good depth v)
    (hx : v.get? ks = some x) : Fits good depth x := by
  induction ks generalizing depth v with
  | nil =>
    cases hx
    exact h
  | cons k ks ih =>
    obtain ⟨inner, hm, hi⟩ := Option.bind_eq_some_iff.mp hx
    cases h with
    | object keys members =>
      obtain ⟨before, after, rfl, -⟩ := lookup_split.mp hm
      have hinner := members (k, inner) (List.mem_append_right _ List.mem_cons_self)
      exact (ih hinner hi).mono (Nat.le_succ _)
    | _ => cases hm

/-- An edit that puts in a string leaves a tree as readable as it was. -/
theorem Fits.replaced {old w : Tree N} {s : String} {ks : List String} (h : Fits good depth v)
    (hr : Replaced old (.string s) ks v w) : Fits good depth w := by
  induction hr generalizing depth with
  | here => exact .string s
  | member first inner ih =>
    cases h with
    | object keys members =>
      refine .object (by simpa using keys) ?_
      intro m hm
      rcases List.mem_append.mp hm with hm | hm
      · exact members m (List.mem_append_left _ hm)
      · rcases List.mem_cons.mp hm with rfl | hm
        · exact ih (members _ (List.mem_append_right _ (List.mem_cons_self ..)))
        · exact members m (by simp [hm])

section Converted

variable {number : N → Option M} {w : Tree M}

theorem convertItems?_cons {vs : List (Tree N)} {ws : List (Tree M)} :
    convertItems? number (v :: vs) = some ws ↔
      ∃ x, convert? number v = some x ∧ ∃ xs, convertItems? number vs = some xs ∧ x :: xs = ws := by
  simp only [convertItems?, Option.bind_eq_some_iff, Option.map_eq_some_iff]

theorem convertMembers?_cons {k : String} {ms : List (String × Tree N)}
    {ws : List (String × Tree M)} :
    convertMembers? number ((k, v) :: ms) = some ws ↔
      ∃ x, convert? number v = some x ∧ ∃ xs, convertMembers? number ms = some xs ∧
        (k, x) :: xs = ws := by
  simp only [convertMembers?, Option.bind_eq_some_iff, Option.map_eq_some_iff]

theorem mem_convertItems? {vs : List (Tree N)} {ws : List (Tree M)}
    (h : convertItems? number vs = some ws) (hw : w ∈ ws) :
    ∃ v ∈ vs, convert? number v = some w := by
  induction vs generalizing ws with
  | nil =>
    cases h
    simp at hw
  | cons v vs ih =>
    obtain ⟨x, hx, xs, hxs, rfl⟩ := convertItems?_cons.mp h
    rcases List.mem_cons.mp hw with rfl | hw
    · exact ⟨v, by simp, hx⟩
    · obtain ⟨u, hu, hc⟩ := ih hxs hw
      exact ⟨u, by simp [hu], hc⟩

theorem mem_convertMembers? {ms : List (String × Tree N)} {ws : List (String × Tree M)}
    {m : String × Tree M} (h : convertMembers? number ms = some ws) (hm : m ∈ ws) :
    ∃ v, (m.1, v) ∈ ms ∧ convert? number v = some m.2 := by
  induction ms generalizing ws with
  | nil =>
    cases h
    simp at hm
  | cons x ms ih =>
    obtain ⟨y, hy, ys, hys, rfl⟩ := convertMembers?_cons.mp h
    rcases List.mem_cons.mp hm with rfl | hm
    · exact ⟨x.2, by simp, hy⟩
    · obtain ⟨u, hu, hc⟩ := ih hys hm
      exact ⟨u, by simp [hu], hc⟩

theorem keys_convertMembers? {ms : List (String × Tree N)} {ws : List (String × Tree M)}
    (h : convertMembers? number ms = some ws) : ws.map Prod.fst = ms.map Prod.fst := by
  induction ms generalizing ws with
  | nil =>
    cases h
    rfl
  | cons m ms ih =>
    obtain ⟨x, _, xs, hm, rfl⟩ := convertMembers?_cons.mp h
    simp [ih hm]

theorem lookup_convertMembers? {k : String} {x : Tree N} {ms : List (String × Tree N)}
    {ws : List (String × Tree M)} (h : convertMembers? number ms = some ws)
    (hx : ms.lookup k = some x) : ∃ y, ws.lookup k = some y ∧ convert? number x = some y := by
  induction ms generalizing ws with
  | nil => cases hx
  | cons m ms ih =>
    obtain ⟨l, u⟩ := m
    obtain ⟨y, hu, ys, hm, rfl⟩ := convertMembers?_cons.mp h
    cases hl : k == l with
    | true =>
      simp only [List.lookup_cons, hl, Option.some.injEq] at hx
      exact ⟨y, by simp [List.lookup_cons, hl], hx ▸ hu⟩
    | false =>
      simp only [List.lookup_cons, hl] at hx ⊢
      exact ih hm hx

theorem getElem?_convertItems? {i : Nat} {x : Tree N} {vs : List (Tree N)} {ws : List (Tree M)}
    (h : convertItems? number vs = some ws) (hx : vs[i]? = some x) :
    ∃ y, ws[i]? = some y ∧ convert? number x = some y := by
  induction vs generalizing i ws with
  | nil => simp at hx
  | cons v vs ih =>
    obtain ⟨y, hv, ys, hvs, rfl⟩ := convertItems?_cons.mp h
    cases i with
    | zero =>
      obtain rfl : v = x := by simpa using hx
      exact ⟨y, rfl, hv⟩
    | succ i =>
      obtain ⟨z, hz, hc⟩ := ih hvs (i := i) (by simpa using hx)
      exact ⟨z, by simpa using hz, hc⟩

/-- What a path leads to is converted with the tree around it. -/
theorem at?_convert? {p : List Access} {x : Tree N} (h : convert? number v = some w)
    (hx : at? v p = some x) : ∃ y, at? w p = some y ∧ convert? number x = some y := by
  induction p generalizing v w with
  | nil =>
    have hv : v = x := by cases v <;> exact Option.some.inj hx
    subst hv
    exact ⟨w, by cases w <;> rfl, h⟩
  | cons step p ih =>
    cases v with
    | object ms =>
      obtain ⟨ws, hws, rfl⟩ := Option.map_eq_some_iff.mp h
      cases step with
      | index i => cases hx
      | key k =>
        obtain ⟨inner, hm, hi⟩ := Option.bind_eq_some_iff.mp hx
        obtain ⟨inner', hm', hc⟩ := lookup_convertMembers? hws hm
        obtain ⟨y, hy, hxy⟩ := ih hc hi
        exact ⟨y, Option.bind_eq_some_iff.mpr ⟨inner', hm', hy⟩, hxy⟩
    | array vs =>
      obtain ⟨ws, hws, rfl⟩ := Option.map_eq_some_iff.mp h
      cases step with
      | key k => cases hx
      | index i =>
        obtain ⟨inner, hm, hi⟩ := Option.bind_eq_some_iff.mp hx
        obtain ⟨inner', hm', hc⟩ := getElem?_convertItems? hws hm
        obtain ⟨y, hy, hxy⟩ := ih hc hi
        exact ⟨y, Option.bind_eq_some_iff.mpr ⟨inner', hm', hy⟩, hxy⟩
    | _ => cases step <;> cases hx

/-- What stands at a path of keys is converted with the tree around it. -/
theorem get?_convert? {ks : List String} {x : Tree N} (h : convert? number v = some w)
    (hx : v.get? ks = some x) : ∃ y, w.get? ks = some y ∧ convert? number x = some y := by
  rw [← at?_keys] at hx
  obtain ⟨y, hy, hc⟩ := at?_convert? h hx
  exact ⟨y, by rwa [at?_keys] at hy, hc⟩

theorem convertMembers?_insert {k : String} {ms : List (String × Tree N)}
    {ws : List (String × Tree M)} (hv : convert? number v = some w)
    (h : convertMembers? number ms = some ws) :
    convertMembers? number (Tree.insert k v ms) = some (Tree.insert k w ws) := by
  induction ms generalizing ws with
  | nil =>
    cases h
    simp [Tree.insert, convertMembers?, hv]
  | cons m ms ih =>
    obtain ⟨l, u⟩ := m
    obtain ⟨x, hu, xs, hm, rfl⟩ := convertMembers?_cons.mp h
    by_cases hl : l = k
    · simp [Tree.insert, hl, convertMembers?, hv, hm]
    · simp [Tree.insert, hl, convertMembers?, hu, ih hm]

theorem convert?_ofMembers {ms : List (String × Tree N)} {ws : List (String × Tree M)}
    (h : convertMembers? number ms = some ws) :
    convert? number (Tree.ofMembers ms) = some (Tree.ofMembers ws) := by
  have hfold : ∀ (kept : List (String × Tree N)) (kept' : List (String × Tree M)),
      convertMembers? number kept = some kept' →
      convertMembers? number (ms.foldl (fun kept m => Tree.insert m.1 m.2 kept) kept) =
        some (ws.foldl (fun kept m => Tree.insert m.1 m.2 kept) kept') := by
    induction ms generalizing ws with
    | nil =>
      cases h
      exact fun kept kept' hk => hk
    | cons m ms ih =>
      obtain ⟨x, hu, xs, hm, rfl⟩ := convertMembers?_cons.mp h
      intro kept kept' hk
      exact ih hm _ _ (convertMembers?_insert hu hk)
  simp [Tree.ofMembers, convert?, hfold [] [] rfl]

end Converted

theorem convertItems?_self {number : N → Option N} {vs : List (Tree N)}
    (h : ∀ v ∈ vs, convert? number v = some v) : convertItems? number vs = some vs := by
  induction vs with
  | nil => rfl
  | cons v vs ih =>
    exact convertItems?_cons.mpr ⟨v, h v (by simp), vs, ih (fun x hx => h x (by simp [hx])), rfl⟩

theorem convertMembers?_self {number : N → Option N} {ms : List (String × Tree N)}
    (h : ∀ m ∈ ms, convert? number m.2 = some m.2) : convertMembers? number ms = some ms := by
  induction ms with
  | nil => rfl
  | cons m ms ih =>
    exact convertMembers?_cons.mpr
      ⟨m.2, h m (by simp), ms, ih (fun x hx => h x (by simp [hx])), rfl⟩

/-- A tree stays as it is when its numbers do. -/
theorem Fits.convert?_self {number : N → Option N} (h : Fits good depth v)
    (hn : ∀ n, good n → number n = some n) : convert? number v = some v := by
  induction h with
  | null | bool | string => rfl
  | number hg => simp [convert?, hn _ hg]
  | array items ih => simp [convert?, convertItems?_self ih]
  | object keys members ih => simp [convert?, convertMembers?_self ih]

theorem exists_convertItems? {number : N → Option M} {vs : List (Tree N)}
    (h : ∀ v ∈ vs, ∃ w, convert? number v = some w) : ∃ ws, convertItems? number vs = some ws := by
  induction vs with
  | nil => exact ⟨[], rfl⟩
  | cons v vs ih =>
    obtain ⟨w, hw⟩ := h v (by simp)
    obtain ⟨ws, hws⟩ := ih fun x hx => h x (by simp [hx])
    exact ⟨w :: ws, convertItems?_cons.mpr ⟨w, hw, ws, hws, rfl⟩⟩

theorem exists_convertMembers? {number : N → Option M} {ms : List (String × Tree N)}
    (h : ∀ m ∈ ms, ∃ w, convert? number m.2 = some w) :
    ∃ ws, convertMembers? number ms = some ws := by
  induction ms with
  | nil => exact ⟨[], rfl⟩
  | cons m ms ih =>
    obtain ⟨w, hw⟩ := h m (by simp)
    obtain ⟨ws, hws⟩ := ih fun x hx => h x (by simp [hx])
    exact ⟨(m.1, w) :: ws, convertMembers?_cons.mpr ⟨w, hw, ws, hws, rfl⟩⟩

/-- A tree can be converted when its numbers can. -/
theorem Fits.exists_convert? {number : N → Option M} (h : Fits good depth v)
    (hn : ∀ n, good n → ∃ m, number n = some m) : ∃ w, convert? number v = some w := by
  induction h with
  | null => exact ⟨.null, rfl⟩
  | bool b => exact ⟨.bool b, rfl⟩
  | string s => exact ⟨.string s, rfl⟩
  | number hg =>
    obtain ⟨m, hm⟩ := hn _ hg
    exact ⟨.number m, by simp [convert?, hm]⟩
  | array items ih =>
    obtain ⟨ws, hws⟩ := exists_convertItems? ih
    exact ⟨.array ws, by simp [convert?, hws]⟩
  | object keys members ih =>
    obtain ⟨ws, hws⟩ := exists_convertMembers? ih
    exact ⟨.object ws, by simp [convert?, hws]⟩

theorem numbers_of_item {vs : List (Tree N)} {n : N} (hv : v ∈ vs) (hn : n ∈ numbers v) :
    n ∈ numbersOfItems vs := by
  induction vs with
  | nil => simp at hv
  | cons x vs ih =>
    rcases List.mem_cons.mp hv with rfl | hv
    · exact List.mem_append_left _ hn
    · exact List.mem_append_right _ (ih hv)

theorem numbers_of_member {ms : List (String × Tree N)} {k : String} {n : N}
    (hv : (k, v) ∈ ms) (hn : n ∈ numbers v) : n ∈ numbersOfMembers ms := by
  induction ms with
  | nil => simp at hv
  | cons x ms ih =>
    rcases List.mem_cons.mp hv with rfl | hv
    · exact List.mem_append_left _ hn
    · exact List.mem_append_right _ (ih hv)

/-- A converted tree is as deep as it was, and its numbers are what those of the tree stand for. -/
theorem Fits.converted {number : N → Option M} {good' : M → Prop} {w : Tree M}
    (h : Fits good depth v) (hw : convert? number v = some w)
    (hn : ∀ n ∈ numbers v, ∀ m, number n = some m → good' m) : Fits good' depth w := by
  induction h generalizing w with
  | null =>
    cases hw
    exact .null
  | bool b =>
    cases hw
    exact .bool b
  | string s =>
    cases hw
    exact .string s
  | number hg =>
    obtain ⟨m, hm, rfl⟩ := Option.map_eq_some_iff.mp hw
    exact .number (hn _ (by simp [numbers]) m hm)
  | array items ih =>
    obtain ⟨ws, hws, rfl⟩ := Option.map_eq_some_iff.mp hw
    refine .array ?_
    intro x hx
    obtain ⟨v, hv, hc⟩ := mem_convertItems? hws hx
    exact ih v hv hc (fun n hmem => hn n (numbers_of_item hv hmem))
  | object keys members ih =>
    obtain ⟨ws, hws, rfl⟩ := Option.map_eq_some_iff.mp hw
    refine .object (by rwa [keys_convertMembers? hws]) ?_
    intro x hx
    obtain ⟨v, hv, hc⟩ := mem_convertMembers? hws hx
    exact ih _ hv hc (fun n hmem => hn n (numbers_of_member hv hmem))

end LspRelay.Json.Trees
