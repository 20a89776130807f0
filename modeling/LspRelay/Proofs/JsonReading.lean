import LspRelay.Json.Reader
import LspRelay.Proofs.JsonTrees

namespace LspRelay.Json.Reading
open Trees

variable {N : Type} {number : Literal → Option N} {depth : Nat} {cs rest : List Char} {v : Tree N}

/-- How a text can begin, as far as reading a tree goes. -/
inductive Begins : List Char → Prop where
  | null (cs : List Char) : Begins ('n' :: 'u' :: 'l' :: 'l' :: cs)
  | true (cs : List Char) : Begins ('t' :: 'r' :: 'u' :: 'e' :: cs)
  | false (cs : List Char) : Begins ('f' :: 'a' :: 'l' :: 's' :: 'e' :: cs)
  | string (cs : List Char) : Begins ('"' :: cs)
  | array (cs : List Char) : Begins ('[' :: cs)
  | object (cs : List Char) : Begins ('{' :: cs)
  | number {cs : List Char} (plain : ∀ (N : Type) (number : Literal → Option N) (depth : Nat),
      readTree? number depth cs = readNumber? number cs) : Begins cs

theorem begins (cs : List Char) : Begins cs := by
  by_cases hn : ∃ r, cs = 'n' :: 'u' :: 'l' :: 'l' :: r
  · obtain ⟨r, rfl⟩ := hn
    exact .null r
  by_cases ht : ∃ r, cs = 't' :: 'r' :: 'u' :: 'e' :: r
  · obtain ⟨r, rfl⟩ := ht
    exact .true r
  by_cases hf : ∃ r, cs = 'f' :: 'a' :: 'l' :: 's' :: 'e' :: r
  · obtain ⟨r, rfl⟩ := hf
    exact .false r
  by_cases hs : ∃ r, cs = '"' :: r
  · obtain ⟨r, rfl⟩ := hs
    exact .string r
  by_cases ha : ∃ r, cs = '[' :: r
  · obtain ⟨r, rfl⟩ := ha
    exact .array r
  by_cases ho : ∃ r, cs = '\x7b' :: r
  · obtain ⟨r, rfl⟩ := ho
    exact .object r
  refine .number fun N number depth => ?_
  rw [readTree?.eq_def]
  split <;> simp_all

section Lists

variable {item : Read (Tree N)} {fuel : Nat}

theorem readItems?_eq_some_iff {vs : List (Tree N)} :
    readItems? item (fuel + 1) cs = some (vs, rest) ↔
      ∃ v mid, item (skipBlanks cs) = some (v, mid) ∧
        ((∃ next ws, skipBlanks mid = ',' :: next ∧ readItems? item fuel next = some (ws, rest) ∧
            v :: ws = vs) ∨
          skipBlanks mid = ']' :: rest ∧ [v] = vs) := by
  constructor
  · intro h
    obtain ⟨⟨v, mid⟩, hv, h⟩ := Option.bind_eq_some_iff.mp h
    refine ⟨v, mid, hv, ?_⟩
    dsimp only at h
    split at h
    · rename_i next hmid
      obtain ⟨⟨ws, rest⟩, hws, h⟩ := Option.bind_eq_some_iff.mp h
      cases h
      exact .inl ⟨next, ws, hmid, hws, rfl⟩
    · rename_i hmid
      cases h
      exact .inr ⟨hmid, rfl⟩
    · cases h
  · rintro ⟨v, mid, hv, ⟨next, ws, hmid, hws, rfl⟩ | ⟨hmid, rfl⟩⟩
    · simp [readItems?, hv, hmid, hws]
    · simp [readItems?, hv, hmid]

theorem readMember?_eq_some_iff {m : String × Tree N} :
    readMember? item cs = some (m, rest) ↔
      ∃ after k mid next, cs = '"' :: after ∧ readString? none after = some (k, mid) ∧
        skipBlanks mid = ':' :: next ∧ item (skipBlanks next) = some (m.2, rest) ∧
        String.ofList k = m.1 := by
  constructor
  · intro h
    unfold readMember? at h
    split at h
    · rename_i after
      obtain ⟨⟨k, mid⟩, hk, h⟩ := Option.bind_eq_some_iff.mp h
      dsimp only at h
      split at h
      · rename_i next hmid
        obtain ⟨⟨v, rest⟩, hv, h⟩ := Option.bind_eq_some_iff.mp h
        cases h
        exact ⟨after, k, mid, next, rfl, hk, hmid, hv, rfl⟩
      · cases h
    · cases h
  · rintro ⟨after, k, mid, next, rfl, hk, hmid, hv, hm⟩
    simp [readMember?, hk, hmid, hv, hm]

theorem readMembers?_eq_some_iff {ms : List (String × Tree N)} :
    readMembers? item (fuel + 1) cs = some (ms, rest) ↔
      ∃ m mid, readMember? item (skipBlanks cs) = some (m, mid) ∧
        ((∃ next ls, skipBlanks mid = ',' :: next ∧ readMembers? item fuel next = some (ls, rest) ∧
            m :: ls = ms) ∨
          skipBlanks mid = '\x7d' :: rest ∧ [m] = ms) := by
  constructor
  · intro h
    obtain ⟨⟨m, mid⟩, hm, h⟩ := Option.bind_eq_some_iff.mp h
    refine ⟨m, mid, hm, ?_⟩
    dsimp only at h
    split at h
    · rename_i next hmid
      obtain ⟨⟨ls, rest⟩, hls, h⟩ := Option.bind_eq_some_iff.mp h
      cases h
      exact .inl ⟨next, ls, hmid, hls, rfl⟩
    · rename_i hmid
      cases h
      exact .inr ⟨hmid, rfl⟩
    · cases h
  · rintro ⟨m, mid, hm, ⟨next, ls, hmid, hls, rfl⟩ | ⟨hmid, rfl⟩⟩
    · simp [readMembers?, hm, hmid, hls]
    · simp [readMembers?, hm, hmid]

end Lists

@[simp] theorem readTree?_null :
    readTree? number depth ('n' :: 'u' :: 'l' :: 'l' :: cs) = some (.null, cs) := by
  cases depth <;> rfl

@[simp] theorem readTree?_true :
    readTree? number depth ('t' :: 'r' :: 'u' :: 'e' :: cs) = some (.bool true, cs) := by
  cases depth <;> rfl

@[simp] theorem readTree?_false :
    readTree? number depth ('f' :: 'a' :: 'l' :: 's' :: 'e' :: cs) = some (.bool false, cs) := by
  cases depth <;> rfl

theorem readTree?_string : readTree? number depth ('"' :: cs) =
    (readString? none cs).map fun read => (.string (String.ofList read.1), read.2) := by
  rw [Option.map_eq_bind]
  cases depth <;> rfl

theorem readTree?_bracket : readTree? number (depth + 1) ('[' :: cs) =
    match skipBlanks cs with
    | ']' :: cs => some (.array [], cs)
    | cs => (readItems? (readTree? number depth) cs.length cs).bind
        fun read => some (.array read.1, read.2) := rfl

theorem readTree?_array_nil (h : skipBlanks cs = ']' :: rest) :
    readTree? number (depth + 1) ('[' :: cs) = some (.array [], rest) := by
  simp only [readTree?_bracket, h]

/-- After a bracket that is not closed at once, an array is its items. -/
theorem readTree?_array (h : ∀ r, skipBlanks cs ≠ ']' :: r) :
    readTree? number (depth + 1) ('[' :: cs) =
      (readItems? (readTree? number depth) (skipBlanks cs).length (skipBlanks cs)).map
        fun read => (.array read.1, read.2) := by
  rw [readTree?_bracket, Option.map_eq_bind]
  split
  · rename_i r hcs
    exact absurd hcs (h r)
  · rfl

theorem readTree?_brace : readTree? number (depth + 1) ('\x7b' :: cs) =
    match skipBlanks cs with
    | '\x7d' :: cs => some (.object [], cs)
    | cs => (readMembers? (readTree? number depth) cs.length cs).bind
        fun read => some (.ofMembers read.1, read.2) := rfl

theorem readTree?_object_nil (h : skipBlanks cs = '\x7d' :: rest) :
    readTree? number (depth + 1) ('\x7b' :: cs) = some (.object [], rest) := by
  simp only [readTree?_brace, h]

theorem readTree?_object (h : ∀ r, skipBlanks cs ≠ '\x7d' :: r) :
    readTree? number (depth + 1) ('\x7b' :: cs) =
      (readMembers? (readTree? number depth) (skipBlanks cs).length (skipBlanks cs)).map
        fun read => (.ofMembers read.1, read.2) := by
  rw [readTree?_brace, Option.map_eq_bind]
  split
  · rename_i r hcs
    exact absurd hcs (h r)
  · rfl

/-- Everything that reading a tree can come to, when it comes to something. -/
inductive Parsed (number : Literal → Option N) : Nat → List Char → Tree N → List Char → Prop where
  | null {depth : Nat} (cs : List Char) :
      Parsed number depth ('n' :: 'u' :: 'l' :: 'l' :: cs) .null cs
  | true {depth : Nat} (cs : List Char) :
      Parsed number depth ('t' :: 'r' :: 'u' :: 'e' :: cs) (.bool true) cs
  | false {depth : Nat} (cs : List Char) :
      Parsed number depth ('f' :: 'a' :: 'l' :: 's' :: 'e' :: cs) (.bool false) cs
  | string {depth : Nat} {cs s rest : List Char} (read : readString? none cs = some (s, rest)) :
      Parsed number depth ('"' :: cs) (.string (String.ofList s)) rest
  | noItems {depth : Nat} {cs rest : List Char} (closed : skipBlanks cs = ']' :: rest) :
      Parsed number (depth + 1) ('[' :: cs) (.array []) rest
  | items {depth : Nat} {cs rest : List Char} {vs : List (Tree N)}
      (more : ∀ r, skipBlanks cs ≠ ']' :: r)
      (read : readItems? (readTree? number depth) (skipBlanks cs).length (skipBlanks cs) =
        some (vs, rest)) :
      Parsed number (depth + 1) ('[' :: cs) (.array vs) rest
  | noMembers {depth : Nat} {cs rest : List Char} (closed : skipBlanks cs = '\x7d' :: rest) :
      Parsed number (depth + 1) ('\x7b' :: cs) (.object []) rest
  | members {depth : Nat} {cs rest : List Char} {ms : List (String × Tree N)}
      (more : ∀ r, skipBlanks cs ≠ '\x7d' :: r)
      (read : readMembers? (readTree? number depth) (skipBlanks cs).length (skipBlanks cs) =
        some (ms, rest)) :
      Parsed number (depth + 1) ('\x7b' :: cs) (.ofMembers ms) rest
  | number {depth : Nat} {cs rest : List Char} {l : Literal} {n : N}
      (plain : ∀ (N : Type) (number : Literal → Option N) (depth : Nat),
        readTree? number depth cs = readNumber? number cs)
      (read : Literal.read? cs = some (l, rest)) (stands : number l = some n) :
      Parsed number depth cs (.number n) rest

theorem parsed_of_readTree? (h : readTree? number depth cs = some (v, rest)) :
    Parsed number depth cs v rest := by
  cases begins cs with
  | null cs =>
    cases readTree?_null.symm.trans h
    exact .null _
  | true cs =>
    cases readTree?_true.symm.trans h
    exact .true _
  | false cs =>
    cases readTree?_false.symm.trans h
    exact .false _
  | string cs =>
    rw [readTree?_string] at h
    obtain ⟨⟨s, rest⟩, hs, h⟩ := Option.map_eq_some_iff.mp h
    cases h
    exact .string hs
  | array cs =>
    cases depth with
    | zero => cases h
    | succ depth =>
      by_cases hcs : ∃ r, skipBlanks cs = ']' :: r
      · obtain ⟨r, hcs⟩ := hcs
        cases (readTree?_array_nil hcs).symm.trans h
        exact .noItems hcs
      · rw [readTree?_array (not_exists.mp hcs)] at h
        obtain ⟨⟨vs, rest⟩, hvs, h⟩ := Option.map_eq_some_iff.mp h
        cases h
        exact .items (not_exists.mp hcs) hvs
  | object cs =>
    cases depth with
    | zero => cases h
    | succ depth =>
      by_cases hcs : ∃ r, skipBlanks cs = '\x7d' :: r
      · obtain ⟨r, hcs⟩ := hcs
        cases (readTree?_object_nil hcs).symm.trans h
        exact .noMembers hcs
      · rw [readTree?_object (not_exists.mp hcs)] at h
        obtain ⟨⟨ms, rest⟩, hms, h⟩ := Option.map_eq_some_iff.mp h
        cases h
        exact .members (not_exists.mp hcs) hms
  | number plain =>
    rw [plain] at h
    obtain ⟨⟨l, rest⟩, hl, h⟩ := Option.bind_eq_some_iff.mp h
    obtain ⟨n, hn, h⟩ := Option.bind_eq_some_iff.mp h
    cases h
    exact .number plain hl hn

section Fitting

variable {item : Read (Tree N)} {fuel : Nat} {P : Tree N → Prop}

theorem of_readItems? {vs : List (Tree N)} (hitem : ∀ cs v rest, item cs = some (v, rest) → P v)
    (h : readItems? item fuel cs = some (vs, rest)) : ∀ v ∈ vs, P v := by
  induction fuel generalizing cs vs with
  | zero => cases h
  | succ fuel ih =>
    obtain ⟨v, mid, hv, ⟨next, ws, -, hws, rfl⟩ | ⟨-, rfl⟩⟩ := readItems?_eq_some_iff.mp h
    · exact List.forall_mem_cons.mpr ⟨hitem _ _ _ hv, ih hws⟩
    · exact List.forall_mem_cons.mpr ⟨hitem _ _ _ hv, by simp⟩

theorem of_readMembers? {ms : List (String × Tree N)}
    (hitem : ∀ cs v rest, item cs = some (v, rest) → P v)
    (h : readMembers? item fuel cs = some (ms, rest)) : ∀ m ∈ ms, P m.2 := by
  induction fuel generalizing cs ms with
  | zero => cases h
  | succ fuel ih =>
    obtain ⟨m, mid, hm, hrest⟩ := readMembers?_eq_some_iff.mp h
    obtain ⟨_, _, _, _, -, -, -, hv, -⟩ := readMember?_eq_some_iff.mp hm
    obtain ⟨next, ls, -, hls, rfl⟩ | ⟨-, rfl⟩ := hrest
    · exact List.forall_mem_cons.mpr ⟨hitem _ _ _ hv, ih hls⟩
    · exact List.forall_mem_cons.mpr ⟨hitem _ _ _ hv, by simp⟩

end Fitting

/-- What is read is no deeper than was allowed and keeps each key once. -/
theorem fits_readTree? (h : readTree? number depth cs = some (v, rest)) :
    Fits (fun _ => True) depth v := by
  -- A tree within brackets is read with one level less, so the depth is what shrinks.
  induction depth using Nat.strongRecOn generalizing cs v rest with
  | ind depth ih =>
    cases parsed_of_readTree? h with
    | null | true | false | string => constructor
    | noItems => exact .array (by simp)
    | items more read =>
      exact .array (of_readItems? (fun _ _ _ => ih _ (Nat.lt_succ_self _)) read)
    | noMembers => exact .object (by simp) (by simp)
    | members more read =>
      exact fits_ofMembers (of_readMembers? (fun _ _ _ => ih _ (Nat.lt_succ_self _)) read)
    | number plain read stands => exact .number trivial

section Written

variable {item : Read (Tree N)} {item' : Read (Tree Literal)} {fuel : Nat}

theorem readItems?_converted {vs : List (Tree N)}
    (hitem : ∀ cs v rest, item cs = some (v, rest) →
      ∃ t, item' cs = some (t, rest) ∧ convert? number t = some v)
    (h : readItems? item fuel cs = some (vs, rest)) :
    ∃ ts, readItems? item' fuel cs = some (ts, rest) ∧ convertItems? number ts = some vs := by
  induction fuel generalizing cs vs with
  | zero => cases h
  | succ fuel ih =>
    obtain ⟨v, mid, hv, hrest⟩ := readItems?_eq_some_iff.mp h
    obtain ⟨t, ht, hc⟩ := hitem _ _ _ hv
    obtain ⟨next, ws, hmid, hws, rfl⟩ | ⟨hmid, rfl⟩ := hrest
    · obtain ⟨ts, hts, hcs⟩ := ih hws
      exact ⟨t :: ts, readItems?_eq_some_iff.mpr ⟨t, mid, ht, .inl ⟨next, ts, hmid, hts, rfl⟩⟩,
        convertItems?_cons.mpr ⟨v, hc, ws, hcs, rfl⟩⟩
    · exact ⟨[t], readItems?_eq_some_iff.mpr ⟨t, mid, ht, .inr ⟨hmid, rfl⟩⟩,
        convertItems?_cons.mpr ⟨v, hc, [], rfl, rfl⟩⟩

theorem readMembers?_converted {ms : List (String × Tree N)}
    (hitem : ∀ cs v rest, item cs = some (v, rest) →
      ∃ t, item' cs = some (t, rest) ∧ convert? number t = some v)
    (h : readMembers? item fuel cs = some (ms, rest)) :
    ∃ ts, readMembers? item' fuel cs = some (ts, rest) ∧ convertMembers? number ts = some ms := by
  induction fuel generalizing cs ms with
  | zero => cases h
  | succ fuel ih =>
    obtain ⟨⟨k, v⟩, mid, hm, hrest⟩ := readMembers?_eq_some_iff.mp h
    obtain ⟨after, ks, colon, next, hcs, hk, hcolon, hv, hkey⟩ := readMember?_eq_some_iff.mp hm
    obtain ⟨t, ht, hc⟩ := hitem _ _ _ hv
    have hm' : readMember? item' (skipBlanks cs) = some ((k, t), mid) :=
      readMember?_eq_some_iff.mpr ⟨after, ks, colon, next, hcs, hk, hcolon, ht, hkey⟩
    obtain ⟨next, ls, hmid, hls, rfl⟩ | ⟨hmid, rfl⟩ := hrest
    · obtain ⟨ts, hts, hcs⟩ := ih hls
      exact ⟨(k, t) :: ts,
        readMembers?_eq_some_iff.mpr ⟨(k, t), mid, hm', .inl ⟨next, ts, hmid, hts, rfl⟩⟩,
        convertMembers?_cons.mpr ⟨v, hc, ls, hcs, rfl⟩⟩
    · exact ⟨[(k, t)], readMembers?_eq_some_iff.mpr ⟨(k, t), mid, hm', .inr ⟨hmid, rfl⟩⟩,
        convertMembers?_cons.mpr ⟨v, hc, [], rfl, rfl⟩⟩

/-- A tree that is read is the tree of its literals, with each read as what it stands for. -/
theorem readTree?_converted (h : readTree? number depth cs = some (v, rest)) :
    ∃ t, readTree? some depth cs = some (t, rest) ∧ convert? number t = some v := by
  induction depth using Nat.strongRecOn generalizing cs v rest with
  | ind depth ih =>
    cases parsed_of_readTree? h with
    | null => exact ⟨.null, readTree?_null, rfl⟩
    | true => exact ⟨.bool true, readTree?_true, rfl⟩
    | false => exact ⟨.bool false, readTree?_false, rfl⟩
    | string read => exact ⟨.string _, by rw [readTree?_string, read]; rfl, rfl⟩
    | noItems closed => exact ⟨.array [], readTree?_array_nil closed, rfl⟩
    | items more read =>
      obtain ⟨ts, hts, hc⟩ := readItems?_converted (fun _ _ _ => ih _ (Nat.lt_succ_self _)) read
      refine ⟨.array ts, ?_, by simp [convert?, hc]⟩
      rw [readTree?_array more, hts]
      rfl
    | noMembers closed => exact ⟨.object [], readTree?_object_nil closed, rfl⟩
    | members more read =>
      obtain ⟨ts, hts, hc⟩ :=
        readMembers?_converted (fun _ _ _ => ih _ (Nat.lt_succ_self _)) read
      refine ⟨.ofMembers ts, ?_, convert?_ofMembers hc⟩
      rw [readTree?_object more, hts]
      rfl
    | number plain read stands =>
      refine ⟨.number _, ?_, by rw [convert?, stands]; rfl⟩
      simp [plain, readNumber?, read]

end Written

theorem ofChars?_eq_some_iff : Tree.ofChars? number cs = some v ↔
    ∃ rest, readTree? number maxDepth (skipBlanks cs) = some (v, rest) ∧ skipBlanks rest = [] := by
  unfold Tree.ofChars?
  cases h : readTree? number maxDepth (skipBlanks cs) with
  | none => simp
  | some read =>
    obtain ⟨w, after⟩ := read
    constructor
    · intro hw
      dsimp only at hw
      split at hw
      · rename_i hafter
        cases hw
        exact ⟨after, rfl, hafter⟩
      · cases hw
    · rintro ⟨rest, hw, hrest⟩
      cases hw
      simp [hrest]

theorem fits_ofChars? (h : Tree.ofChars? number cs = some v) :
    Fits (fun _ => True) maxDepth v := by
  obtain ⟨rest, h, -⟩ := ofChars?_eq_some_iff.mp h
  exact fits_readTree? h

theorem ofChars?_converted (h : Tree.ofChars? number cs = some v) :
    ∃ t, Tree.ofChars? some cs = some t ∧ convert? number t = some v := by
  obtain ⟨rest, h, hrest⟩ := ofChars?_eq_some_iff.mp h
  obtain ⟨t, ht, hc⟩ := readTree?_converted h
  exact ⟨t, ofChars?_eq_some_iff.mpr ⟨rest, ht, hrest⟩, hc⟩

end LspRelay.Json.Reading
