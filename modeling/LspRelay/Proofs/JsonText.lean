import LspRelay.Json.Writer
import LspRelay.Proofs.JsonNumerals
import LspRelay.Proofs.JsonReading
import LspRelay.Proofs.JsonStrings
import LspRelay.Proofs.Utf8Codec

namespace LspRelay.Json.Text
open Numbers Numerals Reading Strings Trees

/-- A text that begins with something a value can begin with: no blank, nothing that closes. -/
def Opens (cs : List Char) : Prop :=
  ∃ c rest, cs = c :: rest ∧ c ∉ [' ', '\t', '\n', '\r', ']', '\x7d']

theorem Opens.append {cs : List Char} (h : Opens cs) (rest : List Char) : Opens (cs ++ rest) := by
  obtain ⟨c, after, rfl, hc⟩ := h
  exact ⟨c, after ++ rest, rfl, hc⟩

theorem Opens.skipBlanks_eq {cs : List Char} (h : Opens cs) : skipBlanks cs = cs := by
  obtain ⟨c, rest, rfl, hc⟩ := h
  simp only [List.mem_cons, not_or] at hc
  simp [skipBlanks, hc]

theorem Opens.ne_bracket {cs rest : List Char} (h : Opens cs) : cs ≠ ']' :: rest := by
  obtain ⟨c, after, rfl, hc⟩ := h
  rintro he
  simp [(List.cons.inj he).1] at hc

theorem Opens.ne_brace {cs rest : List Char} (h : Opens cs) : cs ≠ '\x7d' :: rest := by
  obtain ⟨c, after, rfl, hc⟩ := h
  rintro he
  simp [(List.cons.inj he).1] at hc

variable {N M : Type} {number : Literal → Option M} {depth : Nat} {cs rest : List Char}

theorem readTree?_of_read? {l : Literal} (h : Literal.read? cs = some (l, rest)) :
    readTree? number depth cs = (number l).map fun n => (.number n, rest) := by
  cases begins cs with
  | number plain =>
    rw [plain, Option.map_eq_bind]
    simp only [readNumber?, h, Option.bind_eq_bind, Option.bind_some]
    rfl
  | _ => cases h

theorem opens_of_read? {l : Literal} (h : Literal.read? cs = some (l, rest)) : Opens cs := by
  cases cs with
  | nil => cases h
  | cons c cs =>
    refine ⟨c, cs, rfl, ?_⟩
    intro hc
    simp only [List.mem_cons, List.not_mem_nil, or_false] at hc
    rcases hc with rfl | rfl | rfl | rfl | rfl | rfl <;> cases h

theorem readTree?_quoted (s : String) (rest : List Char) :
    readTree? number depth (quoted s ++ rest) = some (.string s, rest) := by
  simp [quoted, readTree?_string, readString?_quoted]

/-- How numbers are printed so that they can be read: as a literal, up to what may follow. -/
def Legible (good : N → Prop) (text : N → List Char) (literal : N → Literal) : Prop :=
  ∀ n, good n → ∀ rest, Closes rest → Literal.read? (text n ++ rest) = some (literal n, rest)

variable {good : N → Prop} {text : N → List Char} {literal : N → Literal} {v : Tree N}

theorem opens_charsWith (hl : Legible good text literal) (h : Fits good depth v) :
    Opens (v.charsWith text) := by
  cases h with
  | number hg =>
    have hr := hl _ hg [] .nil
    rw [List.append_nil] at hr
    exact opens_of_read? hr
  | bool b => cases b <;> exact ⟨_, _, rfl, by decide⟩
  | _ => exact ⟨_, _, rfl, by decide⟩

section Lists

variable {item : Read (Tree M)} {f : N → Option M} {fuel : Nat}

theorem length_le_itemsWith (vs : List (Tree N)) :
    vs.length ≤ (Tree.itemsWith text vs).length := by
  induction vs with
  | nil => simp
  | cons v vs ih =>
    cases vs with
    | nil => simp [Tree.itemsWith]
    | cons w vs => simp [Tree.itemsWith] at ih ⊢; omega

theorem length_le_membersWith (ms : List (String × Tree N)) :
    ms.length ≤ (Tree.membersWith text ms).length := by
  induction ms with
  | nil => simp
  | cons m ms ih =>
    cases ms with
    | nil => simp [Tree.membersWith]; omega
    | cons l ms => simp [Tree.membersWith] at ih ⊢; omega

@[simp] theorem skipBlanks_comma (cs : List Char) : skipBlanks (',' :: cs) = ',' :: cs := rfl

@[simp] theorem skipBlanks_colon (cs : List Char) : skipBlanks (':' :: cs) = ':' :: cs := rfl

@[simp] theorem skipBlanks_bracket (cs : List Char) : skipBlanks (']' :: cs) = ']' :: cs := rfl

@[simp] theorem skipBlanks_brace (cs : List Char) : skipBlanks ('\x7d' :: cs) = '\x7d' :: cs := rfl

/-- Printed items read back if each of them does. -/
theorem readItems?_itemsWith {vs : List (Tree N)} (hne : vs ≠ []) (hfuel : vs.length ≤ fuel)
    (hopen : ∀ v ∈ vs, Opens (v.charsWith text))
    (hitem : ∀ v ∈ vs, ∀ rest, Closes rest →
      item (v.charsWith text ++ rest) = (convert? f v).map fun w => (w, rest)) :
    readItems? item fuel (Tree.itemsWith text vs ++ rest) =
      (convertItems? f vs).map fun ws => (ws, rest) := by
  induction vs generalizing fuel with
  | nil => exact absurd rfl hne
  | cons v vs ih =>
    obtain ⟨fuel, rfl⟩ : ∃ n, fuel = n + 1 := ⟨fuel - 1, by simp at hfuel; omega⟩
    have hv := hitem v (by simp)
    have hskip := fun after => ((hopen v (by simp)).append after).skipBlanks_eq
    cases vs with
    | nil =>
      have hread := hv (']' :: rest) (by simp [Closes])
      cases hc : convert? f v with
      | none => simp [Tree.itemsWith, readItems?, convertItems?, hskip, hread, hc]
      | some w => simp [Tree.itemsWith, readItems?, convertItems?, hskip, hread, hc]
    | cons u vs =>
      have hread := hv (',' :: (Tree.itemsWith text (u :: vs) ++ rest)) (by simp [Closes])
      have hlater : (u :: vs).length ≤ fuel := by simpa using hfuel
      have hrest := ih (by simp) hlater
        (fun x hx => hopen x (List.mem_cons_of_mem _ hx))
        (fun x hx => hitem x (List.mem_cons_of_mem _ hx))
      rw [convertItems?.eq_2]
      cases hc : convert? f v with
      | none => simp [Tree.itemsWith, readItems?, hskip, hread, hc]
      | some w =>
        cases hcs : convertItems? f (u :: vs) with
        | none => simp [Tree.itemsWith, readItems?, hskip, hread, hc, hrest, hcs]
        | some ws => simp [Tree.itemsWith, readItems?, hskip, hread, hc, hrest, hcs]

theorem readMember?_quoted (k : String) (cs : List Char) :
    readMember? item (quoted k ++ ':' :: cs) =
      (item (skipBlanks cs)).map fun read => ((k, read.1), read.2) := by
  rw [Option.map_eq_bind]
  simp only [quoted, readMember?, List.cons_append, List.append_assoc, List.nil_append,
    readString?_quoted, Option.bind_eq_bind, Option.bind_some, skipBlanks_colon,
    String.ofList_toList]
  rfl

theorem readMember?_printed {k : String} {v : Tree N} (hopen : Opens (v.charsWith text))
    (hitem : item (v.charsWith text ++ rest) = (convert? f v).map fun w => (w, rest)) :
    readMember? item (skipBlanks (quoted k ++ ':' :: (v.charsWith text ++ rest))) =
      (convert? f v).map fun w => ((k, w), rest) := by
  have hquote (after : List Char) : skipBlanks (quoted k ++ after) = quoted k ++ after := rfl
  rw [hquote, readMember?_quoted, (hopen.append rest).skipBlanks_eq, hitem, Option.map_map]
  rfl

theorem readMembers?_membersWith {ms : List (String × Tree N)} (hne : ms ≠ [])
    (hfuel : ms.length ≤ fuel) (hopen : ∀ m ∈ ms, Opens (m.2.charsWith text))
    (hitem : ∀ m ∈ ms, ∀ rest, Closes rest →
      item (m.2.charsWith text ++ rest) = (convert? f m.2).map fun w => (w, rest)) :
    readMembers? item fuel (Tree.membersWith text ms ++ rest) =
      (convertMembers? f ms).map fun ls => (ls, rest) := by
  induction ms generalizing fuel with
  | nil => exact absurd rfl hne
  | cons m ms ih =>
    obtain ⟨fuel, rfl⟩ : ∃ n, fuel = n + 1 := ⟨fuel - 1, by simp at hfuel; omega⟩
    obtain ⟨k, v⟩ := m
    have hread (after : List Char) (hr : Closes after) :=
      readMember?_printed (k := k) (hopen (k, v) (by simp)) (hitem (k, v) (by simp) after hr)
    cases ms with
    | nil =>
      have hlast := hread ('\x7d' :: rest) (by simp [Closes])
      cases hc : convert? f v with
      | none => simp [Tree.membersWith, readMembers?, convertMembers?, hlast, hc]
      | some w => simp [Tree.membersWith, readMembers?, convertMembers?, hlast, hc]
    | cons l ms =>
      have hfirst := hread (',' :: (Tree.membersWith text (l :: ms) ++ rest)) (by simp [Closes])
      have hlater : (l :: ms).length ≤ fuel := by simpa using hfuel
      have hrest := ih (by simp) hlater
        (fun x hx => hopen x (List.mem_cons_of_mem _ hx))
        (fun x hx => hitem x (List.mem_cons_of_mem _ hx))
      rw [convertMembers?.eq_2]
      cases hc : convert? f v with
      | none => simp [Tree.membersWith, readMembers?, hfirst, hc]
      | some w =>
        cases hcs : convertMembers? f (l :: ms) with
        | none => simp [Tree.membersWith, readMembers?, hfirst, hc, hrest, hcs]
        | some ls => simp [Tree.membersWith, readMembers?, hfirst, hc, hrest, hcs]

end Lists

theorem opens_itemsWith {vs : List (Tree N)} (hne : vs ≠ [])
    (hopen : ∀ v ∈ vs, Opens (v.charsWith text)) (rest : List Char) :
    Opens (Tree.itemsWith text vs ++ rest) := by
  cases vs with
  | nil => exact absurd rfl hne
  | cons v vs =>
    have hv := hopen v (by simp)
    cases vs with
    | nil =>
      rw [Tree.itemsWith, List.append_assoc]
      exact hv.append _
    | cons w vs =>
      rw [Tree.itemsWith, List.append_assoc]
      exact hv.append _

theorem opens_membersWith {ms : List (String × Tree N)} (hne : ms ≠ []) (rest : List Char) :
    Opens (Tree.membersWith text ms ++ rest) := by
  cases ms with
  | nil => exact absurd rfl hne
  | cons m ms => cases ms <;> exact ⟨'"', _, rfl, by decide⟩

/-- A printed tree reads back as the tree it was, with each number as its literal is taken; it
reads back to nothing if one of them is not taken. -/
theorem readTree?_charsWith (hl : Legible good text literal) (h : Fits good depth v)
    (hr : Closes rest) :
    readTree? number depth (v.charsWith text ++ rest) =
      (convert? (fun n => number (literal n)) v).map fun w => (w, rest) := by
  induction h generalizing rest with
  | null => exact readTree?_null
  | bool b => cases b <;> simp [Tree.charsWith, convert?]
  | string s => simp [Tree.charsWith, convert?, readTree?_quoted]
  | number hg =>
    rw [Tree.charsWith, readTree?_of_read? (hl _ hg rest hr)]
    simp [convert?, Function.comp_def]
  | @array depth vs items ih =>
    rw [Tree.charsWith, List.cons_append]
    by_cases hvs : vs = []
    · subst hvs
      exact readTree?_array_nil rfl
    have hopen := fun v hv => opens_charsWith hl (items v hv)
    have hcs := opens_itemsWith hvs hopen rest
    have hskip := hcs.skipBlanks_eq
    have hfuel : vs.length ≤ (Tree.itemsWith text vs ++ rest).length := by
      rw [List.length_append]
      exact Nat.le_add_right_of_le (length_le_itemsWith vs)
    rw [readTree?_array (fun r => by rw [hskip]; exact hcs.ne_bracket), hskip,
      readItems?_itemsWith hvs hfuel hopen fun v hv rest => ih v hv]
    cases hc : convertItems? (fun n => number (literal n)) vs with
    | none => simp [convert?, hc]
    | some ws => simp [convert?, hc]
  | @object depth ms keys members ih =>
    rw [Tree.charsWith, List.cons_append]
    by_cases hms : ms = []
    · subst hms
      exact readTree?_object_nil rfl
    have hopen := fun m hm => opens_charsWith hl (members m hm)
    have hcs : Opens (Tree.membersWith text ms ++ rest) := opens_membersWith hms rest
    have hskip := hcs.skipBlanks_eq
    have hfuel : ms.length ≤ (Tree.membersWith text ms ++ rest).length := by
      rw [List.length_append]
      exact Nat.le_add_right_of_le (length_le_membersWith ms)
    rw [readTree?_object (fun r => by rw [hskip]; exact hcs.ne_brace), hskip,
      readMembers?_membersWith hms hfuel hopen fun m hm rest => ih m hm]
    cases hc : convertMembers? (fun n => number (literal n)) ms with
    | none => simp [convert?, hc]
    | some ls =>
      -- Putting members in one by one moves none of them only because no key comes twice.
      have hkeys : (ls.map Prod.fst).Nodup := by rwa [keys_convertMembers? hc]
      simp [convert?, hc, ofMembers_of_nodup hkeys]

/-- The same of a text that is nothing but the printed tree. -/
theorem ofChars?_charsWith (hl : Legible good text literal) (h : Fits good maxDepth v) :
    Tree.ofChars? number (v.charsWith text) = convert? (fun n => number (literal n)) v := by
  have hread : readTree? number maxDepth (v.charsWith text) =
      (convert? (fun n => number (literal n)) v).map fun w => (w, []) := by
    simpa using readTree?_charsWith hl h .nil
  unfold Tree.ofChars?
  rw [(opens_charsWith hl h).skipBlanks_eq, hread]
  cases convert? (fun n => number (literal n)) v with
  | none => rfl
  | some w => simp [skipBlanks]

def IsInt (n : Number) : Prop := ∃ k, InRange k ∧ n = .int k

theorem legible : Legible (fun _ => True) Number.text literalOf := by
  intro n _ rest hr
  rw [text_eq_chars]
  exact read?_chars (proper_literalOf n) hr

/-- What is printed of a value reads as that value with each number as its literal is taken. -/
theorem ofBytes?_bytes_eq_convert? {v : Value} (h : Fits (fun _ => True) maxDepth v) :
    Value.ofBytes? v.bytes = convert? (fun n => (literalOf n).number?) v := by
  rw [Value.ofBytes?, Tree.bytes, Proofs.Utf8Codec.decode?_encode]
  exact ofChars?_charsWith legible h

theorem fits_of_parsed {bytes : List UInt8} {v : Value} (h : Value.ofBytes? bytes = some v) :
    Fits (fun _ => True) maxDepth v := by
  obtain ⟨cs, -, h⟩ := Option.bind_eq_some_iff.mp h
  exact fits_ofChars? h

/-- Whatever becomes of its numbers, a printed value has the same strings at the same paths when it
is read again. -/
theorem string_ofBytes?_bytes {v w : Value} {ks : List String} {s : String}
    (h : Fits (fun _ => True) maxDepth v) (hs : v.get? ks = some (.string s))
    (hw : Value.ofBytes? v.bytes = some w) : w.get? ks = some (.string s) := by
  rw [ofBytes?_bytes_eq_convert? h] at hw
  obtain ⟨y, hy, hc⟩ := get?_convert? hw hs
  cases hc
  exact hy

/-- What is printed of a value with whole numbers only is that value again. -/
theorem ofChars?_chars {v : Value} (h : Fits IsInt maxDepth v) :
    Value.ofChars? v.chars = some v := by
  rw [Value.ofChars?, Tree.chars, ofChars?_charsWith legible (h.weaken fun _ _ => trivial)]
  refine h.convert?_self ?_
  rintro n ⟨k, hk, rfl⟩
  exact number?_written hk

theorem ofString?_text {v : Value} (h : Fits IsInt maxDepth v) :
    Value.ofString? v.text = some v := by
  rw [Value.ofString?, Tree.text, String.toList_ofList]
  exact ofChars?_chars h

theorem ofBytes?_bytes {v : Value} (h : Fits IsInt maxDepth v) :
    Value.ofBytes? v.bytes = some v := by
  rw [Value.ofBytes?, Tree.bytes, Proofs.Utf8Codec.decode?_encode]
  exact ofChars?_chars h

end LspRelay.Json.Text
