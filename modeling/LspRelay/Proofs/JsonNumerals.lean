import LspRelay.Proofs.JsonNumbers

namespace LspRelay.Json.Numerals
open Decimal Numbers

/-- Digits as a number has them: a nought comes first only where it is the only digit. -/
structure Significant (d : Digits) : Prop where
  digits : ∀ c ∈ d.first :: d.rest, c.isDigit = true
  first : d.first = '0' → d.rest = [] ∧ d.place = 0

theorem significant_zero : Significant .zero :=
  ⟨List.forall_mem_singleton.mpr rfl, fun _ => ⟨rfl, rfl⟩⟩

theorem significant_ofGrid (k : Nat) (p : Int) : Significant (.ofGrid k p) := by
  unfold Digits.ofGrid
  dsimp only
  split
  · rename_i d rest h
    have hfront : d :: rest <+: Nat.toDigits 10 k := by
      rw [← h, ← List.reverse_suffix, List.reverse_reverse]
      exact List.dropWhile_suffix _
    have hdigits : ∀ c ∈ d :: rest, c.isDigit = true := fun c hc =>
      Nat.isDigit_of_mem_toDigits (by decide) (by decide) (hfront.subset hc)
    refine ⟨hdigits, fun hd => ?_⟩
    -- Only nought has a nought in front, and that one is dropped from the end.
    rcases Nat.eq_zero_or_pos k with rfl | hk
    · cases h
    · obtain ⟨c, cs, hcs, hne⟩ := toDigits_head hk
      rw [hcs] at hfront
      exact absurd ((List.cons_prefix_cons.mp hfront).1.symm.trans hd) hne
  · exact significant_zero

theorem significant_shortest (b : Binary) : Significant b.shortest := by
  unfold Binary.shortest
  split
  · exact significant_zero
  · dsimp only
    generalize hfound : (List.range 17).findSome? _ = found
    cases found with
    | none => exact significant_zero
    | some d =>
      obtain ⟨n, -, hn⟩ := List.exists_of_findSome?_eq_some hfound
      obtain ⟨k, -, rfl⟩ := Option.map_eq_some_iff.mp hn
      exact significant_ofGrid _ _

def literalOfDigits (negative : Bool) (d : Digits) : Literal :=
  let digits := d.first :: d.rest
  if 0 ≤ d.place ∧ d.place ≤ 15 then
    let whole := d.place.toNat + 1
    let fraction := digits.drop whole
    ⟨negative, digits.take whole ++ List.replicate (whole - digits.length) '0',
      if fraction = [] then ['0'] else fraction, none⟩
  else if -5 ≤ d.place ∧ d.place < 0 then
    ⟨negative, ['0'], List.replicate ((-d.place).toNat - 1) '0' ++ digits, none⟩
  else ⟨negative, [d.first], d.rest, some (d.place < 0, Nat.toDigits 10 d.place.natAbs)⟩

theorem signed_numeral (negative : Bool) (d : Digits) :
    signed negative (numeral d) = chars (literalOfDigits negative d) := by
  unfold numeral literalOfDigits
  dsimp only
  split
  · by_cases hshort : d.rest.length ≤ d.place.toNat
    · simp [chars, fractionChars, exponentChars, hshort]
    · simp [chars, fractionChars, exponentChars, hshort]
  · split
    · simp [chars, fractionChars, exponentChars]
    · simp [chars, fractionChars, exponentChars]

theorem isDigit_replicate {n : Nat} {c : Char} (h : c ∈ List.replicate n '0') :
    c.isDigit = true := by
  rw [(List.mem_replicate.mp h).2]
  rfl

theorem proper_literalOfDigits (negative : Bool) {d : Digits} (h : Significant d) :
    Proper (literalOfDigits negative d) := by
  obtain ⟨first, rest, place⟩ := d
  obtain ⟨hdigits, hfirst⟩ := h
  unfold literalOfDigits
  dsimp only at *
  split
  · refine ⟨?_, ?_, nofun⟩
    · by_cases h0 : first = '0'
      · obtain ⟨rfl, rfl⟩ := hfirst h0
        exact .inl (by simp [h0])
      · exact .inr ⟨first, _, rfl, h0⟩
    · intro c hc
      rcases List.mem_append.mp hc with hwhole | hfraction
      · rcases List.mem_append.mp hwhole with h | h
        · exact hdigits c (List.mem_of_mem_take h)
        · exact isDigit_replicate h
      · split at hfraction
        · exact isDigit_replicate (n := 1) hfraction
        · exact hdigits c (List.mem_of_mem_drop hfraction)
  · split
    · refine ⟨.inl rfl, ?_, nofun⟩
      intro c hc
      rcases List.mem_append.mp hc with hwhole | hfraction
      · exact isDigit_replicate (n := 1) hwhole
      · exact (List.mem_append.mp hfraction).elim isDigit_replicate (hdigits c)
    · refine ⟨?_, hdigits, ?_⟩
      · by_cases h0 : first = '0'
        · exact .inl (by rw [h0])
        · exact .inr ⟨first, [], rfl, h0⟩
      · rintro e he
        cases Option.some.inj he
        exact ⟨Nat.toDigits_ne_nil, fun c hc =>
          Nat.isDigit_of_mem_toDigits (by decide) (by decide) hc⟩

def literalOf : Number → Literal
  | .int n => written n
  | .float negative b => literalOfDigits negative b.shortest

theorem text_eq_chars (n : Number) : n.text = chars (literalOf n) := by
  cases n with
  | int n => exact text_int n
  | float negative b => exact signed_numeral negative b.shortest

theorem proper_literalOf (n : Number) : Proper (literalOf n) := by
  cases n with
  | int n => exact proper_written n
  | float negative b => exact proper_literalOfDigits negative (significant_shortest b)

end LspRelay.Json.Numerals
