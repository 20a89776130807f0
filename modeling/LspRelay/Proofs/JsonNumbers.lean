import LspRelay.Json.Number

namespace LspRelay.Json.Numbers

/-- An integer of 64 bits with or without a sign: no fraction, no exponent, and not minus nought. -/
structure IsInteger (l : Literal) : Prop where
  whole : l.fraction = [] ∧ l.exponent = none
  small : l.negative = false → Nat.ofDigitChars 10 l.whole 0 < Nat.pow 2 64
  large : l.negative = true →
    0 < Nat.ofDigitChars 10 l.whole 0 ∧ Nat.ofDigitChars 10 l.whole 0 ≤ Nat.pow 2 63

def InRange (n : Int) : Prop := -(Nat.pow 2 63 : Nat) ≤ n ∧ n < (Nat.pow 2 64 : Nat)

/-- What may come after a value in a text: nothing, or the end of an item or of its container. -/
def Closes (rest : List Char) : Prop :=
  ∀ c ∈ rest.head?, c = ',' ∨ c = ']' ∨ c = '}'

theorem Closes.nil : Closes [] := by simp [Closes]

theorem IsInteger.number? {l : Literal} (h : IsInteger l) :
    ∃ n, InRange n ∧ l.number? = some (.int n) := by
  have hs := h.small
  have hl := h.large
  unfold Literal.number?
  cases hn : l.negative with
  | false =>
    refine ⟨Nat.ofDigitChars 10 l.whole 0, ?_, by simp [h.whole, hs hn]⟩
    have := hs hn
    exact ⟨by omega, by exact_mod_cast this⟩
  | true =>
    refine ⟨-Nat.ofDigitChars 10 l.whole 0, ?_, by simp [h.whole, hl hn]⟩
    have := hl hn
    simp only [InRange]
    omega

def Halts (rest : List Char) : Prop := ∀ c ∈ rest.head?, c.isDigit = false

theorem Closes.halts {rest : List Char} (h : Closes rest) : Halts rest := by
  intro c hc
  rcases h c hc with rfl | rfl | rfl <;> rfl

theorem span_digits {ds rest : List Char} (hd : ∀ c ∈ ds, c.isDigit = true) (hr : Halts rest) :
    Literal.span (ds ++ rest) = (ds, rest) := by
  have hrest : rest.takeWhile Char.isDigit = [] ∧ rest.dropWhile Char.isDigit = rest := by
    cases rest with
    | nil => simp
    | cons c rest => simp [hr c (by simp)]
  simp only [Literal.span, List.takeWhile_append_of_pos hd, List.dropWhile_append_of_pos hd, hrest,
    List.append_nil]

theorem toDigits_head {n : Nat} (hn : 0 < n) :
    ∃ d ds, Nat.toDigits 10 n = d :: ds ∧ d ≠ '0' := by
  induction n using Nat.strongRecOn with
  | ind n ih =>
    by_cases h : n < 10
    · refine ⟨n.digitChar, [], Nat.toDigits_of_lt_base h, ?_⟩
      rw [Ne, Nat.digitChar_eq_zero]
      omega
    · obtain ⟨d, ds, he, hd⟩ := ih (n / 10) (by omega) (by omega)
      refine ⟨d, ds ++ [(n % 10).digitChar], ?_, hd⟩
      rw [Nat.toDigits_of_base_le (by omega) (by omega), he]
      rfl

/-- The digits of a literal where they may stand: no nought leads other digits, and an exponent has
digits. -/
structure Proper (l : Literal) : Prop where
  whole : l.whole = ['0'] ∨ ∃ d ds, l.whole = d :: ds ∧ d ≠ '0'
  digits : ∀ c ∈ l.whole ++ l.fraction, c.isDigit = true
  exponent : ∀ e ∈ l.exponent, e.2 ≠ [] ∧ ∀ c ∈ e.2, c.isDigit = true

def fractionChars (fraction : List Char) : List Char :=
  if fraction = [] then [] else '.' :: fraction

def exponentChars : Option (Bool × List Char) → List Char
  | none => []
  | some (negative, ds) => 'e' :: (if negative then '-' else '+') :: ds

/-- A literal with a point only before digits and with the sign of its exponent. -/
def chars (l : Literal) : List Char :=
  signed l.negative (l.whole ++ (fractionChars l.fraction ++ exponentChars l.exponent))

variable {l : Literal} {rest : List Char}

theorem readWhole?_append {whole : List Char}
    (hwhole : whole = ['0'] ∨ ∃ d ds, whole = d :: ds ∧ d ≠ '0')
    (hd : ∀ c ∈ whole, c.isDigit = true) (hr : Halts rest) :
    Literal.readWhole? (whole ++ rest) = some (whole, rest) := by
  have hs := span_digits hd hr
  obtain rfl | ⟨d, ds, rfl, hne⟩ := hwhole
  · rfl
  · rw [Literal.readWhole?.eq_def]
    split
    · rename_i cs hcs
      exact absurd (List.cons.inj hcs).1 hne
    · rw [hs]
      simp

theorem readFraction?_append {fraction : List Char} (hd : ∀ c ∈ fraction, c.isDigit = true)
    (hr : Halts rest) (hpoint : '.' ∉ rest.head?) :
    Literal.readFraction? (fractionChars fraction ++ rest) = some (fraction, rest) := by
  unfold fractionChars
  split
  · rename_i hf
    subst hf
    cases rest with
    | nil => rfl
    | cons c rest =>
      have hc : c ≠ '.' := by simpa using hpoint
      simp [Literal.readFraction?, hc]
  · rename_i hf
    simp [Literal.readFraction?, span_digits hd hr, hf]

theorem readExponent?_append {exponent : Option (Bool × List Char)}
    (he : ∀ e ∈ exponent, e.2 ≠ [] ∧ ∀ c ∈ e.2, c.isDigit = true) (hr : Closes rest) :
    Literal.readExponent? (exponentChars exponent ++ rest) = some (exponent, rest) := by
  cases exponent with
  | none =>
    cases rest with
    | nil => rfl
    | cons c rest => rcases hr c (by simp) with rfl | rfl | rfl <;> rfl
  | some e =>
    obtain ⟨negative, ds⟩ := e
    obtain ⟨hne, hd⟩ := he _ rfl
    cases negative <;>
      simp [exponentChars, Literal.readExponent?, Literal.readSign, span_digits hd hr.halts, hne]

/-- What can stand behind the fraction of a literal: its exponent, or what closes it. -/
theorem halts_exponentChars (exponent : Option (Bool × List Char)) (hr : Closes rest) :
    Halts (exponentChars exponent ++ rest) ∧ '.' ∉ (exponentChars exponent ++ rest).head? := by
  cases exponent with
  | some e => exact ⟨by simp [Halts, exponentChars], by simp [exponentChars]⟩
  | none =>
    refine ⟨hr.halts, fun hpoint => ?_⟩
    rcases hr _ hpoint with h | h | h <;> cases h

/-- A literal is read as it is printed, up to what closes it. -/
theorem read?_chars (h : Proper l) (hr : Closes rest) :
    Literal.read? (chars l ++ rest) = some (l, rest) := by
  obtain ⟨negative, whole, fraction, exponent⟩ := l
  obtain ⟨hlead, hdigits, hexponent⟩ := h
  obtain ⟨hwhole, hfraction⟩ := List.forall_mem_append.mp hdigits
  obtain ⟨hhalt, hpoint⟩ := halts_exponentChars exponent hr
  have hbehind : Halts (fractionChars fraction ++ (exponentChars exponent ++ rest)) := by
    unfold fractionChars
    split
    · exact hhalt
    · simp [Halts]
  have hw := readWhole?_append hlead hwhole hbehind
  have hf := readFraction?_append hfraction hhalt hpoint
  have he := readExponent?_append hexponent hr
  cases negative with
  | true => simp [Literal.read?, chars, signed, hw, hf, he]
  | false =>
    obtain ⟨d, ds, rfl⟩ : ∃ d ds, whole = d :: ds := by
      obtain rfl | ⟨d, ds, rfl, -⟩ := hlead
      · exact ⟨_, _, rfl⟩
      · exact ⟨d, ds, rfl⟩
    have hsign : d ≠ '-' := by
      rintro rfl
      exact nomatch hwhole '-' (by simp)
    simp only [List.cons_append] at hw
    simp [Literal.read?, chars, signed, hsign, hw, hf, he]

def written (n : Int) : Literal := ⟨n < 0, Nat.toDigits 10 n.natAbs, [], none⟩

theorem proper_written (n : Int) : Proper (written n) := by
  refine ⟨?_, fun c hc => ?_, nofun⟩
  · rcases Nat.eq_zero_or_pos n.natAbs with hn | hn
    · exact .inl (by rw [written, hn]; rfl)
    · exact .inr (toDigits_head hn)
  · rw [written, List.append_nil] at hc
    exact Nat.isDigit_of_mem_toDigits (by decide) (by decide) hc

theorem text_int (n : Int) : Number.text (.int n) = chars (written n) := by
  simp [Number.text, chars, written, fractionChars, exponentChars]

theorem number?_written {n : Int} (h : InRange n) : (written n).number? = some (.int n) := by
  obtain ⟨hlow, hhigh⟩ := h
  by_cases hn : n < 0
  · have hpos : 0 < n.natAbs := by omega
    have hle : n.natAbs ≤ Nat.pow 2 63 := by omega
    have habs : -(n.natAbs : Int) = n := by omega
    simp only [Literal.number?, written, Nat.ofDigitChars_ten_toDigits, hn, hpos, hle, habs]
    rfl
  · have hlt : n.natAbs < Nat.pow 2 64 := by omega
    have habs : (n.natAbs : Int) = n := by omega
    simp [Literal.number?, written, Nat.ofDigitChars_ten_toDigits, hn, hlt, habs]

end LspRelay.Json.Numbers
