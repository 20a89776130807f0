import LspRelay.Json.Reader
import LspRelay.Json.Writer

namespace LspRelay.Json.Strings

theorem hexValue?_digitChar : ∀ n < 16, hexValue? (Nat.digitChar n) = some n := by decide

/-- Control characters without a letter of their own are written in four digits. -/
theorem unit?_of_lt {n : Nat} (hn : n < 256) :
    unit? '0' '0' (Nat.digitChar (n / 16)) (Nat.digitChar (n % 16)) = some n := by
  have h0 : hexValue? '0' = some 0 := by decide
  have hh := hexValue?_digitChar (n / 16) (by omega)
  have hl := hexValue?_digitChar (n % 16) (by omega)
  have he : n / 16 * 16 + n % 16 = n := by omega
  simp [unit?, h0, hh, hl, he]

theorem readString?_plain {c : Char} (hq : c ≠ '"') (hb : c ≠ '\\') (hc : ¬ c.toNat < 0x20)
    (cs : List Char) : readString? none (c :: cs) = push c (readString? none cs) := by
  rw [readString?, if_neg hc]
  · exact hq
  · intro _ _ _ _ _ he
    exact absurd he hb
  · intro _ _ he
    exact absurd he hb

theorem readString?_unit {n : Nat} (hn : n < 256) (cs : List Char) :
    readString? none ('\\' :: 'u' :: '0' :: '0' :: Nat.digitChar (n / 16) ::
      Nat.digitChar (n % 16) :: cs) = push (Char.ofNat n) (readString? none cs) := by
  have hh : isHighSurrogate n = false := by
    simp only [isHighSurrogate, Bool.and_eq_false_iff, decide_eq_false_iff_not]
    omega
  have hl : isLowSurrogate n = false := by
    simp only [isLowSurrogate, Bool.and_eq_false_iff, decide_eq_false_iff_not]
    omega
  rw [readString?.eq_def]
  simp only [unit?_of_lt hn, hh, hl, Bool.false_eq_true, if_false]

theorem readString?_escape (c : Char) (cs : List Char) :
    readString? none (escape c ++ cs) = push c (readString? none cs) := by
  unfold escape
  split
  case h_8 _ hq hb _ _ _ _ _ =>
    split
    · rename_i hc
      have hu := readString?_unit (show c.toNat < 256 by omega) cs
      rw [Char.ofNat_toNat] at hu
      exact hu
    · rename_i hc
      exact readString?_plain hq hb hc cs
  all_goals rfl

theorem readString?_quoted (cs rest : List Char) :
    readString? none (cs.flatMap escape ++ '"' :: rest) = some (cs, rest) := by
  induction cs with
  | nil => simp [readString?]
  | cons c cs ih =>
    rw [List.flatMap_cons, List.append_assoc, readString?_escape, ih]
    rfl

end LspRelay.Json.Strings
