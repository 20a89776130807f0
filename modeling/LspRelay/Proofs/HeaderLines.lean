import LspRelay.Proofs.CanonicalFrames
import LspRelay.Proofs.JsonNumbers
import LspRelay.Proofs.LossyText

namespace LspRelay.Proofs.HeaderLines
open Utf8 CanonicalFrames LossyText
open Json.Numbers (Halts span_digits)

variable {line name value : List UInt8} {text : List Char} {n : Nat}

def lineFeed : UInt8 := 10

def carriageReturn : UInt8 := 13

def colon : UInt8 := 58

def lowerOctet (b : UInt8) : UInt8 := if 65 ≤ b ∧ b ≤ 90 then b + 32 else b

def isDigitOctet (b : UInt8) : Bool := 48 ≤ b && b ≤ 57

/-- Text that begins, after any blanks, with all the digits of a number of 64 bits. -/
inductive LeadingNumber : List Char → Nat → Prop where
  | digits {blanks digits rest : List Char} (blank : ∀ c ∈ blanks, Text.isBlank c = true)
      (numeric : ∀ c ∈ digits, c.isDigit = true) (there : digits ≠ []) (ended : Halts rest)
      (fits : Nat.ofDigitChars 10 digits 0 < lengthLimit) :
      LeadingNumber (blanks ++ (digits ++ rest)) (Nat.ofDigitChars 10 digits 0)

/-- A line that gives a length: the octets before its first colon are the field's name in some case,
and what comes after it begins with a number when it is read as text. -/
inductive LengthLine : List UInt8 → Nat → Prop where
  | field {name value : List UInt8} {n : Nat} (first : colon ∉ name)
      (named : name.map lowerOctet = (Utf8.ofString "Content-Length").map lowerOctet)
      (number : LeadingNumber (decodeLossy value) n) : LengthLine (name ++ colon :: value) n

theorem halts_dropWhile (text : List Char) : Halts (text.dropWhile Char.isDigit) := by
  intro c hc
  have h := List.head?_dropWhile_not Char.isDigit text
  rw [hc] at h
  exact h

theorem leadingNumber?_eq_some_iff : leadingNumber? text = some n ↔ LeadingNumber text n := by
  constructor
  · intro h
    simp only [leadingNumber?, Option.ite_none_right_eq_some, Option.some.injEq] at h
    obtain ⟨⟨hne, hfits⟩, rfl⟩ := h
    have hblank : ∀ c ∈ text.takeWhile Text.isBlank, Text.isBlank c = true :=
      List.all_eq_true.mp List.all_takeWhile
    have hnumeric : ∀ c ∈ (text.dropWhile Text.isBlank).takeWhile Char.isDigit,
        c.isDigit = true := List.all_eq_true.mp List.all_takeWhile
    have hnumber := LeadingNumber.digits hblank hnumeric hne
      (halts_dropWhile (text.dropWhile Text.isBlank)) hfits
    rwa [List.takeWhile_append_dropWhile, List.takeWhile_append_dropWhile] at hnumber
  · rintro ⟨blank, numeric, there, ended, fits⟩
    rename_i blanks digits rest
    have hblank : (blanks ++ (digits ++ rest)).dropWhile Text.isBlank = digits ++ rest := by
      obtain ⟨d, ds, rfl⟩ := List.exists_cons_of_ne_nil there
      rw [List.dropWhile_append_of_pos blank, List.cons_append, List.dropWhile_cons_of_neg]
      simp [isBlank_of_isDigit (numeric d List.mem_cons_self)]
    have hdigits : (digits ++ rest).takeWhile Char.isDigit = digits :=
      congrArg Prod.fst (span_digits numeric ended)
    simp [leadingNumber?, hblank, hdigits, there, fits]

/-- Other lines are not read on the way to a line, nor is a line read into the next. -/
theorem contentLength?_append (a b : List UInt8) :
    contentLength? (a ++ lineFeed :: b) = (contentLength? a).or (contentLength? b) := by
  have hfeed : lineFeed.toNat < 0x80 := by decide
  have hchar : Char.ofNat lineFeed.toNat = '\n' := by decide
  simp only [contentLength?, decodeLossy_append_ascii a hfeed b, hchar,
    List.splitOn_append_cons_self, List.findSome?_append]

theorem contentLength?_nil : contentLength? [] = none := by decide

theorem contentLength?_intercalate (lines : List (List UInt8)) :
    contentLength? ([lineFeed].intercalate lines) = lines.findSome? contentLength? := by
  induction lines with
  | nil => exact contentLength?_nil
  | cons line lines ih =>
    cases lines with
    | nil => simp
    | cons next lines =>
      rw [List.intercalate_cons_cons, List.append_assoc, List.singleton_append,
        contentLength?_append, ih]
      cases h : contentLength? line <;> simp [List.findSome?_cons, h]

theorem contentLength?_of_line (h : lineFeed ∉ line) :
    contentLength? line = lineLength? (decodeLossy line) := by
  have hline : '\n' ∉ decodeLossy line := fun hc => h (mem_of_mem_decodeLossy (by decide) hc)
  rw [contentLength?, List.splitOn_eq_singleton hline, List.findSome?_singleton]

theorem field?_of_no_colon (h : ':' ∉ text) : field? text = none := by
  have hname : ∀ c ∈ text, decide (c ≠ ':') = true := fun c hc => by
    simpa using fun he : c = ':' => h (he ▸ hc)
  rw [field?, List.dropWhile_eq_nil_iff.mpr hname]

theorem lineLength?_of_no_colon (h : colon ∉ line) : lineLength? (decodeLossy line) = none := by
  have hcolon : ':' ∉ decodeLossy line := fun hc => h (mem_of_mem_decodeLossy (by decide) hc)
  rw [lineLength?, field?_of_no_colon hcolon]
  rfl

theorem lineLength?_of_colon (h : colon ∉ name) (value : List UInt8) :
    lineLength? (decodeLossy (name ++ colon :: value)) =
      if (decodeLossy name).map Char.toLower = fieldName.toList.map Char.toLower
      then leadingNumber? (decodeLossy value) else none := by
  have hname : ':' ∉ decodeLossy name := fun hc => h (mem_of_mem_decodeLossy (by decide) hc)
  have hcolon : Char.ofNat colon.toNat = ':' := by decide
  rw [decodeLossy_append_ascii name (by decide) value, hcolon, lineLength?, field?_of_colon hname]
  rfl

theorem toLower_ascii {b : UInt8} : b.toNat < 0x80 →
    (Char.ofNat b.toNat).toLower = Char.ofNat (lowerOctet b).toNat :=
  octet_forall (P := fun b => b.toNat < 0x80 →
    (Char.ofNat b.toNat).toLower = Char.ofNat (lowerOctet b).toNat) (by decide +kernel) b

theorem lowerOctet_ascii (b : UInt8) : (lowerOctet b).toNat < 0x80 ↔ b.toNat < 0x80 :=
  octet_forall (P := fun b => (lowerOctet b).toNat < 0x80 ↔ b.toNat < 0x80) (by decide +kernel) b

theorem ascii_of_toLower {c : Char} (h : c.toLower.toNat < 0x80) : c.toNat < 0x80 := by
  unfold Char.toLower at h
  split at h
  · rename_i hupper
    exact Nat.lt_of_le_of_lt (UInt32.le_iff_toNat_le.mp hupper.2) (by decide)
  · exact h

theorem ofNat_inj {b b' : UInt8} (h : Char.ofNat b.toNat = Char.ofNat b'.toNat) : b = b' := by
  have hb := congrArg Char.toNat h
  rw [toNat_ofNat_octet, toNat_ofNat_octet] at hb
  exact UInt8.toNat_inj.mp hb

theorem map_toLower_of_ascii {bs : List UInt8} (h : ∀ b ∈ bs, b.toNat < 0x80) :
    (decodeLossy bs).map Char.toLower = (bs.map lowerOctet).map fun b => Char.ofNat b.toNat := by
  rw [decodeLossy_of_ascii h, List.map_map, List.map_map]
  exact List.map_congr_left fun b hb => toLower_ascii (h b hb)

/-- Whether a name is the same up to its ASCII case is the same question of its text and of its
octets. -/
theorem map_toLower_eq_iff {name field : List UInt8} (hfield : ∀ b ∈ field, b.toNat < 0x80) :
    (decodeLossy name).map Char.toLower = (decodeLossy field).map Char.toLower ↔
      name.map lowerOctet = field.map lowerOctet := by
  have hlower : ∀ b ∈ field.map lowerOctet, b.toNat < 0x80 := by
    intro b hb
    obtain ⟨x, hx, rfl⟩ := List.mem_map.mp hb
    exact (lowerOctet_ascii x).mpr (hfield x hx)
  constructor
  · intro h
    have hname : ∀ b ∈ name, b.toNat < 0x80 := by
      refine ascii_of_decodeLossy fun c hc => ascii_of_toLower ?_
      have hmem := List.mem_map_of_mem (f := Char.toLower) hc
      rw [h, map_toLower_of_ascii hfield] at hmem
      obtain ⟨b, hb, hcb⟩ := List.mem_map.mp hmem
      rw [← hcb, toNat_ofNat_octet]
      exact hlower b hb
    rw [map_toLower_of_ascii hname, map_toLower_of_ascii hfield] at h
    exact (List.map_inj_right fun _ _ => ofNat_inj).mp h
  · intro h
    have hname : ∀ b ∈ name, b.toNat < 0x80 := by
      intro b hb
      have hmem := List.mem_map_of_mem (f := lowerOctet) hb
      rw [h] at hmem
      exact (lowerOctet_ascii b).mp (hlower _ hmem)
    rw [map_toLower_of_ascii hname, map_toLower_of_ascii hfield, h]

theorem named_iff :
    (decodeLossy name).map Char.toLower = fieldName.toList.map Char.toLower ↔
      name.map lowerOctet = (Utf8.ofString "Content-Length").map lowerOctet := by
  have hfield : ∀ b ∈ Utf8.ofString "Content-Length", b.toNat < 0x80 := by decide +kernel
  rw [← map_toLower_eq_iff hfield, Utf8.ofString, Utf8Codec.decodeLossy_encode]
  rfl

/-- Which lines give a length, and which one. -/
theorem contentLength?_eq_some_iff (h : lineFeed ∉ line) :
    contentLength? line = some n ↔ LengthLine line n := by
  rw [contentLength?_of_line h]
  constructor
  · intro hn
    by_cases hcolon : colon ∈ line
    · obtain ⟨name, value, rfl, hname⟩ := List.eq_append_cons_of_mem hcolon
      rw [lineLength?_of_colon hname, Option.ite_none_right_eq_some] at hn
      exact .field hname (named_iff.mp hn.1) (leadingNumber?_eq_some_iff.mp hn.2)
    · rw [lineLength?_of_no_colon hcolon] at hn
      cases hn
  · rintro ⟨first, named, number⟩
    rw [lineLength?_of_colon first, if_pos (named_iff.mpr named)]
    exact leadingNumber?_eq_some_iff.mpr number

theorem decodeLossy_carriageReturn (line : List UInt8) :
    decodeLossy (line ++ [carriageReturn]) = decodeLossy line ++ ['\r'] :=
  decodeLossy_append_ascii line (by decide) []

theorem leadingNumber?_carriageReturn (text : List Char) :
    leadingNumber? (text ++ ['\r']) = leadingNumber? text := by
  have hblank : Text.isBlank '\r' = true := by decide
  have hdigit : Char.isDigit '\r' = false := by decide
  -- The blanks may go on to the very end, and then the return is one of them.
  have hdigits : ((text ++ ['\r']).dropWhile Text.isBlank).takeWhile Char.isDigit =
      (text.dropWhile Text.isBlank).takeWhile Char.isDigit := by
    rw [List.dropWhile_append]
    split
    · rename_i hnone
      rw [List.isEmpty_iff.mp hnone]
      simp [hblank]
    · rw [List.takeWhile_append]
      split
      · rename_i hall
        simp [hdigit, (List.takeWhile_prefix _).eq_of_length hall]
      · rfl
  simp only [leadingNumber?, hdigits]

/-- A return before the end of a line, or at the end of all, is not seen. -/
theorem contentLength?_carriageReturn (block : List UInt8) :
    contentLength? (block ++ [carriageReturn]) = contentLength? block := by
  by_cases hfeed : lineFeed ∈ block
  · obtain ⟨line, late, rfl, hline⟩ := List.eq_append_cons_of_mem hfeed
    rw [List.append_assoc, List.cons_append, contentLength?_append, contentLength?_append,
      contentLength?_carriageReturn late]
  · have hreturn : lineFeed ∉ block ++ [carriageReturn] := by
      simpa using ⟨hfeed, by decide⟩
    rw [contentLength?_of_line hfeed, contentLength?_of_line hreturn]
    by_cases hcolon : colon ∈ block
    · obtain ⟨name, value, rfl, hname⟩ := List.eq_append_cons_of_mem hcolon
      rw [List.append_assoc, List.cons_append, lineLength?_of_colon hname,
        lineLength?_of_colon hname, decodeLossy_carriageReturn, leadingNumber?_carriageReturn]
    · have hnone : colon ∉ block ++ [carriageReturn] := by
        simpa using ⟨hcolon, by decide⟩
      rw [lineLength?_of_no_colon hcolon, lineLength?_of_no_colon hnone]
termination_by block.length
decreasing_by
  subst_vars
  simp only [List.length_append, List.length_cons]
  omega

theorem isDigitOctet_iff {b : UInt8} : isDigitOctet b = true ↔ 48 ≤ b.toNat ∧ b.toNat ≤ 57 := by
  simp [isDigitOctet, UInt8.le_iff_toNat_le]

/-- A digit is one octet, and the first octet of any other character is no digit. -/
theorem exists_utf8EncodeChar (c : Char) :
    ∃ b bs, String.utf8EncodeChar c = b :: bs ∧ isDigitOctet b = c.isDigit ∧
      (c.isDigit = true → bs = []) := by
  rcases Nat.lt_or_ge c.toNat 128 with hascii | hwide
  · refine ⟨_, [], utf8EncodeChar_of_lt hascii, ?_, fun _ => rfl⟩
    rw [Bool.eq_iff_iff, isDigitOctet_iff, Char.isDigit_iff_toNat,
      UInt8.toNat_ofNat_of_lt' (by change _ < 256; omega)]
    exact Iff.rfl
  · have hother : c.isDigit = false := by
      rw [Bool.eq_false_iff, ne_eq, Char.isDigit_iff_toNat]
      intro hdigit
      have hlast : c.toNat ≤ 57 := hdigit.2
      omega
    have hfirst : ∀ m, 128 ≤ m → m < 256 → isDigitOctet (UInt8.ofNat m) = false := by
      intro m hm hlt
      rw [Bool.eq_false_iff, ne_eq, isDigitOctet_iff, UInt8.toNat_ofNat_of_lt' hlt]
      omega
    have hv : 128 ≤ c.val.toNat := hwide
    simp only [hother, Bool.false_eq_true, false_implies, and_true]
    unfold String.utf8EncodeChar
    generalize c.val.toNat = v at hv
    dsimp only
    -- One case for each number of octets; one octet is too few.
    repeat' split
    · omega
    all_goals exact ⟨_, _, rfl, hfirst _ (by omega) (by omega)⟩

/-- The digits that begin an encoded text are the digits that begin the text. -/
theorem takeWhile_encode (text : List Char) :
    (Utf8.encode text).takeWhile isDigitOctet = Utf8.encode (text.takeWhile Char.isDigit) := by
  induction text with
  | nil => rfl
  | cons c cs ih =>
    obtain ⟨b, bs, hc, hb, hone⟩ := exists_utf8EncodeChar c
    rw [Utf8.encode, List.flatMap_cons, hc, List.cons_append]
    cases hd : c.isDigit with
    | true =>
      rw [hd] at hb
      rw [List.takeWhile_cons_of_pos hb, List.takeWhile_cons_of_pos hd, hone hd, List.nil_append,
        ← Utf8.encode, ih, Utf8.encode, Utf8.encode, List.flatMap_cons, hc, hone hd]
      rfl
    | false =>
      rw [hd] at hb
      rw [List.takeWhile_cons_of_neg (by simp [hb]), List.takeWhile_cons_of_neg (by simp [hd])]
      rfl

/-- Cut behind its leading digit octets, an encoded text is cut between two characters. -/
theorem encode_cut (text : List Char) :
    let digits := ((Utf8.encode text).takeWhile isDigitOctet).length
    (Utf8.encode text).take digits = Utf8.encode (text.takeWhile Char.isDigit) ∧
      (Utf8.encode text).drop digits = Utf8.encode (text.dropWhile Char.isDigit) := by
  intro digits
  have hsplit : Utf8.encode text =
      Utf8.encode (text.takeWhile Char.isDigit) ++ Utf8.encode (text.dropWhile Char.isDigit) := by
    rw [Utf8.encode, Utf8.encode, Utf8.encode, ← List.flatMap_append,
      List.takeWhile_append_dropWhile]
  have hlen : digits = (Utf8.encode (text.takeWhile Char.isDigit)).length :=
    congrArg List.length (takeWhile_encode text)
  rw [hlen, hsplit]
  exact ⟨List.take_left, List.drop_left⟩

/-- A header block is read line by line: a line gives a length if it is the field with a number, and
the first that does decides, whatever lines stand before it, if they give none, and after it. A
return at a line's end is not seen, and the digits of a value end where a character does. -/
theorem first_usable_line :
    (∀ a b, contentLength? (a ++ lineFeed :: b) = (contentLength? a).or (contentLength? b)) ∧
    (∀ line n, lineFeed ∉ line → (contentLength? line = some n ↔ LengthLine line n)) ∧
    (∀ lines, contentLength? ([lineFeed].intercalate lines) =
      lines.findSome? contentLength?) ∧
    (∀ block, contentLength? (block ++ [carriageReturn]) = contentLength? block) ∧
    ∀ text : List Char,
      let digits := ((Utf8.encode text).takeWhile isDigitOctet).length
      (Utf8.encode text).take digits = Utf8.encode (text.takeWhile Char.isDigit) ∧
        (Utf8.encode text).drop digits = Utf8.encode (text.dropWhile Char.isDigit) :=
  ⟨contentLength?_append, fun _ _ => contentLength?_eq_some_iff, contentLength?_intercalate,
    contentLength?_carriageReturn, encode_cut⟩

/-- Behind a sequence that breaks off and a length that is too great, a usable line whose value ends
in a broken sequence. -/
theorem first_usable_line_broken :
    let broken : List UInt8 := [0xE2, 0x82]
    let large := Utf8.ofString "Content-Length: 18446744073709551616"
    let line := Utf8.ofString "CONTENT-length:\t007" ++ [0xC3]
    contentLength? ([lineFeed].intercalate
        [broken, large ++ [carriageReturn], line ++ [carriageReturn], broken]) = some 7 ∧
      LengthLine line 7 := by
  intro broken large line
  have hbroken : contentLength? broken = none := by decide +kernel
  have hlarge : contentLength? large = none := by decide +kernel
  have hseven : contentLength? line = some 7 := by decide +kernel
  obtain ⟨-, hline, hlines, hreturn, -⟩ := first_usable_line
  refine ⟨?_, (hline line 7 (by decide +kernel)).mp hseven⟩
  rw [hlines]
  simp [hreturn, hbroken, hlarge, hseven]

end LspRelay.Proofs.HeaderLines
