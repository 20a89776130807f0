import LspRelay.Proofs.FirstFrame
import LspRelay.Proofs.Utf8Codec
import Mathlib.Data.List.TakeWhile

namespace LspRelay.Proofs.CanonicalFrames
open FirstFrame Utf8Codec

variable {more : List UInt8}

/-- A header without a carriage return ends where the first delimiter begins. -/
theorem firstDelimiter_bytes {f : Frame} (h : 13 ∉ f.header) :
    FirstDelimiter (f.bytes ++ more) f.header.length := by
  have hsplit : f.bytes ++ more = f.header ++ (delimiter ++ (f.body ++ more)) := by
    simp only [Frame.bytes, List.append_assoc]
  refine ⟨?_, ?_⟩
  · rw [DelimiterAt, hsplit, List.drop_left]
    exact List.prefix_append _ _
  · rintro j hj ⟨rest, hr⟩
    rw [hsplit, List.drop_append_of_le_length (Nat.le_of_lt hj),
      List.drop_eq_getElem_cons hj] at hr
    exact h ((List.cons.inj hr).1 ▸ List.getElem_mem hj)

theorem canonicalHeader_eq (body : List UInt8) : Frame.canonicalHeader body =
    Utf8.encode (fieldName.toList ++ ':' :: ' ' :: Nat.toDigits 10 body.length) := by
  simp only [Frame.canonicalHeader, Utf8.ofString, Utf8.encode, List.flatMap_append]

theorem utf8EncodeChar_of_lt {c : Char} (h : c.toNat < 128) :
    String.utf8EncodeChar c = [UInt8.ofNat c.toNat] := by
  have hv : c.val.toNat ≤ 127 := Nat.le_of_lt_succ h
  simp only [String.utf8EncodeChar, hv, if_true]
  rfl

theorem printable_of_isDigit {c : Char} (h : c.isDigit = true) : 32 ≤ c.toNat ∧ c.toNat < 128 := by
  have hd : 48 ≤ c.toNat ∧ c.toNat ≤ 57 := Char.isDigit_iff_toNat.mp h
  omega

theorem printable_header {n : Nat} {c : Char}
    (h : c ∈ fieldName.toList ++ ':' :: ' ' :: Nat.toDigits 10 n) :
    32 ≤ c.toNat ∧ c.toNat < 128 := by
  rcases List.mem_append.mp h with h | h
  · exact (by simp [fieldName] : ∀ c ∈ fieldName.toList, 32 ≤ c.toNat ∧ c.toNat < 128) c h
  · rcases List.mem_cons.mp h with rfl | h
    · decide
    · rcases List.mem_cons.mp h with rfl | h
      · decide
      · exact printable_of_isDigit (Nat.isDigit_of_mem_toDigits (by decide) (by decide) h)

/-- The header of a body is printable, so it has no carriage return in it. -/
theorem not_mem_canonicalHeader (body : List UInt8) : 13 ∉ Frame.canonicalHeader body := by
  rw [canonicalHeader_eq]
  intro h
  obtain ⟨c, hc, hb⟩ := List.mem_flatMap.mp h
  obtain ⟨hlow, hhigh⟩ := printable_header hc
  rw [utf8EncodeChar_of_lt hhigh, List.mem_singleton, ← UInt8.toNat_inj,
    UInt8.toNat_ofNat_of_lt' (by change _ < 256; omega)] at hb
  have h13 : (13 : UInt8).toNat = 13 := rfl
  omega

/-- A body on the wire begins with its own header, whatever it holds and whatever comes after. -/
theorem firstDelimiter_encode (body more : List UInt8) :
    FirstDelimiter (Frame.encode body ++ more) (Frame.canonicalHeader body).length :=
  firstDelimiter_bytes (f := Frame.ofBody body) (not_mem_canonicalHeader body)

theorem isBlank_of_isDigit {c : Char} (h : c.isDigit = true) : Text.isBlank c = false := by
  have hd : 48 ≤ c.toNat ∧ c.toNat ≤ 57 := Char.isDigit_iff_toNat.mp h
  simp [Text.isBlank, Text.blankRanges]
  omega

theorem field?_of_colon {name value : List Char} (h : ':' ∉ name) :
    field? (name ++ ':' :: value) = some (name, value) := by
  have hname : ∀ c ∈ name, decide (c ≠ ':') = true := fun c hc => by
    simpa using fun he : c = ':' => h (he ▸ hc)
  simp only [field?, List.takeWhile_append_of_pos hname, List.dropWhile_append_of_pos hname]
  simp

theorem leadingNumber?_toDigits {n : Nat} (h : n < lengthLimit) :
    leadingNumber? (' ' :: Nat.toDigits 10 n) = some n := by
  have hblank : (' ' :: Nat.toDigits 10 n).dropWhile Text.isBlank = Nat.toDigits 10 n := by
    have hspace : Text.isBlank ' ' = true := by decide
    cases hd : Nat.toDigits 10 n with
    | nil => exact absurd hd Nat.toDigits_ne_nil
    | cons d ds =>
      have hmem : d ∈ Nat.toDigits 10 n := by simp [hd]
      have hdigit :=
        isBlank_of_isDigit (Nat.isDigit_of_mem_toDigits (by decide) (by decide) hmem)
      simp [hspace, hdigit]
  have hdigits : (Nat.toDigits 10 n).takeWhile Char.isDigit = Nat.toDigits 10 n :=
    List.takeWhile_eq_self_iff.mpr fun c hc =>
      Nat.isDigit_of_mem_toDigits (by decide) (by decide) hc
  simp [leadingNumber?, hblank, hdigits, h]

/-- The header of a body gives its length, if that is a length at all. -/
theorem contentLength?_canonicalHeader {body : List UInt8} (h : body.length < lengthLimit) :
    contentLength? (Frame.canonicalHeader body) = some body.length := by
  have hline : '\n' ∉ fieldName.toList ++ ':' :: ' ' :: Nat.toDigits 10 body.length := by
    intro hn
    exact absurd (printable_header hn).1 (by decide)
  have hcolon : ':' ∉ fieldName.toList := by decide
  simp [contentLength?, canonicalHeader_eq, decodeLossy_encode, List.splitOn_eq_singleton hline,
    lineLength?, field?_of_colon hcolon, leadingNumber?_toDigits h]

/-- A body that was sent is found again, whatever comes after it. -/
theorem decode_encode {body : List UInt8} (h : (Frame.encode body).length < lengthLimit)
    (more : List UInt8) :
    Frame.decode (Frame.encode body ++ more) =
      .frame (Frame.ofBody body) (Frame.encode body).length := by
  have hsize : (Frame.encode body).length = (Frame.ofBody body).size := Frame.length_bytes _
  have hbody : body.length < lengthLimit := by
    refine Nat.lt_of_le_of_lt ?_ h
    rw [hsize]
    exact Nat.le_add_left _ _
  rw [hsize] at h ⊢
  exact decode_bytes_append (firstDelimiter_encode body more) (contentLength?_canonicalHeader hbody)
    h

/-- Bodies that were sent in a row are found again one by one, and then what came after them. -/
theorem stream_encode {bodies : List (List UInt8)}
    (h : ∀ body ∈ bodies, (Frame.encode body).length < lengthLimit) (more : List UInt8) :
    stream (bodies.flatMap Frame.encode ++ more) =
      (bodies.map Frame.ofBody ++ (stream more).1, (stream more).2) := by
  induction bodies with
  | nil => rfl
  | cons body bodies ih =>
    obtain ⟨hbody, hbodies⟩ := List.forall_mem_cons.mp h
    rw [List.flatMap_cons, List.append_assoc, stream_of_frame (decode_encode hbody _),
      List.drop_left, ih hbodies]
    rfl

/-- The header of a body as it reads. -/
theorem canonicalHeader_eq_ofString (body : List UInt8) :
    Frame.canonicalHeader body =
      Utf8.ofString ("Content-Length: " ++ toString body.length) := by
  have hname : "Content-Length: ".toList = fieldName.toList ++ [':', ' '] := by decide
  rw [canonicalHeader_eq, Utf8.ofString, String.toList_append, hname, List.append_assoc]
  simp [toString, Nat.repr]

/-- A frame that was found is the one its body is sent in if it has that header, and only then. -/
theorem encode_eq_take_iff {bs : List UInt8} {f : Frame} {n : Nat}
    (h : Frame.decode bs = .frame f n) :
    Frame.encode f.body = bs.take n ↔ f.header = Frame.canonicalHeader f.body := by
  rw [← bytes_of_decode h, Frame.encode, Frame.bytes, Frame.bytes, Frame.ofBody,
    List.append_assoc, List.append_assoc, List.append_left_inj, eq_comm]

/-- What a body is sent as is read as that body again, under the header that says its length and
nothing else, whatever comes after it; so are bodies that are sent in a row, and what comes after
them is read as it is alone. A frame that was found in some bytes is what its body is sent as if its
header reads like that, to the letter, and else it is not. -/
theorem encode_then_decode :
    (∀ body more : List UInt8, (Frame.encode body).length < lengthLimit →
      Frame.decode (Frame.encode body ++ more) =
        .frame ⟨Utf8.ofString ("Content-Length: " ++ toString body.length), body⟩
          (Frame.encode body).length) ∧
    (∀ (bodies : List (List UInt8)) (more : List UInt8),
      (∀ body ∈ bodies, (Frame.encode body).length < lengthLimit) →
        ∃ frames, stream (bodies.flatMap Frame.encode ++ more) =
            (frames ++ (stream more).1, (stream more).2) ∧
          frames.map Frame.body = bodies) ∧
    ∀ (bytes : List UInt8) (f : Frame) (n : Nat), Frame.decode bytes = .frame f n →
      (Frame.encode f.body = bytes.take n ↔
        f.header = Utf8.ofString ("Content-Length: " ++ toString f.body.length)) := by
  refine ⟨?_, ?_, ?_⟩
  · intro body more h
    rw [decode_encode h more, Frame.ofBody, canonicalHeader_eq_ofString]
  · intro bodies more h
    exact ⟨bodies.map Frame.ofBody, stream_encode h more, by simp [Frame.ofBody, Function.comp_def]⟩
  · intro bytes f n h
    rw [encode_eq_take_iff h, canonicalHeader_eq_ofString]

/-- A body that looks like the end of a header and an empty one, with a header of no use behind
them; and a length with a zero too many, which its body is not sent with. -/
theorem encode_then_decode_delimiter :
    let tail : List UInt8 := 88 :: delimiter
    let padded := Utf8.ofString "Content-Length: 00"
    Frame.decode (Frame.encode delimiter ++ tail) =
        .frame ⟨Utf8.ofString "Content-Length: 4", delimiter⟩ 25 ∧
      (∃ frames, stream ([delimiter, []].flatMap Frame.encode ++ tail) = (frames, .faulty tail) ∧
        frames.map Frame.body = [delimiter, []]) ∧
      Frame.decode (padded ++ delimiter) = .frame ⟨padded, []⟩ 22 ∧
      Frame.encode [] ≠ (padded ++ delimiter).take 22 := by
  intro tail padded
  have hfits : ∀ body ∈ [delimiter, []], (Frame.encode body).length < lengthLimit := by
    decide +kernel
  have htail : stream tail = ([], .faulty tail) := stream_of_fault (by decide +kernel)
  have hpadded : Frame.decode (padded ++ delimiter) = .frame ⟨padded, []⟩ 22 := by decide +kernel
  obtain ⟨hone, hmany, hback⟩ := encode_then_decode
  refine ⟨hone delimiter tail (hfits _ (by simp)), ?_, hpadded, ?_⟩
  · obtain ⟨frames, hs, hbodies⟩ := hmany [delimiter, []] tail hfits
    rw [htail, List.append_nil] at hs
    exact ⟨frames, hs, hbodies⟩
  · rw [ne_eq, hback _ _ _ hpadded]
    decide +kernel

end LspRelay.Proofs.CanonicalFrames
