import LspRelay.Proofs.LiteralValues
import LspRelay.Proofs.LogMessages

namespace LspRelay.Proofs.KeptNumbers
open Json (Literal Number Value)
open Documents DocumentCopies LogMessages
open Json.Literals Json.Numbers Json.Numerals Json.Reading Json.Text Json.TreeEdits Json.Trees

variable {body sent : List UInt8} {v w message : Value} {p : List Access} {l : Literal}

/-- A text as a tree with its numbers as they are written. -/
def written? (text : List UInt8) : Option (Json.Tree Literal) :=
  (Utf8.decode? text).bind (Json.Tree.ofChars? some)

def number? : Json.Tree Literal → Option Literal
  | .number l => some l
  | _ => none

/-- The literal that a path leads to in a text. -/
def literalAt? (text : List UInt8) (p : List Access) : Option Literal :=
  (written? text).bind fun t => (at? t p).bind number?

/-- What a literal is in a copy: read and printed, it denotes the same if it is exact. -/
structure Kept (l l' : Literal) : Prop where
  reprinted : reprinted? l = some l'
  denoted : IsExact l → denoted l' = denoted l

theorem kept_of_number? {n : Number} (h : l.number? = some n) : Kept l (literalOf n) := by
  have hreprinted : reprinted? l = some (literalOf n) := by simp [reprinted?, h]
  exact ⟨hreprinted, fun he => denoted_reprinted he hreprinted⟩

theorem number?_eq_some_iff {t : Json.Tree Literal} : number? t = some l ↔ t = .number l := by
  cases t <;> simp [number?]

/-- The numbers of the value that is read are those of the text. -/
theorem number_of_literalAt? (h : Value.ofBytes? body = some v) (hl : literalAt? body p = some l) :
    ∃ n, l.number? = some n ∧ at? v p = some (.number n) := by
  obtain ⟨cs, hcs, h⟩ := Option.bind_eq_some_iff.mp h
  obtain ⟨t, ht, hc⟩ := ofChars?_converted h
  have hwritten : written? body = some t := by simp [written?, hcs, ht]
  simp only [literalAt?, hwritten, Option.bind_some, Option.bind_eq_some_iff,
    number?_eq_some_iff] at hl
  obtain ⟨x, hx, rfl⟩ := hl
  obtain ⟨y, hy, hxy⟩ := at?_convert? hc hx
  obtain ⟨n, hn, rfl⟩ := Option.map_eq_some_iff.mp hxy
  exact ⟨n, hn, hy⟩

theorem literalAt?_of_written? {t : Json.Tree Literal} (ht : written? body = some t)
    (hl : at? t p = some (.number l)) : literalAt? body p = some l := by
  simp [literalAt?, ht, hl, number?]

/-- The text of a value is that value with each number as the literal that it is printed as. -/
theorem written?_bytes (h : Fits (fun _ => True) Json.maxDepth v) :
    ∃ t, written? v.bytes = some t ∧ convert? (fun n => some (literalOf n)) v = some t := by
  have hread : written? v.bytes = convert? (fun n => some (literalOf n)) v := by
    rw [written?, Json.Tree.bytes, Utf8Codec.decode?_encode]
    exact ofChars?_charsWith legible h
  obtain ⟨t, ht⟩ : ∃ t, convert? (fun n => some (literalOf n)) v = some t :=
    h.exists_convert? fun n _ => ⟨literalOf n, rfl⟩
  exact ⟨t, hread.trans ht, ht⟩

theorem literalAt?_bytes {n : Number} (h : Fits (fun _ => True) Json.maxDepth v)
    (hn : at? v p = some (.number n)) : literalAt? v.bytes p = some (literalOf n) := by
  obtain ⟨t, ht, hc⟩ := written?_bytes h
  obtain ⟨x, hx, hnx⟩ := at?_convert? hc hn
  cases hnx
  exact literalAt?_of_written? ht hx

def stringAt? (text : List UInt8) (ks : List String) : Option String :=
  ((written? text).bind (·.get? ks)).bind Json.Tree.string?

theorem stringAt?_bytes {ks : List String} {s : String}
    (h : Fits (fun _ => True) Json.maxDepth v) (hs : v.get? ks = some (.string s)) :
    stringAt? v.bytes ks = some s := by
  obtain ⟨t, ht, hc⟩ := written?_bytes h
  obtain ⟨x, hx, hsx⟩ := get?_convert? hc hs
  cases hsx
  simp [stringAt?, ht, hx, Json.Tree.string?]

/-- A number of a body stays in its place when a string is put in elsewhere, and otherwise it was in
what the string is put in for. -/
theorem literalAt?_replaced {old : Value} {new : String} {ks : List String}
    (hv : Value.ofBytes? body = some v) (hr : Replaced old (.string new) ks v w)
    (hl : literalAt? body p = some l) :
    ∃ n, l.number? = some n ∧ (literalAt? w.bytes p = some (literalOf n) ∨
      ∃ q, p = ks.map .key ++ q ∧ at? old q = some (.number n)) := by
  obtain ⟨n, hn, hat⟩ := number_of_literalAt? hv hl
  refine ⟨n, hn, ?_⟩
  rcases hr.at?_of_leaf (x := .number n) (fun _ hx => nomatch hx) hat with hsame | hinner
  · exact .inl (literalAt?_bytes ((fits_of_parsed hv).replaced hr) hsame)
  · exact .inr hinner

/-- A copy that goes to the server has all numbers of its body in their places. -/
theorem kept_of_copy (hsent : sent ∈ (Edit.toServer body).bodies) (hne : sent ≠ body)
    (hl : literalAt? body p = some l) : ∃ l', Kept l l' ∧ literalAt? sent p = some l' := by
  obtain ⟨v, v', kind, method, old, new, h, hr, -, rfl⟩ := copy_of_bodies hsent hne
  obtain ⟨n, hn, hsame | ⟨q, -, hq⟩⟩ := literalAt?_replaced h.parsed hr hl
  · exact ⟨literalOf n, kept_of_number? hn, hsame⟩
  · cases q with
    | nil => cases hq
    | cons step q => cases step <;> cases hq

/-- A body that goes to the client for a log message has all numbers in their places, but those of
the message in the text of it that stands in its place. -/
theorem kept_of_text (hsent : sent ∈ (Edit.toClient body).bodies) (hne : sent ≠ body)
    (hl : literalAt? body p = some l) :
    ∃ l', Kept l l' ∧ (literalAt? sent p = some l' ∨
      ∃ q text, p = messagePath.map .key ++ q ∧ stringAt? sent messagePath = some text ∧
        literalAt? (Utf8.encode text.toList) q = some l') := by
  obtain ⟨v, w, message, h, hr, rfl⟩ := text_of_bodies hsent hne
  have hfits := fits_of_parsed h.parsed
  obtain ⟨n, hn, hplace⟩ := literalAt?_replaced h.parsed hr hl
  refine ⟨literalOf n, kept_of_number? hn, ?_⟩
  rcases hplace with hsame | ⟨q, rfl, hq⟩
  · exact .inl hsame
  · refine .inr ⟨q, message.text, rfl, ?_, ?_⟩
    · exact stringAt?_bytes (hfits.replaced hr) hr.get?_new
    · have htext : Utf8.encode message.text.toList = message.bytes := by
        rw [Json.Tree.text, String.toList_ofList, Json.Tree.bytes]
      rw [htext]
      exact literalAt?_bytes (hfits.get? h.held) hq

/-- Every number of a body that is sent in a copy is there as the literal that it is printed as, in
its place or, for a number of a log message, in the text of that message. If it is an integer of 64
bits or a decimal of up to 15 digits and a small exponent, it denotes the same as before. -/
theorem numbers_kept (hl : literalAt? body p = some l) (hne : sent ≠ body) :
    (sent ∈ (Edit.toServer body).bodies → ∃ l', Kept l l' ∧ literalAt? sent p = some l') ∧
      (sent ∈ (Edit.toClient body).bodies → ∃ l', Kept l l' ∧
        (literalAt? sent p = some l' ∨
          ∃ q text, p = messagePath.map .key ++ q ∧ stringAt? sent messagePath = some text ∧
            literalAt? (Utf8.encode text.toList) q = some l')) :=
  ⟨fun hsent => kept_of_copy hsent hne hl, fun hsent => kept_of_text hsent hne hl⟩

def textOf (t : Json.Tree Literal) : List UInt8 := Utf8.encode (t.charsWith chars)

def request (id : Literal) (uri : String) : List UInt8 :=
  textOf (.object [("jsonrpc", .string "2.0"), ("id", .number id),
    ("method", .string "textDocument/completion"),
    ("params", .object [("textDocument", .object [("uri", .string uri)]),
      ("position", .object [("line", .number (written 3)), ("character", .number (written 5))])])])

def notice (message : Json.Tree Literal) : List UInt8 :=
  textOf (.object [("jsonrpc", .string "2.0"), ("method", .string "window/logMessage"),
    ("params", .object [("type", .number (written 3)), ("message", message)])])

def elapsed (time : Literal) : Json.Tree Literal := .object [("elapsed", .number time)]

def elapsedPath : List Access := [.key "params", .key "message", .key "elapsed"]

def half : Literal := ⟨false, ['2'], ['5', '0'], none⟩

def printedHalf : Literal := ⟨false, ['2'], ['5'], none⟩

def printedNotice (time : Literal) : List UInt8 :=
  notice (.string (.ofList ((elapsed time).charsWith chars)))

theorem numbers_kept_half :
    (literalAt? (request half "file:///D:/a") [.key "id"] = some half ∧ IsExact half ∧
      ∃ l', Kept half l' ∧
        literalAt? (request printedHalf "file:///d%3A/a") [.key "id"] = some l') ∧
    (literalAt? (notice (elapsed half)) elapsedPath = some half ∧
      ∃ l', Kept half l' ∧ (literalAt? (printedNotice printedHalf) elapsedPath = some l' ∨
        ∃ q text, elapsedPath = messagePath.map .key ++ q ∧
          stringAt? (printedNotice printedHalf) messagePath = some text ∧
          literalAt? (Utf8.encode text.toList) q = some l')) := by
  have hid : literalAt? (request half "file:///D:/a") [.key "id"] = some half := by decide +kernel
  have htime : literalAt? (notice (elapsed half)) elapsedPath = some half := by decide +kernel
  have hexact : IsExact half := .inr ⟨by decide +kernel, by decide +kernel, nofun⟩
  refine ⟨⟨hid, hexact, (numbers_kept hid ?_).1 ?_⟩, htime, (numbers_kept htime ?_).2 ?_⟩
  all_goals decide +kernel

/-- An identifier that no integer of 64 bits is, and what is printed for it. -/
def longId : Literal := ⟨false, "18446744073709551617".toList, [], none⟩

def printedId : Literal := ⟨false, ['1'], "8446744073709552".toList, some (false, ['1', '9'])⟩

/-- A time with as many digits as a binary64 number may need, and what is printed for it. -/
def longTime : Literal := ⟨false, ['9', '4'], "92279489729363".toList, none⟩

def printedTime : Literal := ⟨false, ['9', '4'], "92279489729364".toList, none⟩

/-- Numbers that are not exact can change: the identifier of a request to the server, and a number
in the text of a log message. -/
theorem numbers_changed :
    ((Edit.toServer (request longId "file:///D:/proj/a.md")).bodies =
        [request printedId "file:///d%3A/proj/a.md"] ∧
      literalAt? (request longId "file:///D:/proj/a.md") [.key "id"] = some longId ∧
      literalAt? (request printedId "file:///d%3A/proj/a.md") [.key "id"] = some printedId ∧
      denoted printedId ≠ denoted longId) ∧
    (∃ text, (Edit.toClient (notice (elapsed longTime))).bodies = [notice (.string text)] ∧
      literalAt? (notice (elapsed longTime)) elapsedPath = some longTime ∧
      stringAt? (notice (.string text)) messagePath = some text ∧
      literalAt? (Utf8.encode text.toList) [.key "elapsed"] = some printedTime ∧
      denoted printedTime ≠ denoted longTime) := by
  have hid : denoted printedId ≠ denoted longId := by decide +kernel
  have htime : denoted printedTime ≠ denoted longTime := by decide +kernel
  exact ⟨⟨by decide +kernel, by decide +kernel, by decide +kernel, hid⟩,
    .ofList ((elapsed printedTime).charsWith chars), by decide +kernel, by decide +kernel,
    by decide +kernel, by decide +kernel, htime⟩

end LspRelay.Proofs.KeptNumbers
