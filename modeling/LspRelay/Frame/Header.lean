import LspRelay.Frame.Basic
import LspRelay.Text.Blank

namespace LspRelay

def lengthLimit : Nat := Nat.pow 2 64

def field? (line : List Char) : Option (List Char × List Char) :=
  match line.dropWhile (· ≠ ':') with
  | [] => none
  | _ :: value => some (line.takeWhile (· ≠ ':'), value)

/-- The digits that begin a value after its leading blanks. A carriage return that ends the line is
no digit, so it needs no care. -/
def leadingNumber? (value : List Char) : Option Nat :=
  let digits := (value.dropWhile Text.isBlank).takeWhile Char.isDigit
  let n := Nat.ofDigitChars 10 digits 0
  if digits ≠ [] ∧ n < lengthLimit then some n else none

/-- The name may be in any ASCII case and has nothing around it. -/
def lineLength? (line : List Char) : Option Nat := do
  let (name, value) ← field? line
  if name.map Char.toLower = fieldName.toList.map Char.toLower then leadingNumber? value else none

def contentLength? (header : List UInt8) : Option Nat :=
  ((Utf8.decodeLossy header).splitOn '\n').findSome? lineLength?

end LspRelay
