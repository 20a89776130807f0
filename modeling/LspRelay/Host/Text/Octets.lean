import LspRelay.Text.Utf8

namespace LspRelay

abbrev Bytes := List UInt8

def ofText (s : String) : Bytes := Utf8.ofString s

def octet (c : Char) : UInt8 := UInt8.ofNat c.toNat

namespace Octet

@[match_pattern] def tab : UInt8 := 9

@[match_pattern] def lineFeed : UInt8 := 10

@[match_pattern] def space : UInt8 := 32

@[match_pattern] def doubleQuote : UInt8 := 34

@[match_pattern] def percent : UInt8 := 37

@[match_pattern] def singleQuote : UInt8 := 39

@[match_pattern] def plus : UInt8 := 43

@[match_pattern] def dash : UInt8 := 45

@[match_pattern] def point : UInt8 := 46

@[match_pattern] def slash : UInt8 := 47

@[match_pattern] def zero : UInt8 := 48

@[match_pattern] def equals : UInt8 := 61

@[match_pattern] def openBracket : UInt8 := 91

@[match_pattern] def backslash : UInt8 := 92

@[match_pattern] def closeBracket : UInt8 := 93

end Octet

/-- Each octet as the character of its number, so that rules can be told in characters. -/
def toChars (bs : Bytes) : List Char := bs.map fun b => Char.ofNat b.toNat

def ofChars (cs : List Char) : Bytes := cs.map octet

def total (ns : List Nat) : Nat := ns.foldl (· + ·) 0

def number? (bs : Bytes) : Option Nat :=
  let cs := toChars bs
  if cs ≠ [] ∧ cs.all Char.isDigit then some (Nat.ofDigitChars 10 cs 0) else none

def integer? (bs : Bytes) : Option Int :=
  match bs with
  | Octet.dash :: rest => (number? rest).map fun n => -(n : Int)
  | Octet.plus :: rest => (number? rest).map fun n => (n : Int)
  | bs => (number? bs).map fun n => (n : Int)

def decimal (n : Nat) : Bytes := (Nat.toDigits 10 n).map octet

def signedDecimal (n : Int) : Bytes :=
  if n < 0 then Octet.dash :: decimal n.natAbs else decimal n.natAbs

def joined (words : List Bytes) : Bytes := [Octet.space].intercalate words

def lineOf (bs : Bytes) : Bytes := bs ++ [Octet.lineFeed]

def isBlankOctet (b : UInt8) : Bool := b = Octet.space || b = Octet.tab || b = Octet.lineFeed

def trimBlanks (bs : Bytes) : Bytes :=
  ((bs.dropWhile isBlankOctet).reverse.dropWhile isBlankOctet).reverse

def piecesOf (mark : UInt8) (bs : Bytes) : List Bytes :=
  let (piece, pieces) := bs.foldr
    (fun b (piece, pieces) => if b = mark then ([b], piece :: pieces) else (b :: piece, pieces))
    ([], [])
  (piece :: pieces).filter (· ≠ [])

def lineList (bs : Bytes) : List Bytes := piecesOf Octet.lineFeed bs

def plainLines (bs : Bytes) : List Bytes :=
  (lineList bs).map fun line =>
    if line.getLast? = some Octet.lineFeed then line.dropLast else line

end LspRelay
