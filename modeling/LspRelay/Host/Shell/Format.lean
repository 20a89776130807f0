import LspRelay.Host.Text.Layout

namespace LspRelay.Shell

def escaped? (b : UInt8) : Option UInt8 :=
  ([('n', 10), ('t', 9), ('r', 13), ('a', 7), ('b', 8), ('f', 12), ('v', 11), ('e', 27),
    ('\\', 92)].find? fun p => octet p.1 = b).map Prod.snd

def isOctal (b : UInt8) : Bool := octet '0' ≤ b && b ≤ octet '7'

def octalValue (digits : Bytes) : UInt8 :=
  digits.foldl (fun n d => n * 8 + (d - octet '0')) 0

/-- An escape after its backslash: up to three octal digits or a letter. Any other backslash stands
for itself. -/
def readEscape (bs : Bytes) : UInt8 × Bytes :=
  let digits := (bs.take 3).takeWhile isOctal
  match bs with
  | [] => (Octet.backslash, [])
  | b :: rest =>
    if digits ≠ [] then (octalValue digits, bs.drop digits.length)
    else
      match escaped? b with
      | some e => (e, rest)
      | none => (Octet.backslash, bs)

/-- Undoes the escapes of an argument, where a number may have a further zero in front and `c` ends
the output, given what has come out before, the last octet first. The fuel is the number of octets.
-/
def unescapeAfter (before : Bytes) : Nat → Bytes → Bytes × Bool
  | 0, _ => (before.reverse, false)
  | _ + 1, [] => (before.reverse, false)
  | fuel + 1, b :: bs =>
    if b ≠ Octet.backslash then unescapeAfter (b :: before) fuel bs
    else
      match bs with
      | [] => ((b :: before).reverse, false)
      | c :: rest =>
        if c = octet 'c' then (before.reverse, true)
        else
          let isLong := c = Octet.zero && rest.head?.any isOctal
          let (e, rest) := readEscape (if isLong then rest else bs)
          unescapeAfter (e :: before) fuel rest

def unescape (bs : Bytes) : Bytes × Bool := unescapeAfter [] (bs.length + 1) bs

/-- What is wrong with a format or its arguments: an argument that is not the number that it should
be, or a conversion that there is not, which ends the output. -/
inductive FormatFault where
  | noNumber
  | leftOver
  | outOfRange
  | badConversion
  | noConversion
  deriving Repr, DecidableEq

namespace FormatFault

def message (about : Bytes) : FormatFault → Bytes
  | noNumber => about ++ ofText ": expected numeric value"
  | leftOver => about ++ ofText ": not completely converted"
  | outOfRange => about ++ ofText ": Numerical result out of range"
  | badConversion => about ++ ofText ": invalid directive"
  | noConversion => ofText "missing format character"

def isFatal (f : FormatFault) : Bool := f = badConversion || f = noConversion

end FormatFault

def digitsIn (base : Nat) (bs : Bytes) : Nat × Bytes :=
  let value (b : UInt8) : Nat :=
    if octet '0' ≤ b ∧ b ≤ octet '9' then (b - octet '0').toNat
    else if octet 'a' ≤ b ∧ b ≤ octet 'z' then (b - octet 'a').toNat + 10
    else if octet 'A' ≤ b ∧ b ≤ octet 'Z' then (b - octet 'A').toNat + 10
    else 36
  let isDigit (b : UInt8) : Bool := value b < base
  ((bs.takeWhile isDigit).foldl (fun n b => n * base + value b) 0, bs.dropWhile isDigit)

def quotedOctet? (bs : Bytes) : Option Nat :=
  match bs with
  | Octet.singleQuote :: rest => some (rest.headD 0).toNat
  | Octet.doubleQuote :: rest => some (rest.headD 0).toNat
  | _ => none

/-- Why an argument is not quite a number, given what follows the number in it. -/
def faultOf (arg rest : Bytes) (inRange : Bool) : Option FormatFault :=
  if rest = [] then if inRange then none else some .outOfRange
  else if rest.length = arg.length then some .noNumber
  else some .leftOver

/-- A whole number as an argument: decimal, octal after a zero, or hexadecimal after a zero and an
x, with blanks and a sign in front. It has 64 bits and may have a sign or not. -/
def argument (signed : Bool) (arg : Bytes) : Int × Option FormatFault :=
  match quotedOctet? arg with
  | some n => (n, none)
  | none =>
    let isSpace (b : UInt8) : Bool := b = Octet.space || (9 ≤ b && b ≤ 13)
    let (negative, bs) : Bool × Bytes := match arg.dropWhile isSpace with
      | Octet.dash :: rest => (true, rest)
      | Octet.plus :: rest => (false, rest)
      | rest => (false, rest)
    let (n, rest) := match bs with
      | Octet.zero :: x :: digit :: rest =>
        if (x = octet 'x' ∨ x = octet 'X') ∧ (digitsIn 16 [digit]).2 = [] then
          digitsIn 16 (digit :: rest)
        else digitsIn 8 bs
      | Octet.zero :: _ => digitsIn 8 bs
      | bs => digitsIn 10 bs
    if rest.length = bs.length then (0, faultOf arg arg true)
    else if signed then
      let limit := if negative then Nat.pow 2 63 else Nat.pow 2 63 - 1
      let value : Int := if negative then -(min n limit : Nat) else (min n limit : Nat)
      (value, faultOf arg rest (n ≤ limit))
    else if Nat.pow 2 64 ≤ n then ((Nat.pow 2 64 - 1 : Nat), faultOf arg rest false)
    else (if negative then (Nat.pow 2 64 - n) % Nat.pow 2 64 else n, faultOf arg rest true)

def floatArgument (arg : Bytes) : Float × Option FormatFault :=
  match quotedOctet? arg with
  | some n => (Decimal.floatOfRatio false n 1, none)
  | none =>
    match Decimal.Floating.read? (toChars arg) with
    | some (f, rest) => (f, faultOf arg (ofChars rest) true)
    | none => (Decimal.floatOfRatio false 0 1, faultOf arg arg true)

def isConversion (b : UInt8) : Bool := (ofText "diuoxXcsbaAeEfFgG").contains b

/-- An argument as a letter shows it, and why it is not the number that it has to be. -/
def convert (l : Layout) (letter : UInt8) (arg : Bytes) : Bytes × Option FormatFault :=
  if letter = octet 's' then (l.text arg, none)
  else if letter = octet 'b' then (l.text (unescape arg).1, none)
  else if letter = octet 'c' then ({ l with precision := none }.text [arg.headD 0], none)
  else if letter = octet 'd' ∨ letter = octet 'i' then
    let (n, fault) := argument true arg
    (l.signed n, fault)
  else if (ofText "ouxX").contains letter then
    let (n, fault) := argument false arg
    (l.natural letter n.toNat, fault)
  else
    let (f, fault) := floatArgument arg
    (l.floating letter f, fault)

/-- What a format makes of its arguments: the output, what is left of the arguments, what is wrong
with which of them, and whether the output was cut short. -/
structure Formatted where
  output : Bytes
  rest : List Bytes
  faults : List (Bytes × FormatFault)
  cut : Bool

namespace Formatted

def before (out : Bytes) (faults : List (Bytes × FormatFault)) (f : Formatted) : Formatted :=
  { f with output := out ++ f.output, faults := faults ++ f.faults }

end Formatted

def readAmount (bs : Bytes) (args : List Bytes) :
    Int × Bytes × List Bytes × List (Bytes × FormatFault) :=
  let isDigit (b : UInt8) : Bool := octet '0' ≤ b && b ≤ octet '9'
  match bs with
  | b :: rest =>
    if b = octet '*' then
      match args with
      | [] => (0, rest, [], [])
      | arg :: args =>
        let (n, fault) := argument true arg
        (n, rest, args, (fault.map (arg, ·)).toList)
    else (((number? (bs.takeWhile isDigit)).getD 0 : Nat), bs.dropWhile isDigit, args, [])
  | [] => (0, [], args, [])

def readLayout (bs : Bytes) (args : List Bytes) :
    Layout × Bytes × List Bytes × List (Bytes × FormatFault) :=
  let isFlag (b : UInt8) : Bool := (ofText "-+ 0#").contains b
  let flags := bs.takeWhile isFlag
  let (width, bs, args, faults) := readAmount (bs.dropWhile isFlag) args
  let flags := if width < 0 then Octet.dash :: flags else flags
  match bs with
  | Octet.point :: rest =>
    let (n, rest, args, more) := readAmount rest args
    (⟨flags, width.natAbs, if n < 0 then none else some n.toNat⟩, rest, args, faults ++ more)
  | rest => (⟨flags, width.natAbs, none⟩, rest, args, faults)

def formatOnce : Nat → Bytes → List Bytes → Formatted
  | 0, _, args => ⟨[], args, [], false⟩
  | _ + 1, [], args => ⟨[], args, [], false⟩
  | fuel + 1, b :: bs, args =>
    if b = Octet.backslash then
      let (e, rest) := readEscape bs
      (formatOnce fuel rest args).before [e] []
    else if b = Octet.percent then
      if bs.head? = some Octet.percent then
        (formatOnce fuel (bs.drop 1) args).before [Octet.percent] []
      else
        let (layout, rest, args, faults) := readLayout bs args
        match rest with
        | c :: rest =>
          if isConversion c then
            let arg := args.headD []
            let (shown, fault) := convert layout c arg
            let fault := if args = [] then none else fault
            let cut := c = octet 'b' && (unescape arg).2
            let faults := faults ++ (fault.map (arg, ·)).toList
            if cut then ⟨shown, args.tail, faults, true⟩
            else (formatOnce fuel rest args.tail).before shown faults
          else
            let conversion := Octet.percent :: bs.take (bs.length - rest.length)
            ⟨[], args, faults ++ [(conversion, .badConversion)], true⟩
        | [] => ⟨[], args, faults ++ [([], .noConversion)], true⟩
    else (formatOnce fuel bs args).before [b] []

def formatAll : Nat → Bytes → List Bytes → Formatted
  | 0, _, args => ⟨[], args, [], false⟩
  | fuel + 1, format, args =>
    let f := formatOnce (format.length + 1) format args
    if f.cut ∨ f.rest = [] ∨ f.rest.length = args.length then f
    else (formatAll fuel format f.rest).before f.output f.faults

end LspRelay.Shell
