import LspRelay.Host.Shell.Format
import LspRelay.Host.Tool.Options

namespace LspRelay.Tool.Formatted

open Process

/-- What comes out of a format: a text, a complaint that goes along with it, or an early end, which
may have a complaint. -/
inductive Piece where
  | text (bs : Bytes)
  | complaint (about : Bytes)
  | failure (about : Bytes)
  | finish
  deriving Repr, DecidableEq

def Piece.isFinal : Piece → Bool
  | failure _ => true
  | finish => true
  | _ => false

abbrev Reading := List Piece × Bytes

def hexDigits (limit : Nat) (bs : Bytes) : Bytes :=
  (bs.take limit).takeWhile fun b => (Decimal.Floating.hexValue? (Char.ofNat b.toNat)).isSome

def number (base : Nat) (digits : Bytes) : Nat :=
  digits.foldl (fun n d =>
    n * base + (Decimal.Floating.hexValue? (Char.ofNat d.toNat)).getD 0) 0

def hexadecimal (width n : Nat) : Bytes :=
  let digits := (Nat.toDigits 16 n).map octet
  List.replicate (width - digits.length) Octet.zero ++ digits

/-- A character by its number in four or eight digits. Only those of one octet can be shown; others
stand as they would be written. -/
def unicode (letter : UInt8) (rest : Bytes) : Reading :=
  let width := if letter = octet 'u' then 4 else 8
  let digits := hexDigits width rest
  let n := number 16 digits
  if digits.length < width then ([.failure (ofText "missing hexadecimal number in escape")], [])
  else if (n < 0xA0 && !([0x24, 0x40, 0x60].contains n)) || (0xD800 ≤ n && n < 0xE000) then
    ([.failure (ofText "invalid universal character name " ++ Octet.backslash :: letter ::
      hexadecimal width n)], [])
  else
    let shown :=
      if n < 0x80 then [UInt8.ofNat n]
      else if n < 0x10000 then ofText "\\u" ++ upper (hexadecimal 4 n)
      else ofText "\\U" ++ upper (hexadecimal 8 n)
    ([.text shown], rest.drop width)

def readEscape (inArgument : Bool) (bs : Bytes) : Reading :=
  match bs with
  | [] => ([.text [Octet.backslash]], [])
  | b :: rest =>
    if b = octet 'x' then
      let digits := hexDigits 2 rest
      if digits = [] then ([.failure (ofText "missing hexadecimal number in escape")], [])
      else ([.text [UInt8.ofNat (number 16 digits)]], rest.drop digits.length)
    else if Shell.isOctal b then
      let start := if inArgument && b = Octet.zero then rest else bs
      let digits := (start.take 3).takeWhile Shell.isOctal
      ([.text [UInt8.ofNat (number 8 digits)]], start.drop digits.length)
    else if b = octet 'c' then ([.finish], [])
    else if b = Octet.doubleQuote then ([.text [b]], rest)
    else if b = octet 'u' || b = octet 'U' then unicode b rest
    else
      match Shell.escaped? b with
      | some e => ([.text [e]], rest)
      | none => ([.text [Octet.backslash, b]], rest)

def unescaped : Nat → Bytes → List Piece
  | 0, _ => []
  | _ + 1, [] => []
  | fuel + 1, b :: bs =>
    if b = Octet.backslash then
      let (pieces, rest) := readEscape true bs
      pieces ++ unescaped fuel rest
    else .text [b] :: unescaped fuel bs

/-- The complaint about an argument that is not the number that it should be. -/
def complaintAbout (arg : Bytes) : Shell.FormatFault → Piece
  | .noNumber => .complaint (quoted arg ++ ofText ": expected a numeric value")
  | .leftOver => .complaint (quoted arg ++ ofText ": value not completely converted")
  | .outOfRange => .complaint (quoted arg ++ ofText ": Numerical result out of range")
  | _ => .complaint (quoted arg)

def goesWith (flags : Bytes) (hasPrecision : Bool) (letter : UInt8) : Bool :=
  let isOneOf (letters : String) : Bool := (ofText letters).contains letter
  isOneOf "aAcdeEfFgGiosuxX" && !(hasPrecision && isOneOf "c") &&
    flags.all fun flag =>
      if flag = Octet.singleQuote || flag = octet 'I' then !isOneOf "aAceEosxX"
      else if flag = octet '#' then !isOneOf "cdisu"
      else if flag = Octet.zero then !isOneOf "cs"
      else true

def readAmount (what : String) (bs : Bytes) (args : List Bytes) :
    Option Int × List Piece × Bytes × List Bytes :=
  let isDigit (b : UInt8) : Bool := octet '0' ≤ b && b ≤ octet '9'
  match bs with
  | b :: rest =>
    if b = octet '*' then
      match args with
      | [] => (some 0, [], rest, [])
      | arg :: args =>
        let (n, fault) := Shell.argument true arg
        let pieces := (fault.map (complaintAbout arg)).toList
        if n.natAbs < Nat.pow 2 31 then (some n, pieces, rest, args)
        else (none, pieces ++ [.failure (ofText s!"invalid {what}: " ++ quoted arg)], rest, args)
    else
      (some ((number? (bs.takeWhile isDigit)).getD 0 : Nat), [], bs.dropWhile isDigit, args)
  | [] => (some 0, [], [], args)

def conversion (bs : Bytes) (args : List Bytes) : Reading × List Bytes :=
  let isFlag (b : UInt8) : Bool := (ofText "-+ 0#'I").contains b
  let arg := args.headD []
  match bs with
  | b :: rest =>
    if b = Octet.percent then (([.text [b]], rest), args)
    else if b = octet 'b' then ((unescaped (arg.length + 1) arg, rest), args.tail)
    else if b = octet 'q' then
      let isAlone := arg.length = 1
      let isSpecial := arg = [] || needsQuotes true isAlone (arg.headD 0) ||
        arg.tail.any (needsQuotes false false)
      (([.text (if args = [] then [] else if isSpecial then shellQuoted arg else arg)], rest),
        args.tail)
    else
      let flags := bs.takeWhile isFlag
      let (width, before, rest, args) := readAmount "field width" (bs.dropWhile isFlag) args
      let hasPrecision := rest.head? = some Octet.point
      let (precision, more, rest, args) :=
        if hasPrecision then readAmount "precision" rest.tail args else (none, [], rest, args)
      let pieces := before ++ more
      let rest := rest.dropWhile (ofText "lLhjtz").contains
      let letter := rest.headD 0
      if pieces.any Piece.isFinal then ((pieces, []), args)
      else if !goesWith flags hasPrecision letter then
        let spelled := Octet.percent :: bs.take (bs.length - rest.tail.length)
        ((pieces ++ [.failure (spelled ++ ofText ": invalid conversion specification")], []), args)
      else
        let arg := args.headD []
        let isLeft := width.any (· < 0)
        let layout : Layout :=
          ⟨if isLeft then Octet.dash :: flags else flags, (width.getD 0).natAbs,
            precision.bind fun n => if n < 0 then none else some n.toNat⟩
        let (shown, fault) := Shell.convert layout letter arg
        let fault := if args = [] then none else fault
        ((pieces ++ (fault.map (complaintAbout arg)).toList ++ [.text shown], rest.tail), args.tail)
  | [] => (([.failure (ofText "%: invalid conversion specification")], []), args)

def pass : Nat → Bytes → List Bytes → List Piece × List Bytes
  | 0, _, args => ([], args)
  | _ + 1, [], args => ([], args)
  | fuel + 1, b :: bs, args =>
    let ((pieces, rest), args) :=
      if b = Octet.backslash then (readEscape false bs, args)
      else if b = Octet.percent then conversion bs args
      else (([.text [b]], bs), args)
    if pieces.any Piece.isFinal then (pieces, args)
    else
      let (more, args) := pass fuel rest args
      (pieces ++ more, args)

def passes (format : Bytes) : Nat → List Bytes → List Piece × List Bytes
  | 0, args => ([], args)
  | fuel + 1, args =>
    let (pieces, rest) := pass (format.length + 1) format args
    if pieces.any Piece.isFinal || rest = [] || rest.length = args.length then (pieces, rest)
    else
      let (more, rest) := passes format fuel rest
      (pieces ++ more, rest)

def put : List Piece → Act Unit
  | [] => pure ()
  | .text bs :: pieces => do
    print bs
    put pieces
  | .complaint about :: pieces => do
    flush
    fail 1 about
    put pieces
  | .failure about :: _ => do
    flush
    die 1 about
  | .finish :: _ => exit 0

end Formatted

open Process

def printf : Command := fun args => do
  let args := if args.head? = some (ofText "--") then args.tail else args
  match args with
  | [] => missingOperand 1
  | format :: rest =>
    let (pieces, unused) := Formatted.passes format (rest.length + 1) rest
    Formatted.put pieces
    match unused with
    | extra :: _ =>
      flush
      complain (ofText "warning: ignoring excess arguments, starting with " ++ quoted extra)
    | [] => pure ()

end LspRelay.Tool
