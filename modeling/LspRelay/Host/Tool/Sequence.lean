import LspRelay.Host.Text.Layout
import LspRelay.Host.Tool.Show

namespace LspRelay.Tool

open Process

/-- A decimal number as it is written: its digits without the point, how many of them come after it,
how many are shown after it, and how wide it is. -/
structure Written where
  value : Int
  places : Nat
  precision : Nat
  width : Int
  isInfinite : Bool

namespace Written

/-- The digits of a number at so many places, which are no fewer than its own. -/
def scaled (w : Written) (places : Nat) : Int := w.value * Nat.pow 10 (places - w.places)

def isDigit (b : UInt8) : Bool := octet '0' ≤ b && b ≤ octet '9'

/-- Reads an amount with or without a point and an exponent. -/
def ofBytes? (arg : Bytes) : Option Written :=
  let isSpace (b : UInt8) : Bool := b = Octet.space || (9 ≤ b && b ≤ 13)
  let text := arg.dropWhile fun b => isSpace b || b = Octet.plus
  let isNegative := text.head? = some Octet.dash
  let body := if isNegative then text.tail else text
  let signed (n : Nat) : Int := if isNegative then -(n : Int) else n
  let word := lower body
  if word = ofText "inf" ∨ word = ofText "infinity" then
    some ⟨signed 1, 0, 0, 0, true⟩
  else if (ofText "0x").isPrefixOf word then
    let digits := word.drop 2
    let value? (b : UInt8) : Option Nat := Decimal.Floating.hexValue? (Char.ofNat b.toNat)
    if digits ≠ [] ∧ digits.all fun b => (value? b).isSome then
      some ⟨signed (digits.foldl (fun n b => n * 16 + (value? b).getD 0) 0), 0, 0, 0, false⟩
    else none
  else
    let whole := body.takeWhile isDigit
    let rest := body.dropWhile isDigit
    let hasPoint := rest.head? = some Octet.point
    let fraction := if hasPoint then rest.tail.takeWhile isDigit else []
    let rest := if hasPoint then rest.tail.dropWhile isDigit else rest
    let exponent? : Option (Option Int) :=
      match rest with
      | [] => some none
      | e :: digits =>
        if e = octet 'e' ∨ e = octet 'E' then (integer? digits).map some else none
    match exponent? with
    | none => none
    | some exponent =>
      if whole = [] ∧ fraction = [] then none
      else
        let n := (number? (whole ++ fraction)).getD 0
        let e := exponent.getD 0
        let places : Int := fraction.length - e
        let value := n * Nat.pow 10 (-places).toNat
        let mantissa := text.takeWhile fun b => b ≠ octet 'e' && b ≠ octet 'E'
        let width : Int := mantissa.length +
          (if !hasPoint then 0 else if fraction = [] then -1 else if whole = [] then 1 else 0)
        let length : Int := fraction.length
        let precision : Int := if e < 0 then length - e else length - min length e
        let width : Int :=
          if exponent.isNone then width
          else if e < 0 then width + (if hasPoint ∧ fraction ≠ [] then 0 else 1) - e
          else width - (if hasPoint ∧ precision = 0 ∧ fraction ≠ [] then 1 else 0) +
            (e - min length e)
        some ⟨signed value, places.toNat, precision.toNat, width, false⟩

end Written

def decimalText (places : Nat) (n : Int) : Bytes :=
  let digits := decimal n.natAbs
  let digits := List.replicate (places + 1 - digits.length) Octet.zero ++ digits
  let whole := digits.take (digits.length - places)
  (if n < 0 then [Octet.dash] else []) ++ whole ++
    (if places = 0 then [] else Octet.point :: digits.drop whole.length)

/-- How the numbers are shown: at so many places in a width filled with zeros, or by a format
between two texts. -/
inductive NumberForm where
  | places (precision width : Nat)
  | layout (front : Bytes) (l : Layout) (letter : UInt8) (back : Bytes)

def NumberForm.shown (f : NumberForm) (places : Nat) (n : Int) : Bytes :=
  match f with
  | .places precision width =>
    let text := decimalText precision (n / Nat.pow 10 (places - precision))
    let (sign, digits) : Bytes × Bytes :=
      if n < 0 then ([Octet.dash], text.drop 1) else ([], text)
    sign ++ List.replicate (width - text.length) Octet.zero ++ digits
  | .layout front l letter back =>
    let x := Decimal.floatOfRatio (n < 0) n.natAbs (Nat.pow 10 places)
    front ++ l.floating letter x ++ back

def numberForm (format : Bytes) : Except Bytes NumberForm :=
  let about (text : String) : Bytes := ofText "format " ++ quoted format ++ ofText text
  let rec front : Nat → Bytes → Bytes × Bytes
    | 0, bs => ([], bs)
    | _ + 1, [] => ([], [])
    | fuel + 1, b :: bs =>
      if b = Octet.percent then
        if bs.head? = some Octet.percent then
          let (text, rest) := front fuel bs.tail
          (b :: text, rest)
        else ([], b :: bs)
      else
        let (text, rest) := front fuel bs
        (b :: text, rest)
  let (before, rest) := front (format.length + 1) format
  match rest with
  | [] => .error (about " has no % directive")
  | _ :: rest =>
    let isFlag (b : UInt8) : Bool := (ofText "-+#0 '").contains b
    let flags := rest.takeWhile isFlag
    let rest := rest.dropWhile isFlag
    let width := rest.takeWhile Written.isDigit
    let rest := rest.dropWhile Written.isDigit
    let hasPoint := rest.head? = some Octet.point
    let precision := if hasPoint then rest.tail.takeWhile Written.isDigit else []
    let rest := if hasPoint then rest.tail.dropWhile Written.isDigit else rest
    let rest := if rest.head? = some (octet 'L') then rest.tail else rest
    match rest with
    | [] => .error (about " ends in %")
    | letter :: rest =>
      if !(ofText "efgaEFGA").contains letter then
        .error (about " has unknown %" ++ [letter] ++ ofText " directive")
      else
        let (after, more) := front (rest.length + 1) rest
        if more ≠ [] then .error (about " has too many % directives")
        else
          .ok (.layout before
            ⟨flags, (number? width).getD 0,
              if hasPoint then some ((number? precision).getD 0) else none⟩
            letter after)

/-- A sequence of more numbers than this is taken for one without an end. -/
def sequenceLimit : Nat := Nat.pow 2 20

def wantedNumbers : Nat := Nat.pow 2 17

def splitNumbers : List Bytes → List Bytes × List Bytes
  | [] => ([], [])
  | arg :: args =>
    let isNumber (bs : Bytes) : Bool :=
      match bs with
      | Octet.dash :: b :: _ => Written.isDigit b || b = Octet.point
      | _ => false
    if isNumber arg then ([], arg :: args)
    else
      match arg with
      | [Octet.dash, Octet.dash] => ([], args)
      | Octet.dash :: b :: bs =>
        let letter := (b :: bs).getLast?
        let needsValue :=
          b ≠ Octet.dash && (letter = some (octet 's') || letter = some (octet 'f'))
          || arg = ofText "--separator" || arg = ofText "--format"
        match needsValue, args with
        | true, value :: rest =>
          let (options, numbers) := splitNumbers rest
          (arg :: value :: options, numbers)
        | _, args =>
          let (options, numbers) := splitNumbers args
          (arg :: options, numbers)
      | arg => ([], arg :: args)

def seq : Command := fun args =>
  let known := [option 'f' "format" .value, option 's' "separator" .value,
    option 'w' "equal-width" .nothing]
  let (options, numbers) := splitNumbers args
  withOptions known 1 options fun c => do
    let operands := c.operands ++ numbers
    match operands with
    | [] => missingOperand 1
    | _ :: _ :: _ :: extra :: _ => extraOperand 1 extra
    | operands =>
      let form ← match c.value? 'f' with
        | none => pure none
        | some format =>
          match numberForm format with
          | .ok f => pure (some f)
          | .error text => die 1 text
      for arg in operands do
        if (ofText "nan").isSuffixOf (lower arg) then
          misuse 1 (ofText "invalid 'not-a-number' argument: " ++ quoted arg)
          exit 1
        if (Written.ofBytes? arg).isNone then
          misuse 1 (ofText "invalid floating point argument: " ++ quoted arg)
          exit 1
      let one : Written := ⟨1, 0, 0, 1, false⟩
      let (first, step, last) := match operands.filterMap Written.ofBytes? with
        | [last] => (one, one, last)
        | [first, last] => (first, one, last)
        | [first, step, last] => (first, step, last)
        | _ => (one, one, one)
      if step.value = 0 then
        misuse 1 (ofText "invalid Zero increment value: " ++ quoted (operands[1]?.getD []))
        exit 1
      if c.has 'w' ∧ form.isSome then
        misuse 1 (ofText "format string may not be specified when printing equal width strings")
        exit 1
      let places := max (max first.places step.places) last.places
      let precision := max first.precision step.precision
      let firstWidth := first.width + (precision - first.precision : Int) +
        (if first.precision = 0 ∧ precision ≠ 0 then 1 else 0)
      let lastWidth := last.width + ((precision : Int) - last.precision) +
        (if last.precision ≠ 0 ∧ precision = 0 then -1 else 0) +
        (if last.precision = 0 ∧ precision ≠ 0 then 1 else 0)
      let width := if c.has 'w' then (max firstWidth lastWidth).toNat else 0
      let form := form.getD (.places precision width)
      let a := first.scaled places
      let d := step.scaled places
      let b := last.scaled places
      let count : Nat :=
        if first.isInfinite ∨ step.isInfinite then 0
        else if last.isInfinite then if (0 < last.value) = (0 < d) then sequenceLimit + 1 else 0
        else if 0 < d then if b < a then 0 else ((b - a) / d + 1).toNat
        else if a < b then 0 else ((a - b) / -d + 1).toNat
      let mark := (c.value? 's').getD [Octet.lineFeed]
      let most := if count ≤ sequenceLimit then count else wantedNumbers
      let shown := (List.range most).map fun (i : Nat) =>
        form.shown places (a + i * d)
      if shown ≠ [] then print (mark.intercalate shown ++ [Octet.lineFeed])

/-- The prime factors of a number from a divisor on, in order. The fuel bounds the divisors tried.
-/
def factorsFrom : Nat → Nat → Nat → List Nat
  | 0, _, n => if n = 1 then [] else [n]
  | fuel + 1, d, n =>
    if n < d * d then if n = 1 then [] else [n]
    else if n % d = 0 then d :: factorsFrom fuel d (n / d)
    else factorsFrom fuel (d + (if d = 2 then 1 else 2)) n

def factor : Command := fun args =>
  withOptions [option 'h' "exponents" .nothing] 1 args fun c => do
    let isSpace (b : UInt8) : Bool := isBlankOctet b
    let words ← if c.operands ≠ [] then pure c.operands else do
      match ← readInput with
      | .ok bs => pure ((bs.splitBy fun a b => isSpace a = isSpace b).filter fun w =>
          !w.any isSpace)
      | .error e => die 1 (ofText ("error reading input: " ++ e.description))
    for word in words do
      let digits := if word.head? = some Octet.plus then word.tail else word
      match number? digits with
      | none => fail 1 (quoted word ++ ofText " is not a valid positive integer")
      | some n =>
        let factors := if n = 0 then [] else factorsFrom (Nat.pow 2 20) 2 n
        let texts := if c.has 'h' then
            (factors.splitBy fun a b => a = b).map fun run =>
              decimal (run.headD 0) ++
                (if run.length = 1 then [] else octet '^' :: decimal run.length)
          else factors.map decimal
        printLine (decimal n ++ ofText ":" ++ texts.flatMap fun t => Octet.space :: t)

end LspRelay.Tool
