import LspRelay.Host.Decimal.Floating
import LspRelay.Host.Tool.Options

namespace LspRelay.Tool

def unit? (bs : Bytes) : Option Nat :=
  let powers : List (Char × Nat) :=
    [('k', 1), ('K', 1), ('m', 2), ('M', 2), ('G', 3), ('g', 3), ('T', 4), ('t', 4), ('P', 5),
     ('E', 6), ('Z', 7), ('Y', 8), ('R', 9), ('Q', 10)]
  match toChars bs with
  | [] => some 1
  | ['b'] => some 512
  | ['c'] => some 1
  | ['w'] => some 2
  | [c] => (powers.lookup c).map fun n => Nat.pow 1024 n
  | [c, 'B'] => (powers.lookup c).map fun n => Nat.pow 1000 n
  | [c, 'i', 'B'] => (powers.lookup c).map fun n => Nat.pow 1024 n
  | _ => none

def amount? (units : String) (bs : Bytes) : Option Nat :=
  let isDigit (b : UInt8) : Bool := octet '0' ≤ b && b ≤ octet '9'
  let digits := bs.takeWhile isDigit
  let unit := bs.dropWhile isDigit
  match number? digits, unit? unit with
  | some n, some factor =>
    if unit = [] ∨ units.toList.any fun c => some (octet c) = unit.head? then some (n * factor)
    else none
  | _, _ => none

/-- A time with a fraction and a unit, in milliseconds; a time without an end is never over. -/
def milliseconds? (bs : Bytes) : Option Nat :=
  match Decimal.Floating.read? (toChars bs) with
  | none => none
  | some (f, rest) =>
    let factor? : Option Nat := match rest with
      | [] => some 1
      | [c] => [('s', 1), ('m', 60), ('h', 3600), ('d', 86400)].lookup c
      | _ => none
    match factor? with
    | none => none
    | some factor =>
      if f.isNaN ∨ (Decimal.Floating.isNegative f ∧ f < 0) then none
      else
        match Decimal.Floating.magnitude? f with
        | none => some never
        | some b =>
          let (n, d) := Decimal.Floating.ratio b
          some (min never (Decimal.roundedQuotient (n * 1000 * factor) d))

end LspRelay.Tool
