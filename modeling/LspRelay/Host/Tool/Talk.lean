import LspRelay.Host.Shell.Format
import LspRelay.Host.Tool.Options

namespace LspRelay.Tool

open Process

/-- Undoes the escapes of `echo`, given what has come out before, the last octet first; it tells
whether they end the output. The fuel is the number of octets. -/
def unescapeEcho (before : Bytes) : Nat → Bytes → Bytes × Bool
  | 0, _ => (before.reverse, false)
  | _ + 1, [] => (before.reverse, false)
  | fuel + 1, b :: bs =>
    if b ≠ Octet.backslash then unescapeEcho (b :: before) fuel bs
    else
      match bs with
      | [] => ((b :: before).reverse, false)
      | c :: rest =>
        let value (digits : Bytes) (base : Nat) : UInt8 :=
          UInt8.ofNat (digits.foldl (fun n d =>
            n * base + (Decimal.Floating.hexValue? (Char.ofNat d.toNat)).getD 0) 0)
        let isHex (d : UInt8) : Bool :=
          (Decimal.Floating.hexValue? (Char.ofNat d.toNat)).isSome
        let hex := (rest.take 2).takeWhile isHex
        if c = octet 'c' then (before.reverse, true)
        else if c = octet 'x' ∧ hex ≠ [] then
          unescapeEcho (value hex 16 :: before) fuel (rest.drop hex.length)
        else if Shell.isOctal c then
          let start := if c = Octet.zero then rest else bs
          let digits := (start.take 3).takeWhile Shell.isOctal
          unescapeEcho (value digits 8 :: before) fuel (start.drop digits.length)
        else
          match Shell.escaped? c with
          | some e => unescapeEcho (e :: before) fuel rest
          | none => unescapeEcho (c :: b :: before) fuel rest

def echo : Command := fun args => do
  let isOption (arg : Bytes) : Bool :=
    match arg with
    | Octet.dash :: b :: bs => (b :: bs).all fun c => (ofText "neE").contains c
    | _ => false
  let options := (args.takeWhile isOption).flatMap List.tail
  let text := joined (args.dropWhile isOption)
  let escapes := ((options.filter (· ≠ octet 'n')).getLast?) = some (octet 'e')
  let (text, isCut) := if escapes then unescapeEcho [] (text.length + 1) text else (text, false)
  print text
  if !options.contains (octet 'n') ∧ !isCut then print [Octet.lineFeed]

end LspRelay.Tool
