import LspRelay.Host.Text.Radix
import LspRelay.Host.Tool.Options

namespace LspRelay.Tool

open Process Text

def wrapped (width : Nat) : Nat → Bytes → Bytes
  | 0, _ => []
  | _ + 1, [] => []
  | fuel + 1, bs => lineOf (bs.take width) ++ wrapped width fuel (bs.drop width)

def radixOptions : List Choice :=
  [option 'd' "decode" .nothing, option 'i' "ignore-garbage" .nothing, option 'w' "wrap" .value]

def recode (r : Radix) (c : Chosen) : Act Unit := do
  let width? : Option Nat := match c.value? 'w' with
    | some value => number? value
    | none => some 76
  match width?, c.operandsOrInput with
  | none, _ => fail 1 (ofText "invalid wrap size: " ++ quoted ((c.value? 'w').getD []))
  | some width, [file] =>
    match ← readOperand file with
    | .error .isADirectory => fail 1 (ofText "read error: Is a directory")
    | .error e => failOn 1 file e
    | .ok bs =>
      if c.has 'd' then
        let isKept (b : UInt8) : Bool :=
          b ≠ Octet.lineFeed && (!c.has 'i' || b = Radix.filler || (r.digit? b).isSome)
        let (bs, isRight) := r.decode (bs.filter isKept)
        write bs
        if !isRight then fail 1 (ofText "invalid input")
      else
        let digits := r.encode bs
        print (if width = 0 then digits else wrapped width digits.length digits)
  | some _, operands => extraOperand 1 (operands.getD 1 [])

def baseOf (r : Radix) : Command := fun args =>
  withOptions radixOptions 1 args (recode r)

def radixes : List (Char × String × Radix) :=
  [('A', "base64", .base64), ('B', "base64url", .base64url), ('C', "base32", .base32),
   ('D', "base32hex", .base32hex), ('E', "base16", .base16), ('F', "base2msbf", .base2 false),
   ('G', "base2lsbf", .base2 true)]

def basenc : Command := fun args =>
  let known := radixes.map fun (key, name, _) => named key name .nothing
  withOptions (known ++ radixOptions) 1 args fun c => do
    match (c.last? (radixes.map Prod.fst)).bind (radixes.lookup ·) with
    | some (_, r) => recode r c
    | none => misuse 1 (ofText "missing encoding type")

end LspRelay.Tool
