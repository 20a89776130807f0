import LspRelay.Host.Text.Octets

namespace LspRelay.Tool

def between (bs : Bytes) : Bytes := Octet.singleQuote :: bs ++ [Octet.singleQuote]

def isPrinted (b : UInt8) : Bool := 32 ≤ b && b < 127

/-- An octet that cannot be seen, by a letter or in octal digits. -/
def escapedOctet (b : UInt8) : Bytes :=
  let names : List (UInt8 × Char) :=
    [(7, 'a'), (8, 'b'), (9, 't'), (10, 'n'), (11, 'v'), (12, 'f'), (13, 'r')]
  match names.lookup b with
  | some c => [Octet.backslash, octet c]
  | none =>
    let digits := (Nat.toDigits 8 b.toNat).map octet
    Octet.backslash :: List.replicate (3 - digits.length) Octet.zero ++ digits

def quoted (bs : Bytes) : Bytes :=
  between (bs.flatMap fun b =>
    if b = Octet.singleQuote ∨ b = Octet.backslash then [Octet.backslash, b]
    else if isPrinted b then [b]
    else escapedOctet b)

def needsQuotes (isFirst isAlone : Bool) (b : UInt8) : Bool :=
  let c := Char.ofNat b.toNat
  !isPrinted b || " !\"$&()*;<=>[^\x60|?\\'".toList.contains c ||
    (isFirst && (c = '#' || c = '~')) || (isAlone && (c = '\x7b' || c = '\x7d'))

def runsOf (bs : Bytes) : List (Bool × Bytes) :=
  bs.foldr
    (fun b runs =>
      match runs with
      | (shown, run) :: rest =>
        if shown = isPrinted b then (shown, b :: run) :: rest
        else (isPrinted b, [b]) :: runs
      | [] => [(isPrinted b, [b])])
    []

def shellQuoted (bs : Bytes) : Bytes :=
  let isPlain := bs.all fun b =>
    isPrinted b && !("\"$\\\x60!".toList.contains (Char.ofNat b.toNat))
  if bs.contains Octet.singleQuote ∧ isPlain then
    Octet.doubleQuote :: bs ++ [Octet.doubleQuote]
  else
    let shown (run : Bool × Bytes) : Bytes :=
      if run.1 then
        between (run.2.flatMap fun b =>
          if b = Octet.singleQuote then ofText "'\\''" else [b])
      else octet '$' :: between (run.2.flatMap escapedOctet)
    match runsOf bs with
    | [] => between []
    | (false, run) :: rest => between [] ++ shown (false, run) ++ rest.flatMap shown
    | runs => runs.flatMap shown

/-- The name of a file, between quotes if a shell needs some or if it has a colon in it. -/
def shownName (bs : Bytes) : Bytes :=
  let isAlone := bs.length = 1
  let special := bs = [] || bs.contains (octet ':') ||
    needsQuotes true isAlone (bs.headD 0) || bs.tail.any (needsQuotes false false)
  if special then shellQuoted bs else bs

end LspRelay.Tool
