import LspRelay.Host.Text.Octets

namespace LspRelay.Modes

/-- A mode after clauses that add, remove or set permissions, if they are such. -/
def changed? (isDirectory : Bool) (mask : Nat) (clauses : Bytes) (mode : Nat) : Option Nat :=
  (clauses.splitOn (octet ',')).foldlM clause mode
where
  whoBits (c : Char) : Option Nat :=
    [('u', 0o4700), ('g', 0o2070), ('o', 0o0007), ('a', 0o6777)].lookup c
  clause (mode : Nat) (bs : Bytes) : Option Nat :=
    let cs := toChars bs
    let whos := cs.takeWhile fun c => (whoBits c).isSome
    let who := whos.foldl (fun n c => n ||| (whoBits c).getD 0) 0
    actions (bs.length + 1) whos.isEmpty (if whos = [] then 0o6777 else who)
      (cs.dropWhile fun c => (whoBits c).isSome) mode
  bits (mode who : Nat) (c : Char) : Option Nat :=
    let copied (shift : Nat) : Nat := ((mode >>> shift) &&& 7) * 0o111
    match c with
    | 'r' => some (0o444 &&& who)
    | 'w' => some (0o222 &&& who)
    | 'x' => some (0o111 &&& who)
    | 'X' => some (if isDirectory || mode &&& 0o111 ≠ 0 then 0o111 &&& who else 0)
    | 's' => some (0o6000 &&& who)
    | 't' => some 0o1000
    | 'u' => some (copied 6 &&& who)
    | 'g' => some (copied 3 &&& who)
    | 'o' => some (copied 0 &&& who)
    | _ => none
  actions : Nat → Bool → Nat → List Char → Nat → Option Nat
    | 0, _, _, _, _ => none
    | _ + 1, _, _, [], _ => none
    | fuel + 1, everyone, who, op :: cs, mode =>
      if op ≠ '+' ∧ op ≠ '-' ∧ op ≠ '=' then none
      else
        let isPermission (c : Char) : Bool := (bits mode who c).isSome
        let given := cs.takeWhile isPermission
        let rest := cs.dropWhile isPermission
        let value := given.foldl (fun n c => n ||| (bits mode who c).getD 0) 0
        let value := if everyone then value &&& (0o7777 ^^^ (mask &&& 0o777)) else value
        let cleared := who &&& 0o777
        let mode :=
          if op = '+' then mode ||| value
          else if op = '-' then mode &&& (0o7777 ^^^ value)
          else (mode &&& (0o7777 ^^^ cleared)) ||| value
        if rest = [] then some mode else actions fuel everyone who rest mode

def octal (width n : Nat) : Bytes :=
  let digits := (Nat.toDigits 8 n).map octet
  List.replicate (width - digits.length) Octet.zero ++ digits

def told? (isDirectory : Bool) (mask : Nat) (text : Bytes) (mode : Nat) : Option Nat :=
  if text ≠ [] ∧ text.all fun b => octet '0' ≤ b && b ≤ octet '7' then
    let n := text.foldl (fun n b => n * 8 + (b.toNat - 48)) 0
    if n ≤ 0o7777 then some n else none
  else changed? isDirectory mask text mode

def letters (mode : Nat) : Bytes :=
  let part (shift special : Nat) (mark : Char) : List Char :=
    let bits := mode >>> shift
    let isSpecial := mode &&& special ≠ 0
    let last :=
      if bits &&& 1 ≠ 0 then (if isSpecial then mark else 'x')
      else if isSpecial then mark.toUpper
      else '-'
    [if bits &&& 4 ≠ 0 then 'r' else '-', if bits &&& 2 ≠ 0 then 'w' else '-', last]
  ofChars (part 6 0o4000 's' ++ part 3 0o2000 's' ++ part 0 0o1000 't')

end LspRelay.Modes
