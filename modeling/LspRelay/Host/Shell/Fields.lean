import LspRelay.Host.Shell.Glob

namespace LspRelay.Shell

/-- A part of an expanded word: text, or a value of some fields. What is quoted is not split, save
between the fields, and has no meaning in a pattern. -/
inductive Part where
  | text (bs : Bytes) (quoted : Bool)
  | value (fields : List Bytes) (quoted : Bool)
  deriving Repr, DecidableEq

abbrev Field := List (UInt8 × Bool)

namespace Field

def bytes (f : Field) : Bytes := f.map Prod.fst

def pattern (f : Field) : Bytes :=
  f.flatMap fun (b, quoted) => if quoted then [Octet.backslash, b] else [b]

def isPattern (f : Field) : Bool :=
  f.any fun (b, quoted) => !quoted && (b = octet '*' || b = octet '?' || b = Octet.openBracket)

end Field

namespace Part

def bytes : Part → Bytes
  | text bs _ => bs
  | value fields _ => fields.flatten

def field : Part → Field
  | text bs quoted => bs.map (·, quoted)
  | value fields quoted => fields.flatten.map (·, quoted)

def bytesOf (ps : List Part) : Bytes := ps.flatMap bytes

def patternOf (ps : List Part) : Bytes := Field.pattern (ps.flatMap field)

end Part

/-- Fields that are over, the last one first; the one that goes on, its last octet first; whether
there is something to that one even if it is empty; whether separators are being skipped, of which
one more may be no blank; and whether a quoted value came before the present one. -/
structure Splitting where
  ended : List Field
  now : Field
  marked : Bool
  skipping : Option Bool
  afterQuoted : Bool

namespace Splitting

def start : Splitting := ⟨[], [], false, none, false⟩

def add (s : Splitting) (f : Field) (quoted : Bool) : Splitting :=
  { s with now := f.reverse ++ s.now, marked := s.marked || quoted }

def finish (s : Splitting) (skipping : Option Bool) : Splitting :=
  { s with ended := s.now.reverse :: s.ended, now := [], marked := false, skipping }

def separate (s : Splitting) (isBlank : Bool) : Splitting :=
  match s.skipping, isBlank with
  | some _, true => s
  | some true, false => { s with skipping := some false }
  | _, _ =>
    let isSpace := isBlank && !s.afterQuoted
    if s.now = [] ∧ !s.marked ∧ isSpace then { s with skipping := none }
    else s.finish (some isSpace)

def octet (separators : Bytes) (s : Splitting) (b : UInt8) : Splitting :=
  if separators.contains b then s.separate (isBlankOctet b)
  else { s with now := (b, false) :: s.now, skipping := none }

def value (separators : Bytes) (quoted : Bool) (s : Splitting) : List Bytes → Splitting
  | [] => s
  | [bs] =>
    if quoted then s.add (bs.map (·, true)) false
    else { bs.foldl (octet separators) s with skipping := none }
  | bs :: rest =>
    let s :=
      if quoted then (s.add (bs.map (·, true)) false).finish none
      else (bs.foldl (octet separators) s).separate true
    s.value separators quoted rest

def part (separators : Bytes) (s : Splitting) : Part → Splitting
  | .text bs quoted => s.add (bs.map (·, quoted)) quoted
  | .value fields quoted => { s.value separators quoted fields with afterQuoted := quoted }

end Splitting

/-- The fields of a word. A word of nothing but empty values has none, unless a quoted value of
several fields comes last. -/
def fieldsOf (separators : Bytes) (ps : List Part) : List Field :=
  let s := ps.foldl (Splitting.part separators) .start
  let isQuoted := match (ps.filter fun p => p matches .value ..).getLast? with
    | some (.value _ quoted) => quoted
    | _ => false
  if s.now = [] ∧ !s.marked ∧ !isQuoted then s.ended.reverse
  else (s.now.reverse :: s.ended).reverse

/-- The last field of a line takes all that is left, save blanks at the end, and save a separator at
the end if it is the only one. -/
def lastField (separators : Bytes) (f : Field) : Bytes :=
  let separates (b : UInt8 × Bool) : Bool := !b.2 && separators.contains b.1
  let isBlank (b : UInt8 × Bool) : Bool := separates b && isBlankOctet b.1
  let rest := f.dropWhile (!separates ·)
  let after := match rest.dropWhile isBlank with
    | b :: more => if separates b then more.dropWhile isBlank else b :: more
    | [] => []
  if after = [] then Field.bytes (f.takeWhile (!separates ·))
  else Field.bytes (f.reverse.dropWhile isBlank).reverse

/-- So many fields of a line, of which the last one may go on. -/
def lineFields (separators : Bytes) : Nat → Field → List Bytes
  | 0, _ => []
  | n + 1, f =>
    let separates (b : UInt8 × Bool) : Bool := !b.2 && separators.contains b.1
    let isBlank (b : UInt8 × Bool) : Bool := separates b && isBlankOctet b.1
    let f := f.dropWhile isBlank
    if f = [] then []
    else if n = 0 then [lastField separators f]
    else
      let rest := (f.dropWhile (!separates ·)).dropWhile isBlank
      let rest := match rest with
        | b :: more => if separates b ∧ !isBlankOctet b.1 then more else rest
        | [] => []
      Field.bytes (f.takeWhile (!separates ·)) :: lineFields separators n rest

end LspRelay.Shell
