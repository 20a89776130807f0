import LspRelay.Host.Rows.Script

namespace LspRelay.Rows

/-- What an escape stands for, and what follows it: a control character, an octal number, or the
character itself. -/
def readEscape : List Char → Option (Char × List Char)
  | [] => none
  | c :: cs =>
    let names : List (Char × Nat) :=
      [('n', 10), ('t', 9), ('r', 13), ('a', 7), ('b', 8), ('f', 12), ('v', 11)]
    match names.lookup c with
    | some n => some (Char.ofNat n, cs)
    | none =>
      let isOctal (c : Char) : Bool := '0' ≤ c && c ≤ '7'
      let digits := ((c :: cs).take 3).takeWhile isOctal
      if digits ≠ [] then
        some (Char.ofNat (Nat.ofDigitChars 8 digits 0 % 256), (c :: cs).drop digits.length)
      else some (c, cs)

def plainCharacter (c : Char) : List Char :=
  if ".[]()*+?\x7b\x7d|^$\\/".toList.contains c then ['\\', c] else [c]

/-- Members of a bracket expression without their escapes: those that may stand anywhere, those that
have to come first and last, and what follows. The fuel is the length of the text. -/
def bracketMembers (isFirst : Bool) :
    Nat → List Char → Option (List Char × List Char × List Char × List Char)
  | 0, _ => none
  | _ + 1, [] => none
  | fuel + 1, c :: cs =>
    if c = ']' ∧ !isFirst then some ([], [], [], cs)
    else if c = '[' ∧ cs.head? = some ':' then
      let name := cs.tail.takeWhile (· ≠ ':')
      let rest := cs.tail.drop name.length
      if [':', ']'].isPrefixOf rest then
        (bracketMembers false fuel (rest.drop 2)).map fun (plain, first, last, rest) =>
          ('[' :: ':' :: name ++ [':', ']'] ++ plain, first, last, rest)
      else
        (bracketMembers false fuel cs).map fun (plain, first, last, rest) =>
          (c :: plain, first, last, rest)
    else if c = '\\' then
      match readEscape cs with
      | none => none
      | some (d, cs) =>
        (bracketMembers false fuel cs).map fun (plain, first, last, rest) =>
          if d = ']' then (plain, [d], last, rest)
          else if d = '-' ∨ d = '^' then (plain, first, d :: last, rest)
          else (d :: plain, first, last, rest)
    else if c = ']' then
      (bracketMembers false fuel cs).map fun (plain, first, last, rest) =>
        (plain, c :: first, last, rest)
    else
      let isBackward := match cs with
        | '-' :: d :: _ => d < c && d ≠ ']'
        | _ => false
      (bracketMembers false fuel (if isBackward then cs.tail else cs)).map
        fun (plain, first, last, rest) =>
          (c :: plain, first, if isBackward then '-' :: last else last, rest)

/-- An expression without escapes of its own kind. The fuel is its length. -/
def plainExpression : Nat → List Char → Option (List Char)
  | 0, cs => some cs
  | _ + 1, [] => some []
  | fuel + 1, '\\' :: cs =>
    match readEscape cs with
    | none => some ['\\', '\\']
    | some (c, cs) => (plainExpression fuel cs).map (plainCharacter c ++ ·)
  | fuel + 1, '[' :: cs =>
    let isNegated := cs.head? = some '^'
    match bracketMembers true cs.length (if isNegated then cs.tail else cs) with
    | none => none
    | some (plain, first, last, rest) =>
      let last := (last.filter (· = '^')) ++ last.filter (· = '-')
      (plainExpression fuel rest).map fun tail =>
        '[' :: (if isNegated then ['^'] else []) ++ first ++ plain ++ last ++ ']' :: tail
  | fuel + 1, c :: cs => (plainExpression fuel cs).map (c :: ·)

/-- What is wrong with an operator or a bar that has nothing to stand for, given the character
before. The fuel is the length of the text. -/
def lacking? (before : Char) : Nat → List Char → Option String
  | 0, _ => none
  | _ + 1, [] => if before = '|' then some "missing operand" else none
  | fuel + 1, '\\' :: _ :: cs => lacking? 'a' fuel cs
  | fuel + 1, '[' :: cs =>
    let inner := if cs.head? = some '^' then cs.tail else cs
    match bracketMembers true inner.length inner with
    | some (_, _, _, rest) => lacking? 'a' fuel rest
    | none => none
  | fuel + 1, c :: cs =>
    let isStart := before = '(' || before = '|'
    if isStart ∧ "*+?|)".toList.contains c then some "missing operand"
    else if before = '^' ∧ (c = '*' ∨ c = '+') then some "syntax error ^* or ^+"
    else lacking? (if isStart || c ≠ '^' then c else 'a') fuel cs

def readPattern (bs : Bytes) : Except String Regex :=
  let cs := toChars bs
  let badClass := "bad class -- [], [^] or ["
  if cs = [] then .ok .empty
  else
    match lacking? '(' (cs.length + 1) cs with
    | some reason => .error reason
    | none =>
      match plainExpression cs.length cs with
      | none => .error badClass
      | some plain =>
        match Regex.read ⟨true, true, false, false⟩ (ofChars plain) with
        | .ok r => .ok r.ungrouped
        | .error .openGroup => .error "missing ')'"
        | .error .openBracket => .error badClass
        | .error .badClass => .error badClass
        | .error _ => .error "bad interval expression"

end LspRelay.Rows
