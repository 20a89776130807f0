import LspRelay.Host.Rows.Pattern

namespace LspRelay.Rows

inductive Token where
  | number (f : Float) (text : Bytes)
  | text (bs : Bytes)
  | pattern (r : Regex)
  | name (bs : Bytes)
  /-- A name with an opening parenthesis behind it. -/
  | call (bs : Bytes)
  | word (s : String)
  | mark (s : String)
  | newline
  | fault (p : Problem)
  | ending

namespace Token

def keywords : List String :=
  ["BEGIN", "END", "function", "if", "else", "while", "for", "do", "break", "continue",
   "next", "nextfile", "exit", "return", "delete", "in", "getline", "print", "printf"]

def builtIns : List (String × BuiltIn × Nat × Nat) :=
  [("length", .length, 0, 1), ("substr", .part, 2, 3), ("index", .position, 2, 2),
   ("split", .split, 2, 3), ("sub", .replaceFirst, 2, 3), ("gsub", .replaceAll, 2, 3),
   ("match", .find, 2, 2), ("sprintf", .format, 1, 255), ("sin", .sine, 1, 1),
   ("cos", .cosine, 1, 1), ("atan2", .angle, 2, 2), ("exp", .exponential, 1, 1),
   ("log", .logarithm, 1, 1), ("sqrt", .root, 1, 1), ("int", .whole, 1, 1),
   ("rand", .random, 0, 0), ("srand", .seed, 0, 1), ("tolower", .lower, 1, 1),
   ("toupper", .upper, 1, 1), ("system", .run, 1, 1), ("close", .close, 1, 1),
   ("fflush", .flush, 0, 1), ("systime", .time, 0, 0), ("strftime", .dateText, 0, 3),
   ("mktime", .dateTime, 1, 1)]

def marks : List String :=
  ["&&", "||", "==", "!=", "<=", ">=", "++", "--", "+=", "-=", "*=", "/=", "%=", "^=", "!~", ">>",
   "\x7b", "\x7d", "(", ")", "[", "]", ";", ",", "+", "-", "*", "/", "%", "^", "!", ">", "<", "|",
   "?", ":", "~", "$", "="]

def shown : Token → Bytes
  | .number _ told => told
  | .text bs => bs
  | .pattern _ => ofText "/"
  | .name bs => bs
  | .call bs => bs
  | .word s => ofText s
  | .mark s => ofText s
  | .newline => ofText "end of line"
  | .fault _ => []
  | .ending => ofText "end of file"

/-- Whether a value may end with a token, so that a slash after it divides. -/
def endsValue : Token → Bool
  | number .. => true
  | text _ => true
  | pattern _ => true
  | name _ => true
  | word s => s = "length" || s = "getline"
  | mark s => s = ")" || s = "]" || s = "$" || s = "++" || s = "--"
  | _ => false

end Token

def isNameStart (c : Char) : Bool := c.isAlpha || c = '_'

def isNamePart (c : Char) : Bool := c.isAlphanum || c = '_'

def rawText : List Char → Option (List Char × List Char)
  | [] => none
  | '"' :: cs => some ([], cs)
  | '\n' :: _ => none
  | '\\' :: c :: cs => (rawText cs).map fun (t, rest) => ('\\' :: c :: t, rest)
  | c :: cs => (rawText cs).map fun (t, rest) => (c :: t, rest)

/-- A text without its escapes; a backslash that begins none stands for itself. The fuel is the
length of the text. -/
def unescaped : Nat → List Char → List Char
  | 0, cs => cs
  | _ + 1, [] => []
  | fuel + 1, '\\' :: c :: cs =>
    let hex := (cs.take 2).takeWhile fun d => (Decimal.Floating.hexValue? d).isSome
    if c = '\n' then unescaped fuel cs
    else if c = '"' ∨ c = '\\' then c :: unescaped fuel cs
    else if c = 'x' ∧ hex ≠ [] then
      let n := hex.foldl (fun n d => n * 16 + (Decimal.Floating.hexValue? d).getD 0) 0
      Char.ofNat n :: unescaped fuel (cs.drop hex.length)
    else
      match readEscape (c :: cs) with
      | some (d, rest) =>
        if d = c ∧ rest.length = cs.length then '\\' :: c :: unescaped fuel cs
        else d :: unescaped fuel rest
      | none => ['\\', c]
  | fuel + 1, c :: cs => c :: unescaped fuel cs

/-- A bracket expression up to its end, after what may stand at its front, and what follows it. The
fuel is the length of the text. -/
def rawBracket : Nat → List Char → Option (List Char × List Char)
  | 0, _ => none
  | _ + 1, [] => none
  | _ + 1, '\n' :: _ => none
  | _ + 1, ']' :: cs => some ([']'], cs)
  | fuel + 1, '[' :: ':' :: cs =>
    let name := cs.takeWhile Char.isAlpha
    let rest := cs.drop name.length
    let inner := '[' :: ':' :: name ++ (if [':', ']'].isPrefixOf rest then [':', ']'] else [])
    (rawBracket fuel (cs.drop (inner.length - 2))).map fun (t, rest) => (inner ++ t, rest)
  | fuel + 1, '\\' :: c :: cs =>
    (rawBracket fuel cs).map fun (t, rest) => ('\\' :: c :: t, rest)
  | fuel + 1, c :: cs => (rawBracket fuel cs).map fun (t, rest) => (c :: t, rest)

/-- The text of a regular expression up to its slash, and what follows it. Brackets hide slashes.
The fuel is more than the length of the text. -/
def rawPattern : Nat → List Char → Option (List Char × List Char)
  | 0, _ => none
  | _ + 1, [] => none
  | _ + 1, '/' :: cs => some ([], cs)
  | _ + 1, '\n' :: _ => none
  | fuel + 1, '\\' :: '/' :: cs =>
    (rawPattern fuel cs).map fun (t, rest) => ('/' :: t, rest)
  | fuel + 1, '\\' :: c :: cs =>
    (rawPattern fuel cs).map fun (t, rest) => ('\\' :: c :: t, rest)
  | fuel + 1, '[' :: cs =>
    let start : List Char := if ['^', ']'].isPrefixOf cs then ['^', ']']
      else if cs.head? = some '^' then ['^']
      else if cs.head? = some ']' then [']'] else []
    match rawBracket cs.length (cs.drop start.length) with
    | some (t, rest) =>
      (rawPattern fuel rest).map fun (t', rest) => ('[' :: start ++ t ++ t', rest)
    | none => none
  | fuel + 1, c :: cs => (rawPattern fuel cs).map fun (t, rest) => (c :: t, rest)

/-- A number without a sign, its text and what follows it. -/
def readNumber (cs : List Char) : Option (Float × List Char × List Char) :=
  let whole := cs.takeWhile Char.isDigit
  let rest := cs.drop whole.length
  let (point, fraction, rest) : List Char × List Char × List Char := match rest with
    | '.' :: more => (['.'], more.takeWhile Char.isDigit, more.dropWhile Char.isDigit)
    | rest => ([], [], rest)
  if whole = [] ∧ fraction = [] then none
  else
    let (e, after) := Decimal.Floating.readExponent 'e' rest
    let used := rest.take (rest.length - after.length)
    some (Decimal.floatOfScientific false
        ((whole ++ fraction).foldl (fun n c => n * 10 + (c.toNat - 48)) 0)
        (e - fraction.length),
      whole ++ point ++ fraction ++ used, after)

def hidden : List Char → List Char
  | '\\' :: '/' :: cs => '/' :: hidden cs
  | c :: cs => c :: hidden cs
  | [] => []

/-- The tokens of a text with the lines in which they stand. The fuel is more than the length of the
text. -/
def tokens : Nat → Nat → Token → List Char → List (Token × Nat)
  | 0, line, _, _ => [(.ending, line)]
  | _ + 1, line, _, [] => [(.ending, line)]
  | fuel + 1, line, before, c :: cs =>
    let go (t : Token) (rest : List Char) : List (Token × Nat) :=
      (t, line) :: tokens fuel line t rest
    let faulty (p : Problem) : List (Token × Nat) := [(.fault p, line), (.ending, line)]
    if c = ' ' ∨ c = '\t' ∨ c = '\r' then tokens fuel line before cs
    else if c = '\n' then (.newline, line) :: tokens fuel (line + 1) .newline cs
    else if c = '\\' ∧ cs.head? = some '\n' then tokens fuel (line + 1) before cs.tail
    else if c = '\\' ∧ ['\r', '\n'].isPrefixOf cs then tokens fuel (line + 1) before (cs.drop 2)
    else if c = '#' then tokens fuel line before (cs.dropWhile (· ≠ '\n'))
    else if c = '"' then
      match rawText cs with
      | some (t, rest) => go (.text (ofChars (unescaped t.length t))) rest
      | none => faulty (.openText (ofChars (cs.takeWhile (· ≠ '\n'))))
    else if c = '/' ∧ !before.endsValue then
      match rawPattern (cs.length + 1) cs with
      | some (t, rest) =>
        match readPattern (ofChars t) with
        | .ok r => go (.pattern r) rest
        | .error reason => faulty (.badPattern reason (ofChars t))
      | none => faulty (.openPattern (ofChars (hidden (cs.takeWhile (· ≠ '\n')))))
    else if isNameStart c then
      let name := c :: cs.takeWhile isNamePart
      let rest := cs.drop (name.length - 1)
      let s := String.ofList name
      if Token.keywords.contains s ∨ (Token.builtIns.lookup s).isSome then go (.word s) rest
      else if rest.head? = some '(' then go (.call (ofChars name)) rest
      else go (.name (ofChars name)) rest
    else
      match readNumber (c :: cs) with
      | some (f, text, rest) => go (.number f (ofChars text)) rest
      | none =>
        match Token.marks.find? fun m => m.toList.isPrefixOf (c :: cs) with
        | some m => go (.mark m) (cs.drop (m.length - 1))
        | none => faulty (.strange c)

/-- Where a statement stands: in a loop or not, in a rule, a function, or at the start or the end.
-/
structure Scope where
  isLoop : Bool
  isFunction : Bool
  isRule : Bool

inductive Role where
  | single
  | table
  | function
  deriving Repr, DecidableEq

def Role.told : Role → String
  | single => "variable"
  | table => "array"
  | function => "function"

/-- What is left to read, how deep braces and parentheses are, the calls that have been read, each
with its line and the count of its arguments, and what names are used for. -/
structure Reading where
  rest : List (Token × Nat)
  braces : Nat
  parentheses : Nat
  calls : List (Bytes × Nat × Nat)
  roles : List (Bytes × Role)
  parameters : List (Bytes × Option Role)

abbrev Reader := StateT Reading (Except (Problem × Nat))

namespace Reader

def endsStatement : Token → Bool
  | .newline => true
  | .ending => true
  | .mark s => s = ";" || s = "\x7d"
  | _ => false

def peek : Reader Token := return ((← get).rest.headD (.ending, 1)).1

def line : Reader Nat := return ((← get).rest.headD (.ending, 1)).2

def stop {α : Type} (p : Problem) : Reader α := do throw (p, ← line)

def refuse {α : Type} : Reader α := do
  let r ← get
  let t ← peek
  match t with
  | .fault p => stop p
  | .mark ")" => if r.parentheses = 0 then stop (.extra ')') else stop (.unexpected t.shown)
  | .mark "\x7d" => if r.braces = 0 then stop (.extra '\x7d')
  | _ => pure ()
  if r.parentheses ≠ 0 && endsStatement t then stop (.missing ')' t.shown)
  else
    match t with
    | .ending => if r.braces ≠ 0 then stop (.missing '\x7d' t.shown) else stop (.unexpected t.shown)
    | t => stop (.unexpected t.shown)

def advance : Reader Unit := modify fun r =>
  match r.rest with
  | (.mark "\x7b", _) :: rest => { r with rest, braces := r.braces + 1 }
  | (.mark "\x7d", _) :: rest => { r with rest, braces := r.braces - 1 }
  | (.mark "(", _) :: rest => { r with rest, parentheses := r.parentheses + 1 }
  | (.mark ")", _) :: rest => { r with rest, parentheses := r.parentheses - 1 }
  | _ :: rest => { r with rest }
  | [] => r

def isMark (s : String) : Reader Bool := do
  match ← peek with
  | .mark t => return t = s
  | _ => return false

def isWord (s : String) : Reader Bool := do
  match ← peek with
  | .word t => return t = s
  | _ => return false

def takesMark (s : String) : Reader Bool := do
  if ← isMark s then
    advance
    return true
  else return false

def expect (s : String) : Reader Unit := do
  if !(← takesMark s) then refuse

def skipLines : Reader Unit := modify fun r =>
  { r with rest := r.rest.dropWhile fun t => t.1 matches .newline }

def use (n : Bytes) (role : Role) : Reader Unit := do
  let r ← get
  match r.parameters.lookup n with
  | some none =>
    let noted (p : Bytes × Option Role) : Bytes × Option Role :=
      if p.1 = n then (n, some role) else p
    set { r with parameters := r.parameters.map noted }
  | some (some other) =>
    if other ≠ role then stop (.misused ("local " ++ other.told) n)
  | none =>
    match r.roles.lookup n with
    | none => set { r with roles := (n, role) :: r.roles }
    | some other => if other ≠ role then stop (.misused other.told n)

def isFunction (n : Bytes) : Reader Bool := do
  let r ← get
  return (r.parameters.lookup n).isNone && r.roles.lookup n = some .function

def name (role : Role) : Reader Bytes := do
  match ← peek with
  | .name n =>
    if ← isFunction n then refuse
    use n role
    advance
    return n
  | _ => refuse

def operator? (level : Nat) (inPrint : Bool) : Token → Option (Expr → Expr → Expr)
  | .mark s =>
    match level, s with
    | 0, "||" => some .either
    | 1, "&&" => some .both
    | 3, "~" => some (.matched false)
    | 3, "!~" => some (.matched true)
    | 4, "<" => some (.compare .less)
    | 4, "<=" => some (.compare .atMost)
    | 4, "==" => some (.compare .same)
    | 4, "!=" => some (.compare .different)
    | 4, ">=" => some (.compare .atLeast)
    | 4, ">" => if inPrint then none else some (.compare .more)
    | 6, "+" => some (.arithmetic .add)
    | 6, "-" => some (.arithmetic .subtract)
    | 7, "*" => some (.arithmetic .multiply)
    | 7, "/" => some (.arithmetic .divide)
    | 7, "%" => some (.arithmetic .remainder)
    | _, _ => none
  | _ => none

def joinLevel : Nat := 5

def signLevel : Nat := 8

def assignment? : Token → Option (Place → Expr → Expr)
  | .mark "=" => some .assign
  | .mark "+=" => some (.change .add)
  | .mark "-=" => some (.change .subtract)
  | .mark "*=" => some (.change .multiply)
  | .mark "/=" => some (.change .divide)
  | .mark "%=" => some (.change .remainder)
  | .mark "^=" => some (.change .power)
  | _ => none

def startsValue : Token → Bool
  | .number .. => true
  | .text _ => true
  | .pattern _ => true
  | .name _ => true
  | .call _ => true
  | .word s => (Token.builtIns.lookup s).isSome
  | .mark s => s = "(" || s = "$" || s = "!" || s = "++" || s = "--"
  | _ => false

/-- A text that serves as a pattern, which is read at once. -/
def asPattern (e : Expr) : Reader Expr := do
  match e with
  | .text bs =>
    match readPattern bs with
    | .ok r => return .pattern r
    | .error reason => stop (.badPattern reason bs)
  | e => return e

mutual

def expr : Nat → Bool → Reader Expr
  | 0, _ => refuse
  | fuel + 1, inPrint => do
    let c ← binary fuel inPrint 0
    if ← takesMark "?" then
      let a ← expr fuel inPrint
      expect ":"
      return .choice c a (← expr fuel inPrint)
    else return c

def binary : Nat → Bool → Nat → Reader Expr
  | 0, _, _ => refuse
  | fuel + 1, inPrint, level => do
    if signLevel ≤ level then signed fuel
    else
      let a ← binary fuel inPrint (level + 1)
      match decide (level = joinLevel), a, assignment? (← peek) with
      | true, .place p, some f =>
        advance
        return f p (← expr fuel inPrint)
      | _, _, _ => more fuel inPrint level a

def more : Nat → Bool → Nat → Expr → Reader Expr
  | 0, _, _, _ => refuse
  | fuel + 1, inPrint, level, a => do
    let t ← peek
    if level = joinLevel then
      if startsValue t then
        more fuel inPrint level (.joined a (← binary fuel inPrint (level + 1)))
      else return a
    else if level = 2 then
      if ← isWord "in" then
        advance
        more fuel inPrint level (.member [a] (← name .table))
      else return a
    else
      match operator? level inPrint t with
      | some f =>
        advance
        if level ≤ 1 then skipLines
        let b ← binary fuel inPrint (level + 1)
        more fuel inPrint level (f a (← if level = 3 then asPattern b else pure b))
      | none => return a

def signed : Nat → Reader Expr
  | 0 => refuse
  | fuel + 1 => do
    if ← takesMark "!" then return .no (← signed fuel)
    else if ← takesMark "-" then return .negative (← signed fuel)
    else if ← takesMark "+" then return .positive (← signed fuel)
    else piped fuel (← powered fuel)

def piped : Nat → Expr → Reader Expr
  | 0, _ => refuse
  | fuel + 1, a => do
    match (← get).rest with
    | (.mark "|", _) :: (.word "getline", _) :: _ =>
      advance
      advance
      piped fuel (.line .command (some a) (← target fuel))
    | _ => return a

def powered : Nat → Reader Expr
  | 0 => refuse
  | fuel + 1 => do
    let a ← stepped fuel
    if ← takesMark "^" then
      let b ← if ← isMark "-" then signed fuel else if ← isMark "+" then signed fuel
        else if ← isMark "!" then signed fuel else powered fuel
      return .arithmetic .power a b
    else return a

def stepped : Nat → Reader Expr
  | 0 => refuse
  | fuel + 1 => do
    let a ← primary fuel
    match a with
    | .place p =>
      if ← takesMark "++" then return .step false 1 p
      else if ← takesMark "--" then return .step false (-1) p
      else return a
    | a => return a

def placeOf : Nat → Reader Place
  | 0 => refuse
  | fuel + 1 => do
    match ← primary fuel with
    | .place p => return p
    | _ => refuse

/-- The place that a line is read to, if one is told. -/
def target : Nat → Reader (Option Place)
  | 0 => refuse
  | fuel + 1 => do
    match ← peek with
    | .name _ => return some (← placeOf fuel)
    | .mark "$" => return some (← placeOf fuel)
    | _ => return none

def primary : Nat → Reader Expr
  | 0 => refuse
  | fuel + 1 => do
    let t ← peek
    match t with
    | .number f _ =>
      advance
      return .number f
    | .text bs =>
      advance
      return .text bs
    | .pattern r =>
      advance
      return .pattern r
    | .name n =>
      if ← isFunction n then
        advance
        called fuel n
      else
        advance
        let isElement ← if n = ofText "NF" then pure false else takesMark "["
        if isElement then
          use n .table
          let index ← list fuel
          expect "]"
          return .place (.element n index)
        else
          use n .single
          return .place (.named n)
    | .call n =>
      use n .function
      advance
      called fuel n
    | .mark "(" =>
      advance
      let items ← list fuel
      expect ")"
      match items with
      | [e] =>
        match e with
        | .place p => return .place p
        | e => return e
      | items =>
        if ← isWord "in" then
          advance
          return .member items (← name .table)
        else refuse
    | .mark "$" =>
      advance
      if ← takesMark "++" then return .place (.field (.step true 1 (← placeOf fuel)))
      else if ← takesMark "--" then return .place (.field (.step true (-1) (← placeOf fuel)))
      else if ← takesMark "-" then return .place (.field (.negative (← primary fuel)))
      else if ← takesMark "+" then return .place (.field (← primary fuel))
      else if ← takesMark "!" then return .place (.field (.no (← primary fuel)))
      else return .place (.field (← primary fuel))
    | .mark "++" =>
      advance
      return .step true 1 (← placeOf fuel)
    | .mark "--" =>
      advance
      return .step true (-1) (← placeOf fuel)
    | .mark "-" => signed fuel
    | .word "getline" =>
      advance
      let target ← target fuel
      if ← takesMark "<" then return .line .file (some (← powered fuel)) target
      else return .line .input none target
    | .word s =>
      match Token.builtIns.lookup s with
      | none => refuse
      | some (f, least, most) =>
        advance
        if ← takesMark "(" then
          let args ← argumentsOf fuel f
          if args.length < least ∨ most < args.length then
            if f = .length then refuse else stop (.wrongCount (ofText s))
          return .builtIn f args
        else if f = .length then return .builtIn f []
        else refuse
    | _ => refuse

def called : Nat → Bytes → Reader Expr
  | 0, _ => refuse
  | fuel + 1, n => do
    let line ← line
    expect "("
    let args ← if ← takesMark ")" then pure [] else givenTo fuel
    modify fun r => { r with calls := (n, line, args.length) :: r.calls }
    return .call n args

def givenTo : Nat → Reader (List Expr)
  | 0 => refuse
  | fuel + 1 => do
    let e ← operand fuel
    if ← takesMark "," then
      skipLines
      return e :: (← givenTo fuel)
    else
      expect ")"
      return [e]

def operand : Nat → Reader Expr
  | 0 => refuse
  | fuel + 1 => do
    match (← get).rest with
    | (.name n, _) :: (.mark s, _) :: _ =>
      if (s = "," || s = ")") && !(← isFunction n) then
        advance
        return .place (.named n)
      else expr fuel false
    | _ => expr fuel false

def argumentsOf : Nat → BuiltIn → Reader (List Expr)
  | 0, _ => refuse
  | fuel + 1, f => do
    let comma : Reader Unit := do
      expect ","
      skipLines
    match f with
    | .length =>
      if ← takesMark ")" then return []
      else
        let e ← operand fuel
        expect ")"
        return [e]
    | .split =>
      let text ← expr fuel false
      comma
      let target ← name .table
      let mark ← if ← takesMark "," then do
          skipLines
          let e ← expr fuel false
          match e with
          | .text bs => if bs.length ≤ 1 then pure [e] else pure [← asPattern e]
          | e => pure [e]
        else pure []
      expect ")"
      return text :: .place (.named target) :: mark
    | .find =>
      let text ← expr fuel false
      comma
      let what ← asPattern (← expr fuel false)
      expect ")"
      return [text, what]
    | .replaceFirst => replacing fuel
    | .replaceAll => replacing fuel
    | _ => listWithin fuel

def replacing : Nat → Reader (List Expr)
  | 0 => refuse
  | fuel + 1 => do
    let what ← asPattern (← expr fuel false)
    expect ","
    skipLines
    let new ← expr fuel false
    let place ← if ← takesMark "," then do
        skipLines
        match ← peek with
        | .name _ => pure [← primary fuel]
        | .mark "$" => pure [← primary fuel]
        | _ => refuse
      else pure []
    expect ")"
    return what :: new :: place

def list : Nat → Reader (List Expr)
  | 0 => refuse
  | fuel + 1 => do
    let e ← expr fuel false
    if ← takesMark "," then
      skipLines
      return e :: (← list fuel)
    else return [e]

def listWithin : Nat → Reader (List Expr)
  | 0 => refuse
  | fuel + 1 => do
    if ← takesMark ")" then return []
    else
      let items ← list fuel
      expect ")"
      return items

end

def printed : Nat → Reader (List Expr)
  | 0 => refuse
  | fuel + 1 => do
    let e ← expr fuel true
    if ← takesMark "," then
      skipLines
      return e :: (← printed fuel)
    else return [e]

def endsPrinted : Token → Bool
  | .mark s => s = ">" || s = ">>" || s = "|" || s = ";" || s = "\x7d"
  | t => endsStatement t

def arguments (fuel : Nat) : Reader (List Expr) := do
  let start ← get
  if endsPrinted (← peek) then return []
  else
    let grouped : Option (List Expr) ← do
      if ← takesMark "(" then
        match (do let items ← list fuel; expect ")"; return items : Reader _).run (← get) with
        | .ok (items, r) =>
          if endsPrinted ((r.rest.headD (.ending, 1)).1) then
            set r
            pure (some items)
          else pure none
        | .error _ => pure none
      else pure none
    match grouped with
    | some items => return items
    | none =>
      set start
      printed fuel

def redirect (fuel : Nat) : Reader (Option (Redirect × Expr)) := do
  let kind : Option Redirect := match ← peek with
    | .mark ">" => some .fresh
    | .mark ">>" => some .added
    | .mark "|" => some .command
    | _ => none
  match kind with
  | none => return none
  | some kind =>
    advance
    return some (kind, ← expr fuel false)

def terminator : Reader Unit := do
  match ← peek with
  | .newline => advance
  | .mark ";" => advance
  | .mark "\x7d" => pure ()
  | .ending => pure ()
  | _ => refuse

def optionalExpr (fuel : Nat) : Reader (Option Expr) := do
  if endsStatement (← peek) then return none else return some (← expr fuel false)

def takesElse : Reader Bool := do
  match (← get).rest.dropWhile fun t => t.1 matches .newline with
  | (.word "else", _) :: rest =>
    modify fun r => { r with rest }
    return true
  | _ => return false

mutual

def statement : Nat → Scope → Reader Stmt
  | 0, _ => refuse
  | fuel + 1, s => do
    let finish (st : Stmt) : Reader Stmt := do
      terminator
      return st
    let t ← peek
    match t with
    | .mark "\x7b" => block fuel s
    | .mark "\x7d" => return .block []
    | .mark ";" =>
      advance
      return .block []
    | .word "if" =>
      advance
      expect "("
      let c ← expr fuel false
      expect ")"
      skipLines
      let a ← statement fuel s
      if ← takesElse then
        skipLines
        return .branch c a (some (← statement fuel s))
      else return .branch c a none
    | .word "while" =>
      advance
      expect "("
      let c ← expr fuel false
      expect ")"
      return .loop c (← body fuel s)
    | .word "do" =>
      advance
      skipLines
      let b ← statement fuel { s with isLoop := true }
      modify fun r => { r with rest := r.rest.dropWhile fun t => endsSimple t.1 }
      if !(← isWord "while") then refuse
      advance
      expect "("
      let c ← expr fuel false
      expect ")"
      finish (.loopAfter b c)
    | .word "for" =>
      advance
      expect "("
      match (← get).rest with
      | (.name n, _) :: (.word "in", _) :: (.name table, _) :: (.mark ")", _) :: _ =>
        if ← isFunction n then
          advance
          refuse
        use n .single
        use table .table
        for _ in [1, 2, 3, 4] do advance
        return .each n table (← body fuel s)
      | _ =>
        let start ← if ← isMark ";" then pure none else pure (some (.expr (← expr fuel false)))
        expect ";"
        skipLines
        let c ← if ← isMark ";" then pure none else pure (some (← expr fuel false))
        expect ";"
        skipLines
        let step ← if ← isMark ")" then pure none else pure (some (.expr (← expr fuel false)))
        expect ")"
        return .count start c step (← body fuel s)
    | .word "break" =>
      if !s.isLoop then stop (.outside "break")
      advance
      finish .leave
    | .word "continue" =>
      if !s.isLoop then stop (.outside "continue")
      advance
      finish .again
    | .word "next" =>
      if !s.isRule then stop (.misplaced "next")
      advance
      finish .next
    | .word "nextfile" =>
      if !s.isRule then stop (.misplaced "nextfile")
      advance
      finish .nextFile
    | .word "exit" =>
      advance
      finish (.exit (← optionalExpr fuel))
    | .word "return" =>
      if !s.isFunction then stop (.outside "return")
      advance
      finish (.giveBack (← optionalExpr fuel))
    | .word "delete" =>
      advance
      let n ← name .table
      if ← takesMark "[" then
        let index ← list fuel
        expect "]"
        finish (.delete n (some index))
      else finish (.delete n none)
    | .word "print" =>
      advance
      let args ← arguments fuel
      finish (.print args (← redirect fuel))
    | .word "printf" =>
      advance
      let args ← arguments fuel
      if args.isEmpty then stop .noArguments
      finish (.printf args (← redirect fuel))
    | _ => finish (.expr (← expr fuel false))

def body : Nat → Scope → Reader Stmt
  | 0, _ => refuse
  | fuel + 1, s => do
    if ← takesMark ";" then return .block []
    else
      skipLines
      statement fuel { s with isLoop := true }

def block : Nat → Scope → Reader Stmt
  | 0, _ => refuse
  | fuel + 1, s => do
    expect "\x7b"
    return .block (← statements fuel s)

def statements : Nat → Scope → Reader (List Stmt)
  | 0, _ => refuse
  | fuel + 1, s => do
    skipLines
    if ← takesMark "\x7d" then return []
    else
      let first ← statement fuel s
      return first :: (← statements fuel s)

/-- Whether a token ends a simple statement and nothing else. -/
def endsSimple : Token → Bool
  | .newline => true
  | .mark s => s = ";"
  | _ => false

end

def parameters : Nat → Reader (List Bytes)
  | 0 => refuse
  | fuel + 1 => do
    if ← takesMark ")" then return []
    else
      let n ← match ← peek with
        | .name n => pure n
        | _ => refuse
      advance
      if ← takesMark "," then
        skipLines
        return n :: (← parameters fuel)
      else
        expect ")"
        return [n]

def function (fuel : Nat) (known : List Function) : Reader Function := do
  advance
  let n ← match ← peek with
    | .name n => pure n
    | .call n => pure n
    | _ => refuse
  if known.any fun f => f.name = n then stop (.redefined n)
  use n .function
  advance
  expect "("
  let ps ← parameters fuel
  if ps.contains n then stop .ownName
  match ps.zipIdx.find? fun (p, i) => (ps.take i).contains p with
  | some (p, _) => stop (.twice p)
  | none => pure ()
  skipLines
  modify fun r => { r with parameters := ps.map fun p => (p, none) }
  let b ← block fuel ⟨false, true, false⟩
  modify fun r => { r with parameters := [] }
  return ⟨n, ps, b⟩

def items : Nat → Script → Reader Script
  | 0, _ => refuse
  | fuel + 1, s => do
    skipLines
    let rest (s : Script) : Reader Script := do
      let _ ← takesMark ";"
      items fuel s
    match ← peek with
    | .ending =>
      if (← get).braces ≠ 0 then refuse else return s
    | .word "BEGIN" =>
      advance
      let b ← block fuel ⟨false, false, false⟩
      rest { s with starts := s.starts ++ [b] }
    | .word "END" =>
      advance
      let b ← block fuel ⟨false, false, false⟩
      rest { s with ends := s.ends ++ [b] }
    | .word "function" =>
      let f ← function fuel s.functions
      rest { s with functions := s.functions ++ [f] }
    | .mark "\x7b" =>
      let b ← block fuel ⟨false, false, true⟩
      rest { s with rules := s.rules ++ [⟨.always, b⟩] }
    | _ =>
      let a ← expr fuel false
      let pattern ← if ← takesMark "," then do
          skipLines
          pure (.range a (← expr fuel false))
        else pure (.single a)
      let action ← if ← isMark "\x7b" then block fuel ⟨false, false, true⟩
        else do
          if !endsStatement (← peek) then refuse
          pure (.print [] none)
      rest { s with rules := s.rules ++ [⟨pattern, action⟩] }

end Reader

def predefined : List (Bytes × Role) :=
  (["NR", "FNR", "FS", "RS", "OFS", "ORS", "FILENAME", "SUBSEP", "CONVFMT", "OFMT", "RSTART",
    "RLENGTH", "ARGC"].map fun n => (ofText n, .single)) ++
    ["ARGV", "ENVIRON"].map fun n => (ofText n, .table)

def Script.read (text : Bytes) : Except (Problem × Nat) Script := do
  let cs := toChars (lineOf text)
  let ts := tokens (cs.length + 1) 1 .newline cs
  let fuel := 60 * (ts.length + 2)
  let (s, r) ← (Reader.items fuel ⟨[], [], [], []⟩).run ⟨ts, 0, 0, [], predefined, []⟩
  for (n, line, count) in r.calls.reverse do
    match s.functions.find? fun f => f.name = n with
    | none => throw (.undefined n, (ts.getLast?.map Prod.snd).getD 1)
    | some f => if f.parameters.length < count then throw (.tooMany n, line)
  return s

end LspRelay.Rows
