import LspRelay.Host.Shell.Script

namespace LspRelay.Shell

def specialBuiltIns : List String :=
  [".", ":", "break", "continue", "eval", "exec", "exit", "export", "local", "readonly", "return",
   "set", "shift", "times", "trap", "unset"]

def isNameStart (c : Char) : Bool := c.isAlpha || c = '_'

def isNameChar (c : Char) : Bool := c.isAlphanum || c = '_'

def isName (cs : List Char) : Bool := cs.head?.any isNameStart && cs.all isNameChar

def isSpecial (c : Char) : Bool := c ∈ ['!', '#', '$', '*', '-', '?', '@'] || c.isDigit

def isOperator (c : Char) : Bool :=
  c = ';' || c = '&' || c = '|' || c = '<' || c = '>' || c = '(' || c = ')' || c = '\n'

def endsWord (c : Char) : Bool := c = ' ' || c = '\t' || isOperator c

def graveAccent : Char := Char.ofNat 96

/-- A text that is still to come: its number, the line that ends it, whether it is taken as it is,
and whether its tabs in front are left out. -/
structure Pending where
  number : Nat
  mark : List Char
  isPlain : Bool
  dropsTabs : Bool

/-- What is left of a script and what is known of it: the line that has been reached, a token that
was given back, texts to come and texts that were read, and words that stand for other text. -/
structure Source where
  rest : List Char
  line : Nat
  returned : Option Token
  pending : List Pending
  documents : List (Nat × List Piece)
  count : Nat
  aliases : List (Bytes × Bytes)
  /-- The aliases that are being read, each with what comes after its text. -/
  active : List (Bytes × Nat)

abbrev Reader := StateT Source (Except (ScriptError × Nat))

structure Looking where
  lines : Bool
  keywords : Bool
  aliases : Bool
  isMark : Bool

namespace Looking

def plain : Looking := ⟨false, false, false, false⟩

def command : Looking := ⟨false, true, true, false⟩

def nextLine : Looking := ⟨true, true, true, false⟩

def argument : Looking := ⟨false, false, true, false⟩

def mark : Looking := ⟨false, false, false, true⟩

end Looking

/-- Where the pieces of a word are read: in a word, in double quotes, in braces that are quoted or
not, in a sum within so many parentheses, or in a text of its own. -/
inductive Context where
  | word
  | quotes
  | braces (quoted inner inDocument : Bool)
  | sum (depth : Nat)
  | document (d : Pending)

namespace Context

def isQuoted : Context → Bool
  | word => false
  | braces quoted .. => quoted
  | _ => true

def isDocument : Context → Bool
  | document _ => true
  | braces _ _ inDocument => inDocument
  | _ => false

end Context

namespace Reader

def fail {α : Type} (e : ScriptError) : Reader α := do throw (e, (← get).line)

def unexpected {α : Type} (t : Token) (expected : Option Token) : Reader α :=
  fail (.unexpected t.description (expected.map Token.description))

def next? : Reader (Option Char) := do
  let s ← get
  match s.rest with
  | [] => return none
  | c :: cs =>
    set { s with rest := cs, line := if c = '\n' then s.line + 1 else s.line }
    return some c

def dropJoins (line : Nat) : List Char → List Char × Nat
  | '\\' :: '\n' :: cs => dropJoins (line + 1) cs
  | cs => (cs, line)

def joinLines : Reader Unit :=
  modify fun s =>
    let (rest, line) := dropJoins s.line s.rest
    { s with rest, line }

def peek? : Reader (Option Char) := do
  joinLines
  return (← get).rest.head?

def nextJoined? : Reader (Option Char) := do
  joinLines
  next?

def take? (c : Char) : Reader Bool := do
  if (← peek?) = some c then
    let _ ← next?
    return true
  else return false

def giveBack (t : Token) : Reader Unit := modify fun s => { s with returned := some t }

def readName (isPart : Char → Bool) : Nat → Reader (List Char)
  | 0 => return []
  | fuel + 1 => do
    match ← peek? with
    | some c =>
      if isPart c then
        let _ ← next?
        return c :: (← readName isPart fuel)
      else return []
    | none => return []

def addText (bs : Bytes) (quoted : Bool) (ps : List Piece) : List Piece :=
  match ps with
  | .text before q :: rest =>
    if q = quoted then .text (before ++ bs) q :: rest else .text bs quoted :: ps
  | ps => .text bs quoted :: ps

/-- Takes a line that ends a text, if it comes next. -/
def takeMark (d : Pending) : Reader Bool := do
  let s ← get
  let cs := if d.dropsTabs then s.rest.dropWhile (· = '\t') else s.rest
  let after := cs.drop d.mark.length
  if d.mark.isPrefixOf cs && (after = [] || after.head? = some '\n') && s.rest ≠ [] then
    set { s with rest := after.drop 1, line := s.line + 1 }
    return true
  else
    set { s with rest := cs }
    return false

def readLines (d : Pending) : Nat → Reader (List Char)
  | 0 => return []
  | fuel + 1 => do
    if (← get).rest = [] then return []
    else if ← takeMark d then return []
    else
      let s ← get
      let line := s.rest.takeWhile (· ≠ '\n')
      let rest := s.rest.drop line.length
      set { s with rest := rest.drop 1, line := s.line + 1 }
      return line ++ (if rest = [] then [] else ['\n']) ++ (← readLines d fuel)

/-- The text of an old-style substitution without its own backslashes. -/
def readGrave (inQuotes : Bool) : Nat → Reader (List Char)
  | 0 => fail .unterminated
  | fuel + 1 => do
    match ← nextJoined? with
    | none => fail .unterminatedGrave
    | some '\\' =>
      match ← next? with
      | none => fail .unterminatedGrave
      | some c =>
        let isOwn := c = '\\' || c = '$' || c = graveAccent || (inQuotes && c = '"')
        return (if isOwn then [c] else ['\\', c]) ++ (← readGrave inQuotes fuel)
    | some c =>
      if c = graveAccent then return []
      else return c :: (← readGrave inQuotes fuel)

def plainText? (ps : List Piece) : Option Bytes :=
  match ps with
  | [.text bs false] => some bs
  | _ => none

def isQuotedWord (ps : List Piece) : Bool :=
  ps.any fun p =>
    match p with
    | .text _ quoted => quoted
    | _ => false

def markText (ps : List Piece) : List Char :=
  ps.flatMap fun p =>
    match p with
    | .text bs _ => toChars bs
    | _ => []

def assignment? (ps : List Piece) : Option (String × List Piece) :=
  match ps with
  | .text bs false :: rest =>
    let name := toChars (bs.takeWhile (· ≠ Octet.equals))
    if isName name ∧ bs.contains Octet.equals then
      let value := bs.drop (name.length + 1)
      some (String.ofList name, if value = [] then rest else .text value false :: rest)
    else none
  | _ => none

def isStream (bs : Bytes) : Bool :=
  bs = [Octet.dash] || (bs.length = 1 && bs.all fun b => (Char.ofNat b.toNat).isDigit)

def checkStream (ps : List Piece) : Reader Unit := do
  match plainText? ps with
  | some bs => if !isStream bs then fail .badDescriptor
  | none => return ()

/-- Looks a word up among the aliases that are not being read. -/
def expandAlias (ps : List Piece) : Reader Bool := do
  let s ← get
  let active := s.active.filter fun a => a.2 ≤ s.rest.length
  match (plainText? ps).bind fun bs => (s.aliases.lookup bs).map (bs, ·) with
  | some (name, value) =>
    if active.any fun a => a.1 = name then return false
    else
      set { s with
        rest := toChars value ++ s.rest
        active := (name, s.rest.length) :: active }
      return true
  | none => return false

mutual

def token : Nat → Looking → Reader Token
  | 0, _ => fail .unterminated
  | fuel + 1, looking => do
    let s ← get
    let t ← match s.returned with
      | some t => do
        set { s with returned := none }
        pure t
      | none => readToken fuel looking.isMark
    match t with
    | .newline =>
      if looking.lines then
        readDocuments fuel
        token fuel looking
      else return t
    | .word ps =>
      match plainText? ps with
      | none => return t
      | some bs =>
        match if looking.keywords then keywords.find? fun k => ofText k = bs else none with
        | some k => return .keyword k
        | none =>
          let isExpanded ← if looking.aliases then expandAlias ps else pure false
          if isExpanded then token fuel looking else return t
    | t => return t

def readToken : Nat → Bool → Reader Token
  | 0, _ => fail .unterminated
  | fuel + 1, isMark => do
    let double (c : Char) (one two : Token) : Reader Token := do
      if ← take? c then return two else return one
    match ← peek? with
    | none => return .ending
    | some ' ' =>
      let _ ← next?
      readToken fuel isMark
    | some '\t' =>
      let _ ← next?
      readToken fuel isMark
    | some '#' =>
      modify fun s => { s with rest := s.rest.dropWhile (· ≠ '\n') }
      readToken fuel isMark
    | some '<' => readRedirect none
    | some '>' => readRedirect none
    | some c =>
      if isOperator c then
        let _ ← next?
        match c with
        | '\n' => return .newline
        | '&' => double '&' .background .both
        | '|' => double '|' .pipe .either
        | ';' => double ';' .semicolon .caseEnd
        | '(' => return .opening
        | _ => return .closing
      else
        let ps ← readPieces fuel .word isMark []
        let stream := match plainText? ps with
          | some [b] => if (Char.ofNat b.toNat).isDigit then some (b.toNat - 48) else none
          | _ => none
        match stream, ← peek? with
        | some n, some '<' => readRedirect (some n)
        | some n, some '>' => readRedirect (some n)
        | _, _ => return .word ps
where
  readRedirect (stream : Option Nat) : Reader Token := do
    match ← nextJoined? with
    | some '>' =>
      if ← take? '>' then return .redirect stream ">>"
      else if ← take? '|' then return .redirect stream ">|"
      else if ← take? '&' then return .redirect stream ">&"
      else return .redirect stream ">"
    | _ =>
      if ← take? '<' then
        if ← take? '-' then return .redirect stream "<<-" else return .redirect stream "<<"
      else if ← take? '&' then return .redirect stream "<&"
      else if ← take? '>' then return .redirect stream "<>"
      else return .redirect stream "<"

def readPieces : Nat → Context → Bool → List Piece → Reader (List Piece)
  | 0, _, _, _ => fail .unterminated
  | fuel + 1, context, isMark, ps => do
    let quoted := context.isQuoted
    let again (ps : List Piece) : Reader (List Piece) := readPieces fuel context isMark ps
    match ← peek? with
    | none =>
      match context with
      | .word => return ps.reverse
      | .document _ => return ps.reverse
      | .quotes => fail .unterminated
      | .braces quoted _ inDocument =>
        fail (if quoted && !inDocument then .unterminated else .missingBrace)
      | .sum _ => fail .missingParentheses
    | some c =>
      if let .word := context then
        if endsWord c then return ps.reverse
      let _ ← next?
      match c with
      | '\\' =>
        match ← next? with
        | none => again (addText [Octet.backslash] true ps)
        | some c =>
          let inBraces := match context with
            | .braces .. => true
            | _ => false
          let isOwn := !quoted || c = '\\' || c = '$' || c = graveAccent ||
            (c = '"' && (inBraces || !context.isDocument)) || (c = '\x7d' && inBraces)
          again (addText ((if isOwn then [] else [Octet.backslash]) ++ [octet c]) true ps)
      | '$' =>
        if isMark then again (addText [octet '$'] quoted ps)
        else again ((← readDollar fuel context) ++ ps)
      | '\x7d' =>
        match context with
        | .braces _ false _ => return ps.reverse
        | _ => again (addText [octet c] quoted ps)
      | '"' =>
        match context with
        | .quotes => return ps.reverse
        | .document _ => again (addText [octet c] true ps)
        | .sum _ => again (addText [octet c] true ps)
        | .braces true inner inDocument =>
          readPieces fuel (.braces true (!inner) inDocument) isMark (addText [] true ps)
        | _ => do
          let inside ← readPieces fuel .quotes isMark []
          match inside with
          | [.parameter "@" .none [] true] => again (inside ++ ps)
          | inside => again (inside.reverse ++ addText [] true ps)
      | '\'' =>
        if quoted then again (addText [octet c] true ps)
        else
          let s ← get
          let inside := s.rest.takeWhile (· ≠ '\'')
          let line := s.line + inside.count '\n'
          let rest := s.rest.drop inside.length
          set { s with rest := rest.drop 1, line }
          if rest = [] then fail .unterminated
          again (addText (ofChars inside) true ps)
      | '(' =>
        match context with
        | .sum depth =>
          readPieces fuel (.sum (depth + 1)) isMark (addText [octet c] true ps)
        | _ => again (addText [octet c] quoted ps)
      | ')' =>
        match context with
        | .sum (depth + 1) => readPieces fuel (.sum depth) isMark (addText [octet c] true ps)
        | .sum 0 =>
          if ← take? ')' then return ps.reverse else again (addText [octet c] true ps)
        | _ => again (addText [octet c] quoted ps)
      | '\n' =>
        match context with
        | .document d =>
          let ps := addText [octet c] true ps
          if ← takeMark d then return ps.reverse else again ps
        | _ => again (addText [octet c] quoted ps)
      | c =>
        if c = graveAccent && !isMark then
          let s ← get
          let inside ← readGrave (quoted && !context.isDocument) (s.rest.length + 1)
          let after ← get
          set { after with rest := inside, line := 1, returned := none, pending := [] }
          let script ← readList fuel 2 none
          readDocuments fuel
          modify fun i => { after with documents := i.documents, count := i.count }
          again (.output script quoted :: ps)
        else again (addText [octet c] quoted ps)

def readDollar : Nat → Context → Reader (List Piece)
  | 0, _ => fail .unterminated
  | fuel + 1, context => do
    let quoted := context.isQuoted
    match ← peek? with
    | some '(' => do
      let _ ← next?
      if ← take? '(' then return [.sum (← readPieces fuel (.sum 0) false []) quoted]
      else
        let s ← get
        set { s with returned := none, pending := [] }
        let script ← readList fuel 2 none
        match ← token fuel .plain with
        | .closing =>
          readDocuments fuel
          modify fun i => { i with returned := none, pending := s.pending }
          return [.output script quoted]
        | t => unexpected t (some .closing)
    | some '\x7b' => do
      let _ ← next?
      readBraces fuel context
    | some c =>
      if isNameStart c then
        let name ← readName isNameChar (← get).rest.length
        return [.parameter (String.ofList name) .none [] quoted]
      else if isSpecial c then
        let _ ← next?
        return [.parameter (String.ofList [c]) .none [] quoted]
      else return [.text [octet '$'] quoted]
    | none => return [.text [octet '$'] quoted]

def readBraces : Nat → Context → Reader (List Piece)
  | 0, _ => fail .unterminated
  | fuel + 1, context => do
    let quoted := context.isQuoted
    let size := (← get).rest.length
    let changed (name : List Char) (change : Change) (inside : Bool) : Reader (List Piece) := do
      let word ← readPieces fuel (.braces inside false context.isDocument) false []
      return [.parameter (String.ofList name) change word quoted]
    let bad : Reader (List Piece) := changed [] .bad quoted
    let trimmed (name : List Char) (c : Char) : Reader (List Piece) := do
      let longest ← take? c
      changed name (.trimmed (c = '#') longest) false
    /- What follows a name, given its first character. -/
    let further (name : List Char) (c : Option Char) : Reader (List Piece) := do
      match c with
      | some '\x7d' => return [.parameter (String.ofList name) .none [] quoted]
      | some '%' => trimmed name '%'
      | some '#' => trimmed name '#'
      | some ':' =>
        match ← nextJoined? with
        | some c =>
          if c ∈ ['-', '+', '?', '='] then changed name (.fallback c true) quoted else bad
        | none => bad
      | some c => if c ∈ ['-', '+', '?', '='] then changed name (.fallback c false) quoted else bad
      | none => bad
    match ← peek? with
    | none => bad
    | some '\x7d' => bad
    | some '#' => do
      let _ ← next?
      match ← peek? with
      | some c =>
        if isNameChar c then
          let name ← if c.isDigit then readName Char.isDigit size else readName isNameChar size
          if ← take? '\x7d' then return [.parameter (String.ofList name) .length [] quoted] else bad
        else
          let _ ← next?
          if c = '\x7d' then return [.parameter "#" .none [] quoted]
          else if (← peek?) = some '\x7d' then
            if isSpecial c then
              let _ ← next?
              return [.parameter (String.ofList [c]) .length [] quoted]
            else bad
          else further ['#'] (some c)
      | none => bad
    | some c =>
      if isNameStart c then
        let name ← readName isNameChar size
        further name (← nextJoined?)
      else if c.isDigit then
        let name ← readName Char.isDigit size
        further name (← nextJoined?)
      else if isSpecial c then
        let _ ← next?
        further [c] (← nextJoined?)
      else bad

def readDocuments : Nat → Reader Unit
  | 0 => return ()
  | fuel + 1 => do
    let s ← get
    match s.pending with
    | [] => return ()
    | d :: pending =>
      set { s with pending := [] }
      let ps ←
        if d.isPlain then do pure [.text (ofChars (← readLines d s.rest.length)) true]
        else if ← takeMark d then pure []
        else readPieces fuel (.document d) false []
      modify fun s => { s with documents := (d.number, ps) :: s.documents, pending }
      readDocuments fuel

def readList : Nat → Nat → Option Script → Reader Script
  | 0, _, _ => fail .unterminated
  | fuel + 1, mode, before => do
    let lines := mode % 2 = 0
    let t ← token fuel { Looking.command with lines }
    match t with
    | .newline =>
      readDocuments fuel
      return before.getD .nothing
    | .ending =>
      readDocuments fuel
      giveBack .ending
      return before.getD .nothing
    | t =>
      giveBack t
      if mode = 2 && t.endsList then return before.getD .nothing
      let first ← readChain fuel
      let t ← token fuel .plain
      let first : Script := match t with
        | .background => .background first
        | _ => first
      let all : Script := match before with
        | some before => .sequence before first
        | none => first
      let mode := if lines then 2 else 3
      match t with
      | .ending =>
        readDocuments fuel
        giveBack .ending
        return all
      | .newline =>
        giveBack .newline
        readList fuel mode (some all)
      | .background => readList fuel mode (some all)
      | .semicolon => readList fuel mode (some all)
      | t =>
        if !lines then unexpected t none
        giveBack t
        return all

def readChain : Nat → Reader Script
  | 0 => fail .unterminated
  | fuel + 1 => do further fuel (← readPipe fuel)

def further : Nat → Script → Reader Script
  | 0, _ => fail .unterminated
  | fuel + 1, first => do
    match ← token fuel .plain with
    | .both => do
      giveBack (← token fuel .nextLine)
      further fuel (.both first (← readPipe fuel))
    | .either => do
      giveBack (← token fuel .nextLine)
      further fuel (.either first (← readPipe fuel))
    | t =>
      giveBack t
      return first

def readPipe : Nat → Reader Script
  | 0 => fail .unterminated
  | fuel + 1 => do
    match ← token fuel .plain with
    | .keyword "!" => do
      let line := (← get).line
      giveBack (← token fuel .command)
      return .negate (← readStages fuel line)
    | t =>
      giveBack t
      readStages fuel (← get).line

def readStages : Nat → Nat → Reader Script
  | 0, _ => fail .unterminated
  | fuel + 1, line => do
    let first ← readCommand fuel line
    match ← token fuel .plain with
    | .pipe => do
      let line := (← get).line
      giveBack (← token fuel .nextLine)
      return .pipe first (← readStages fuel line)
    | t =>
      giveBack t
      return first

def readCommand : Nat → Nat → Reader Script
  | 0, _ => fail .unterminated
  | fuel + 1, line => do
    let closed (s : Script) (last : Token) : Reader Script := do
      expect fuel last
      redirected fuel line s
    match ← token fuel .plain with
    | .keyword "if" => closed (← readBranches fuel) (.keyword "fi")
    | .keyword "while" => do
      let condition ← readList fuel 0 none
      expect fuel (.keyword "do")
      closed (.loop false condition (← readList fuel 0 none)) (.keyword "done")
    | .keyword "until" => do
      let condition ← readList fuel 0 none
      expect fuel (.keyword "do")
      closed (.loop true condition (← readList fuel 0 none)) (.keyword "done")
    | .keyword "for" => do
      match ← token fuel .plain with
      | .word ps =>
        match (plainText? ps).map toChars with
        | some name =>
          if !isName name then fail .badLoop
          let words ← match ← token fuel .nextLine with
            | .keyword "in" => do
              let (words, t) ← readWords fuel
              match t with
              | .newline =>
                readDocuments fuel
                pure (some words)
              | .semicolon => pure (some words)
              | t => unexpected t none
            | .semicolon => pure none
            | t => do
              giveBack t
              pure none
          match ← token fuel .nextLine with
          | .keyword "do" =>
            let body ← readList fuel 0 none
            closed (.each line (String.ofList name) words body) (.keyword "done")
          | t => unexpected t (some (.keyword "do"))
        | none => fail .badLoop
      | _ => fail .badLoop
    | .keyword "case" => do
      match ← token fuel .plain with
      | .word ps =>
        match ← token fuel .nextLine with
        | .keyword "in" =>
          let cases ← readCases fuel
          redirected fuel line (.select line ps cases)
        | t => unexpected t (some (.keyword "in"))
      | t => unexpected t (some (.word []))
    | .opening => do
      let s ← readList fuel 0 none
      expect fuel .closing
      return .inner line s (← readRedirects fuel)
    | .keyword "\x7b" => closed (← readList fuel 0 none) (.keyword "\x7d")
    | .word ps =>
      giveBack (.word ps)
      readSimple fuel
    | .redirect stream operator =>
      giveBack (.redirect stream operator)
      readSimple fuel
    | t => unexpected t none

def expect : Nat → Token → Reader Unit
  | 0, _ => fail .unterminated
  | fuel + 1, wanted => do
    let t ← token fuel .plain
    if t.description = wanted.description then return () else unexpected t (some wanted)

/-- The redirections after a command, if there are any. -/
def redirected : Nat → Nat → Script → Reader Script
  | 0, _, _ => fail .unterminated
  | fuel + 1, line, s => do
    match ← readRedirects fuel with
    | [] => return s
    | rs => return .redirected line s rs

def readRedirects : Nat → Reader (List Redirect)
  | 0 => fail .unterminated
  | fuel + 1 => do
    match ← token fuel .command with
    | .redirect stream operator => do
      let r ← readDestination fuel stream operator
      return r :: (← readRedirects fuel)
    | t =>
      giveBack t
      return []

def readDestination : Nat → Option Nat → String → Reader Redirect
  | 0, _, _ => fail .unterminated
  | fuel + 1, stream, operator => do
    let isDocument := operator = "<<" || operator = "<<-"
    match ← token fuel (if isDocument then .mark else .plain) with
    | .word ps =>
      let input := stream.getD 0
      let output := stream.getD 1
      match operator with
      | ">" => return .mk output (.file .write ps)
      | ">|" => return .mk output (.file .replace ps)
      | ">>" => return .mk output (.file .append ps)
      | "<>" => return .mk input (.file .both ps)
      | "<" => return .mk input (.file .read ps)
      | ">&" => do
        checkStream ps
        return .mk output (.copy false ps)
      | "<&" => do
        checkStream ps
        return .mk input (.copy true ps)
      | _ =>
        let s ← get
        let d : Pending := ⟨s.count, markText ps, isQuotedWord ps, operator = "<<-"⟩
        set { s with count := s.count + 1, pending := s.pending ++ [d] }
        return .mk input (.document d.number)
    | t => unexpected t none

/-- The branches of an `if` after its first word, up to its last. -/
def readBranches : Nat → Reader Script
  | 0 => fail .unterminated
  | fuel + 1 => do
    let condition ← readList fuel 0 none
    expect fuel (.keyword "then")
    let yes ← readList fuel 0 none
    match ← token fuel .plain with
    | .keyword "elif" => return .choose condition yes (← readBranches fuel)
    | .keyword "else" => return .choose condition yes (← readList fuel 0 none)
    | t =>
      giveBack t
      return .choose condition yes .nothing

def readWords : Nat → Reader (List (List Piece) × Token)
  | 0 => fail .unterminated
  | fuel + 1 => do
    match ← token fuel .plain with
    | .word ps =>
      let (words, t) ← readWords fuel
      return (ps :: words, t)
    | t => return ([], t)

def readCases : Nat → Reader (List (List (List Piece) × Script))
  | 0 => fail .unterminated
  | fuel + 1 => do
    match ← token fuel ⟨true, true, false, false⟩ with
    | .keyword "esac" => return []
    | t => do
      let t ← match t with
        | .opening => token fuel .plain
        | t => pure t
      let patterns ← readPatterns fuel t
      let body ← readList fuel 2 none
      match ← token fuel ⟨true, true, false, false⟩ with
      | .keyword "esac" => return [(patterns, body)]
      | .caseEnd => return (patterns, body) :: (← readCases fuel)
      | t => unexpected t (some .caseEnd)

def readPatterns : Nat → Token → Reader (List (List Piece))
  | 0, _ => fail .unterminated
  | fuel + 1, t => do
    let pattern : List Piece := match t with
      | .word ps => ps
      | .keyword text => [.text (ofText text) false]
      | _ => []
    match ← token fuel .plain with
    | .pipe => return pattern :: (← readPatterns fuel (← token fuel .plain))
    | .closing => return [pattern]
    | t => unexpected t (some .closing)

def readSimple : Nat → Reader Script
  | 0 => fail .unterminated
  | fuel + 1 => do readParts fuel (← get).line [] [] []

def readParts : Nat → Nat → List (String × List Piece) → List (List Piece) → List Redirect →
    Reader Script
  | 0, _, _, _, _ => fail .unterminated
  | fuel + 1, line, assignments, words, redirects => do
    let finished (t : Token) : Reader Script := do
      giveBack t
      return .command line assignments.reverse words.reverse redirects.reverse
    match ← token fuel (if words = [] then .argument else .plain) with
    | .word ps =>
      match if words = [] then assignment? ps else none with
      | some a => readParts fuel line (a :: assignments) words redirects
      | none => readParts fuel line assignments (ps :: words) redirects
    | .redirect stream operator =>
      let r ← readDestination fuel stream operator
      readParts fuel line assignments words (r :: redirects)
    | .opening =>
      match words, assignments, redirects with
      | [ps], [], [] =>
        expect fuel .closing
        let name := (plainText? ps).getD []
        if !isName (toChars name) || specialBuiltIns.any fun b => ofText b = name then
          fail .badFunction
        giveBack (← token fuel .nextLine)
        let line := (← get).line
        return .define (String.ofList (toChars name)) (← readCommand fuel line)
      | _, _, _ => finished .opening
    | t => finished t

end

/-- The next complete command of a script, or nothing at its end. Every step of a reader takes a
character or goes one of a few levels down, which bounds the fuel. -/
def nextCommand (s : Source) : Except (ScriptError × Nat) (Option Script × Source) := do
  let fuel := 16 * s.rest.length + 64
  let isOver (s : Source) : Bool := s.rest.isEmpty
  let (script, after) ← (readList fuel 1 none).run { s with returned := none }
  let ended := match after.returned with
    | some .ending => true
    | _ => false
  match script with
  | .nothing => return (if ended || isOver after then none else some .nothing, after)
  | script => return (some script, after)

end Reader

end LspRelay.Shell
