import LspRelay.Host.Tool.Options

namespace LspRelay.Tool

open Process

/-- How `cat` prints: which lines have numbers, whether blank lines are kept, and how ends, tabs and
other octets are shown. -/
structure Display where
  numbers : Bool
  numbersFilled : Bool
  squeezes : Bool
  ends : Bool
  tabs : Bool
  others : Bool

/-- Where `cat` is: at the start of a line or not, after how many blank lines, in which line, and
whether a carriage return is waiting for what comes next. -/
structure Position where
  atStart : Bool
  blanks : Nat
  line : Nat
  returned : Bool

def seen (b : UInt8) : Bytes :=
  if b < 32 then [octet '^', b + 64]
  else if b < 127 then [b]
  else if b = 127 then ofText "^?"
  else if b < 160 then ofText "M-^" ++ [b - 64]
  else if b < 255 then ofText "M-" ++ [b - 128]
  else ofText "M-^?"

def padded (width : Nat) (bs : Bytes) : Bytes :=
  List.replicate (width - bs.length) Octet.space ++ bs

namespace Display

def isPlain (d : Display) : Bool :=
  !(d.numbers || d.numbersFilled || d.squeezes || d.ends || d.tabs || d.others)

def numbered (n : Nat) : Bytes := padded 6 (decimal n) ++ [Octet.tab]

def step (d : Display) (s : Position) (b : UInt8) : Bytes × Position :=
  let waiting : Bytes := if s.returned then [13] else []
  if b = Octet.lineFeed then
    let ending : Bytes := (if d.ends ∧ s.returned then ofText "^M" else waiting) ++
      (if d.ends then [octet '$'] else []) ++ [b]
    if s.atStart then
      if d.squeezes ∧ s.blanks ≠ 0 then ([], s)
      else
        let hasNumber := d.numbers && !d.numbersFilled
        ((if hasNumber then numbered s.line else []) ++ ending,
          ⟨true, s.blanks + 1, if hasNumber then s.line + 1 else s.line, false⟩)
    else (ending, { s with atStart := true, returned := false })
  else
    let hasNumber := s.atStart && (d.numbers || d.numbersFilled)
    let front : Bytes := waiting ++ (if hasNumber then numbered s.line else [])
    let after : Position := ⟨false, 0, if hasNumber then s.line + 1 else s.line, false⟩
    if b = Octet.tab then (front ++ (if d.tabs then ofText "^I" else [b]), after)
    else if d.others then (front ++ seen b, after)
    else if b = 13 ∧ d.ends then (front, { after with returned := true })
    else (front ++ [b], after)

def shown (d : Display) (s : Position) (bs : Bytes) : Bytes × Position :=
  let (pieces, s) := bs.foldl
    (fun (pieces, s) b => let (piece, s) := d.step s b; (piece :: pieces, s)) (([] : List Bytes), s)
  (pieces.reverse.flatten, s)

end Display

def Display.showAll (d : Display) (number : Nat) : Nat → Position → Act Position
  | 0, s => return s
  | fuel + 1, s => do
    let bs ← readFeed number readLimit
    if bs = [] then return s
    let (text, s) := if d.isPlain then (bs, s) else d.shown s bs
    write text
    d.showAll number fuel s

def cat : Command := fun args => do
  let known := [option 'A' "show-all" .nothing, option 'b' "number-nonblank" .nothing,
    option 'E' "show-ends" .nothing, option 'n' "number" .nothing,
    option 's' "squeeze-blank" .nothing, option 'T' "show-tabs" .nothing,
    option 'v' "show-nonprinting" .nothing] ++ letters "eut" .nothing
  withOptions known 1 args fun c => do
    if ((← get).stream? 1).isNone then
      die 1 (ofText "standard output: Bad file descriptor")
    let d : Display :=
      { numbers := c.has 'n' || c.has 'b'
        numbersFilled := c.has 'b'
        squeezes := c.has 's'
        ends := c.has 'A' || c.has 'E' || c.has 'e'
        tabs := c.has 'A' || c.has 'T' || c.has 't'
        others := c.has 'A' || c.has 'v' || c.has 'e' || c.has 't' }
    let mut s : Position := ⟨true, 0, 1, false⟩
    let mut isClosed := false
    for file in c.operandsOrInput do
      if file = [Octet.dash] then
        match (← get).feedOf 0 with
        | .error e =>
          failOn 1 file e
          isClosed := isClosed || e = .badDescriptor
        | .ok (number, _) => s ← d.showAll number waitLimit s
      else
        match ← openSource file with
        | .error e => failOn 1 file e
        | .ok opened =>
          match opened.source? with
          | some number => s ← d.showAll number waitLimit s
          | none => failOn 1 file .isADirectory
          letGo opened
    if s.returned then write [13]
    if isClosed then fail 1 (ofText "closing standard input: Bad file descriptor")

/-- Goes through the operands, or the input if there are none, and complains about those that cannot
be read. -/
def eachOperand (status : Nat) (c : Chosen) (f : Bytes → Bytes → Act Unit) : Act Unit := do
  for file in c.operandsOrInput do
    match ← readOperand file with
    | .error e => failOn status file e
    | .ok bs => f file bs

def tac : Command := fun args =>
  let known := [option 'b' "before" .nothing, option 'r' "regex" .nothing,
    option 's' "separator" .value]
  withOptions known 1 args fun c => do
    for file in c.operandsOrInput do
      match ← readOperand file with
      | .error e =>
        if e = .isADirectory then fail 1 (shownName file ++ ofText ": read error: Is a directory")
        else
          fail 1 (ofText "failed to open " ++ shellQuoted file ++
            ofText (" for reading: " ++ e.description))
      | .ok bs =>
        let mark := (c.value? 's').getD [Octet.lineFeed]
        let pieces := splitAfter mark (bs.length + 1) bs
        if c.has 'b' then
          let starts := bs.splitOn (mark.headD Octet.lineFeed)
          let pieces := match starts with
            | first :: rest => first :: rest.map (mark ++ ·)
            | [] => []
          print pieces.reverse.flatten
        else print pieces.reverse.flatten
where
  splitAfter (mark : Bytes) : Nat → Bytes → List Bytes
    | 0, _ => []
    | _ + 1, [] => []
    | fuel + 1, bs =>
      let n := pieceLength mark 0 bs
      bs.take n :: splitAfter mark fuel (bs.drop n)
  pieceLength (mark : Bytes) (n : Nat) : Bytes → Nat
    | [] => n
    | b :: bs =>
      if mark ≠ [] ∧ mark.isPrefixOf (b :: bs) then n + mark.length
      else pieceLength mark (n + 1) bs

def rev : Command := fun args =>
  withOptions [option '0' "zero" .nothing] 1 args fun c => do
    for file in c.operandsOrInput do
      match ← readOperand file with
      | .error e =>
        fail 1 (ofText "cannot open " ++ file ++ ofText (": " ++ e.description))
      | .ok bs =>
        for line in lineList bs do
          if line.getLast? = some Octet.lineFeed then printLine line.dropLast.reverse
          else print line.reverse

/-- Numbers the lines of files, by default those that are not empty. -/
def nl : Command := fun args =>
  let known := [option 'b' "body-numbering" .value, option 'd' "section-delimiter" .value,
    option 'f' "footer-numbering" .value, option 'h' "header-numbering" .value,
    option 'i' "line-increment" .value, option 'l' "join-blank-lines" .value,
    option 'n' "number-format" .value, option 'p' "no-renumber" .nothing,
    option 's' "number-separator" .value, option 'v' "starting-line-number" .value,
    option 'w' "number-width" .value]
  withOptions known 1 args fun c => do
    let number (key : Char) (default : Int) : Int := ((c.value? key).bind integer?).getD default
    let width := (number 'w' 6).toNat
    let separator := (c.value? 's').getD [Octet.tab]
    let shown (n : Int) : Bytes :=
      let text := signedDecimal n
      match (c.value? 'n').map toChars with
      | some ['l', 'n'] => text ++ List.replicate (width - text.length) Octet.space
      | some ['r', 'z'] =>
        let sign : Bytes := if n < 0 then [Octet.dash] else []
        let digits := decimal n.natAbs
        sign ++ List.replicate (width - sign.length - digits.length) Octet.zero ++ digits
      | _ => padded width text
    let styleOf (key : Char) (default : Char) : Char :=
      match (c.value? key).map toChars with
      | some (s :: _) => s
      | _ => default
    let mut style := styleOf 'b' 't'
    let mut n := number 'v' 1
    for file in c.operandsOrInput do
      match ← readOperand file with
      | .error e => failOn 1 file e
      | .ok bs =>
        for line in lineList bs do
          let text := if line.getLast? = some Octet.lineFeed then line.dropLast else line
          let section? : Option Char :=
            if text = ofText "\\:\\:\\:" then some 'h'
            else if text = ofText "\\:\\:" then some 'b'
            else if text = ofText "\\:" then some 'f'
            else none
          match section? with
          | some key =>
            style := styleOf key (if key = 'b' then 't' else 'n')
            if !c.has 'p' then n := number 'v' 1
            printLine []
          | none =>
            if style = 'a' ∨ (style = 't' ∧ text ≠ []) then
              print (shown n ++ separator ++ lineOf text)
              n := n + number 'i' 1
            else
              print (List.replicate (width + separator.length) Octet.space ++ lineOf text)

def tee : Command := fun args =>
  let known := [option 'a' "append" .nothing, option 'i' "ignore-interrupts" .nothing,
    option 'p' "output-error" .nothing]
  withOptions known 1 args fun c => do
    let mut targets : List Stream := []
    for file in c.operands do
      match ← openTarget file (!c.has 'a') with
      | .ok s => targets := targets ++ [s]
      | .error e => failOn 1 file e
    let result ← eachPiece fun bs => do
      write bs
      for s in targets do
        let _ ← writeStream s bs
    match result with
    | .ok () => pure ()
    | .error e => fail 1 (ofText ("read error: " ++ e.description))

def endlessSize : Nat := 8192

def yes : Command := fun args => do
  let args := if args.head? = some (ofText "--") then args.tail else args
  let line := lineOf (if args = [] then ofText "y" else joined args)
  goOn (List.replicate (max 1 (endlessSize / line.length)) line).flatten waitLimit
where
  goOn (text : Bytes) : Nat → Act Unit
    | 0 => return ()
    | fuel + 1 => do
      match ← tryWrite 1 text with
      | .ok () => pure ()
      | .error e =>
        if e = .brokenPipe ∧ pipeSignal ∉ (← get).ignored then
          fun p => .ended { p with killedBy := some pipeSignal }
        else die 1 (ofText ("standard output: " ++ e.description))
      giveWay
      goOn text fuel

def more : Command := fun args => do
  let isOld (arg : Bytes) : Bool :=
    match arg with
    | Octet.plus :: _ => true
    | Octet.dash :: bs => bs ≠ [] && (number? bs).isSome
    | _ => false
  let known := letters "dlfpcu" .nothing ++ [option 's' "squeeze" .nothing,
    option 'n' "lines" .value, option 'e' "exit-on-eof" .nothing]
  withOptions known 1 (args.filter fun arg => !isOld arg) fun c => do
    let _ ← eachPiece write
    for file in c.operands do
      match ← readFile file with
      | .ok bs =>
        let rule := ofText "::::::::::::::\n"
        write (rule ++ lineOf file ++ rule ++ bs)
      | .error .isADirectory => write (ofText "\n*** " ++ file ++ ofText ": directory ***\n\n")
      | .error e =>
        complain (ofText "cannot open " ++ file ++ ofText (": " ++ e.description))

end LspRelay.Tool
