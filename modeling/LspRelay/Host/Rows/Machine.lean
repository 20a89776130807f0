import LspRelay.Host.Process.Lines
import LspRelay.Host.Rows.Reader
import LspRelay.Host.Rows.Table

namespace LspRelay.Rows

/-- What a name stands for; one that has not been used may still become either. -/
inductive Slot where
  | value (v : Value)
  | table (number : Nat)
  | undecided (number : Nat)

inductive Writer where
  | output
  | errors
  | stream (s : Stream)
  | command (pieces : List Bytes)

/-- What is read from: lines that are left, and the status if a command printed them. -/
structure Source where
  lines : Lines
  status : Option Nat

structure Machine where
  functions : Std.HashMap Bytes Function
  globals : Std.HashMap Bytes Slot
  locals : List (Bytes × Slot)
  tables : Std.HashMap Nat Table
  /-- How many tables there are. -/
  made : Nat
  record : Bytes
  /-- Whether the record holds what its fields hold. -/
  isWhole : Bool
  fields : Array Value
  isSplit : Bool
  /-- The rules whose ranges have begun. -/
  begun : List Nat
  patterns : Std.HashMap Bytes Regex
  input : Option Lines
  argument : Nat
  hasRead : Bool
  isOver : Bool
  sources : List (Bytes × Source)
  /-- The writers, the one that was used last first. -/
  writers : List (Bytes × Writer)
  status : Nat
  seed : Value
  /-- How many more times a loop may go round. -/
  rounds : Nat
  /-- How deep the calls of functions are. -/
  depth : Nat

inductive Jump where
  | next
  | nextFile
  | exit
  | leave
  | again
  | giveBack (v : Value)

abbrev Run := ExceptT Jump (StateT Machine Act)

structure Names where
  fieldCount : Bytes
  recordCount : Bytes
  fileRecordCount : Bytes
  fieldMark : Bytes
  recordMark : Bytes
  fieldJoint : Bytes
  recordEnd : Bytes
  fileName : Bytes
  indexJoint : Bytes
  format : Bytes
  printFormat : Bytes
  start : Bytes
  length : Bytes
  argumentCount : Bytes
  arguments : Bytes
  environment : Bytes

def names : Names :=
  { fieldCount := ofText "NF"
    recordCount := ofText "NR"
    fileRecordCount := ofText "FNR"
    fieldMark := ofText "FS"
    recordMark := ofText "RS"
    fieldJoint := ofText "OFS"
    recordEnd := ofText "ORS"
    fileName := ofText "FILENAME"
    indexJoint := ofText "SUBSEP"
    format := ofText "CONVFMT"
    printFormat := ofText "OFMT"
    start := ofText "RSTART"
    length := ofText "RLENGTH"
    argumentCount := ofText "ARGC"
    arguments := ofText "ARGV"
    environment := ofText "ENVIRON" }

inductive Separator where
  | blanks
  | octets
  | mark (b : UInt8)
  | pattern (r : Regex)

namespace Separator

/-- A text in the parts between the matches of a pattern that are not empty. The fuel is more than
the length of the text. -/
def partsBetween (r : Regex) (t : Subject) (start : Nat) : Nat → Nat → List Bytes
  | 0, _ => []
  | fuel + 1, i =>
    match r.search? t i with
    | some m =>
      if m.whole.start = m.whole.stop then
        if m.whole.stop < t.text.size then partsBetween r t start fuel (m.whole.stop + 1)
        else [(t.text.extract start t.text.size).toList]
      else
        (t.text.extract start m.whole.start).toList ::
          partsBetween r t m.whole.stop fuel m.whole.stop
    | none => [(t.text.extract start t.text.size).toList]

def blankParts (bs : Bytes) : List Bytes :=
  let (part, parts) := bs.foldr
    (fun b (part, parts) =>
      if isBlankOctet b then ([], if part = [] then parts else part :: parts)
      else (b :: part, parts))
    (([] : Bytes), ([] : List Bytes))
  if part = [] then parts else part :: parts

def split (s : Separator) (bs : Bytes) : List Bytes :=
  if bs = [] then []
  else
    match s with
    | blanks => blankParts bs
    | octets => bs.map fun b => [b]
    | mark b => bs.splitOn b
    | pattern r => partsBetween r (.ofBytes bs) 0 (bs.length + 2) 0

end Separator

namespace Run

/-- Goes on until there is a result, for at most so many steps as the power of two by the number. -/
def repeated {α β : Type} (step : α → Run (α ⊕ β)) : Nat → α → Run (α ⊕ β)
  | 0, a => step a
  | k + 1, a => do
    match ← repeated step k a with
    | .inl a => repeated step k a
    | .inr b => return .inr b

def stuck {α : Type} : Run α := do
  let stay : Act α := do
    Process.flush
    Process.await none fun _ => false
    fun p => .ended p
  stay

def countRound : Run Unit := do
  let m ← get
  if m.rounds = 0 then stuck else set { m with rounds := m.rounds - 1 }

/-- Does something over and over for as long as it says so. -/
def spin (step : Run Bool) : Run Unit := do
  let go (_ : Unit) : Run (Unit ⊕ Unit) := do
    countRound
    if ← step then return .inl () else return .inr ()
  match ← repeated go 40 () with
  | .inl _ => stuck
  | .inr _ => return

def textOfGlobal (name : Bytes) : Run Bytes := do
  match (← get).globals.get? name with
  | some (.value v) => return v.toText (ofText "%.6g")
  | _ => return []

def numberOfGlobal (name : Bytes) : Run Float := do
  match (← get).globals.get? name with
  | some (.value v) => return v.toNumber
  | _ => return 0

def fatal {α : Type} (text : Bytes) : Run α := do
  let file ← textOfGlobal names.fileName
  let number (name : Bytes) : Run Bytes := return signedDecimal (wholePart (← numberOfGlobal name))
  let place := ofText "\n\tFILENAME=\"" ++ file ++ ofText "\" FNR=" ++
    (← number names.fileRecordCount) ++ ofText " NR=" ++ (← number names.recordCount)
  (Process.die 2 (ofText "run time error: " ++ text ++ place) : Act α)

def textOf (v : Value) : Run Bytes := do
  match v with
  | .number f =>
    if isWhole f then return signedDecimal (wholePart f)
    else return numberBy (← textOfGlobal names.format) f
  | v => return v.toText []

def patternOfText (bs : Bytes) : Run Regex := do
  match (← get).patterns.get? bs with
  | some r => return r
  | none =>
    match readPattern bs with
    | .ok r =>
      modify fun m => { m with patterns := m.patterns.insert bs r }
      return r
    | .error reason =>
      fatal (ofText ("regular expression compile failed (" ++ reason ++ ")\n") ++ bs)

def separatorOf (bs : Bytes) : Run Separator := do
  match bs with
  | [] => return .octets
  | [b] => return if b = Octet.space then .blanks else .mark b
  | bs => return .pattern (← patternOfText bs)

def split : Run Unit := do
  let m ← get
  if !m.isSplit then
    let s ← separatorOf (← textOfGlobal names.fieldMark)
    modify fun m =>
      { m with fields := ((s.split m.record).map Value.given).toArray, isSplit := true }

def join : Run Unit := do
  let m ← get
  if !m.isWhole then
    let joint ← textOfGlobal names.fieldJoint
    let texts ← m.fields.toList.mapM textOf
    modify fun m => { m with record := joint.intercalate texts, isWhole := true }

def setRecord (bs : Bytes) : Run Unit :=
  modify fun m => { m with record := bs, isWhole := true, isSplit := false, fields := #[] }

def fieldNumber (f : Float) : Run Nat := do
  let n := wholePart f
  if n < 0 then fatal (ofText "negative field index $" ++ signedDecimal n)
  else return n.toNat

def field (n : Nat) : Run Value := do
  if n = 0 then
    join
    return .given (← get).record
  else
    split
    return ((← get).fields[n - 1]?).getD .unset

def fieldLimit : Nat := Nat.pow 2 20

def setFieldCount (n : Nat) : Run Unit := do
  split
  modify fun m =>
    let fields := m.fields.extract 0 n
    { m with
      fields := fields ++ Array.replicate (min n fieldLimit - fields.size) (Value.text [])
      isWhole := false }

def setField (n : Nat) (v : Value) : Run Unit := do
  if n = 0 then setRecord (← textOf v)
  else
    split
    if (← get).fields.size < n then setFieldCount n
    modify fun m => { m with fields := m.fields.set! (n - 1) v, isWhole := false }

def slot? (name : Bytes) : Run (Option Slot) := do
  let m ← get
  match m.locals.lookup name with
  | some s => return some s
  | none => return m.globals.get? name

def setSlot (name : Bytes) (s : Slot) : Run Unit :=
  modify fun m =>
    if (m.locals.lookup name).isSome then
      { m with locals := m.locals.map fun l => if l.1 = name then (name, s) else l }
    else { m with globals := m.globals.insert name s }

def valueOf (name : Bytes) : Run Value := do
  if name = names.fieldCount then
    split
    return .ofNat (← get).fields.size
  else
    match ← slot? name with
    | some (.value v) => return v
    | some (.table _) => fatal (ofText "illegal reference to array " ++ name)
    | _ => return .unset

def setVariable (name : Bytes) (v : Value) : Run Unit := do
  if name = names.fieldCount then setFieldCount (← fieldNumber v.toNumber)
  else
    if name = names.fieldMark then split
    match ← slot? name with
    | some (.table _) => fatal (ofText "illegal reference to array " ++ name)
    | _ => setSlot name (.value v)

def freshTable : Run Nat :=
  modifyGet fun m => (m.made, { m with made := m.made + 1 })

def tableNumber (name : Bytes) : Run Nat := do
  match ← slot? name with
  | some (.table n) => return n
  | some (.undecided n) =>
    setSlot name (.table n)
    return n
  | some (.value .unset) =>
    let n ← freshTable
    setSlot name (.table n)
    return n
  | some (.value _) => fatal (ofText "illegal reference to variable " ++ name)
  | none =>
    let n ← freshTable
    setSlot name (.table n)
    return n

def table (n : Nat) : Run Table := return ((← get).tables.get? n).getD .empty

def setTable (n : Nat) (t : Table) : Run Unit :=
  modify fun m => { m with tables := m.tables.insert n t }

/-- Changes a table, whose old content is not kept beside the new one. -/
def updateTable (n : Nat) (f : Table → Table) : Run Unit :=
  modify fun m =>
    let t := (m.tables.get? n).getD .empty
    { m with tables := (m.tables.erase n).insert n (f t) }

def keyOf (v : Value) : Run Key := do
  match v with
  | .number f => if isWhole f then return .number (wholePart f) else return .text (← textOf v)
  | v => return .text (← textOf v)

def inputLines : Lines := { Lines.ofInput with isWhole := true }

def openLines (name : Bytes) : Run (Except SystemError Lines) := do
  if name = [Octet.dash] ∨ name = ofText "/dev/stdin" then return .ok inputLines
  else return (← (Lines.ofPath name : Act (Except SystemError Lines))).map fun l =>
    { l with isWhole := true }

def restOf : Nat → Lines → Act Bytes
  | 0, l => return l.rest
  | fuel + 1, l => do if l.supply ≠ .none then restOf fuel (← l.more) else return l.rest

def nextRecord (l : Lines) : Run (Option Bytes × Lines) := do
  let mark ← textOfGlobal names.recordMark
  match mark with
  | [b] =>
    let (line, l) ← (l.next b : Act (Option Bytes × Lines))
    return (line.map fun line => if line.getLast? = some b then line.dropLast else line, l)
  | mark =>
    let all ← (restOf Lines.readLimit l : Act Bytes)
    if mark = [] then
      let all := all.dropWhile (· = Octet.lineFeed)
      let length := paragraphLength 0 all
      let rest := (all.drop length).dropWhile (· = Octet.lineFeed)
      let found := all.take length
      let found := if found.getLast? = some Octet.lineFeed then found.dropLast else found
      return (if all = [] then none else some found, .ofBytes rest)
    else
      let r ← patternOfText mark
      match all, r.search? (.ofBytes all) 0 with
      | [], _ => return (none, .ofBytes [])
      | all, some m => return (some (all.take m.whole.start), .ofBytes (all.drop m.whole.stop))
      | all, none => return (some all, .ofBytes [])
where
  /-- How long a text is up to an empty line. -/
  paragraphLength (n : Nat) : Bytes → Nat
    | Octet.lineFeed :: Octet.lineFeed :: _ => n
    | _ :: bs => paragraphLength (n + 1) bs
    | [] => n

def assignment? (bs : Bytes) : Option (Bytes × Bytes) :=
  let name := bs.takeWhile (· ≠ Octet.equals)
  let cs := toChars name
  if bs.contains Octet.equals ∧ cs.head?.any isNameStart ∧ cs.all isNamePart then
    let value := toChars (bs.drop (name.length + 1))
    some (name, ofChars (unescaped value.length value))
  else none

def openNext : Nat → Run Bool
  | 0 => return false
  | fuel + 1 => do
    let m ← get
    let count := (wholePart (← numberOfGlobal names.argumentCount)).toNat
    if count ≤ m.argument then
      if m.hasRead ∨ m.isOver then return false
      else
        modify fun m => { m with input := some inputLines, hasRead := true }
        setVariable names.fileName (.text [Octet.dash])
        return true
    else
      set { m with argument := m.argument + 1 }
      let t ← table (← tableNumber names.arguments)
      let arg := (t.get (.number m.argument)).toText []
      if arg = [] then openNext fuel
      else
        match assignment? arg with
        | some (name, value) =>
          setVariable name (.given value)
          openNext fuel
        | none =>
          match ← openLines arg with
          | .ok lines =>
            modify fun m => { m with input := some lines, hasRead := true }
            setVariable names.fileName (.text arg)
            setVariable names.fileRecordCount (.number 0)
            return true
          | .error .isADirectory =>
            (Process.die 2 (ofText "read error (Is a directory)") : Act Bool)
          | .error e =>
            (Process.die 2 (ofText "cannot open \"" ++ arg ++
              ofText ("\" (" ++ e.description ++ ")")) : Act Bool)

def nextInput : Nat → Run (Option Bytes)
  | 0 => return none
  | fuel + 1 => do
    match (← get).input with
    | some lines =>
      let (record, lines) ← nextRecord lines
      match record with
      | some bs =>
        modify fun m => { m with input := some lines }
        for name in [names.recordCount, names.fileRecordCount] do
          let n ← numberOfGlobal name
          setVariable name (.number (n + 1))
        return some bs
      | none =>
        modify fun m => { m with input := none }
        nextInput fuel
    | none =>
      if (← get).isOver then return none
      else if ← openNext (Nat.pow 2 20) then nextInput fuel
      else
        modify fun m => { m with isOver := true }
        return none

def fileLimit : Nat := Nat.pow 2 20

def run (command : Bytes) : List Bytes := [ofText "/bin/sh", ofText "-c", command]

def statusOf (e : Fate) : Nat :=
  match e.killedBy with
  | some signal => 256 + signal
  | none => e.status

def finish (name : Bytes) (w : Writer) : Run Nat := do
  match w with
  | .command pieces =>
    let input := pieces.reverse.flatten
    let child ← (Process.start (run name) fun q =>
      q.feed 0 (.text input) : Act Fate)
    return statusOf child
  | _ => return 0

def finishAll : Run Unit := do
  let writers := (← get).writers
  modify fun m => { m with writers := [] }
  for (name, w) in writers do
    let _ ← finish name w

def emit (target : Option (Redirect × Bytes)) (bs : Bytes) : Run Unit := do
  match target with
  | none => (Process.print bs : Act Unit)
  | some (kind, name) =>
    let m ← get
    let writer ← match m.writers.lookup name with
      | some w => pure w
      | none =>
        if kind = .command then do
          (Process.flush : Act Unit)
          pure (.command [])
        else if name = ofText "/dev/stdout" ∨ name = [Octet.dash] then pure .output
        else if name = ofText "/dev/stderr" then pure .errors
        else
          match ← (Process.openTarget name (kind = .fresh) :
              Act (Except SystemError Stream)) with
          | .ok s => pure (.stream s)
          | .error e =>
            (Process.die 2 (ofText "cannot open \"" ++ name ++
              ofText ("\" for output (" ++ e.description ++ ")")) : Act Writer)
    let keep (w : Writer) : Run Unit := modify fun m =>
      { m with writers := (name, w) :: m.writers.filter fun w => w.1 ≠ name }
    match writer with
    | .output =>
      keep writer
      (Process.print bs : Act Unit)
    | .errors =>
      keep writer
      (Process.writeError bs : Act Unit)
    | .stream s =>
      keep writer
      let _ ← (Process.writeStream s bs : Act (Except SystemError Unit))
    | .command pieces => keep (.command (bs :: pieces))

def close (name : Bytes) : Run Int := do
  let m ← get
  match m.writers.lookup name, m.sources.lookup name with
  | some w, _ =>
    set { m with writers := m.writers.filter fun w => w.1 ≠ name }
    return (← finish name w : Nat)
  | none, some s =>
    set { m with sources := m.sources.filter fun s => s.1 ≠ name }
    return (s.status.getD 0 : Nat)
  | none, none => return -1

def nextOf (origin : Origin) (name : Bytes) : Run (Option (Option Bytes)) := do
  let source : Option Source ← match (← get).sources.lookup name with
    | some s => pure (some s)
    | none =>
      if origin = .command then do
        let (bs, child) ← (Process.capture (run name) : Act (Bytes × Fate))
        pure (some ⟨.ofBytes bs, some (statusOf child)⟩)
      else
        match ← openLines name with
        | .ok lines => pure (some ⟨lines, none⟩)
        | .error .isADirectory =>
          (Process.die 2 (ofText "read error (Is a directory)") : Act (Option Source))
        | .error _ => pure none
  match source with
  | none => return none
  | some s =>
    let (record, lines) ← nextRecord s.lines
    modify fun m =>
      { m with
        sources := (name, { s with lines }) :: m.sources.filter fun s => s.1 ≠ name }
    return some record

end Run

end LspRelay.Rows
