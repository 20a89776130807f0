import LspRelay.Host.Rows.Machine

namespace LspRelay.Rows

def remainder (a b : Float) : Float :=
  let q := a / b
  let whole := if q < 0 then q.ceil else q.floor
  if q.isNaN ∨ b == 0 then 0.0 / 0.0 else if a.abs < b.abs then a else a - whole * b

def Arithmetic.apply (op : Arithmetic) (a b : Float) : Float :=
  match op with
  | add => a + b
  | subtract => a - b
  | multiply => a * b
  | divide => a / b
  | remainder => Rows.remainder a b
  | power => Float.pow a b

def Comparison.holds (op : Comparison) (o : Ordering × Bool) : Bool :=
  match op with
  | less => o.2 && o.1 = .lt
  | atMost => o.2 && o.1 ≠ .gt
  | same => o.2 && o.1 = .eq
  | different => !(o.2 && o.1 = .eq)
  | atLeast => o.2 && o.1 ≠ .lt
  | more => o.2 && o.1 = .gt

def partOf (bs : Bytes) (start : Float) (length : Option Float) : Bytes :=
  let i := wholePart start
  match length with
  | none => bs.drop (i - 1).toNat
  | some f =>
    let n := wholePart f
    let (i, n) := if i < 0 then (1, n - i) else (max i 1, n)
    (bs.drop (i - 1).toNat).take n.toNat

def positionOf (part : Bytes) (n : Nat) : Bytes → Nat
  | [] => 0
  | b :: bs => if part.isPrefixOf (b :: bs) then n + 1 else positionOf part (n + 1) bs

/-- What comes in place of a match, which an ampersand stands for unless a backslash hides that. -/
def replacement (found : Bytes) : Bytes → Bytes
  | Octet.backslash :: Octet.backslash :: b :: bs =>
    if b = octet '&' then Octet.backslash :: (found ++ replacement found bs)
    else Octet.backslash :: Octet.backslash :: replacement found (b :: bs)
  | Octet.backslash :: b :: bs =>
    if b = octet '&' then b :: replacement found bs
    else Octet.backslash :: replacement found (b :: bs)
  | b :: bs => if b = octet '&' then found ++ replacement found bs else b :: replacement found bs
  | [] => []

/-- A text with replacements from a place on, and how many there are. The fuel is more than its
length. -/
def replaced (r : Regex) (t : Subject) (new : Bytes) (isGlobal : Bool) :
    Nat → Nat → Nat → Option Nat → List Bytes × Nat
  | 0, i, _, _ => ([(t.text.extract i t.text.size).toList], 0)
  | fuel + 1, i, from', last =>
    let rest := (t.text.extract i t.text.size).toList
    if t.text.size < from' then ([rest], 0)
    else
      match r.search? t from' with
      | none => ([rest], 0)
      | some m =>
        let isEmpty := m.whole.start = m.whole.stop
        if isEmpty ∧ last = some m.whole.start then
          replaced r t new isGlobal fuel i (from' + 1) none
        else
          let before := (t.text.extract i m.whole.start).toList
          let found := (t.text.extract m.whole.start m.whole.stop).toList
          let (pieces, n) :=
            if !isGlobal then ([(t.text.extract m.whole.stop t.text.size).toList], 0)
            else
              replaced r t new isGlobal fuel m.whole.stop
                (if isEmpty then m.whole.stop + 1 else m.whole.stop) (some m.whole.stop)
          (before :: replacement found new :: pieces, n + 1)

namespace Run

/-- Does something, and tells how it was left if that was not at its end. -/
def attempt (x : Run Unit) : Run (Option Jump) := do
  try
    x
    return none
  catch j => return some j

def jump {α : Type} (j : Jump) : Run α := throw j

def printText (v : Value) : Run Bytes := do
  match v with
  | .number f =>
    if isWhole f then return signedDecimal (wholePart f)
    else return numberBy (← textOfGlobal names.printFormat) f
  | v => return v.toText []

def format (name : String) (args : List Value) : Run (Bytes × Option Bytes) := do
  match args with
  | [] => return ([], none)
  | v :: args =>
    let format ← textOf v
    let style ← textOfGlobal names.format
    let (pieces, problem) := formatted (Value.toText style) [] 0 (format.length + 1) format args
    let about := ofText (name ++ "(\"") ++ format ++ ofText "\")"
    let text : Option Bytes := problem.map fun p =>
      match p with
      | .missing => ofText "not enough arguments passed to " ++ about
      | .improper n => ofText ("improper conversion(number " ++ toString n ++ ") in ") ++ about
    return (pieces.reverse.flatten, text)

/-- Where a value goes, once it is known which place is meant. -/
inductive Spot where
  | named (name : Bytes)
  | field (n : Nat)
  | element (table : Nat) (key : Key)

def readSpot : Spot → Run Value
  | .named name => valueOf name
  | .field n => field n
  | .element n key => do
    updateTable n (·.use key true)
    return (← table n).get key

def writeSpot (v : Value) : Spot → Run Unit
  | .named name => setVariable name v
  | .field n => setField n v
  | .element n key => updateTable n (·.set key v)

def takeLine (origin : Origin) (spot : Option Spot) (bs : Bytes) : Run Unit := do
  if origin = .command then
    let n ← numberOfGlobal names.recordCount
    setVariable names.recordCount (.number (n + 1))
  match spot with
  | some s => writeSpot (.given bs) s
  | none => setRecord bs

def depthLimit : Nat := 1020

mutual

def eval : Nat → Expr → Run Value
  | 0, _ => jump .exit
  | fuel + 1, e => do
    match e with
    | .number f => return .number f
    | .text bs => return .text bs
    | .pattern r => do
      let bs ← textOf (← field 0)
      return .ofBool (r.isMatch bs)
    | .place p => readSpot (← spot fuel p)
    | .assign p e => do
      let s ← spot fuel p
      let v ← eval fuel e
      writeSpot v s
      return v
    | .change op p e => do
      let s ← spot fuel p
      let b := (← eval fuel e).toNumber
      let v := Value.number (op.apply (← readSpot s).toNumber b)
      writeSpot v s
      return v
    | .step isBefore amount p => do
      let s ← spot fuel p
      let old := (← readSpot s).toNumber
      writeSpot (.number (old + amount)) s
      return .number (if isBefore then old + amount else old)
    | .arithmetic op a b => do
      let x := (← eval fuel a).toNumber
      let y := (← eval fuel b).toNumber
      return .number (op.apply x y)
    | .negative e => do
      let f := (← eval fuel e).toNumber
      return .number (if f == 0 then 0 else -f)
    | .positive e => return .number (← eval fuel e).toNumber
    | .no e => return .ofBool !(← eval fuel e).isTrue
    | .joined a b => do
      let x ← textOf (← eval fuel a)
      let y ← textOf (← eval fuel b)
      return .text (x ++ y)
    | .compare op a b => do
      let x ← eval fuel a
      let y ← eval fuel b
      return .ofBool (op.holds (compareValues (← textOfGlobal names.format) x y))
    | .matched isNegated a b => do
      let bs ← textOf (← eval fuel a)
      let r ← patternOf fuel b
      return .ofBool (r.isMatch bs != isNegated)
    | .member index name => do
      let key ← keyFor fuel index
      return .ofBool ((← table (← tableNumber name)).contains key)
    | .both a b => do
      if (← eval fuel a).isTrue then return .ofBool (← eval fuel b).isTrue
      else return .ofBool false
    | .either a b => do
      if (← eval fuel a).isTrue then return .ofBool true
      else return .ofBool (← eval fuel b).isTrue
    | .choice c a b => do
      if (← eval fuel c).isTrue then eval fuel a else eval fuel b
    | .call name args => call fuel name args
    | .builtIn f args => builtIn fuel f args
    | .line origin source target => do
      let name ← match source with
        | some e => do textOf (← eval fuel e)
        | none => pure []
      let record : Option (Option Bytes) ← match origin with
        | .input => pure (some (← nextInput fileLimit))
        | origin => nextOf origin name
      match record with
      | none => return .number (-1)
      | some none => return .number 0
      | some (some bs) =>
        let s ← match target with
          | some p => pure (some (← spot fuel p))
          | none => pure none
        takeLine origin s bs
        return .number 1

def spot : Nat → Place → Run Spot
  | 0, _ => jump .exit
  | fuel + 1, p => do
    match p with
    | .named name => return .named name
    | .field e => return .field (← fieldNumber (← eval fuel e).toNumber)
    | .element name index =>
      let key ← keyFor fuel index
      return .element (← tableNumber name) key

def keyFor : Nat → List Expr → Run Key
  | 0, _ => jump .exit
  | fuel + 1, index => do
    match index with
    | [e] => keyOf (← eval fuel e)
    | index =>
      let texts ← index.mapM fun e => do textOf (← eval fuel e)
      return .text ((← textOfGlobal names.indexJoint).intercalate texts)

def patternOf : Nat → Expr → Run Regex
  | 0, _ => jump .exit
  | fuel + 1, e => do
    match e with
    | .pattern r => return r
    | e => patternOfText (← textOf (← eval fuel e))

/-- What an argument is to a function: a table if it is one or may become one. -/
def argument : Nat → Expr → Run Slot
  | 0, _ => jump .exit
  | fuel + 1, e => do
    match e with
    | .place (.named name) =>
      if name = names.fieldCount then return .value (← valueOf name)
      else
        match ← slot? name with
        | some (.value .unset) => undecided name
        | some s => return s
        | none => undecided name
    | e => return .value (← eval fuel e)
where
  undecided (name : Bytes) : Run Slot := do
    let s := Slot.undecided (← freshTable)
    setSlot name s
    return s

def call : Nat → Bytes → List Expr → Run Value
  | 0, _, _ => jump .exit
  | fuel + 1, name, args => do
    match (← get).functions.get? name with
    | none => return .unset
    | some f =>
      let given ← args.mapM (argument fuel)
      let missing ← (f.parameters.drop given.length).mapM fun _ =>
        return Slot.undecided (← freshTable)
      let m ← get
      if depthLimit ≤ m.depth then
        (Process.die 2 (ofText "program limit exceeded: eval stack size=1024") : Act Unit)
      let locals := f.parameters.zip (given ++ missing)
      set { m with locals, depth := m.depth + f.parameters.length + 1 }
      let left ← attempt (exec fuel f.body)
      modify fun m' => { m' with locals := m.locals, depth := m.depth }
      match left with
      | none => return .unset
      | some (.giveBack v) => return v
      | some j => jump j

def builtIn : Nat → BuiltIn → List Expr → Run Value
  | 0, _, _ => jump .exit
  | fuel + 1, f, args => do
    let value (i : Nat) : Run Value := do
      match args[i]? with
      | some e => eval fuel e
      | none => return .unset
    let text (i : Nat) : Run Bytes := do textOf (← value i)
    let numeric (g : Float → Float) : Run Value := do return .number (g (← value 0).toNumber)
    match f with
    | .length =>
      match args with
      | [.place (.named name)] => do
        match ← slot? name with
        | some (.table n) => return .ofNat (← table n).size
        | some (.undecided n) => return .ofNat (← table n).size
        | _ => return .ofNat (← textOf (← valueOf name)).length
      | [] => return .ofNat (← textOf (← field 0)).length
      | _ => return .ofNat (← text 0).length
    | .part => do
      let bs ← text 0
      let start := (← value 1).toNumber
      let length ← if args.length < 3 then pure none else pure (some (← value 2).toNumber)
      return .text (partOf bs start length)
    | .position => do
      let bs ← text 0
      let part ← text 1
      return .ofNat (positionOf part 0 bs)
    | .split => do
      let bs ← text 0
      let s : Separator ← match (args[2]? : Option Expr) with
        | none => do separatorOf (← textOfGlobal names.fieldMark)
        | some (.pattern r) => pure (Separator.pattern r)
        | some e => do separatorOf (← textOf (← eval fuel e))
      match (args[1]? : Option Expr) with
      | some (.place (.named name)) =>
        let parts := s.split bs
        setTable (← tableNumber name) (.ofParts (parts.map .given))
        return .ofNat parts.length
      | _ => return .number 0
    | .replaceFirst => replace fuel false args
    | .replaceAll => replace fuel true args
    | .find => do
      let bs ← text 0
      let r ← match args[1]? with
        | some e => patternOf fuel e
        | none => pure .empty
      let (start, length) : Float × Float := match r.search? (.ofBytes bs) 0 with
        | some m => (Float.ofNat (m.whole.start + 1), Float.ofNat (m.whole.stop - m.whole.start))
        | none => (0, -1)
      setVariable names.start (.number start)
      setVariable names.length (.number length)
      return .number start
    | .format => do
      let (bs, problem) ← format "sprintf" (← args.mapM (eval fuel))
      match problem with
      | some p => fatal p
      | none => return .text bs
    | .sine => numeric Float.sin
    | .cosine => numeric Float.cos
    | .angle => return .number (Float.atan2 (← value 0).toNumber (← value 1).toNumber)
    | .exponential => numeric Float.exp
    | .logarithm => numeric Float.log
    | .root => numeric Float.sqrt
    | .whole => numeric fun f => if f < 0 then f.ceil else f.floor
    | .random => return .number 0.5
    | .seed => do
      let old := (← get).seed
      let new ← value 0
      modify fun m => { m with seed := new }
      return old
    | .lower => return .text (lower (← text 0))
    | .upper => return .text (upper (← text 0))
    | .run => do
      let command ← text 0
      let child ← (Process.callAs (run command) id : Act Fate)
      return .ofNat (statusOf child)
    | .close => do
      let n ← close (← text 0)
      return .number (if n < 0 then -1 else Float.ofNat n.toNat)
    | .flush => do
      let name ← text 0
      (Process.flush : Act Unit)
      let isKnown := name = [] || ((← get).writers.lookup name).isSome
      return .number (if isKnown then 0 else -1)
    | .time => return .number 0
    | .dateText => return .text []
    | .dateTime => return .number 0

def replace : Nat → Bool → List Expr → Run Value
  | 0, _, _ => jump .exit
  | fuel + 1, isGlobal, args => do
    match args with
    | pattern :: new :: rest =>
      let r ← patternOf fuel pattern
      let new ← textOf (← eval fuel new)
      let s : Option Spot ← match rest with
        | [.place p] => pure (some (← spot fuel p))
        | [] => pure (some (.field 0))
        | _ => pure none
      let old ← match s with
        | some s => do textOf (← readSpot s)
        | none => pure []
      let (pieces, n) := replaced r (.ofBytes old) new isGlobal (old.length + 3) 0 0 none
      match s with
      | some s => if n ≠ 0 then writeSpot (.text pieces.flatten) s
      | none => pure ()
      return .ofNat n
    | _ => return .number 0

def destination : Nat → Option (Redirect × Expr) → Run (Option (Redirect × Bytes))
  | 0, _ => jump .exit
  | fuel + 1, target => do
    match target with
    | none => return none
    | some (kind, e) => return some (kind, ← textOf (← eval fuel e))

def exec : Nat → Stmt → Run Unit
  | 0, _ => jump .exit
  | fuel + 1, s => do
    match s with
    | .expr e =>
      let _ ← eval fuel e
    | .print args target => do
      let values ← if args.isEmpty then pure [← field 0] else args.mapM (eval fuel)
      let texts ← values.mapM printText
      let target ← destination fuel target
      let joint ← textOfGlobal names.fieldJoint
      emit target (joint.intercalate texts ++ (← textOfGlobal names.recordEnd))
    | .printf args target => do
      let values ← args.mapM (eval fuel)
      let target ← destination fuel target
      let (bs, problem) ← format "printf" values
      emit target bs
      match problem with
      | some p => fatal p
      | none => pure ()
    | .branch c a b => do
      if (← eval fuel c).isTrue then exec fuel a
      else
        match b with
        | some b => exec fuel b
        | none => pure ()
    | .loop c body =>
      spin do
        if (← eval fuel c).isTrue then goesOn fuel body else return false
    | .loopAfter body c =>
      spin do
        if ← goesOn fuel body then return (← eval fuel c).isTrue else return false
    | .count start c step body => do
      match start with
      | some s => exec fuel s
      | none => pure ()
      spin do
        let isMeant ← match c with
          | some c => pure (← eval fuel c).isTrue
          | none => pure true
        if isMeant then
          if ← goesOn fuel body then
            match step with
            | some s => exec fuel s
            | none => pure ()
            return true
          else return false
        else return false
    | .each name of body => do
      let keys := (← table (← tableNumber of)).keys
      let step (keys : List Bytes) : Run (List Bytes ⊕ Unit) := do
        match keys with
        | [] => return .inr ()
        | key :: keys =>
          setVariable name (.text key)
          if ← goesOn fuel body then return .inl keys else return .inr ()
      let _ ← repeated step 40 keys
    | .block list => list.forM (exec fuel)
    | .next => jump .next
    | .nextFile => jump .nextFile
    | .exit e => do
      match e with
      | some e =>
        let n := wholePart (← eval fuel e).toNumber
        modify fun m => { m with status := (n % 256).toNat }
      | none => pure ()
      jump .exit
    | .giveBack e => do
      match e with
      | some e => jump (.giveBack (← eval fuel e))
      | none => jump (.giveBack .unset)
    | .leave => jump .leave
    | .again => jump .again
    | .delete name index => do
      let n ← tableNumber name
      match index with
      | none => setTable n .empty
      | some index =>
        let key ← keyFor fuel index
        updateTable n (·.erase key)

def goesOn : Nat → Stmt → Run Bool
  | 0, _ => jump .exit
  | fuel + 1, body => do
    match ← attempt (exec fuel body) with
    | none => return true
    | some .again => return true
    | some .leave => return false
    | some j => jump j

end

def stepLimit : Nat := Nat.pow 2 16

def selects (i : Nat) (p : Pattern) : Run Bool := do
  match p with
  | .always => return true
  | .single e => return (← eval stepLimit e).isTrue
  | .range a b =>
    let isIn ← if (← get).begun.contains i then pure true
      else pure (← eval stepLimit a).isTrue
    if isIn then
      let ends := (← eval stepLimit b).isTrue
      modify fun m =>
        let others := m.begun.filter (· ≠ i)
        { m with begun := if ends then others else i :: others }
    return isIn

def nextRecordDone (rules : List Rule) : Run Bool := do
  match ← nextInput fileLimit with
  | none => return false
  | some bs =>
    setRecord bs
    match ← attempt (rules.zipIdx.forM fun (rule, i) => do
        if ← selects i rule.pattern then exec stepLimit rule.action) with
    | some .nextFile => modify fun m => { m with input := none }
    | some .exit => jump .exit
    | _ => pure ()
    return true

def records (rules : List Rule) : Run Unit := do
  let step (_ : Unit) : Run (Unit ⊕ Unit) := do
    if ← nextRecordDone rules then return .inl () else return .inr ()
  let _ ← repeated step 40 ()

def script (s : Script) : Run Unit := do
  let _ ← attempt do
    match ← attempt (s.starts.forM (exec stepLimit)) with
    | some .exit => pure ()
    | _ =>
      if !s.rules.isEmpty ∨ !s.ends.isEmpty then
        let _ ← attempt (records s.rules)
    s.ends.forM (exec stepLimit)
  finishAll

end Run

def Machine.initial (s : Script) (args : List Bytes) (environment : List (Bytes × Bytes)) :
    Machine :=
  let texts : List (Bytes × String) :=
    [(names.fieldMark, " "), (names.recordMark, "\n"), (names.fieldJoint, " "),
     (names.recordEnd, "\n"), (names.indexJoint, "\x1c"), (names.format, "%.6g"),
     (names.printFormat, "%.6g"), (names.fileName, "")]
  let numbers : List (Bytes × Float) :=
    [(names.recordCount, 0), (names.fileRecordCount, 0), (names.start, 0), (names.length, -1),
     (names.argumentCount, Float.ofNat args.length)]
  let slots : List (Bytes × Slot) :=
    texts.map (fun t => (t.1, .value (.text (ofText t.2)))) ++
      numbers.map fun f => (f.1, .value (.number f.2))
  let globals : Std.HashMap Bytes Slot := Std.HashMap.ofList slots
  let globals := (globals.insert names.arguments (.table 0)).insert names.environment (.table 1)
  let arguments := args.zipIdx.foldl
    (fun (t : Table) (arg, i) => t.set (.number i) (.given arg)) .empty
  let bindings := environment.reverse.foldl
    (fun (t : Table) (name, value) => t.set (.text name) (.given value)) .empty
  { functions := s.functions.foldl (fun m f => m.insert f.name f) {}
    globals
    locals := []
    tables := Std.HashMap.ofList [(0, arguments), (1, bindings)]
    made := 2
    record := []
    isWhole := true
    fields := #[]
    isSplit := true
    begun := []
    patterns := {}
    input := none
    argument := 1
    hasRead := false
    isOver := false
    sources := []
    writers := []
    status := 0
    seed := .number 0
    rounds := Nat.pow 2 20
    depth := 0 }

structure Chosen where
  fieldMark : Option Bytes
  assignments : List (Bytes × Bytes)
  files : List Bytes
  rest : List Bytes

inductive Refused where
  | unknown (arg : Bytes)
  | lacking (arg : Bytes)
  | noAssignment (value : Bytes)
  | badMark (reason : String) (value : Bytes)

def Refused.message : Refused → Bytes
  | unknown arg => ofText "not an option: " ++ arg
  | lacking arg => ofText "option " ++ arg ++ ofText " lacks argument"
  | noAssignment value => ofText "improper assignment: -v " ++ value
  | badMark reason value => Problem.message (.badPattern reason value) 0

def Chosen.take (c : Chosen) (b : UInt8) (value : Bytes) : Except Refused Chosen := do
  if b = octet 'F' then
    let cs := toChars value
    let mark := ofChars (unescaped cs.length cs)
    if 1 < mark.length then
      match readPattern mark with
      | .error reason => throw (.badMark reason mark)
      | .ok _ => pure ()
    return { c with fieldMark := some mark }
  else if b = octet 'f' then return { c with files := c.files ++ [value] }
  else if b = octet 'v' then
    match Run.assignment? value with
    | some a => return { c with assignments := c.assignments ++ [a] }
    | none => throw (.noAssignment value)
  else return c

def Chosen.read (c : Chosen) : List Bytes → Except Refused Chosen
  | [] => .ok c
  | [Octet.dash, Octet.dash] :: args => .ok { c with rest := args }
  | (Octet.dash :: b :: bs) :: args =>
    if (ofText "FfvW").contains b then
      match bs, args with
      | [], [] => .error (.lacking [Octet.dash, b])
      | [], value :: args => do (← c.take b value).read args
      | bs, args => do (← c.take b bs).read args
    else .error (.unknown (Octet.dash :: b :: bs))
  | args => .ok { c with rest := args }

end LspRelay.Rows

namespace LspRelay.Tool

open Process

def awk : Command := fun args => do
  match Rows.Chosen.read ⟨none, [], [], []⟩ args with
  | .error e => die 2 e.message
  | .ok c =>
    let texts ← c.files.mapM fun file => do
      match ← readOperand file with
      | .ok bs => return bs
      | .error e =>
        die 2 (ofText "cannot open \"" ++ file ++ ofText ("\" (" ++ e.description ++ ")"))
    let (text, operands) ← match c.files, c.rest with
      | [], [] => do
        print (ofText "Usage: mawk [Options] [Program] [file ...]\n")
        exit 0
      | [], program :: rest => pure (program, rest)
      | _, rest => pure ([Octet.lineFeed].intercalate texts, rest)
    match Rows.Script.read text with
    | .error (p, line) =>
      let place : Bytes := (c.files.getLast?.map fun f => f ++ ofText ": ").getD []
      die 2 (place ++ p.message line)
    | .ok script =>
      let p ← get
      let name := p.label
      let machine := Rows.Machine.initial script (name :: operands) p.bindings
      let prepare : Rows.Run Unit := do
        match c.fieldMark with
        | some mark => Rows.Run.setVariable Rows.names.fieldMark (.text mark)
        | none => pure ()
        for (name, value) in c.assignments do Rows.Run.setVariable name (.given value)
        Rows.Run.script script
      let (_, machine) ← StateT.run (ExceptT.run prepare) machine
      setStatus machine.status

end LspRelay.Tool
