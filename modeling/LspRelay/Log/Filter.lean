import LspRelay.Log.Pattern
import LspRelay.Log.Record
import LspRelay.Text.Utf8

namespace LspRelay.Log

def variableName : String := "RUST_LOG"

def levelNumber? (cs : List Char) : Option Nat :=
  let digits := if cs.head? = some '+' then cs.tail else cs
  let n := Nat.ofDigitChars 10 digits 0
  if digits ≠ [] ∧ digits.all Char.isDigit ∧ n < Nat.pow 2 64 then some n else none

/-- A level by its name or number, or nothing at all. -/
def level? (cs : List Char) : Option (Option Level) :=
  match levelNumber? cs with
  | some 0 => some none
  | some n => (Level.all[n - 1]?).map some
  | none =>
    let s := String.ofList cs
    if s.toLower = "off" then some none else (Level.ofName? s).map some

/-- A field that a record has, possibly with a pattern for its value. -/
structure FieldTest where
  name : List Char
  pattern : Option (List Char)
  deriving Repr, DecidableEq

namespace FieldTest

/-- A value is a number or a pattern, and a second equals sign ends it. -/
def ofChars? (cs : List Char) : Option FieldTest :=
  let name := cs.takeWhile (· ≠ '=')
  match cs.dropWhile (· ≠ '=') with
  | [] => some ⟨name, none⟩
  | _ :: value =>
    let pattern := value.takeWhile (· ≠ '=')
    if Pattern.isNumber pattern ∨ Pattern.isPattern pattern then some ⟨name, some pattern⟩
    else none

end FieldTest

/-- A directive without a level lets nothing through. The span is a stretch of work that a record
must be in. -/
structure Directive where
  topic : Option (List Char)
  span : Option (List Char)
  field : Option FieldTest
  level : Option Level
  deriving Repr, DecidableEq

namespace Directive

def everything (level : Option Level) : Directive := ⟨none, none, none, level⟩

/-- An octet of a directive without the blanks around it, and the one that is as far from the front
of the directive with its blanks: structure is read from the first, and names from the second. -/
abbrev Cell := UInt8 × UInt8

def isStart (c : Char) : Bool :=
  c = '_' || c = ':' || c = '-' || Text.isLetterOrNumber c

/-- The name up to one of some characters, none of which is part of another one's octets. A name
that is no text is none at all. -/
def label (ends : List Char) (cells : List Cell) : Option (List Char × List Cell) :=
  let isEnd (c : Cell) : Bool := ends.any fun e => e.toNat.toUInt8 = c.1
  (Utf8.decode? ((cells.takeWhile fun c => !isEnd c).map Prod.snd)).map fun name =>
    (name, cells.dropWhile fun c => !isEnd c)

def readLevel (d : Directive) (cells : List Cell) (rest : List UInt8) : Option Directive := do
  let name ← Utf8.decode? (cells.map Prod.snd ++ rest)
  if name = [] then some d else (level? name).map fun level => { d with level }

def readEnd (d : Directive) (cells : List Cell) (rest : List UInt8) : Option Directive :=
  match cells with
  | [] => some d
  | (mark, _) :: cells => if mark = 0x3D then d.readLevel cells rest else none

def readSpan (d : Directive) (cells : List Cell) (rest : List UInt8) : Option Directive := do
  match ← label [']', '\x7b'] cells with
  | (_, []) => none
  | (name, (mark, _) :: cells) =>
    if mark = 0x5D then readEnd { d with span := some name } cells rest
    else
      match ← label ['\x7d'] cells with
      | (field, _ :: (mark, _) :: cells) =>
        if field = [] ∨ mark ≠ 0x5D then none
        else
          let span := if name = [] then none else some name
          readEnd { d with span, field := some (← FieldTest.ofChars? field) } cells rest
      | _ => none

/-- A level, or a topic with a span and a level, each of which may be missing. A topic or span alone
lets everything through. -/
def read (first : Char) (cells : List Cell) (rest : List UInt8) : Option Directive := do
  if first = '[' then (everything (some .trace)).readSpan (cells.drop 1) rest
  else if isStart first then
    match ← label ['=', '['] cells with
    | (_, []) =>
      let name ← Utf8.decode? (cells.map Prod.snd ++ rest)
      match level? name with
      | some level => return everything level
      | none => return { everything (some .trace) with topic := some name }
    | (name, (mark, _) :: cells) =>
      let d := { everything (some .trace) with topic := some name }
      if mark = 0x5B then d.readSpan cells rest else d.readLevel cells rest
  else none

def ofChars? (cs : List Char) : Option Directive := do
  let bare := ((cs.dropWhile Text.isBlank).reverse.dropWhile Text.isBlank).reverse
  let octets := Utf8.encode bare
  let whole := Utf8.encode cs
  read (← bare.head?) (octets.zip whole) (whole.drop octets.length)

/-- No record is in a span, and no value is known in time for a pattern. -/
def isUsable (d : Directive) : Bool :=
  d.span = none && d.field.all fun f => f.pattern = none

def covers (d : Directive) (r : Record) : Bool :=
  d.isUsable && (d.topic.getD []).isPrefixOf r.topic.name.toList &&
    d.field.all fun f => r.names.any fun name => name.toList = f.name

/-- How specific a directive is: the length of its topic, then whether it has a field, then the
field's name. -/
def rank (d : Directive) : List Nat :=
  let topic := match d.topic with
    | some topic => topic.length + 1
    | none => 0
  let field := match d.field with
    | some field => 1 :: field.name.map Char.toNat
    | none => [0]
  topic :: field

end Directive

abbrev Filter := List Directive

namespace Filter

def atLevel (level : Level) : Filter := [.everything (some level)]

/-- A text without directives lets errors through. -/
def ofText? (s : String) : Option Filter :=
  let directives := (s.toList.splitOn ',').filter (· ≠ [])
  if directives = [] then some (atLevel .error) else directives.mapM Directive.ofChars?

/-- The later of two directives that are equally specific counts. -/
def decisive (f : Filter) (r : Record) : Option Directive :=
  (f.filter fun d => d.covers r).foldl
    (fun best d =>
      match best with
      | some b => if d.rank < b.rank then some b else some d
      | none => some d)
    none

def admits (f : Filter) (r : Record) : Bool :=
  match (f.decisive r).bind Directive.level with
  | some level => r.level.rank ≤ level.rank
  | none => false

end Filter

end LspRelay.Log
