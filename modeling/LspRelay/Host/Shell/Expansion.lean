import LspRelay.Host.Shell.Arithmetic
import LspRelay.Host.Shell.BuiltIn

namespace LspRelay.Shell

open Run

inductive Homes where
  | none
  | front
  | colons
  deriving Repr, DecidableEq

/-- What a word is expanded for: whether it may become several fields, whether plain text in it is
split, too, and where it may begin with a home. -/
structure Purpose where
  fields : Bool
  splits : Bool
  homes : Homes

namespace Purpose

def argument : Purpose := ⟨true, false, .front⟩

def text : Purpose := ⟨false, false, .front⟩

def plain : Purpose := ⟨false, false, .none⟩

def assignment : Purpose := ⟨false, false, .colons⟩

end Purpose

/-- Plain text in which homes may begin; the first of its pieces between colons counts only at the
front of a word, and the last one has an end only if nothing follows. -/
def homeParts (m : Machine) (colons : Bool) : Bool → Bool → List Bytes → List Part
  | _, _, [] => []
  | atFront, isLast, bs :: rest =>
    let isWhole := isLast || rest ≠ []
    let now : List Part :=
      match if atFront then
          tilde? m.process.files (m.valueOf? "HOME") colons isWhole bs else none with
      | some (home, bs) => [.text home true, .text bs false]
      | none => [.text bs false]
    if rest = [] then now
    else now ++ .text [octet ':'] false :: homeParts m colons true isLast rest

def plainParts (m : Machine) (p : Purpose) (atFront isLast : Bool) (bs : Bytes) : List Part :=
  let parts : List Part := match p.homes with
    | .none => [.text bs false]
    | .front => homeParts m false atFront isLast [bs]
    | .colons => homeParts m true atFront isLast (bs.splitOn (octet ':'))
  if p.splits then
    parts.map fun part =>
      match part with
      | .text bs false => .value [bs] false
      | part => part
  else parts

def joinedArguments (m : Machine) : Bytes :=
  let separator : Bytes := match (m.bindings.lookup "IFS").bind Variable.value? with
    | some bs => bs.take 1
    | none => [Octet.space]
  separator.intercalate m.arguments

/-- The fields of a parameter's value, if it is set. -/
def fieldsOfParameter (m : Machine) (p : Purpose) (name : String) (quoted : Bool) :
    Option (List Bytes) :=
  if name = "@" ∨ (name = "*" ∧ !quoted) then
    some (if p.fields then m.arguments else [joinedArguments m])
  else if name = "*" then some [joinedArguments m]
  else (m.parameter? name).map fun value => [value]

def valuePart (name : String) (quoted : Bool) (fields : List Bytes) : List Part :=
  match fields with
  | [] => []
  | [bs] => if quoted ∧ name ≠ "@" then [.text bs true] else [.value [bs] quoted]
  | fields => [.value fields quoted]

def fieldMark : UInt8 := 0

def throughFields (f : Bytes → Bytes) (fields : List Bytes) : List Bytes :=
  match fields with
  | [] => []
  | [bs] => [f bs]
  | fields => (f ([fieldMark].intercalate fields)).splitOn fieldMark

def substitutedText (bs : Bytes) : Bytes :=
  ((bs.filter (· ≠ 0)).reverse.dropWhile (· = Octet.lineFeed)).reverse

def checkSet (name : String) (isSet : Bool) : Run Unit := do
  if !isSet && (← get).has 'u' then fail (ofText (name ++ ": parameter not set"))

def evaluateSum (sum : Bytes) : Run Bytes := do
  let m ← get
  let value (name : String) : Except Arithmetic.Error Int :=
    match m.valueOf? name with
    | some bs => Arithmetic.valueOf bs
    | none => if m.has 'u' then .error (.notSet name) else .ok 0
  match Arithmetic.evaluate value sum with
  | .error e => fail (e.message sum)
  | .ok (n, assigned) =>
    for (name, n) in assigned.reverse do assign name (signedDecimal n) false
    return signedDecimal n

/-- The fields of a word's parts, as files if they are patterns. -/
def fieldsIn (ps : List Part) : Run (List Bytes) := do
  let m ← get
  let fields := fieldsOf m.separators ps
  if m.has 'f' then return fields.map Field.bytes
  else return fields.flatMap (pathsOf m.process.files m.process.here)

def takesAssignments (m : Machine) (fields : List Bytes) : Bool :=
  let isPrefix (bs : Bytes) : Bool := bs = ofText "command" || bs = ofText "-p"
  match fields.dropWhile isPrefix with
  | name :: _ =>
    (m.functions.lookup (nameOf name)).isNone &&
      (["alias", "export", "local", "readonly"].any fun b => ofText b = name)
  | [] => false

end LspRelay.Shell
