import LspRelay.Host.Tool.Options

namespace LspRelay.Tool

open Process

namespace Order

/-- Something that comes before others: how many still come before it, those that come after it, the
last known first, and where a search for a circle has come from. -/
structure Item where
  name : Bytes
  count : Nat
  after : List Nat
  from' : Option Nat
  isDone : Bool

def itemAt (items : Array Item) (i : Nat) : Item := items.getD i ⟨[], 0, [], none, true⟩

def change (items : Array Item) (i : Nat) (f : Item → Item) : Array Item :=
  items.setIfInBounds i (f (itemAt items i))

def ofPairs (pairs : List (Bytes × Bytes)) : Array Item :=
  let names := (pairs.flatMap fun (a, b) => [a, b]).mergeSort (· ≤ ·)
  let names := names.foldr
    (fun name all => if all.head? = some name then all else name :: all) []
  let items : Array Item := (names.map fun name => ⟨name, 0, [], none, false⟩).toArray
  let place (name : Bytes) : Nat := (names.findIdx? (· = name)).getD 0
  pairs.foldl
    (fun items (a, b) =>
      if a = b then items
      else
        let items := change items (place b) fun item => { item with count := item.count + 1 }
        change items (place a) fun item => { item with after := place b :: item.after })
    items

def freed : Nat → Array Item → List Nat → List Nat × Array Item
  | 0, items, _ => ([], items)
  | _ + 1, items, [] => ([], items)
  | fuel + 1, items, i :: waiting =>
    let item := itemAt items i
    let items := change items i fun item => { item with isDone := true, after := [] }
    let (items, free) := item.after.foldl
      (fun (items, free) j =>
        let items := change items j fun item => { item with count := item.count - 1 }
        (items, if (itemAt items j).count = 0 then j :: free else free))
      (items, ([] : List Nat))
    let (rest, items) := freed fuel items (waiting ++ free.reverse)
    (i :: rest, items)

/-- What a search for a circle knows: the items, where it is, and the circle once there is one. -/
structure Looking where
  items : Array Item
  place : Option Nat
  circle : Option (List Nat)

def wayBack (items : Array Item) (target : Nat) : Nat → Option Nat → List Nat
  | 0, _ => []
  | _ + 1, none => []
  | fuel + 1, some i =>
    if i = target then [i] else i :: wayBack items target fuel (itemAt items i).from'

def look (s : Looking) (k : Nat) : Looking :=
  let item := itemAt s.items k
  if s.circle.isSome || item.isDone || item.count = 0 then s
  else
    match s.place with
    | none => { s with place := some k }
    | some target =>
      if !item.after.contains target then s
      else if item.from'.isSome then
        let way := wayBack s.items k (s.items.size + 1) (some target)
        let cut := change s.items target fun item => { item with count := item.count - 1 }
        let cut := change cut k fun item => { item with after := item.after.erase target }
        { items := cut.map fun item => { item with from' := none }
          place := none
          circle := some way }
      else
        { s with
          items := change s.items k fun item => { item with from' := some target }
          place := some k }

/-- Searches all items again and again until there is a circle. The fuel is more than their number.
-/
def circle : Nat → Looking → Looking
  | 0, s => s
  | fuel + 1, s =>
    let s := (List.range s.items.size).foldl look s
    if s.circle.isSome then s else circle fuel s

def all (file : Bytes) : Nat → Array Item → Act Unit
  | 0, _ => return
  | fuel + 1, items => do
    let free := (List.range items.size).filter fun i =>
      (itemAt items i).count = 0 && !(itemAt items i).isDone
    let (order, items) := freed (items.size + 1) items free
    for i in order do printLine (itemAt items i).name
    if items.any fun item => !item.isDone then
      flush
      fail 1 (file ++ ofText ": input contains a loop:")
      let s := circle (items.size + 1) ⟨items, none, none⟩
      match s.circle with
      | some way =>
        for i in way do complain (itemAt s.items i).name
        all file fuel s.items
      | none => return

/-- Neighbours as pairs, or nothing if one is alone. -/
def pairsOf : List Bytes → Option (List (Bytes × Bytes))
  | [] => some []
  | [_] => none
  | a :: b :: rest => (pairsOf rest).map ((a, b) :: ·)

end Order

def tsort : Command := fun args =>
  withOptions [] 1 args fun c => do
    match c.operandsOrInput with
    | [file] =>
      match ← readOperand file with
      | .error e => failOn 1 file e
      | .ok bs =>
        let words := (bs.map fun b => if isBlankOctet b then Octet.space else b)
          |>.splitOn Octet.space |>.filter (· ≠ [])
        match Order.pairsOf words with
        | some pairs => Order.all (shownName file) (pairs.length + 2) (Order.ofPairs pairs)
        | none => fail 1 (shownName file ++ ofText ": input contains an odd number of tokens")
    | operands => extraOperand 1 (operands.getD 1 [])

def shuf : Command := fun args =>
  let known := [option 'e' "echo" .nothing, option 'i' "input-range" .value,
    option 'n' "head-count" .value, option 'o' "output" .value, named 's' "random-source" .value,
    option 'r' "repeat" .nothing, option 'z' "zero-terminated" .nothing]
  withOptions known 1 args fun c => do
    let mark : UInt8 := if c.has 'z' then 0 else Octet.lineFeed
    let range ← match c.value? 'i' with
      | none => pure none
      | some v =>
        match (v.splitOn Octet.dash).map number? with
        | [some low, some high] =>
          if low ≤ high + 1 then pure (some (low, high))
          else die 1 (ofText "invalid input range: " ++ quoted v)
        | _ => die 1 (ofText "invalid input range: " ++ quoted v)
    let most ← match c.value? 'n' with
      | none => pure none
      | some v =>
        match number? v with
        | some n => pure (some n)
        | none => die 1 (ofText "invalid line count: " ++ quoted v)
    if c.has 'e' ∧ range.isSome then misuse 1 (ofText "cannot combine -e and -i options")
    else
      let shown (lines : List Bytes) : Act Unit := do
        let chosen ← if c.has 'r' then
            if lines = [] ∧ most ≠ some 0 then die 1 (ofText "no lines to repeat")
            else
              pure ((List.range (most.getD (Nat.pow 2 16))).map fun i =>
                lines.getD (i % lines.length) [])
          else pure (lines.take (most.getD lines.length))
        let text := chosen.flatMap fun line => line ++ [mark]
        match c.value? 'o' with
        | none => print text
        | some file =>
          match ← writeFile file text true with
          | .ok () => pure ()
          | .error e => failOn 1 file e
      match range, c.has 'e', c.operandsOrInput with
      | some (low, high), _, _ =>
        match c.operands with
        | [] => shown ((List.range (high + 1 - low)).map fun i => decimal (low + i))
        | operand :: _ => extraOperand 1 operand
      | none, true, _ => shown c.operands
      | none, false, [file] =>
        match ← readOperand file with
        | .error e => failOn 1 file e
        | .ok bs =>
          shown ((piecesOf mark bs).map fun piece =>
            if piece.getLast? = some mark then piece.dropLast else piece)
      | none, false, operands => extraOperand 1 (operands.getD 1 [])

end LspRelay.Tool
