import LspRelay.Host.Text.Layout
import LspRelay.Host.Tool.Options

namespace LspRelay.Tool

open Process

structure JoinLine where
  text : Bytes
  fields : List Bytes
  number : Nat

inductive JoinItem where
  | shared
  | field (isSecond : Bool) (n : Nat)

structure Joining where
  mark : Option UInt8
  ending : UInt8
  firstField : Nat
  secondField : Nat
  folds : Bool
  /-- Whether lines without a partner are printed, of the first file and of the second one. -/
  keepsFirst : Bool
  keepsSecond : Bool
  hidesPairs : Bool
  filler : Option Bytes
  items : Option (List JoinItem)
  /-- Whether the order is checked from the start, and whether it is at all. -/
  checksAll : Bool
  checks : Bool
  names : Bytes × Bytes

namespace Joining

def fieldsOf (mark : Option UInt8) (bs : Bytes) : List Bytes :=
  match mark with
  | some b => bs.splitOn b
  | none =>
    let blank (b : UInt8) : Bool := b = Octet.space || b = Octet.tab
    (bs.map fun b => if blank b then Octet.space else b).splitOn Octet.space |>.filter (· ≠ [])

def key (j : Joining) (isSecond : Bool) (l : JoinLine) : Bytes :=
  let bs := l.fields.getD (if isSecond then j.secondField else j.firstField) []
  if j.folds then lower bs else bs

def joinedLine (j : Joining) (a b : Option JoinLine) : Bytes :=
  let fieldOf (l : Option JoinLine) (n : Nat) : Bytes :=
    match (l.map JoinLine.fields).getD [] |>.getD n [] with
    | [] => j.filler.getD []
    | bs => bs
  let shared : Bytes := match a with
    | some _ => fieldOf a j.firstField
    | none => fieldOf b j.secondField
  let others (l : Option JoinLine) (n : Nat) : List Bytes :=
    ((l.map JoinLine.fields).getD []).eraseIdx n |>.map fun bs =>
      if bs = [] then j.filler.getD [] else bs
  let fields : List Bytes := match j.items with
    | none => shared :: others a j.firstField ++ others b j.secondField
    | some items => items.map fun item =>
      match item with
      | .shared => shared
      | .field isSecond n => fieldOf (if isSecond then b else a) n
  [j.mark.getD Octet.space].intercalate fields ++ [j.ending]

/-- Where joining is: the lines left in each file, whether one without a partner has been seen, and
whose order is known to be wrong. -/
structure Progress where
  first : List JoinLine
  second : List JoinLine
  hasLone : Bool
  isWrong : Bool × Bool

def advance (j : Joining) (isSecond : Bool) (s : Progress) : Act Progress := do
  let lines := if isSecond then s.second else s.first
  let rest := lines.tail
  let moved := if isSecond then { s with second := rest } else { s with first := rest }
  let wasWrong := if isSecond then s.isWrong.2 else s.isWrong.1
  match lines with
  | a :: b :: _ =>
    if j.checks ∧ (j.checksAll ∨ s.hasLone) ∧ !wasWrong ∧ j.key isSecond b < j.key isSecond a then
      let name := if isSecond then j.names.2 else j.names.1
      let text := name ++ ofText (":" ++ toString b.number ++ ": is not sorted: ") ++ b.text
      if j.checksAll then die 1 text
      else
        complain text
        return { moved with
          isWrong := if isSecond then (s.isWrong.1, true) else (true, s.isWrong.2) }
    else return moved
  | _ => return moved

def sameKey (j : Joining) (isSecond : Bool) (k : Bytes) :
    Nat → List JoinLine → Progress → Act (List JoinLine × Progress)
  | 0, seen, s => return (seen.reverse, s)
  | fuel + 1, seen, s => do
    match if isSecond then s.second else s.first with
    | l :: _ =>
      if j.key isSecond l = k then
        sameKey j isSecond k fuel (l :: seen) (← j.advance isSecond s)
      else return (seen.reverse, s)
    | [] => return (seen.reverse, s)

def pairs (j : Joining) : Nat → Progress → Act Progress
  | 0, s => return s
  | fuel + 1, s => do
    match s.first, s.second with
    | a :: _, b :: _ =>
      let k := j.key false a
      let l := j.key true b
      if k < l then
        if j.keepsFirst then print (j.joinedLine (some a) none)
        pairs j fuel { (← j.advance false s) with hasLone := true }
      else if l < k then
        if j.keepsSecond then print (j.joinedLine none (some b))
        pairs j fuel { (← j.advance true s) with hasLone := true }
      else
        let (as, s) ← j.sameKey false k s.first.length [] s
        let (bs, s) ← j.sameKey true k s.second.length [] s
        if !j.hidesPairs then
          for a in as do
            for b in bs do
              print (j.joinedLine (some a) (some b))
        pairs j fuel s
    | _, _ => return s

def leftOver (j : Joining) (isSecond : Bool) : Nat → Progress → Act Progress
  | 0, s => return s
  | fuel + 1, s => do
    match if isSecond then s.second else s.first with
    | [] => return s
    | l :: _ =>
      if isSecond ∧ j.keepsSecond then print (j.joinedLine none (some l))
      if !isSecond ∧ j.keepsFirst then print (j.joinedLine (some l) none)
      leftOver j isSecond fuel (← j.advance isSecond s)

end Joining

def joinItems (bs : Bytes) : Except Bytes (List JoinItem) :=
  let words := (bs.map fun b => if b = octet ',' ∨ b = Octet.tab then Octet.space else b)
    |>.splitOn Octet.space |>.filter (· ≠ [])
  words.mapM fun word =>
    let badFile : Bytes := ofText "invalid file number in field spec: " ++ quoted word
    match word with
    | [Octet.zero] => .ok .shared
    | b :: Octet.point :: digits =>
      if b = octet '1' ∨ b = octet '2' then
        match number? digits with
        | some (n + 1) => .ok (.field (b = octet '2') n)
        | _ => .error (ofText "invalid field number: " ++ quoted digits)
      else .error badFile
    | _ => .error badFile

def join : Command := fun args =>
  let known := [option 'a' "" .value, option 'v' "" .value, option 'e' "" .value,
    option 'i' "ignore-case" .nothing, option 'j' "" .value, option 'o' "" .value,
    option 't' "" .value, option '1' "" .value, option '2' "" .value,
    option 'z' "zero-terminated" .nothing, named 'c' "check-order" .nothing,
    named 'n' "nocheck-order" .nothing, named 'h' "header" .nothing]
  withOptions known 1 args fun c => do
    let fieldOf (key : Char) : Act Nat := do
      match c.value? key with
      | none =>
        match c.value? 'j' with
        | none => return 0
        | some v => number v
      | some v => number v
    let firstField ← fieldOf '1'
    let secondField ← fieldOf '2'
    let kept := c.values 'a' ++ c.values 'v'
    for v in kept do
      if v ≠ ofText "1" ∧ v ≠ ofText "2" then
        die 1 (ofText "invalid field number: " ++ quoted v)
    let mark : Option UInt8 ← match c.value? 't' with
      | none => pure none
      | some [] => pure (some Octet.lineFeed)
      | some [b] => pure (some b)
      | some v =>
        if v = ofText "\\0" then pure (some 0)
        else die 1 (ofText "multi-character tab " ++ quoted v)
    let format := (c.values 'o').flatMap fun v => v ++ [Octet.space]
    let isAutomatic := (c.values 'o').contains (ofText "auto")
    let items ← if format = [] ∨ isAutomatic then pure none else
      match joinItems format with
      | .ok items => pure (some items)
      | .error text => die 1 text
    match c.operands with
    | [] => missingOperand 1
    | [one] => missingAfter 1 one
    | [one, two] =>
      if one = [Octet.dash] ∧ two = [Octet.dash] then
        die 1 (ofText "both files cannot be standard input")
      let ending : UInt8 := if c.has 'z' then 0 else Octet.lineFeed
      let linesOf (file : Bytes) : Act (List JoinLine) := do
        match ← readOperand file with
        | .error e => die 1 (shownName file ++ ofText (": " ++ e.description))
        | .ok bs =>
          return (piecesOf ending bs).zipIdx.map fun (piece, i) =>
            let text := if piece.getLast? = some ending then piece.dropLast else piece
            ⟨text, Joining.fieldsOf mark text, i + 1⟩
      let first ← linesOf one
      let second ← linesOf two
      let items :=
        if isAutomatic then some (automatic firstField secondField first second) else items
      let j : Joining :=
        { mark, ending, firstField, secondField, items
          folds := c.has 'i'
          keepsFirst := kept.contains (ofText "1")
          keepsSecond := kept.contains (ofText "2")
          hidesPairs := c.has 'v'
          filler := c.value? 'e'
          checksAll := c.last? ['c', 'n'] = some 'c'
          checks := c.last? ['c', 'n'] ≠ some 'n'
          names := (one, two) }
      let (first, second) : List JoinLine × List JoinLine ← if c.has 'h' then do
          if !(first.isEmpty && second.isEmpty) then print (j.joinedLine first.head? second.head?)
          pure (first.tail, second.tail)
        else pure (first, second)
      let s ← j.pairs (first.length + second.length) ⟨first, second, false, (false, false)⟩
      let s := { s with hasLone := s.hasLone || !(s.first.isEmpty || s.second.isEmpty) }
      let s ← j.leftOver false s.first.length s
      let s ← j.leftOver true s.second.length s
      if s.isWrong.1 ∨ s.isWrong.2 then die 1 (ofText "input is not in sorted order")
    | _ :: _ :: other :: _ => extraOperand 1 other
where
  number (v : Bytes) : Act Nat := do
    match number? v with
    | some (n + 1) => return n
    | _ => die 1 (ofText "invalid field number: " ++ quoted v)
  /-- As many fields as there are in the first lines. -/
  automatic (firstField secondField : Nat) (first second : List JoinLine) : List JoinItem :=
    let others (isSecond : Bool) (field : Nat) (lines : List JoinLine) : List JoinItem :=
      let count := (lines.head?.map fun l => l.fields.length).getD 0
      ((List.range count).filter (· ≠ field)).map (.field isSecond)
    .shared :: others false firstField first ++ others true secondField second

end LspRelay.Tool
