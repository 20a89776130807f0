import LspRelay.Host.Tool.Amounts
import LspRelay.Host.Tool.Show

namespace LspRelay.Tool

open Process

structure Stretch where
  first : Nat
  last : Option Nat

namespace Stretch

def contains (s : Stretch) (n : Nat) : Bool := s.first ≤ n && s.last.all (n ≤ ·)

def ofBytes? (what : String) (bs : Bytes) : Except Bytes Stretch :=
  let number (bs : Bytes) : Except Bytes Nat :=
    match number? bs with
    | some 0 => .error (ofText (what ++ " are numbered from 1"))
    | some n => .ok n
    | none =>
      .error (ofText ("invalid " ++ (if what = "fields" then "field" else "byte or character") ++
        (if what = "fields" then " value " else " position ")) ++ quoted bs)
  match bs.splitOn Octet.dash with
  | [a] => do
    let n ← number a
    return ⟨n, some n⟩
  | [a, b] => do
    if a = [] ∧ b = [] then throw (ofText "invalid range with no endpoint: -")
    let first ← if a = [] then pure 1 else number a
    let last ← if b = [] then pure none else some <$> number b
    if last.any (· < first) then throw (ofText "invalid decreasing range")
    return ⟨first, last⟩
  | _ => throw (ofText (if what = "fields" then "invalid field range" else
      "invalid byte or character range"))

end Stretch

def readStretches (what : String) (bs : Bytes) : Except Bytes (List Stretch) :=
  let isMark (b : UInt8) : Bool := b = octet ',' || b = Octet.space || b = Octet.tab
  (bs.splitOnP isMark).mapM (Stretch.ofBytes? what)

def mergedSpans (spans : List Stretch) : List Stretch :=
  let sorted := spans.mergeSort fun a b => a.first ≤ b.first
  let merged := sorted.foldl
    (fun (merged : List Stretch) s =>
      match merged with
      | t :: rest =>
        if t.last.all fun last => s.first ≤ last then
          let last := match t.last, s.last with
            | some a, some b => some (max a b)
            | _, _ => none
          ⟨t.first, last⟩ :: rest
        else s :: merged
      | [] => [s])
    []
  merged.reverse

def gapsBetween (first : Nat) : List Stretch → List Stretch
  | [] => [⟨first, none⟩]
  | s :: rest =>
    let gap : List Stretch := if first < s.first then [⟨first, some (s.first - 1)⟩] else []
    gap ++ (match s.last with
      | some last => gapsBetween (last + 1) rest
      | none => [])

def cut : Command := fun args =>
  let known := [option 'b' "bytes" .value, option 'c' "characters" .value,
    option 'd' "delimiter" .value, option 'f' "fields" .value,
    option 's' "only-delimited" .nothing, named 'i' "complement" .nothing,
    named 'o' "output-delimiter" .value, option 'z' "zero-terminated" .nothing] ++
    letters "n" .nothing
  withOptions known 1 args fun c => do
    let kinds := c.options.filter fun o => o.1 = 'b' || o.1 = 'c' || o.1 = 'f'
    if 1 < kinds.length then
      misuse 1 (ofText "only one list may be specified")
      exit 1
    match kinds with
    | [] => misuse 1 (ofText "you must specify a list of bytes, characters, or fields")
    | (kind, list) :: _ =>
      let byField := kind = 'f'
      if (c.value? 'd').any fun d => 1 < d.length then
        misuse 1 (ofText "the delimiter must be a single character")
        exit 1
      if c.has 'd' ∧ !byField then
        misuse 1 (ofText "an input delimiter may be specified only when operating on fields")
        exit 1
      if c.has 's' ∧ !byField then
        misuse 1 (ofText ("suppressing non-delimited lines makes sense\n" ++
          "\tonly when operating on fields"))
        exit 1
      match readStretches (if byField then "fields" else "byte/character positions") list with
      | .error e => misuse 1 e
      | .ok spans =>
        let spans := mergedSpans spans
        let spans := if c.has 'i' then gapsBetween 1 spans else spans
        let isIn (n : Nat) : Bool := spans.any fun s => s.contains n
        let mark : UInt8 := if c.has 'z' then 0 else Octet.lineFeed
        let delimiter := ((c.value? 'd').getD [Octet.tab]).headD 0
        let change (line : Bytes) : Option Bytes :=
          if byField then
            let fields := line.splitOn delimiter
            match fields with
            | [_] => if c.has 's' then none else some line
            | _ =>
              let kept := (fields.zipIdx.filter fun (_, i) => isIn (i + 1)).map Prod.fst
              some (((c.value? 'o').getD [delimiter]).intercalate kept)
          else
            let parts := spans.filterMap fun s =>
              let part := (line.drop (s.first - 1)).take ((s.last.getD line.length) + 1 - s.first)
              if part = [] then none else some part
            some (((c.value? 'o').getD []).intercalate parts)
        eachOperand 1 c fun _ bs =>
          for line in piecesOf mark bs do
            let text := if line.getLast? = some mark then line.dropLast else line
            match change text with
            | some text => print (text ++ [mark])
            | none => pure ()
def delimitersOf : Nat → Bytes → List Bytes
  | 0, _ => []
  | _ + 1, [] => []
  | fuel + 1, b :: bs =>
    if b ≠ Octet.backslash then [b] :: delimitersOf fuel bs
    else
      match bs with
      | [] => [[b]]
      | c :: rest =>
        let e : Bytes := match (Char.ofNat c.toNat) with
          | '0' => []
          | 'b' => [8]
          | 'f' => [12]
          | 'n' => [10]
          | 'r' => [13]
          | 't' => [9]
          | 'v' => [11]
          | _ => [c]
        e :: delimitersOf fuel rest

def pasted (delimiters : List Bytes) (texts : List Bytes) : Bytes :=
  (texts.zipIdx.map fun (text, i) =>
    if i = 0 then text
    else delimiters.getD ((i - 1) % max delimiters.length 1) [] ++ text).flatten

def paste : Command := fun args =>
  let known := [option 'd' "delimiters" .value, option 's' "serial" .nothing,
    option 'z' "zero-terminated" .nothing]
  withOptions known 1 args fun c => do
    let mark : UInt8 := if c.has 'z' then 0 else Octet.lineFeed
    let text := (c.value? 'd').getD [Octet.tab]
    let delimiters := if text = [] then [[]] else delimitersOf (text.length + 1) text
    let mut columns : List (List Bytes) := []
    for file in c.operandsOrInput do
      match ← readOperand file with
      | .error e =>
        failOn 1 file e
        if !c.has 's' then exit 1
      | .ok bs =>
        let lines := (piecesOf mark bs).map fun line =>
          if line.getLast? = some mark then line.dropLast else line
        columns := columns ++ [lines]
    if c.has 's' then
      for lines in columns do print (pasted delimiters lines ++ [mark])
    else
      let inputs := c.operandsOrInput.zip columns
      let shared := (inputs.filter fun i => i.1 = [Octet.dash]).length
      let height := inputs.foldl
        (fun n (file, lines) =>
          let own := if file = [Octet.dash] then (lines.length + shared - 1) / max shared 1
            else lines.length
          max n own) 0
      let all : List Bytes := ((inputs.filter fun i => i.1 = [Octet.dash]).map Prod.snd).flatten
      for row in List.range height do
        let texts := inputs.zipIdx.map fun ((file, lines), i) =>
          if file = [Octet.dash] then
            let before := ((inputs.take i).filter fun i => i.1 = [Octet.dash]).length
            all.getD (row * shared + before) []
          else lines.getD row []
        print (pasted delimiters texts ++ [mark])

def columnAfter (octets : Bool) (column : Nat) (b : UInt8) : Nat :=
  if octets then column + 1
  else if b = 8 then column - 1
  else if b = 13 then 0
  else if b = Octet.tab then column + 8 - column % 8
  else column + 1

/-- Breaks a line that is too long, after a blank if that is asked for. The state is what has been
read of the present piece, the last octet first, and its width. -/
def foldLine (octets atBlanks : Bool) (width : Nat) : Nat → Bytes → Nat → Bytes → List Bytes
  | 0, now, _, _ => [now.reverse]
  | _ + 1, now, _, [] => if now = [] then [] else [now.reverse]
  | fuel + 1, now, column, b :: bs =>
    let next := columnAfter octets column b
    if next ≤ width then foldLine octets atBlanks width fuel (b :: now) next bs
    else
      let isBlank (b : UInt8) : Bool := b = Octet.space || b = Octet.tab
      let after := now.takeWhile (!isBlank ·)
      if atBlanks ∧ after.length < now.length then
        let kept := (now.drop after.length).reverse
        kept :: foldLine octets atBlanks width fuel [] 0 (after.reverse ++ b :: bs)
      else if now = [] then foldLine octets atBlanks width fuel [b] next bs
      else now.reverse :: foldLine octets atBlanks width fuel [] 0 (b :: bs)

def fold : Command := fun args =>
  let known := [option 'b' "bytes" .nothing, option 's' "spaces" .nothing,
    option 'w' "width" .value]
  let args := match args with
    | (Octet.dash :: digits) :: rest =>
      if (number? digits).isSome then [ofText "-w", digits] ++ rest else args
    | args => args
  withOptions known 1 args fun c => do
    let text := (c.value? 'w').getD (ofText "80")
    match number? text with
    | none => die 1 (ofText "invalid number of columns: " ++ quoted text)
    | some width =>
      eachOperand 1 c fun _ bs =>
        for line in lineList bs do
          let isWhole := line.getLast? = some Octet.lineFeed
          let text := if isWhole then line.dropLast else line
          let fuel := 2 * text.length * (text.length + 2) + 2
          let pieces := foldLine (c.has 'b') (c.has 's') width fuel [] 0 text
          print ([Octet.lineFeed].intercalate pieces)
          if isWhole then print [Octet.lineFeed]

structure TabStops where
  places : List Nat
  step : Nat

def TabStops.after (t : TabStops) (column : Nat) : Nat :=
  match t.places.find? (column < ·) with
  | some n => n
  | none => if t.step = 0 then column + 1 else column + t.step - column % t.step

def readTabStops (c : Chosen) : TabStops :=
  match (c.value? 't').map fun text =>
      (text.splitOnP fun b => b = octet ',' || b = Octet.space).filterMap number? with
  | none => ⟨[], 8⟩
  | some [n] => ⟨[], n⟩
  | some places => ⟨places, 0⟩

def expand : Command := fun args =>
  withOptions [option 'i' "initial" .nothing, option 't' "tabs" .value] 1 args fun c => do
    let stops := readTabStops c
    eachOperand 1 c fun _ bs =>
      let (out, _, _) := bs.foldl
        (fun (out, column, isFront) b =>
          if b = Octet.lineFeed then (b :: out, 0, true)
          else if b = Octet.tab ∧ (isFront ∨ !c.has 'i') then
            let next := stops.after column
            (List.replicate (next - column) Octet.space ++ out, next, isFront)
          else if b = 8 then (b :: out, column - 1, isFront)
          else (b :: out, column + 1, isFront && (b = Octet.space || b = Octet.tab)))
        (([] : Bytes), 0, true)
      print out.reverse

def unexpand : Command := fun args =>
  let known := [option 'a' "all" .nothing, named 'f' "first-only" .nothing,
    option 't' "tabs" .value]
  withOptions known 1 args fun c => do
    let stops := readTabStops c
    let everywhere := (c.has 'a' || c.has 't') && !c.has 'f'
    eachOperand 1 c fun _ bs =>
      for line in lineList bs do
        let (out, pending, _, _) := line.foldl
          (fun (out, pending, column, isFront) b =>
            let active := isFront || everywhere
            if active ∧ b = Octet.space then
              let column := column + 1
              let atStop := stops.after (column - 1) = column
              if atStop ∧ (pending : Bytes).length ≠ 0 then
                (Octet.tab :: out, [], column, isFront)
              else (out, b :: pending, column, isFront)
            else if active ∧ b = Octet.tab then
              (b :: out, [], stops.after column, isFront)
            else (b :: pending ++ out, [], column + 1, false))
          (([] : Bytes), ([] : Bytes), 0, true)
        print (pending ++ out).reverse

end LspRelay.Tool
