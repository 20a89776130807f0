import LspRelay.Host.Text.Layout
import LspRelay.Host.Tool.Amounts
import LspRelay.Host.Tool.Show

namespace LspRelay.Tool

open Process

/-- A key: where it starts and where it ends in a line, as fields and octets in them, which blanks
do not count there, and in which ways it is compared. -/
structure SortKey where
  startField : Nat
  startOctet : Nat
  endField : Option Nat
  endOctet : Nat
  skipsBlanks : Bool
  skipsEndBlanks : Bool
  ways : List Char

def isSortBlank (b : UInt8) : Bool := b = Octet.space || b = Octet.tab

def isDigitOctet (b : UInt8) : Bool := octet '0' ≤ b && b ≤ octet '9'

def fromField (separator : Option UInt8) : Nat → Bytes → Bytes
  | 0, line => line
  | n + 1, line =>
    match separator with
    | some mark => fromField separator n ((line.dropWhile (· ≠ mark)).drop 1)
    | none =>
      let rest := (line.dropWhile isSortBlank).dropWhile fun b => !isSortBlank b
      fromField separator n rest

def SortKey.endIn (separator : Option UInt8) (k : SortKey) (line : Bytes) : Nat :=
  match k.endField with
  | none => line.length
  | some field =>
    if k.endOctet = 0 then
      match separator with
      | some mark =>
        let rest := fromField separator field line
        line.length - (rest.dropWhile (· ≠ mark)).length
      | none => line.length - (fromField separator (field + 1) line).length
    else
      let rest := fromField separator field line
      let rest := if k.skipsEndBlanks then rest.dropWhile isSortBlank else rest
      line.length - (rest.drop k.endOctet).length

def SortKey.text (separator : Option UInt8) (k : SortKey) (line : Bytes) : Bytes :=
  let rest := fromField separator k.startField line
  let rest := if k.skipsBlanks then rest.dropWhile isSortBlank else rest
  let rest := rest.drop k.startOctet
  rest.take (rest.length - (line.length - k.endIn separator line))

def compareBytes : Bytes → Bytes → Ordering
  | [], [] => .eq
  | [], _ :: _ => .lt
  | _ :: _, [] => .gt
  | a :: as, b :: bs => if a < b then .lt else if b < a then .gt else compareBytes as bs

def readNumeric (bs : Bytes) : Bool × Bytes × Bytes :=
  let bs := bs.dropWhile isSortBlank
  let (negative, bs) : Bool × Bytes := match bs with
    | Octet.dash :: rest => (true, rest)
    | bs => (false, bs)
  let whole := (bs.takeWhile isDigitOctet).dropWhile (· = Octet.zero)
  let fraction := match bs.dropWhile isDigitOctet with
    | Octet.point :: more =>
      ((more.takeWhile isDigitOctet).reverse.dropWhile (· = Octet.zero)).reverse
    | _ => []
  (negative && (whole ≠ [] || fraction ≠ []), whole, fraction)

def compareNumeric (a b : Bytes) : Ordering :=
  let (negativeA, wholeA, fractionA) := readNumeric a
  let (negativeB, wholeB, fractionB) := readNumeric b
  let magnitude := (compare wholeA.length wholeB.length).then
    ((compareBytes wholeA wholeB).then (compareBytes fractionA fractionB))
  match negativeA, negativeB with
  | true, false => .lt
  | false, true => .gt
  | false, false => magnitude
  | true, true => magnitude.swap

def compareGeneral (a b : Bytes) : Ordering :=
  match Decimal.Floating.read? (toChars a), Decimal.Floating.read? (toChars b) with
  | none, none => .eq
  | none, some _ => .lt
  | some _, none => .gt
  | some (x, _), some (y, _) =>
    if x < y then .lt else if y < x then .gt
    else if x == y then .eq
    else if x.isNaN ∧ !y.isNaN then .lt
    else if y.isNaN ∧ !x.isNaN then .gt
    else .eq

def compareHuman (a b : Bytes) : Ordering :=
  let rank (bs : Bytes) : Int :=
    let (negative, whole, fraction) := readNumeric bs
    let rest := bs.dropWhile fun b =>
      isSortBlank b || isDigitOctet b || b = Octet.point || b = Octet.dash
    let unit : Int := match rest.head?.map fun b => Char.ofNat b.toNat with
      | some 'k' => 1
      | some c => ((("KMGTPEZYRQ".toList.findIdx? (· = c)).map (· + 1)).getD 0 : Nat)
      | none => 0
    let unit := if whole = [] ∧ fraction = [] then 0 else unit
    if negative then -unit else unit
  (compare (rank a) (rank b)).then (compareNumeric a b)

def monthOf (bs : Bytes) : Nat :=
  let name := upper ((bs.dropWhile isSortBlank).take 3)
  let months := ["JAN", "FEB", "MAR", "APR", "MAY", "JUN", "JUL", "AUG", "SEP", "OCT", "NOV", "DEC"]
  ((months.findIdx? fun m => ofText m = name).map (· + 1)).getD 0

def compareVersions : Nat → Bytes → Bytes → Ordering
  | 0, _, _ => .eq
  | fuel + 1, a, b =>
    let rank (x : UInt8) : Nat :=
      if x = octet '~' then 0
      else if isDigitOctet x then 1
      else if (Char.ofNat x.toNat).isAlpha then x.toNat + 1
      else x.toNat + 256
    let ranks (bs : Bytes) : List Nat :=
      ((bs.takeWhile (!isDigitOctet ·)).map rank) ++
        [if (bs.dropWhile (!isDigitOctet ·)) = [] then 1 else 1]
    let rec compareRanks : List Nat → List Nat → Ordering
      | [], [] => .eq
      | [], _ => .lt
      | _, [] => .gt
      | x :: xs, y :: ys => (compare x y).then (compareRanks xs ys)
    let plain := compareRanks (ranks a) (ranks b)
    let digits (bs : Bytes) : Bytes :=
      ((bs.dropWhile (!isDigitOctet ·)).takeWhile isDigitOctet).dropWhile (· = Octet.zero)
    let rest (bs : Bytes) : Bytes := (bs.dropWhile (!isDigitOctet ·)).dropWhile isDigitOctet
    let numbers := (compare (digits a).length (digits b).length).then
      (compareBytes (digits a) (digits b))
    if a = [] ∧ b = [] then .eq
    else plain.then (numbers.then (compareVersions fuel (rest a) (rest b)))

def compareBy (ways : List Char) (a b : Bytes) : Ordering :=
  let isKept (x : UInt8) : Bool :=
    (!ways.contains 'd' || (Char.ofNat x.toNat).isAlphanum && x < 128 || isSortBlank x) &&
      (!ways.contains 'i' || (32 ≤ x && x < 127))
  let upper (x : UInt8) : UInt8 := if ways.contains 'f' ∧ 97 ≤ x ∧ x ≤ 122 then x - 32 else x
  let order :=
    if ways.contains 'n' then compareNumeric a b
    else if ways.contains 'g' then compareGeneral a b
    else if ways.contains 'h' then compareHuman a b
    else if ways.contains 'M' then compare (monthOf a) (monthOf b)
    else if ways.contains 'V' then
      (compareVersions (a.length + b.length + 1) a b).then (compareBytes a b)
    else compareBytes ((a.filter isKept).map upper) ((b.filter isKept).map upper)
  if ways.contains 'r' then order.swap else order

def readPlace (bs : Bytes) : Option (Nat × Option Nat × List Char × Bytes) :=
  let field := bs.takeWhile isDigitOctet
  let rest := bs.drop field.length
  let (octets, rest) : Option Bytes × Bytes := match rest with
    | Octet.point :: more => (some (more.takeWhile isDigitOctet), more.dropWhile isDigitOctet)
    | rest => (none, rest)
  let isLetter (b : UInt8) : Bool := (Char.ofNat b.toNat).isAlpha
  let letters := toChars (rest.takeWhile isLetter)
  match number? field, octets.map number? with
  | some n, none => some (n, none, letters, rest.dropWhile isLetter)
  | some n, some (some k) => some (n, some k, letters, rest.dropWhile isLetter)
  | _, _ => none

/-- A key of `sort`; the ways of comparing that hold for all are those of a key without its own. -/
def readKey (ways : List Char) (bs : Bytes) : Except Bytes SortKey := do
  let start := bs.takeWhile (· ≠ octet ',')
  let finish := bs.drop (start.length + 1)
  let some (field, octet?, letters, rest) := readPlace start
    | throw (ofText "invalid number at field start: invalid count at start of " ++ quoted bs)
  if field = 0 then
    throw (ofText "-: invalid field specification " ++ quoted bs)
  if octet? = some 0 then throw (ofText "character offset is zero: invalid field specification " ++
    quoted bs)
  if rest ≠ [] then
    throw (ofText "stray character in field spec: invalid field specification " ++ quoted bs)
  let (endField, endOctet, more) ←
    if finish = [] then pure ((none : Option Nat), 0, ([] : List Char))
    else
      match readPlace finish with
      | some (f, o, letters, []) => pure (some (f - 1), o.getD 0, letters)
      | _ => throw (ofText "invalid number after ',': invalid count at start of " ++ quoted finish)
  let own := letters ++ more
  let inherits := own.isEmpty
  return {
    startField := field - 1
    startOctet := octet?.getD 1 - 1
    endField
    endOctet
    skipsBlanks := letters.contains 'b' || (inherits && ways.contains 'b')
    skipsEndBlanks := more.contains 'b' || (inherits && ways.contains 'b')
    ways := (if inherits then ways else own).filter (· ≠ 'b') }

def unmarked (mark : UInt8) (bs : Bytes) : List Bytes :=
  (piecesOf mark bs).map fun line => if line.getLast? = some mark then line.dropLast else line

def sort : Command := fun args =>
  let known := [option 'b' "ignore-leading-blanks" .nothing, option 'd' "dictionary-order" .nothing,
    option 'f' "ignore-case" .nothing, option 'g' "general-numeric-sort" .nothing,
    option 'i' "ignore-nonprinting" .nothing, option 'M' "month-sort" .nothing,
    option 'h' "human-numeric-sort" .nothing, option 'n' "numeric-sort" .nothing,
    option 'R' "random-sort" .nothing, option 'r' "reverse" .nothing,
    option 'V' "version-sort" .nothing, option 'c' "check" .optional,
    option 'k' "key" .value, option 'm' "merge" .nothing, option 'o' "output" .value,
    option 's' "stable" .nothing, option 'S' "buffer-size" .value,
    option 't' "field-separator" .value, option 'T' "temporary-directory" .value,
    option 'u' "unique" .nothing, option 'z' "zero-terminated" .nothing,
    named '1' "parallel" .value, named '2' "debug" .nothing] ++ letters "C" .nothing
  withOptions (known.map fun k => if k.key = 'c' then { k with takes := .nothing } else k) 2 args
    fun c => do
    let ways := ['b', 'd', 'f', 'g', 'i', 'M', 'h', 'n', 'R', 'r', 'V'].filter c.has
    let separator ← match c.value? 't' with
      | none => pure none
      | some [b] => pure (some b)
      | some text =>
        if text = ofText "\\0" then pure (some (0 : UInt8))
        else if text = [] then die 2 (ofText "empty tab")
        else die 2 (ofText "multi-character tab " ++ quoted text)
    let keys ← match (c.values 'k').mapM (readKey ways) with
      | .ok keys => pure keys
      | .error e => die 2 e
    let keys : List SortKey := if keys = [] then
        [⟨0, 0, none, 0, ways.contains 'b', ways.contains 'b', ways.filter (· ≠ 'b')⟩]
      else keys
    let mark : UInt8 := if c.has 'z' then 0 else Octet.lineFeed
    let mut lines : List Bytes := []
    for file in c.operandsOrInput do
      match ← readOperand file with
      | .error e =>
        if e = .isADirectory then
          die 2 (ofText "read failed: " ++ file ++ ofText (": " ++ e.description))
        else die 2 (ofText "cannot read: " ++ shownName file ++ ofText (": " ++ e.description))
      | .ok bs => lines := lines ++ unmarked mark bs
    let byKeys (a b : List Bytes) : Ordering :=
      (keys.zip (a.zip b)).foldl (fun o (k, x, y) => o.then (compareBy k.ways x y)) .eq
    let keyed := lines.map fun line => (line, keys.map fun k => k.text separator line)
    let isDistinct := c.has 'u'
    let whole (a b : Bytes × List Bytes) : Ordering :=
      let last := if c.has 's' ∨ isDistinct then .eq else
        if ways.contains 'r' then compareBytes b.1 a.1 else compareBytes a.1 b.1
      (byKeys a.2 b.2).then last
    if c.has 'c' ∨ c.has 'C' then
      let name := c.operandsOrInput.headD [Octet.dash]
      let bad := ((keyed.zip keyed.tail).zipIdx).find? fun ((a, b), _) =>
        match whole a b with
        | .gt => true
        | .eq => isDistinct
        | .lt => false
      match bad with
      | none => pure ()
      | some ((_, line, _), i) =>
        setStatus 1
        if c.has 'c' then
          complain (name ++ ofText (":" ++ toString (i + 2) ++ ": disorder: ") ++ line)
    else
      let sorted := keyed.mergeSort fun a b => whole a b ≠ .gt
      let kept := if isDistinct then
          (sorted.foldl
            (fun (out : List (Bytes × List Bytes)) x =>
              match out with
              | y :: _ => if byKeys y.2 x.2 = .eq then out else x :: out
              | [] => [x])
            []).reverse
        else sorted
      let text := kept.flatMap fun x => x.1 ++ [mark]
      match c.value? 'o' with
      | none => print text
      | some file =>
        match ← writeFile file text true with
        | .ok () => pure ()
        | .error e =>
          die 2 (ofText "open failed: " ++ file ++ ofText (": " ++ e.description))

def runsOfLines (same : Bytes → Bytes → Bool) : List Bytes → List (List Bytes)
  | [] => []
  | line :: lines =>
    match runsOfLines same lines with
    | (next :: more) :: runs =>
      if same line next then (line :: next :: more) :: runs else [line] :: (next :: more) :: runs
    | runs => [line] :: runs

def uniq : Command := fun args =>
  let known := [option 'c' "count" .nothing, option 'd' "repeated" .nothing,
    option 'f' "skip-fields" .value, option 'i' "ignore-case" .nothing,
    option 's' "skip-chars" .value, option 'u' "unique" .nothing,
    option 'w' "check-chars" .value, option 'z' "zero-terminated" .nothing,
    named 'D' "all-repeated" .optional, named 'G' "group" .optional] ++ letters "D" .nothing
  withOptions known 1 args fun c => do
    let mark : UInt8 := if c.has 'z' then 0 else Octet.lineFeed
    let number (key : Char) (default : Nat) : Nat := ((c.value? key).bind number?).getD default
    let key (line : Bytes) : Bytes :=
      let rest := (fromField none (number 'f' 0) line).drop (number 's' 0)
      let rest := rest.take (number 'w' rest.length)
      if c.has 'i' then rest.map fun b => if 97 ≤ b ∧ b ≤ 122 then b - 32 else b else rest
    match c.operands with
    | _ :: _ :: extra :: _ => extraOperand 1 extra
    | operands =>
      let file := operands.headD [Octet.dash]
      match ← readOperand file with
      | .error e =>
        if e = .isADirectory then die 1 (ofText "error reading " ++ shellQuoted file)
        else failOn 1 file e
      | .ok bs =>
        let runs := runsOfLines (fun a b => key a = key b) (unmarked mark bs)
        let isShown (run : List Bytes) : Bool :=
          (!c.has 'u' || run.length = 1) && (!c.has 'd' || 1 < run.length) &&
            (!c.has 'D' || 1 < run.length)
        let shown := (runs.filter isShown).flatMap fun run =>
          let lines := if c.has 'D' then run else run.take 1
          lines.flatMap fun line =>
            (if c.has 'c' then padded 7 (decimal run.length) ++ [Octet.space] else []) ++
              line ++ [mark]
        match operands with
        | [_, target] =>
          match ← writeFile target shown true with
          | .ok () => pure ()
          | .error e => failOn 1 target e
        | _ => print shown

def commLines : List Bytes → List Bytes → List (Nat × Bytes)
  | [], bs => bs.map (2, ·)
  | as, [] => as.map (1, ·)
  | a :: as, b :: bs =>
    match compareBytes a b with
    | .lt => (1, a) :: commLines as (b :: bs)
    | .gt => (2, b) :: commLines (a :: as) bs
    | .eq => (3, a) :: commLines as bs
termination_by as bs => as.length + bs.length

def isSorted : List Bytes → Bool
  | a :: b :: rest => compareBytes a b ≠ .gt && isSorted (b :: rest)
  | _ => true

def comm : Command := fun args =>
  let known := letters "123" .nothing ++ [named 'k' "check-order" .nothing,
    named 'n' "nocheck-order" .nothing, named 'o' "output-delimiter" .value,
    named 't' "total" .nothing, option 'z' "zero-terminated" .nothing]
  withOptions known 1 args fun c => do
    let mark : UInt8 := if c.has 'z' then 0 else Octet.lineFeed
    match c.operands with
    | [] => missingOperand 1
    | [a] => missingAfter 1 a
    | a :: b :: extra :: _ => do
      let _ := (a, b)
      extraOperand 1 extra
    | [a, b] =>
      let mut texts : List (List Bytes) := []
      for file in [a, b] do
        match ← readOperand file with
        | .error e => do
          complain (file ++ ofText (": " ++ e.description))
          exit 1
        | .ok bs => texts := texts ++ [unmarked mark bs]
      let between := (c.value? 'o').getD [Octet.tab]
      let hides (column : Nat) : Bool := c.has (Nat.digitChar column)
      let lines := commLines (texts.getD 0 []) (texts.getD 1 [])
      for (column, line) in lines do
        if !hides column then
          let before := (List.range column).filter fun k => k ≠ 0 && !hides k
          print ((before.map fun _ => between).flatten ++ line ++ [mark])
      if c.has 't' then
        let count (column : Nat) : Bytes := decimal (lines.filter fun l => l.1 = column).length
        print (between.intercalate [count 1, count 2, count 3, ofText "total"] ++ [mark])
      if !c.has 'n' then
        for (lines, i) in texts.zipIdx do
          if !isSorted lines then
            complain (ofText ("file " ++ toString (i + 1) ++ " is not in sorted order"))
        if texts.any fun lines => !isSorted lines then
          flush
          fail 1 (ofText "input is not in sorted order")

end LspRelay.Tool
