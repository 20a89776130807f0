import LspRelay.Host.Text.Layout

namespace LspRelay.Text

structure Day where
  year : Int
  month : Nat
  day : Nat
  deriving Repr, DecidableEq

namespace Day

/-- The day after so many days. Years are counted from March on, so that a leap day comes last. -/
def ofNumber (n : Int) : Day :=
  let shifted := n + 719468
  let era := shifted.fdiv 146097
  let inEra := (shifted - era * 146097).toNat
  let yearInEra := (inEra - inEra / 1460 + inEra / 36524 - inEra / 146096) / 365
  let inYear := inEra - (365 * yearInEra + yearInEra / 4 - yearInEra / 100)
  let month := (5 * inYear + 2) / 153
  let day := inYear - (153 * month + 2) / 5 + 1
  let month := if month < 10 then month + 3 else month - 9
  ⟨era * 400 + yearInEra + (if month ≤ 2 then 1 else 0), month, day⟩

def number (d : Day) : Int :=
  let year := if d.month ≤ 2 then d.year - 1 else d.year
  let era := year.fdiv 400
  let yearInEra := (year - era * 400).toNat
  let month := if 2 < d.month then d.month - 3 else d.month + 9
  let inYear := (153 * month + 2) / 5 + d.day - 1
  era * 146097 + (yearInEra * 365 + yearInEra / 4 - yearInEra / 100 + inYear : Nat) - 719468

def weekday (d : Day) : Nat := ((d.number + 4) % 7).toNat

def yearDay (d : Day) : Nat := (d.number - (Day.mk d.year 1 1).number).toNat

def week (d : Day) : Int × Nat :=
  let thursday := ofNumber (d.number - ((d.weekday : Int) + 6) % 7 + 3)
  (thursday.year, thursday.yearDay / 7 + 1)

end Day

structure Instant where
  seconds : Int
  nanoseconds : Nat
  deriving Repr, DecidableEq

namespace Instant

def day (t : Instant) : Day := .ofNumber (t.seconds.fdiv 86400)

def daySeconds (t : Instant) : Nat := (t.seconds.fmod 86400).toNat

def hour (t : Instant) : Nat := t.daySeconds / 3600

def minute (t : Instant) : Nat := t.daySeconds / 60 % 60

def second (t : Instant) : Nat := t.daySeconds % 60

def dayNames : List String :=
  ["Sunday", "Monday", "Tuesday", "Wednesday", "Thursday", "Friday", "Saturday"]

def monthNames : List String :=
  ["January", "February", "March", "April", "May", "June", "July", "August", "September", "October",
   "November", "December"]

inductive Field where
  | number (n : Int) (filler : Char) (width : Nat)
  | text (s : String)
  /-- What another format gives. -/
  | format (s : String)
  deriving Repr, DecidableEq

def field? (t : Instant) (letter : Char) : Option Field :=
  let d := t.day
  let two (n : Nat) : Option Field := some (.number n '0' 2)
  let name (names : List String) (i : Nat) : String := names.getD i ""
  let short (s : String) : String := String.ofList (s.toList.take 3)
  let hour12 := if t.hour % 12 = 0 then 12 else t.hour % 12
  match letter with
  | 'a' => some (.text (short (name dayNames d.weekday)))
  | 'A' => some (.text (name dayNames d.weekday))
  | 'b' => some (.text (short (name monthNames (d.month - 1))))
  | 'h' => some (.text (short (name monthNames (d.month - 1))))
  | 'B' => some (.text (name monthNames (d.month - 1)))
  | 'c' => some (.format "%a %b %e %H:%M:%S %Y")
  | 'C' => some (.number (d.year.fdiv 100) '0' 2)
  | 'd' => two d.day
  | 'D' => some (.format "%m/%d/%y")
  | 'x' => some (.format "%m/%d/%y")
  | 'e' => some (.number d.day ' ' 2)
  | 'F' => some (.format "%Y-%m-%d")
  | 'g' => some (.number (d.week.1.fmod 100) '0' 2)
  | 'G' => some (.number d.week.1 '0' 4)
  | 'H' => two t.hour
  | 'I' => two hour12
  | 'j' => some (.number (d.yearDay + 1) '0' 3)
  | 'k' => some (.number t.hour ' ' 2)
  | 'l' => some (.number hour12 ' ' 2)
  | 'm' => two d.month
  | 'M' => two t.minute
  | 'n' => some (.text "\n")
  | 'N' => some (.number t.nanoseconds '0' 9)
  | 'p' => some (.text (if t.hour < 12 then "AM" else "PM"))
  | 'P' => some (.text (if t.hour < 12 then "am" else "pm"))
  | 'q' => some (.number ((d.month - 1) / 3 + 1) '0' 1)
  | 'r' => some (.format "%I:%M:%S %p")
  | 'R' => some (.format "%H:%M")
  | 's' => some (.number t.seconds '0' 1)
  | 'S' => two t.second
  | 't' => some (.text "\t")
  | 'T' => some (.format "%H:%M:%S")
  | 'X' => some (.format "%H:%M:%S")
  | 'u' => some (.number (if d.weekday = 0 then 7 else d.weekday) '0' 1)
  | 'U' => two ((d.yearDay + 7 - d.weekday) / 7)
  | 'V' => two d.week.2
  | 'w' => some (.number d.weekday '0' 1)
  | 'W' => two ((d.yearDay + 7 - (d.weekday + 6) % 7) / 7)
  | 'y' => some (.number (d.year.fmod 100) '0' 2)
  | 'Y' => some (.number d.year '0' 1)
  | 'z' => some (.text "+0000")
  | 'Z' => some (.text "UTC")
  | '%' => some (.text "%")
  | _ => none

def numberText (n : Int) (filler : Option Char) (width : Nat) : Bytes :=
  let digits := decimal n.natAbs
  let sign : Bytes := if n < 0 then [Octet.dash] else []
  match filler with
  | none => sign ++ digits
  | some ' ' => List.replicate (width - digits.length - sign.length) Octet.space ++ sign ++ digits
  | some c => sign ++ List.replicate (width - digits.length - sign.length) (octet c) ++ digits

/-- A time in a format. The fuel is more than the length of the format and of those that it stands
for. -/
def formatted (t : Instant) : Nat → Bytes → Bytes
  | 0, _ => []
  | _ + 1, [] => []
  | fuel + 1, b :: bs =>
    if b ≠ Octet.percent then b :: formatted t fuel bs
    else
      let isFlag (b : UInt8) : Bool := "-_0^#+".toList.contains (Char.ofNat b.toNat)
      let isDigit (b : UInt8) : Bool := octet '0' ≤ b && b ≤ octet '9'
      let flags := bs.takeWhile isFlag
      let digits := (bs.drop flags.length).takeWhile isDigit
      let colons := (bs.drop (flags.length + digits.length)).takeWhile (· = octet ':')
      let shown := flags ++ digits ++ colons
      match bs.drop shown.length with
      | [] => b :: shown
      | letter :: rest =>
        let width? := number? digits
        let has (c : Char) : Bool := flags.contains (octet c)
        let filler (usual : Char) : Option Char :=
          if has '-' then none else if has '_' then some ' ' else if has '0' then some '0'
          else some usual
        let raised (bs : Bytes) : Bytes := if has '^' || has '#' then upper bs else bs
        let filled (bs : Bytes) : Bytes :=
          let c := if has '0' then Octet.zero else Octet.space
          if has '-' then bs else List.replicate (width?.getD 0 - bs.length) c ++ bs
        let c := Char.ofNat letter.toNat
        let field := if colons ≠ [] ∧ c = 'z' then some (.text "+00:00") else t.field? c
        match field with
        | some (.number n usual width) =>
          numberText n (filler usual) (width?.getD width) ++ formatted t fuel rest
        | some (.text s) => filled (raised (ofText s)) ++ formatted t fuel rest
        | some (.format s) =>
          filled (raised (formatted t fuel (ofText s))) ++ formatted t fuel rest
        | none => b :: shown ++ letter :: formatted t fuel rest

end Instant

end LspRelay.Text
