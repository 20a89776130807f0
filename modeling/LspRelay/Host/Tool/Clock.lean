import LspRelay.Host.Text.Calendar
import LspRelay.Host.Tool.Options

namespace LspRelay.Tool

open Process Text

def sessionStart : Int := 1750000000

def sessionInstant (time : Int) : Instant :=
  ⟨sessionStart + time.fdiv 1000, (time.fmod 1000).toNat * 1000000⟩

def sessionTime (t : Instant) : Int :=
  (t.seconds - sessionStart) * 1000 + t.nanoseconds / 1000000

def Instant.now (p : Process) : Instant := sessionInstant p.files.now

def seconds? (bs : Bytes) : Option Instant :=
  let (isNegative, bs) : Bool × Bytes := match bs with
    | Octet.dash :: rest => (true, rest)
    | Octet.plus :: rest => (false, rest)
    | bs => (false, bs)
  let whole := bs.takeWhile (· ≠ Octet.point)
  let digits := (bs.drop (whole.length + 1)).take 9
  let fraction := number? (digits ++ List.replicate (9 - digits.length) Octet.zero)
  match number? whole, if digits = [] then some 0 else fraction with
  | some n, some f =>
    if isNegative then some (if f = 0 then ⟨-(n : Int), 0⟩ else ⟨-(n : Int) - 1, Nat.pow 10 9 - f⟩)
    else some ⟨n, f⟩
  | _, _ => none

def dayOf? (bs : Bytes) : Option Day :=
  match (bs.splitOn Octet.dash).map number? with
  | [some y, some m, some d] =>
    let day : Day := ⟨y, m, d⟩
    if 1 ≤ m ∧ m ≤ 12 ∧ Day.ofNumber day.number = day then some day else none
  | _ => none

def timeOf? (bs : Bytes) : Option (Nat × Nat) :=
  match bs.splitOn (octet ':') with
  | [h, m] =>
    match number? h, number? m with
    | some h, some m => if h < 24 ∧ m < 60 then some (h * 3600 + m * 60, 0) else none
    | _, _ => none
  | [h, m, s] =>
    match number? h, number? m, seconds? s with
    | some h, some m, some t =>
      if h < 24 ∧ m < 60 ∧ 0 ≤ t.seconds ∧ t.seconds < 61 then
        some (h * 3600 + m * 60 + t.seconds.toNat, t.nanoseconds)
      else none
    | _, _, _ => none
  | _ => none

structure Told where
  day : Day
  time : Nat × Nat
  hasTime : Bool
  months : Int
  seconds : Int

def unitSeconds : List (String × Int) :=
  [("sec", 1), ("second", 1), ("min", 60), ("minute", 60), ("hour", 3600), ("day", 86400),
   ("week", 604800), ("fortnight", 1209600)]

def unitMonths : List (String × Int) := [("month", 1), ("year", 12)]

def Told.plus? (t : Told) (n : Int) (unit : Bytes) : Option Told :=
  let isNamed (name : String) : Bool := unit = ofText name || unit = ofText (name ++ "s")
  match unitSeconds.find? fun u => isNamed u.1, unitMonths.find? fun u => isNamed u.1 with
  | some (_, s), _ => some { t with seconds := t.seconds + n * s }
  | none, some (_, m) => some { t with months := t.months + n * m }
  | none, none => none

def Told.read? (t : Told) : List Bytes → Option Told
  | [] => some t
  | word :: words =>
    let is (s : String) : Bool := word = ofText s
    if is "now" || is "today" || is "utc" || is "z" || is "gmt" || is "+0000" || is "ago" then
      Told.read? t words
    else if is "yesterday" then Told.read? { t with seconds := t.seconds - 86400 } words
    else if is "tomorrow" then Told.read? { t with seconds := t.seconds + 86400 } words
    else
      match dayOf? word, timeOf? word with
      | some day, _ =>
        Told.read? { t with day, time := if t.hasTime then t.time else (0, 0) } words
      | none, some time => Told.read? { t with time, hasTime := true } words
      | none, none =>
        match words with
        | unit :: rest =>
          let sign : Int := if rest.head? = some (ofText "ago") then -1 else 1
          let n? : Option Int := if is "next" then some 1 else if is "last" then some (-1)
            else integer? word
          match n?.bind fun n => t.plus? (sign * n) unit with
          | some t => Told.read? t rest
          | none => none
        | [] => t.plus? 1 word

def Told.instant (t : Told) : Instant :=
  let months := t.day.year * 12 + (t.day.month - 1 : Nat) + t.months
  let first : Day := ⟨months.fdiv 12, (months.fmod 12).toNat + 1, 1⟩
  let days := if t.months = 0 then t.day.number else first.number + t.day.day - 1
  ⟨days * 86400 + t.time.1 + t.seconds, t.time.2⟩

def instantOf? (now : Instant) (bs : Bytes) : Option Instant :=
  match bs with
  | [] => some ⟨now.day.number * 86400, 0⟩
  | b :: rest =>
    if b = octet '@' then seconds? rest
    else
      let words := (lower bs).splitOn Octet.space |>.filter (· ≠ [])
      let parts := words.flatMap fun word =>
        match word.splitOn (octet 't') with
        | [day, time] =>
          if (dayOf? day).isSome then
            [day, if time.getLast? = some (octet 'z') then time.dropLast else time]
          else [word]
        | _ => [word]
      let told : Told := ⟨now.day, (now.daySeconds, now.nanoseconds), false, 0, 0⟩
      (told.read? parts).map Told.instant

def stampOf? (now : Instant) (bs : Bytes) : Option Instant :=
  let digits := bs.takeWhile (· ≠ Octet.point)
  let seconds := match bs.drop digits.length with
    | [] => some 0
    | _ :: rest => if rest.length = 2 then number? rest else none
  let year? : Option Int := match digits.length with
    | 8 => some now.day.year
    | 10 => (number? (digits.take 2)).map fun n => if n < 69 then 2000 + n else 1900 + n
    | 12 => (number? (digits.take 4)).map fun n => n
    | _ => none
  let rest := digits.drop (digits.length - 8)
  let part (i : Nat) : Option Nat := number? ((rest.drop (2 * i)).take 2)
  match year?, part 0, part 1, part 2, part 3, seconds with
  | some year, some month, some day, some hour, some minute, some second =>
    let day : Day := ⟨year, month, day⟩
    if 1 ≤ month ∧ month ≤ 12 ∧ Day.ofNumber day.number = day ∧ hour < 24 ∧ minute < 60 ∧
        second ≤ 60 then
      some ⟨day.number * 86400 + hour * 3600 + minute * 60 + second, 0⟩
    else none
  | _, _, _, _, _, _ => none

def date : Command := fun args =>
  let known := [option 'd' "date" .value, option 'u' "utc" .nothing, named 'u' "universal" .nothing,
    option 'R' "rfc-email" .nothing, option 'I' "iso-8601" .optional, named 'F' "rfc-3339" .value,
    option 'r' "reference" .value, option 's' "set" .value]
  withOptions known 1 args fun c => do
    let p ← get
    let now := Instant.now p
    let form : Bytes := match c.last? ['R', 'I', 'F'] with
      | some 'R' => ofText "%a, %d %b %Y %H:%M:%S +0000"
      | some 'I' =>
        let v := (c.value? 'I').getD []
        if v = [] ∨ v = ofText "date" then ofText "%Y-%m-%d"
        else if v = ofText "hours" then ofText "%Y-%m-%dT%H+00:00"
        else if v = ofText "minutes" then ofText "%Y-%m-%dT%H:%M+00:00"
        else if v = ofText "ns" then ofText "%Y-%m-%dT%H:%M:%S,%N+00:00"
        else ofText "%Y-%m-%dT%H:%M:%S+00:00"
      | some _ =>
        let v := (c.value? 'F').getD []
        if v = ofText "date" then ofText "%Y-%m-%d"
        else if v = ofText "ns" then ofText "%Y-%m-%d %H:%M:%S.%N+00:00"
        else ofText "%Y-%m-%d %H:%M:%S+00:00"
      | none => ofText "%a %b %e %H:%M:%S %Z %Y"
    let tell (t : Instant) : Act Unit := do
      match c.operands with
      | _ :: other :: _ => extraOperand 1 other
      | [] => printLine (t.formatted (8 * form.length) form)
      | [text] =>
        if text.head? = some Octet.plus then
          printLine (t.formatted (8 * text.length) text.tail)
        else if c.has 'd' ∨ c.has 'r' then
          misuse 1 (ofText "the argument " ++ quoted text ++ ofText (" lacks a leading '+';\n" ++
            "when using an option to specify date(s), any non-option\n" ++
            "argument must be a format string beginning with '+'"))
        else fail 1 (ofText "invalid date " ++ quoted text)
    match c.value? 'r', c.value? 'd' with
    | some file, _ =>
      match ← node file with
      | .ok n => tell (sessionInstant (p.files.timeOf n))
      | .error e => failOn 1 file e
    | none, some text =>
      match instantOf? now text with
      | some t => tell t
      | none => fail 1 (ofText "invalid date " ++ quoted text)
    | none, none => tell now

end LspRelay.Tool
