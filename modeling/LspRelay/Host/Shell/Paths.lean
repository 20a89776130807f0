import LspRelay.Host.Files.Basic
import LspRelay.Host.Shell.Condition
import LspRelay.Host.Shell.Fields

namespace LspRelay.Shell

def homeOf? (files : Files) (account : Bytes) : Option Bytes :=
  match files.read [] (ofText "/etc/passwd") with
  | .ok text =>
    let fields := (text.splitOn Octet.lineFeed).map fun line => line.splitOn (octet ':')
    (fields.find? fun entry => entry.head? = some account).bind fun entry => entry[5]?
  | .error _ => none

/-- The home that a text begins with after a tilde, and what follows it. The text goes on unless it
is the whole of what is meant. -/
def tilde? (files : Files) (own : Option Bytes) (colons isWhole : Bool) (bs : Bytes) :
    Option (Bytes × Bytes) :=
  match bs with
  | [] => none
  | b :: rest =>
    if b ≠ octet '~' then none
    else
      let goesOn (b : UInt8) : Bool := b ≠ Octet.slash && !(colons && b = octet ':')
      let account := rest.takeWhile goesOn
      let rest := rest.dropWhile goesOn
      let home := if account = [] then own else homeOf? files account
      if rest = [] ∧ !isWhole then none
      else
        match home with
        | some (h :: hs) => some (h :: hs, rest)
        | _ => none

/-- The names that stand in a directory; without a name it is the working directory. -/
def namesIn (files : Files) (here : Path) (directory : Bytes) : List Bytes :=
  match files.node? here (if directory = [] then Path.dot else directory) with
  | some (.directory entries _ _) => Path.dot :: Path.dots :: entries.map Prod.fst
  | _ => []

def matchesName (f : Field) (name : Bytes) : Bool :=
  (name.head? ≠ some Octet.point || f.bytes.head? = some Octet.point) &&
    Glob.matchesAll (Glob.ofBytes f.pattern) name

/-- A text without the backslashes that keep the octets after them as they are. -/
def withoutBackslashes : Bytes → Bytes
  | [] => []
  | [b] => [b]
  | b :: c :: bs =>
    if b = Octet.backslash then c :: withoutBackslashes bs else b :: withoutBackslashes (c :: bs)

def pathsFrom (files : Files) (here : Path) (before : Bytes) : List Field → List Bytes
  | [] => []
  | [f] =>
    if f.isPattern then
      ((namesIn files here before).filter (matchesName f)).map (before ++ ·)
    else
      let path := before ++ withoutBackslashes f.pattern
      if (files.entry? here path).isSome then [path] else []
  | f :: fs =>
    if f.isPattern then
      ((namesIn files here before).filter (matchesName f)).flatMap fun name =>
        pathsFrom files here (before ++ name ++ [Octet.slash]) fs
    else pathsFrom files here (before ++ withoutBackslashes f.pattern ++ [Octet.slash]) fs

def fieldParts (f : Field) : List Field :=
  f.splitOnP fun b => b.1 = Octet.slash

/-- What a field stands for: the files that match it, or itself if there are none. -/
def pathsOf (files : Files) (here : Path) (f : Field) : List Bytes :=
  if f.isPattern then
    match pathsFrom files here [] (fieldParts f) with
    | [] => [f.bytes]
    | paths => paths.mergeSort fun a b => !Condition.octetsBefore b a
  else [f.bytes]

end LspRelay.Shell
