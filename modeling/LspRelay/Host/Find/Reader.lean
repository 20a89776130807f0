import LspRelay.Host.Files.Modes
import LspRelay.Host.Find.Query
import LspRelay.Host.Process.Basic

namespace LspRelay.Find

structure Reading where
  rest : List Bytes
  least : Nat
  most : Option Nat
  isDeepFirst : Bool
  form : Option Bytes
  /-- How many commands run with all paths at once. -/
  gathers : Nat
  files : Files
  here : Path

abbrev Reader := StateT Reading (Except Problem)

namespace Reader

def plus : Bytes := [Octet.plus]

def semicolon : Bytes := [octet ';']

def braces : Bytes := ofText "\x7b\x7d"

def value (word : Bytes) : Reader Bytes := do
  match (← get).rest with
  | v :: rest =>
    modify fun r => { r with rest }
    return v
  | [] => throw (.missing word)

def bound (word : Bytes) (bs : Bytes) : Reader Bound := do
  let (sign, digits) : Option UInt8 × Bytes := match bs with
    | Octet.plus :: rest => (some Octet.plus, rest)
    | Octet.dash :: rest => (some Octet.dash, rest)
    | bs => (none, bs)
  match number? digits with
  | some n =>
    if sign = some Octet.plus then return .more n
    else if sign = some Octet.dash then return .less n
    else return .exactly n
  | none => throw (.invalid bs word)

def depth (word : Bytes) : Reader Nat := do
  let v ← value word
  match number? v with
  | some n => return n
  | none => throw (.noNumber word v)

def kinds (v : Bytes) : Reader (List Char) := do
  let letters := (toChars v).filter (· ≠ ',')
  match letters.find? fun c => !("bcdpflsD".toList.contains c) with
  | some c => throw (.badKind [octet c])
  | none => return letters

def modeTest (v : Bytes) : Reader ModeTest := do
  let read (bs : Bytes) (make : Nat → ModeTest) : Reader ModeTest := do
    match Modes.told? false 0 bs 0 with
    | some n => return make n
    | none => throw (.badMode v)
  match v with
  | Octet.dash :: rest => read rest .all
  | Octet.slash :: rest => read rest .any
  | v => read v .exactly

def sizeTest (word v : Bytes) : Reader Test := do
  let units : List (Char × Nat) :=
    [('b', 512), ('c', 1), ('w', 2), ('k', Nat.pow 2 10), ('M', Nat.pow 2 20), ('G', Nat.pow 2 30)]
  match v.getLast? with
  | none => throw (.badSize v)
  | some b =>
    if (Char.ofNat b.toNat).isDigit then return .size 512 (← bound word v)
    else
      match units.lookup (Char.ofNat b.toNat) with
      | some unit => return .size unit (← bound word v.dropLast)
      | none => throw (.badSize [b])

/-- An expression with backslashes before groups and bars, in the form without them. -/
def extendedForm : List Char → List Char
  | '\\' :: c :: cs =>
    if c = '(' ∨ c = ')' ∨ c = '|' then c :: extendedForm cs else '\\' :: c :: extendedForm cs
  | c :: cs =>
    if "()|\x7b\x7d".toList.contains c then '\\' :: c :: extendedForm cs else c :: extendedForm cs
  | [] => []

def regex (v : Bytes) (folds : Bool) : Reader Regex := do
  let form := (← get).form
  let basic := ["posix-basic", "grep", "sed", "posix-minimal-basic", "ed"].map ofText
  let own : List Bytes := ["findutils-default", "emacs"].map ofText
  let isBasic := form.any basic.contains
  let text := if form.isNone || form.any own.contains then ofChars (extendedForm (toChars v)) else v
  match LspRelay.Regex.read ⟨!isBasic, true, folds, false⟩ text with
  | .ok r => return r
  | .error _ => throw (.invalid v (ofText "-regex"))

/-- The words of a command up to its end, which tells whether it runs with all paths at once. -/
def command (word : Bytes) (mayGather : Bool) :
    List Bytes → List Bytes → Reader (List Bytes × Bool)
  | _, [] => throw (.missing word)
  | before, arg :: args => do
    if arg = semicolon then
      modify fun r => { r with rest := args }
      if before = [] then throw (.invalid arg word) else return (before.reverse, false)
    else if mayGather ∧ arg = plus ∧ before.head? = some braces then
      modify fun r => { r with rest := args }
      if (before.filter (· = braces)).length ≠ 1 then throw .twice
      else return (before.tail.reverse, true)
    else command word mayGather (arg :: before) args

def owner (kind : Bytes) (v : Bytes) : Reader Test := do
  let others : List Bytes := ["nobody", "daemon", "bin", "sys", "man", "mail", "www-data", "games",
    "nogroup", "adm", "tty", "disk", "staff", "users", "utmp", "shadow"].map ofText
  if v = ofText "root" then return .owned true
  else
    match number? v with
    | some n => return .owned (n = 0)
    | none => if others.contains v then return .owned false else throw (.badUser v kind)

def glob (v : Bytes) : List Shell.Glob := Shell.Glob.ofBytes v

def named (word : Bytes) (names : List String) : Bool :=
  names.any fun name => ofText ("-" ++ name) = word

def single (word : Bytes) : Reader Query := do
  let test (t : Test) : Reader Query := return .test t
  let act (a : Action) : Reader Query := return .act a
  let yes : Query := .test (.constant true)
  let is (names : List String) : Bool := named word names
  let lower (bs : Bytes) : Bytes := bs.map fun b => octet (Char.ofNat b.toNat).toLower
  if is ["print"] then act (.print Octet.lineFeed none)
  else if is ["print0"] then act (.print 0 none)
  else if is ["fprint"] then act (.print Octet.lineFeed (some (← value word)))
  else if is ["fprint0"] then act (.print 0 (some (← value word)))
  else if is ["printf"] then act (.format (← value word) none)
  else if is ["fprintf"] then
    let file ← value word
    act (.format (← value word) (some file))
  else if is ["ls"] then act .list
  else if is ["prune"] then act .prune
  else if is ["quit"] then act .quit
  else if is ["delete"] then
    modify fun r => { r with isDeepFirst := true }
    act .delete
  else if is ["exec", "execdir", "ok", "okdir"] then
    let isAsking := is ["ok", "okdir"]
    let isInside := is ["execdir", "okdir"]
    let (words, gathers) ← command word (!isAsking) [] (← get).rest
    if gathers then
      let n := (← get).gathers
      modify fun r => { r with gathers := n + 1 }
      act (.gather n words)
    else act (.run words isAsking isInside)
  else if is ["name"] then test (.name (glob (← value word)) false)
  else if is ["iname"] then test (.name (glob (lower (← value word))) true)
  else if is ["path", "wholename"] then test (.path (glob (← value word)) false)
  else if is ["ipath", "iwholename"] then test (.path (glob (lower (← value word))) true)
  else if is ["lname"] then test (.target (glob (← value word)) false)
  else if is ["ilname"] then test (.target (glob (lower (← value word))) true)
  else if is ["regex"] then test (.pattern (← regex (← value word) false))
  else if is ["iregex"] then test (.pattern (← regex (← value word) true))
  else if is ["regextype"] then
    let v ← value word
    modify fun r => { r with form := some v }
    return yes
  else if is ["type"] then test (.kind (← kinds (← value word)))
  else if is ["xtype"] then test (.kindBehind (← kinds (← value word)))
  else if is ["empty"] then test .empty
  else if is ["size"] then return .test (← sizeTest word (← value word))
  else if is ["perm"] then test (.mode (← modeTest (← value word)))
  else if is ["links"] then test (.links (← bound word (← value word)))
  else if is ["mtime", "atime", "ctime"] then test (.days (← bound word (← value word)))
  else if is ["mmin", "amin", "cmin"] then test (.minutes (← bound word (← value word)))
  else if is ["user"] then return .test (← owner (ofText "user") (← value word))
  else if is ["group"] then return .test (← owner (ofText "group") (← value word))
  else if is ["uid", "gid"] then
    let b ← bound word (← value word)
    test (.owned (b.holds 0))
  else if is ["nouser", "nogroup", "false"] then test (.constant false)
  else if is ["executable"] then test .executable
  else if is ["inum", "used"] then
    let _ ← bound word (← value word)
    test (.constant false)
  else if is ["newer", "anewer", "cnewer", "samefile"] then
    let v ← value word
    let r ← get
    match r.files.identity? r.here v, r.files.time? r.here v with
    | some identity, some time =>
      if is ["samefile"] then test (.same identity) else test (.newer time)
    | _, _ => throw (.noFile v)
  else if is ["true", "readable", "writable", "xdev", "mount", "noleaf", "daystart", "warn",
      "nowarn", "ignore_readdir_race", "noignore_readdir_race", "follow"] then return yes
  else if is ["depth", "d"] then
    modify fun r => { r with isDeepFirst := true }
    return yes
  else if is ["maxdepth"] then
    let n ← depth word
    modify fun r => { r with most := some n }
    return yes
  else if is ["mindepth"] then
    let n ← depth word
    modify fun r => { r with least := n }
    return yes
  else throw (.unknown word)

def isOr (arg : Bytes) : Bool := arg = ofText "-o" || arg = ofText "-or"

def isAnd (arg : Bytes) : Bool := arg = ofText "-a" || arg = ofText "-and"

def isNot (arg : Bytes) : Bool := arg = ofText "!" || arg = ofText "-not"

def opening : Bytes := [octet '(']

def closing : Bytes := [octet ')']

def comma : Bytes := [octet ',']

mutual

def whole : Nat → Reader Query
  | 0 => throw .emptyGroup
  | fuel + 1 => do
    let a ← alternatives fuel
    match (← get).rest with
    | arg :: rest =>
      if arg = comma then
        if rest = [] then throw (.nothingBehind arg)
        modify fun r => { r with rest }
        return .after a (← whole fuel)
      else return a
    | [] => return a

def alternatives : Nat → Reader Query
  | 0 => throw .emptyGroup
  | fuel + 1 => do
    let a ← conditions fuel
    match (← get).rest with
    | arg :: rest =>
      if isOr arg then
        if rest = [] then throw (.nothingBehind arg)
        modify fun r => { r with rest }
        return .either a (← alternatives fuel)
      else return a
    | [] => return a

def conditions : Nat → Reader Query
  | 0 => throw .emptyGroup
  | fuel + 1 => do
    let a ← primary fuel
    match (← get).rest with
    | arg :: rest =>
      if isAnd arg then
        if rest = [] then throw (.nothingBehind arg)
        modify fun r => { r with rest }
        return .both a (← conditions fuel)
      else if isOr arg ∨ arg = closing ∨ arg = comma then return a
      else return .both a (← conditions fuel)
    | [] => return a

def primary : Nat → Reader Query
  | 0 => throw .emptyGroup
  | fuel + 1 => do
    match (← get).rest with
    | [] => throw .openGroup
    | arg :: rest =>
      modify fun r => { r with rest }
      if isNot arg then
        if rest = [] then throw (.nothingBehind arg)
        return .no (← primary fuel)
      else if arg = opening then
        if rest = [] then throw .openGroup
        else if rest.head? = some closing then throw .emptyGroup
        let q ← whole fuel
        match (← get).rest with
        | arg :: rest =>
          if arg = closing then
            modify fun r => { r with rest }
            return q
          else throw .openGroup
        | [] => throw .openGroup
      else if arg = closing then throw .closedGroup
      else if isOr arg ∨ isAnd arg ∨ arg = comma then throw (.nothingBefore arg)
      else if arg.head? = some Octet.dash ∧ 1 < arg.length then single arg
      else throw (.misplaced arg)

end

def all : Reader Query := do
  let r ← get
  if r.rest = [] then return .act (.print Octet.lineFeed none)
  else
    let q ← whole (8 * r.rest.length + 8)
    if (← get).rest ≠ [] then throw .closedGroup
    else if q.acts then return q
    else return .both q (.act (.print Octet.lineFeed none))

end Reader

def beginsQuery (arg : Bytes) : Bool :=
  (arg.head? = some Octet.dash && 1 < arg.length) || arg = Reader.opening || arg = ofText "!"

def followings (f : Following) : List Bytes → Following × List Bytes
  | arg :: args =>
    if arg = ofText "-H" then followings .named args
    else if arg = ofText "-L" then followings .always args
    else if arg = ofText "-P" then followings .never args
    else if (ofText "-O").isPrefixOf arg then followings f args
    else (f, arg :: args)
  | [] => (f, [])

def Request.read (files : Files) (here : Path) (args : List Bytes) : Except Problem Request := do
  let (following, args) := followings .never args
  let starts := args.takeWhile fun arg => !beginsQuery arg
  let rest := args.drop starts.length
  let (query, r) ← Reader.all.run ⟨rest, 0, none, false, none, 0, files, here⟩
  return {
    following
    starts := if starts = [] then [[Octet.point]] else starts
    query
    least := r.least
    most := r.most
    isDeepFirst := r.isDeepFirst }

end LspRelay.Find
