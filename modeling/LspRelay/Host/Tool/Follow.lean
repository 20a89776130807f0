import LspRelay.Host.Tool.Options

namespace LspRelay.Tool

open Process

/-- A file that is followed: its name, under which number it is kept if it is there, how much of it
has been shown, as of which version, and whether it can be watched. -/
structure Followed where
  name : Bytes
  number : Option Nat
  offset : Nat
  version : Option Nat
  isWatched : Bool

/-- How files are followed: by name or not, with headers between them or not, how long to wait
between two looks, up to the end of which process, waiting for files that are gone or not, and
whether something else is followed from which nothing comes. -/
structure Following where
  isByName : Bool
  isTitled : Bool
  interval : Nat
  process : Option Nat
  isPatient : Bool
  hasOther : Bool

namespace Followed

def present (f : Followed) (here : Path) (w : World) : Option Nat :=
  match w.files.identity? here f.name with
  | some (.inl number) => some number
  | _ => none

def isNew (f : Followed) (g : Following) (here : Path) (w : World) : Bool :=
  let hasGrown : Bool := match f.number.bind w.files.kept? with
    | some k => some k.version ≠ f.version
    | none => false
  hasGrown || (g.isByName && f.present here w ≠ f.number)

end Followed

namespace Following

def isUnread (p : Process) (w : World) : Bool :=
  match p.stream? 1 with
  | some (.target (.pipe number)) => !w.isRead number
  | _ => false

def isOver (g : Following) (w : World) : Bool :=
  g.process.any fun number => w.others.all fun q => q.number ≠ number

/-- Shows what is new in a file, with a header if another one was shown last. -/
def showNew (g : Following) (last : Option Bytes) (f : Followed) : Act (Option Bytes × Followed) := do
  match f.number.bind (← get).files.kept? with
  | none => return (last, f)
  | some k =>
    if some k.version = f.version then return (last, f)
    let isCut := k.content.length < f.offset
    if isCut then complain (f.name ++ ofText ": file truncated")
    let bs := if isCut then k.content else k.content.drop f.offset
    let isShown := g.isTitled && bs ≠ [] && last ≠ some f.name
    if isShown then print (ofText "\n==> " ++ f.name ++ ofText " <==\n")
    print bs
    return (if bs = [] then last else some f.name,
      { f with offset := k.content.length, version := some k.version })

def lookUp (g : Following) (f : Followed) : Act Followed := do
  let p ← get
  let now := f.present p.here p.toWorld
  if !g.isByName ∨ now = f.number then return f
  else
    let told (text : String) : Act Unit := complain (shellQuoted f.name ++ ofText text)
    match now with
    | none =>
      if g.isPatient then told " has become inaccessible: No such file or directory"
      else complain (f.name ++ ofText ": No such file or directory")
      return { f with number := none }
    | some number =>
      told (if f.number.isSome then " has been replaced;  following new file"
        else " has appeared;  following new file")
      return { f with number := some number, offset := 0, version := none, isWatched := true }

def follow (g : Following) : Nat → Option Bytes → List Followed → Act Unit
  | 0, _, _ => return ()
  | fuel + 1, last, files => do
    flush
    if files.all (fun f => f.number.isNone) && !g.isPatient && !g.hasOther then
      die 1 (ofText "no files remaining")
    let p ← get
    let now := p.clock
    let watched := files.filter Followed.isWatched
    let looksAgain := g.process.isSome || files.any fun f => !f.isWatched
    let time : Option Nat := if looksAgain then some (now + g.interval) else none
    await time fun w => isUnread p w || watched.any fun f => f.isNew g p.here w
    let p ← get
    if isUnread p p.surroundings then fun p => .ended { p with killedBy := some pipeSignal }
    let isTime := time.any fun t => t ≤ p.clock
    let mut last := last
    let mut seen : List Followed := []
    for f in files do
      if f.isWatched || isTime then
        let (shown, f) ← g.showNew last (← g.lookUp f)
        last := shown
        seen := seen ++ [f]
      else seen := seen ++ [f]
    if isTime && g.isOver p.surroundings then flush
    else follow g fuel last seen

end Following

end LspRelay.Tool
