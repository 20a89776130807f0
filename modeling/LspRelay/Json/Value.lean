import LspRelay.Json.Number

namespace LspRelay.Json

inductive Tree (N : Type) where
  | null
  | bool (b : Bool)
  | number (n : N)
  | string (s : String)
  | array (items : List (Tree N))
  | object (members : List (String × Tree N))

abbrev Value := Tree Number

namespace Tree

variable {N : Type}

def insert (k : String) (v : Tree N) : List (String × Tree N) → List (String × Tree N)
  | [] => [(k, v)]
  | (l, w) :: ms => if l = k then (l, v) :: ms else (l, w) :: insert k v ms

/-- Of members with one key the last value counts, at the place of the first. -/
def ofMembers (ms : List (String × Tree N)) : Tree N :=
  .object (ms.foldl (fun kept m => insert m.1 m.2 kept) [])

def string? : Tree N → Option String
  | .string s => some s
  | _ => none

def member? (k : String) : Tree N → Option (Tree N)
  | .object ms => ms.lookup k
  | _ => none

def get? : Tree N → List String → Option (Tree N)
  | v, [] => some v
  | v, k :: ks => (v.member? k).bind (·.get? ks)

/-- Replaces the value at a path that is there; all other members and their order stay. -/
def set? : Tree N → List String → Tree N → Option (Tree N)
  | _, [], new => some new
  | .object ms, k :: ks, new => do
    let old ← ms.lookup k
    let v ← old.set? ks new
    some (.object (insert k v ms))
  | _, _ :: _, _ => none

end Tree

end LspRelay.Json
