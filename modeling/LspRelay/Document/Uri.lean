namespace LspRelay

/-- A drive in lower case and a path that begins with a slash. -/
structure DriveUri where
  drive : Char
  path : List Char
  deriving Repr, DecidableEq

namespace DriveUri

def absolute (path : List Char) : List Char :=
  match path with
  | '/' :: _ => path
  | _ => '/' :: path

/-- Reads the spellings with a plain colon, and no other. -/
def ofChars? : List Char → Option DriveUri
  | 'f' :: 'i' :: 'l' :: 'e' :: ':' :: cs =>
    match cs.dropWhile (· = '/') with
    | d :: ':' :: path => if d.isAlpha then some ⟨d.toLower, absolute path⟩ else none
    | _ => none
  | _ => none

def chars (u : DriveUri) : List Char :=
  ['f', 'i', 'l', 'e', ':', '/', '/', '/', u.drive, '%', '3', 'A'] ++ u.path

end DriveUri

def canonicalUri? (uri : String) : Option String :=
  (DriveUri.ofChars? uri.toList).map fun u => String.ofList u.chars

end LspRelay
