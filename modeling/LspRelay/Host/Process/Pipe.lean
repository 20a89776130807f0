import LspRelay.Host.Text.Octets

namespace LspRelay

structure Page where
  pieces : List Bytes
  room : Nat

namespace Page

def size : Nat := 4096

def ofBytes (bs : Bytes) : Page := ⟨[bs], size - bs.length⟩

def bytes (p : Page) : Bytes := p.pieces.reverse.flatten

def add (p : Page) (bs : Bytes) : Page := ⟨bs :: p.pieces, p.room - bs.length⟩

end Page

structure Pipe where
  pages : List Page

namespace Pipe

def empty : Pipe := ⟨[]⟩

def pageLimit : Nat := 16

def bytes (p : Pipe) : Bytes := p.pages.flatMap Page.bytes

def isFull (p : Pipe) : Bool := pageLimit ≤ p.pages.length

/-- Fills at most so many new pages, and tells what found no room. -/
def fill : Nat → Bytes → List Page × Bytes
  | 0, bs => ([], bs)
  | n + 1, bs =>
    if bs = [] then ([], [])
    else
      let (pages, rest) := fill n (bs.drop Page.size)
      (.ofBytes (bs.take Page.size) :: pages, rest)

/-- Puts the start of a text into the last page if so many octets of it fit there, and tells what is
left of the text. -/
def extend (part : Nat) (bs : Bytes) : List Page → List Page × Bytes
  | [] => ([], bs)
  | [page] =>
    if part ≠ 0 ∧ part ≤ page.room then ([page.add (bs.take part)], bs.drop part)
    else ([page], bs)
  | page :: pages =>
    let (pages, rest) := extend part bs pages
    (page :: pages, rest)

def write (p : Pipe) (bs : Bytes) : Pipe × Bytes :=
  let (pages, rest) := extend (bs.length % Page.size) bs p.pages
  let (more, rest) := fill (pageLimit - pages.length) rest
  (⟨pages ++ more⟩, rest)

def readPages (n : Nat) : List Page → Bytes × List Page
  | [] => ([], [])
  | page :: pages =>
    if n = 0 then ([], page :: pages)
    else
      let bs := page.bytes
      if bs.length ≤ n then
        let (more, rest) := readPages (n - bs.length) pages
        (bs ++ more, rest)
      else (bs.take n, ⟨[bs.drop n], page.room⟩ :: pages)

def read (p : Pipe) (n : Nat) : Bytes × Pipe :=
  let (bs, pages) := readPages n p.pages
  (bs, ⟨pages⟩)

def front (p : Pipe) : Bytes := (p.pages.head?.map Page.bytes).getD []

end Pipe

end LspRelay
