import LspRelay.Text.Utf8

namespace LspRelay

def delimiter : List UInt8 := [13, 10, 13, 10]

def fieldName : String := "Content-Length"

structure Frame where
  header : List UInt8
  body : List UInt8
  deriving Repr, DecidableEq

namespace Frame

def bytes (f : Frame) : List UInt8 :=
  f.header ++ delimiter ++ f.body

def size (f : Frame) : Nat :=
  f.header.length + delimiter.length + f.body.length

theorem length_bytes (f : Frame) : f.bytes.length = f.size := by
  simp [bytes, size, Nat.add_assoc]

/-- The header of a body: its length in octets and nothing else. -/
def canonicalHeader (body : List UInt8) : List UInt8 :=
  Utf8.ofString fieldName ++ Utf8.encode (':' :: ' ' :: Nat.toDigits 10 body.length)

def ofBody (body : List UInt8) : Frame :=
  ⟨canonicalHeader body, body⟩

/-- A body as it goes on the wire. -/
def encode (body : List UInt8) : List UInt8 :=
  (ofBody body).bytes

end Frame

end LspRelay
