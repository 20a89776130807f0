namespace LspRelay.Utf8

/-- What has been read of a sequence: nothing, or a beginning. A beginning knows how many octets
come after the next one, between which bounds the next one lies, and the bits read so far. -/
inductive State where
  | start
  | within (after : Nat) (low high : UInt8) (bits : Nat)
  deriving Repr, DecidableEq

/-- An octet at the start of a sequence. The narrower bounds keep out overlong forms, surrogates
and numbers above U+10FFFF. -/
def lead (b : UInt8) : List (Option Char) × State :=
  if b < 0x80 then ([some (Char.ofNat b.toNat)], .start)
  else if b < 0xC2 then ([none], .start)
  else if b < 0xE0 then ([], .within 0 0x80 0xBF (b.toNat - 0xC0))
  else if b = 0xE0 then ([], .within 1 0xA0 0xBF 0x0)
  else if b = 0xED then ([], .within 1 0x80 0x9F 0xD)
  else if b < 0xF0 then ([], .within 1 0x80 0xBF (b.toNat - 0xE0))
  else if b = 0xF0 then ([], .within 2 0x90 0xBF 0x0)
  else if b < 0xF4 then ([], .within 2 0x80 0xBF (b.toNat - 0xF0))
  else if b = 0xF4 then ([], .within 2 0x80 0x8F 0x4)
  else ([none], .start)

/-- An octet that cannot go on ends the broken beginning and is read again as a first octet. -/
def step : State → UInt8 → List (Option Char) × State
  | .start, b => lead b
  | .within after low high bits, b =>
    if low ≤ b ∧ b ≤ high then
      match after with
      | 0 => ([some (Char.ofNat (bits * 64 + (b.toNat - 0x80)))], .start)
      | n + 1 => ([], .within n 0x80 0xBF (bits * 64 + (b.toNat - 0x80)))
    else (none :: (lead b).1, (lead b).2)

/-- The characters from a state on, with `none` for each broken sequence. -/
def scan : State → List UInt8 → List (Option Char)
  | .start, [] => []
  | .within .., [] => [none]
  | s, b :: bs => (step s b).1 ++ scan (step s b).2 bs

def decode? (bs : List UInt8) : Option (List Char) :=
  (scan .start bs).mapM id

def decodeLossy (bs : List UInt8) : List Char :=
  (scan .start bs).map (·.getD '\uFFFD')

def encode (cs : List Char) : List UInt8 :=
  cs.flatMap String.utf8EncodeChar

def ofString (s : String) : List UInt8 :=
  encode s.toList

end LspRelay.Utf8
