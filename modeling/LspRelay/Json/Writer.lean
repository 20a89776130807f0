import LspRelay.Json.Value
import LspRelay.Text.Utf8

namespace LspRelay.Json

def escape (c : Char) : List Char :=
  match c with
  | '"' => ['\\', '"']
  | '\\' => ['\\', '\\']
  | '\x08' => ['\\', 'b']
  | '\x0c' => ['\\', 'f']
  | '\n' => ['\\', 'n']
  | '\r' => ['\\', 'r']
  | '\t' => ['\\', 't']
  | c =>
    if c.toNat < 0x20 then
      ['\\', 'u', '0', '0', Nat.digitChar (c.toNat / 16), Nat.digitChar (c.toNat % 16)]
    else [c]

def quoted (s : String) : List Char :=
  '"' :: (s.toList.flatMap escape ++ ['"'])

variable {N : Type}

namespace Tree

mutual

def charsWith (text : N → List Char) : Tree N → List Char
  | .null => ['n', 'u', 'l', 'l']
  | .bool true => ['t', 'r', 'u', 'e']
  | .bool false => ['f', 'a', 'l', 's', 'e']
  | .number n => text n
  | .string s => quoted s
  | .array vs => '[' :: itemsWith text vs
  | .object ms => '{' :: membersWith text ms

def itemsWith (text : N → List Char) : List (Tree N) → List Char
  | [] => [']']
  | [v] => v.charsWith text ++ [']']
  | v :: w :: vs => v.charsWith text ++ ',' :: itemsWith text (w :: vs)

def membersWith (text : N → List Char) : List (String × Tree N) → List Char
  | [] => ['}']
  | [(k, v)] => quoted k ++ ':' :: (v.charsWith text ++ ['}'])
  | (k, v) :: m :: ms =>
    quoted k ++ ':' :: (v.charsWith text ++ ',' :: membersWith text (m :: ms))

end

def chars (v : Value) : List Char := v.charsWith Number.text

def text (v : Value) : String := String.ofList v.chars

def bytes (v : Value) : List UInt8 := Utf8.encode v.chars

end Tree

end LspRelay.Json
