import LspRelay.Host.Rows.Value
import Std.Data.HashMap

namespace LspRelay.Rows

inductive Key where
  | number (n : Int)
  | text (bs : Bytes)

structure Table where
  values : Std.HashMap Bytes Value
  /-- How many chains there are, a power of two. -/
  width : Nat
  texts : Array (List Bytes)
  numbers : Array (List Int)
  hasTexts : Bool
  hasNumbers : Bool
  /-- How many keys there are that were made by splitting, from one on, if all others are such. -/
  parts : Option Nat

namespace Table

def startWidth : Nat := 64

def chainLimit : Nat := 12

def empty : Table :=
  { values := {}
    width := startWidth
    texts := Array.replicate startWidth []
    numbers := Array.replicate startWidth []
    hasTexts := false
    hasNumbers := false
    parts := none }

def size (t : Table) : Nat := t.values.size

def hash (bs : Bytes) : UInt32 :=
  bs.foldl (fun h b => (h ^^^ UInt32.ofNat b.toNat) * 16777619) 2166136261

def textPlace (t : Table) (bs : Bytes) : Nat := (hash bs).toNat % t.width

def numberPlace (t : Table) (n : Int) : Nat := (n % (t.width : Int)).toNat

def keyText (n : Int) : Bytes := signedDecimal n

def pushText (t : Table) (bs : Bytes) : Table :=
  { t with
    texts := t.texts.modify (t.textPlace bs) fun chain => bs :: chain.filter (· ≠ bs)
    hasTexts := true }

def pushNumber (t : Table) (n : Int) : Table :=
  { t with
    numbers := t.numbers.modify (t.numberPlace n) fun chain => n :: chain.filter (· ≠ n)
    hasNumbers := true }

/-- The table with as many chains again, if it has become too full. -/
def grown (t : Table) : Table :=
  if t.size ≤ t.width * chainLimit then t
  else
    let wide := { t with width := 2 * t.width }
    let spread {α : Type} (place : α → Nat) (chains : Array (List α)) : Array (List α) :=
      (Array.range wide.width).map fun i =>
        ((chains[i % t.width]?).getD []).filter fun k => place k = i
    { wide with
      texts := spread wide.textPlace t.texts
      numbers := spread wide.numberPlace t.numbers }

def chained (t : Table) : Table :=
  match t.parts with
  | none => t
  | some n =>
    (List.range n).foldl (fun (t : Table) (i : Nat) => t.pushNumber (i + 1))
      { t with parts := none }.grown

def withTexts (t : Table) : Table :=
  let t := t.chained
  if t.hasTexts ∨ !t.hasNumbers then { t with hasTexts := true }
  else
    t.numbers.foldl
      (fun t chain => chain.foldl (fun t n => t.pushText (keyText n)) t) { t with hasTexts := true }

/-- Looks a text up, and adds it if that is wanted; it comes to the front of its chain. -/
def useText (t : Table) (bs : Bytes) (adds : Bool) : Table :=
  let t := t.withTexts
  if t.values.contains bs then t.pushText bs
  else if adds then ({ t with values := t.values.insert bs .unset }.grown).pushText bs
  else t

def useNumber (t : Table) (n : Int) (adds : Bool) : Table :=
  match t.parts with
  | some count =>
    if 1 ≤ n ∧ n ≤ count then t
    else if adds then add t.chained
    else t
  | none => if adds ∨ t.values.contains (keyText n) then add t else t
where
  add (t : Table) : Table :=
    let key := keyText n
    if ((t.numbers[t.numberPlace n]?).getD []).contains n then t.pushNumber n
    else if t.hasTexts then (t.useText key true).pushNumber n
    else if t.values.contains key then t.pushNumber n
    else ({ t with values := t.values.insert key .unset }.grown).pushNumber n

def use (t : Table) (k : Key) (adds : Bool) : Table :=
  match k with
  | .number n => t.useNumber n adds
  | .text bs => t.useText bs adds

def textOf : Key → Bytes
  | .number n => keyText n
  | .text bs => bs

def contains (t : Table) (k : Key) : Bool := t.values.contains (textOf k)

def get (t : Table) (k : Key) : Value := (t.values.get? (textOf k)).getD .unset

def set (t : Table) (k : Key) (v : Value) : Table :=
  let t := t.use k true
  { t with values := t.values.insert (textOf k) v }

def erase (t : Table) (k : Key) : Table :=
  let t := t.chained
  let key := textOf k
  let values := t.values.erase key
  if values.isEmpty then empty
  else
    { t with
      values
      texts := t.texts.modify (t.textPlace key) (·.filter (· ≠ key))
      numbers := t.numbers.map fun chain => chain.filter fun n => keyText n ≠ key }

def ofParts (vs : List Value) : Table :=
  if vs.isEmpty then empty
  else
    { empty with
      values := (vs.zipIdx 1).foldl (fun m (v, i) => m.insert (keyText i) v) {}
      parts := some vs.length }

def keys (t : Table) : List Bytes := t.withTexts.texts.toList.flatten

end Table

end LspRelay.Rows
