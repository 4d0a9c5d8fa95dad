/-!
# Base 64

Bytes as text in the alphabet of 64 characters, four characters for three bytes. Reading skips every
character outside the alphabet and stops at complete padding; writing breaks lines after 76
characters.
-/

namespace SqlPrep.Text.Base64

/-- The alphabet, in the order of the values. -/
def alphabet : List Char :=
  "ABCDEFGHIJKLMNOPQRSTUVWXYZabcdefghijklmnopqrstuvwxyz0123456789+/".toList

/-- The value of a character of the alphabet. -/
def value? (c : Char) : Option Nat :=
  alphabet.idxOf? c

/-- What has been read of a group of four characters: how many, the bits that no byte holds yet, and
how much padding followed the last of them. -/
structure Group where
  count : Nat := 0
  bits : Nat := 0
  padding : Nat := 0

/-- Reads one character of the alphabet: the byte that it completes, if any, and the group then. -/
def Group.step (g : Group) (v : Nat) : List UInt8 × Group :=
  match g.count with
  | 0 => ([], ⟨1, v, 0⟩)
  | 1 => ([UInt8.ofNat (g.bits * 4 + v / 16)], ⟨2, v % 16, 0⟩)
  | 2 => ([UInt8.ofNat (g.bits * 16 + v / 4)], ⟨3, v % 4, 0⟩)
  | _ => ([UInt8.ofNat (g.bits * 64 + v)], ⟨0, 0, 0⟩)

/-- The bytes of a text from within a group, if its last group is complete or padded. -/
def decodeFrom (g : Group) : List Char → Option (List UInt8)
  | [] => if g.count = 0 then some [] else none
  | c :: rest =>
    if c = '=' then
      if g.count < 2 then decodeFrom g rest
      else if 4 ≤ g.count + g.padding + 1 then some []
      else decodeFrom { g with padding := g.padding + 1 } rest
    else
      match value? c with
      | none => decodeFrom g rest
      | some v =>
        let (bytes, g) := g.step v
        (decodeFrom g rest).map (bytes ++ ·)

/-- The bytes that a text stands for. -/
def decode (cs : List Char) : Option (List UInt8) :=
  decodeFrom {} cs

/-- The character of a value. -/
def charOf (v : Nat) : Char :=
  (alphabet[v % 64]?).getD 'A'

/-- The characters of bytes, padded to groups of four. -/
def characters : List UInt8 → List Char
  | [] => []
  | [a] => [charOf (a.toNat / 4), charOf (a.toNat % 4 * 16), '=', '=']
  | [a, b] =>
    [charOf (a.toNat / 4), charOf (a.toNat % 4 * 16 + b.toNat / 16), charOf (b.toNat % 16 * 4), '=']
  | a :: b :: c :: rest =>
    [charOf (a.toNat / 4), charOf (a.toNat % 4 * 16 + b.toNat / 16),
      charOf (b.toNat % 16 * 4 + c.toNat / 64), charOf (c.toNat % 64)] ++ characters rest

/-- The bytes of one line. -/
def lineBytes : Nat := 57

/-- The lines of a text of bytes, each with its line feed. -/
def lines : Nat → List UInt8 → List Char
  | 0, _ => []
  | fuel + 1, bytes =>
    if bytes.isEmpty then []
    else characters (bytes.take lineBytes) ++ ['\n'] ++ lines fuel (bytes.drop lineBytes)

/-- The text of bytes, in lines. -/
def encode (bytes : List UInt8) : List Char :=
  lines bytes.length bytes

end SqlPrep.Text.Base64
