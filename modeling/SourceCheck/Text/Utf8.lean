/-!
UTF-8: the characters that bytes stand for, or the offset of the first byte that is not part of a
well-formed sequence.
-/

namespace SourceCheck.Text.Utf8

def continuation? (b : UInt8) : Option Nat :=
  if 0x80 ≤ b.toNat ∧ b.toNat < 0xC0 then some (b.toNat - 0x80) else none

def extend (n : Nat) (b : UInt8) : Option Nat := (continuation? b).map (64 * n + ·)

/-- The character of a sequence whose first byte carries `lead` and that goes on for `length` bytes.
Code points below `least` have shorter sequences. -/
def sequence? (lead length least : Nat) (rest : List UInt8) : Option (Char × Nat) := do
  let following := rest.take length
  if following.length < length then none
  let n ← following.foldlM extend lead
  if h : n.isValidChar then
    if n < least then none else some (Char.ofNatAux n h, length)
  else none

def first? (b : UInt8) (rest : List UInt8) : Option (Char × Nat) :=
  let n := b.toNat
  if n < 0x80 then sequence? n 0 0 rest
  else if n < 0xC0 then none
  else if n < 0xE0 then sequence? (n - 0xC0) 1 0x80 rest
  else if n < 0xF0 then sequence? (n - 0xE0) 2 0x800 rest
  else if n < 0xF8 then sequence? (n - 0xF0) 3 0x10000 rest
  else none

/-- Decodes the bytes behind the first `skip`, which belong to a sequence already read. -/
def decodeFrom (offset : Nat) : Nat → List UInt8 → Except Nat (List Char)
  | _, [] => .ok []
  | skip + 1, _ :: rest => decodeFrom (offset + 1) skip rest
  | 0, b :: rest =>
    match first? b rest with
    | none => .error offset
    | some (c, length) => (decodeFrom (offset + 1) length rest).map (c :: ·)

def decode (bytes : List UInt8) : Except Nat String := (decodeFrom 0 0 bytes).map String.ofList

end SourceCheck.Text.Utf8
