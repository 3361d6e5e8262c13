set_option autoImplicit false
set_option relaxedAutoImplicit false

/-!
UTF-8 as bytes.  Reading never fails: each maximal sequence of bytes that no character starts
with is read as one replacement character.
-/

namespace RequestParams.Text.Utf8

def encode (text : List Char) : List UInt8 := text.flatMap String.utf8EncodeChar

def replacement : Char := '\ufffd'

inductive Pending where
  /-- Nothing: the next byte begins a character. -/
  | start
  /-- Some leading bytes: this many more must follow, the next of them within these bounds, and
  the bits so far are these. -/
  | within (missing : Nat) (low high : UInt8) (bits : Nat)
deriving DecidableEq

def begin (byte : UInt8) : List Char × Pending :=
  if byte < 0x80 then ([Char.ofNat byte.toNat], .start)
  else if byte < 0xc2 then ([replacement], .start)
  else if byte < 0xe0 then ([], .within 1 0x80 0xbf (byte.toNat - 0xc0))
  else if byte < 0xf0 then
    let low := if byte = 0xe0 then 0xa0 else 0x80
    let high := if byte = 0xed then 0x9f else 0xbf
    ([], .within 2 low high (byte.toNat - 0xe0))
  else if byte < 0xf5 then
    let low := if byte = 0xf0 then 0x90 else 0x80
    let high := if byte = 0xf4 then 0x8f else 0xbf
    ([], .within 3 low high (byte.toNat - 0xf0))
  else ([replacement], .start)

def feed : Pending → UInt8 → List Char × Pending
  | .start, byte => begin byte
  | .within missing low high bits, byte =>
    if low ≤ byte ∧ byte ≤ high then
      let bits := bits * 64 + (byte.toNat - 0x80)
      match missing with
      | 0 | 1 => ([Char.ofNat bits], .start)
      | missing + 2 => ([], .within (missing + 1) 0x80 0xbf bits)
    else
      let (ended, pending) := begin byte
      (replacement :: ended, pending)

def decodeFrom : Pending → List UInt8 → List Char
  | .start, [] => []
  | .within .., [] => [replacement]
  | pending, byte :: rest =>
    let (ended, pending) := feed pending byte
    ended ++ decodeFrom pending rest

/-- The characters of bytes, with a replacement character for each maximal sequence that is no
beginning of a character. -/
def decode (bytes : List UInt8) : List Char := decodeFrom .start bytes

example : decode [0x61, 0xc3, 0xa9, 0xf0, 0x9f, 0x98, 0x80] = ['a', 'é', '😀'] := by decide

example : decode [0xf0, 0x9f, 0x98, 0x61, 0xed, 0xa0, 0x80] =
    [replacement, 'a', replacement, replacement, replacement] := by decide

example : decode [0xe2, 0x82] = [replacement] := by decide

end RequestParams.Text.Utf8
