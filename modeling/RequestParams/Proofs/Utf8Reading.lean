import Mathlib.Tactic.SplitIfs
import RequestParams.Text.Utf8

set_option autoImplicit false
set_option relaxedAutoImplicit false

/-!
Reading back what a text was written as.  The bytes of a character lead from the start of the
reader to its start again, with that one character read.
-/

namespace RequestParams.Text.Utf8

variable {byte low high : UInt8} {bits : Nat}

private theorem toNat_ofNat {n : Nat} (bound : n < 256) : (UInt8.ofNat n).toNat = n :=
  UInt8.toNat_ofNat_of_lt' bound

private theorem decodeFrom_of_feed {pending next : Pending} {ended : List Char}
    (fed : feed pending byte = (ended, next)) (rest : List UInt8) :
    decodeFrom pending (byte :: rest) = ended ++ decodeFrom next rest := by
  cases pending <;> simp [decodeFrom, fed]

private theorem decodeFrom_single (small : byte.toNat < 0x80) (rest : List UInt8) :
    decodeFrom .start (byte :: rest) = Char.ofNat byte.toNat :: decodeFrom .start rest := by
  have fed : feed .start byte = ([Char.ofNat byte.toNat], .start) := by
    simp [feed, begin, UInt8.lt_iff_toNat_lt, small]
  exact decodeFrom_of_feed fed rest

private theorem decodeFrom_lead_two (value : byte.toNat = bits + 0xc0) (two : 2 ≤ bits)
    (bound : bits < 0x20) (rest : List UInt8) :
    decodeFrom .start (byte :: rest) = decodeFrom (.within 1 0x80 0xbf bits) rest := by
  have fed : feed .start byte = ([], .within 1 0x80 0xbf bits) := by
    simp [feed, begin, UInt8.lt_iff_toNat_lt, value, show ¬bits + 192 < 128 by omega,
      show ¬bits + 192 < 194 by omega, show bits + 192 < 224 by omega]
  exact decodeFrom_of_feed fed rest

private theorem decodeFrom_lead_three (value : byte.toNat = bits + 0xe0) (bound : bits < 0x10)
    (rest : List UInt8) :
    decodeFrom .start (byte :: rest) =
      decodeFrom (.within 2 (if bits = 0 then 0xa0 else 0x80) (if bits = 0xd then 0x9f else 0xbf)
        bits) rest := by
  have fed : feed .start byte = ([], .within 2 (if bits = 0 then 0xa0 else 0x80)
      (if bits = 0xd then 0x9f else 0xbf) bits) := by
    simp [feed, begin, UInt8.lt_iff_toNat_lt, ← UInt8.toNat_inj, value,
      show ¬bits + 224 < 128 by omega, show ¬bits + 224 < 194 by omega,
      show bits + 224 < 240 by omega]
  exact decodeFrom_of_feed fed rest

private theorem decodeFrom_lead_four (value : byte.toNat = bits + 0xf0) (bound : bits < 5)
    (rest : List UInt8) :
    decodeFrom .start (byte :: rest) =
      decodeFrom (.within 3 (if bits = 0 then 0x90 else 0x80) (if bits = 4 then 0x8f else 0xbf)
        bits) rest := by
  have fed : feed .start byte = ([], .within 3 (if bits = 0 then 0x90 else 0x80)
      (if bits = 4 then 0x8f else 0xbf) bits) := by
    simp [feed, begin, UInt8.lt_iff_toNat_lt, ← UInt8.toNat_inj, value,
      show ¬bits + 240 < 128 by omega, show ¬bits + 240 < 194 by omega,
      show ¬bits + 240 < 224 by omega, show bits + 240 < 245 by omega]
  exact decodeFrom_of_feed fed rest

private theorem decodeFrom_more {missing tail : Nat} (value : byte.toNat = tail + 0x80)
    (above : low.toNat ≤ tail + 0x80) (below : tail + 0x80 ≤ high.toNat) (rest : List UInt8) :
    decodeFrom (.within (missing + 2) low high bits) (byte :: rest) =
      decodeFrom (.within (missing + 1) 0x80 0xbf (bits * 64 + tail)) rest := by
  have fed : feed (.within (missing + 2) low high bits) byte =
      ([], .within (missing + 1) 0x80 0xbf (bits * 64 + tail)) := by
    simp [feed, UInt8.le_iff_toNat_le, value, above, below]
  exact decodeFrom_of_feed fed rest

private theorem decodeFrom_last {tail : Nat} (value : byte.toNat = tail + 0x80)
    (bound : tail < 0x40) (rest : List UInt8) :
    decodeFrom (.within 1 0x80 0xbf bits) (byte :: rest) =
      Char.ofNat (bits * 64 + tail) :: decodeFrom .start rest := by
  have fed : feed (.within 1 0x80 0xbf bits) byte =
      ([Char.ofNat (bits * 64 + tail)], .start) := by
    simp [feed, UInt8.le_iff_toNat_le, value, show tail + 128 ≤ 191 by omega]
  exact decodeFrom_of_feed fed rest

theorem decodeFrom_utf8EncodeChar (c : Char) (rest : List UInt8) :
    decodeFrom .start (String.utf8EncodeChar c ++ rest) = c :: decodeFrom .start rest := by
  have scalar : c.toNat < 0xd800 ∨ 0xdfff < c.toNat ∧ c.toNat < 0x110000 := c.valid
  have same : Char.ofNat c.toNat = c := Char.ofNat_toNat c
  have code : c.val.toNat = c.toNat := rfl
  unfold String.utf8EncodeChar
  simp only [code]
  split_ifs with one two three <;> simp only [List.cons_append, List.nil_append]
  · have value := toNat_ofNat (show c.toNat < 256 by omega)
    rw [decodeFrom_single (by omega), value, same]
  · rw [decodeFrom_lead_two (toNat_ofNat (by omega)) (by omega) (by omega),
      decodeFrom_last (toNat_ofNat (by omega)) (by omega),
      show c.toNat / 64 % 32 * 64 + c.toNat % 64 = c.toNat by omega, same]
  · rw [decodeFrom_lead_three (toNat_ofNat (by omega)) (by omega),
      decodeFrom_more (toNat_ofNat (by omega)) (by split_ifs <;> simp; omega)
        (by split_ifs <;> simp <;> omega),
      decodeFrom_last (toNat_ofNat (by omega)) (by omega),
      show (c.toNat / 4096 % 16 * 64 + c.toNat / 64 % 64) * 64 + c.toNat % 64 = c.toNat by omega,
      same]
  · rw [decodeFrom_lead_four (toNat_ofNat (by omega)) (by omega),
      decodeFrom_more (toNat_ofNat (by omega)) (by split_ifs <;> simp; omega)
        (by split_ifs <;> simp <;> omega),
      decodeFrom_more (toNat_ofNat (by omega)) (by simp) (by simp; omega),
      decodeFrom_last (toNat_ofNat (by omega)) (by omega),
      show ((c.toNat / 262144 % 8 * 64 + c.toNat / 4096 % 64) * 64 + c.toNat / 64 % 64) * 64 +
        c.toNat % 64 = c.toNat by omega, same]

theorem decode_encode (text : List Char) : decode (encode text) = text := by
  show decodeFrom .start (text.flatMap String.utf8EncodeChar) = text
  induction text with
  | nil => rfl
  | cons c rest ih => rw [List.flatMap_cons, decodeFrom_utf8EncodeChar, ih]

/-- Whether no byte of a single-byte character can follow what is pending. -/
def Pending.BeyondAscii : Pending → Prop
  | .start => True
  | .within _ low _ _ => 0x80 ≤ low

private theorem beyondAscii_begin (byte : UInt8) : (begin byte).2.BeyondAscii := by
  unfold begin
  split_ifs <;> simp [Pending.BeyondAscii]

private theorem beyondAscii_feed {pending : Pending} (beyond : pending.BeyondAscii)
    (byte : UInt8) : (feed pending byte).2.BeyondAscii := by
  cases pending with
  | start => exact beyondAscii_begin byte
  | within missing low high bits =>
    by_cases follows : low ≤ byte ∧ byte ≤ high
    · rw [feed, if_pos follows]
      split <;> simp [Pending.BeyondAscii]
    · rw [feed, if_neg follows]
      exact beyondAscii_begin byte

private theorem decodeFrom_ascii {pending : Pending} (beyond : pending.BeyondAscii)
    (small : byte.toNat < 0x80) (rest : List UInt8) :
    decodeFrom pending (byte :: rest) =
      decodeFrom pending [] ++ Char.ofNat byte.toNat :: decodeFrom .start rest := by
  cases pending with
  | start => exact decodeFrom_single small rest
  | within missing low high bits =>
    have first : begin byte = ([Char.ofNat byte.toNat], .start) := by
      simp [begin, UInt8.lt_iff_toNat_lt, small]
    have follows : ¬(low ≤ byte ∧ byte ≤ high) := by
      simp only [Pending.BeyondAscii, UInt8.le_iff_toNat_le] at beyond ⊢
      have bound : (0x80 : UInt8).toNat = 0x80 := rfl
      omega
    have fed : feed (.within missing low high bits) byte =
        ([replacement, Char.ofNat byte.toNat], .start) := by
      rw [feed, if_neg follows, first]
    rw [decodeFrom_of_feed fed]
    rfl

private theorem decodeFrom_append_ascii {pending : Pending} (beyond : pending.BeyondAscii)
    (before : List UInt8) (small : byte.toNat < 0x80) (behind : List UInt8) :
    decodeFrom pending (before ++ byte :: behind) =
      decodeFrom pending before ++ Char.ofNat byte.toNat :: decodeFrom .start behind := by
  induction before generalizing pending with
  | nil => exact decodeFrom_ascii beyond small behind
  | cons first rest ih =>
    cases fed : feed pending first with
    | mk ended next =>
      have kept : next.BeyondAscii := by simpa [fed] using beyondAscii_feed beyond first
      rw [List.cons_append, decodeFrom_of_feed fed, decodeFrom_of_feed fed, ih kept,
        List.append_assoc]

/-- A byte of a single-byte character ends whatever was pending, so that the bytes on both sides of
it are read apart. -/
theorem decode_append_ascii (before : List UInt8) (small : byte.toNat < 0x80)
    (behind : List UInt8) :
    decode (before ++ byte :: behind) = decode before ++ Char.ofNat byte.toNat :: decode behind :=
  decodeFrom_append_ascii (show Pending.start.BeyondAscii from trivial) before small behind

end RequestParams.Text.Utf8
