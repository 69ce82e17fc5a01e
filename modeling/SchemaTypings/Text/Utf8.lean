/-! # Bytes as text

Every list of bytes is shown as text.  Where the bytes are no UTF-8, each longest run that starts a
character and does not finish it, or else each single byte, shows as the replacement character.
-/
namespace SchemaTypings
namespace Text
namespace Utf8

/-- What the first byte of a character announces. -/
structure Lead where
  /-- The part of the character's number that the byte holds. -/
  high : Nat
  /-- How many bytes follow. -/
  more : Nat
  /-- The least and the greatest byte that may come next. -/
  least : Nat := 0x80
  greatest : Nat := 0xBF

/-- What a byte announces, if it can start a character beyond ASCII. -/
def lead? (b : Nat) : Option Lead :=
  if 0xC2 ≤ b ∧ b ≤ 0xDF then some { high := b - 0xC0, more := 1 }
  else if b = 0xE0 then some { high := 0, more := 2, least := 0xA0 }
  else if b = 0xED then some { high := 0xD, more := 2, greatest := 0x9F }
  else if 0xE1 ≤ b ∧ b ≤ 0xEF then some { high := b - 0xE0, more := 2 }
  else if b = 0xF0 then some { high := 0, more := 3, least := 0x90 }
  else if 0xF1 ≤ b ∧ b ≤ 0xF3 then some { high := b - 0xF0, more := 3 }
  else if b = 0xF4 then some { high := 4, more := 3, greatest := 0x8F }
  else none

/-- The bytes that continue a character, as far as they do. -/
def Lead.following (l : Lead) : List UInt8 → List UInt8
  | [] => []
  | b :: rest =>
    if l.least ≤ b.toNat ∧ b.toNat ≤ l.greatest then
      b :: (rest.take (l.more - 1)).takeWhile fun c => 0x80 ≤ c.toNat ∧ c.toNat ≤ 0xBF
    else []

/-- The character that a first byte and the bytes that continue it stand for. -/
def Lead.char (l : Lead) (following : List UInt8) : Char :=
  if following.length = l.more then
    Char.ofNat (following.foldl (fun n b => n * 64 + (b.toNat - 0x80)) l.high)
  else '\uFFFD'

/-- **The text that bytes show as.** -/
def shown : List UInt8 → List Char
  | [] => []
  | b :: rest =>
    if b.toNat < 0x80 then Char.ofNat b.toNat :: shown rest
    else match lead? b.toNat with
      | none => '\uFFFD' :: shown rest
      | some l => l.char (l.following rest) :: shown (rest.drop (l.following rest).length)
termination_by bytes => bytes.length

/-- Bytes below 128 are the characters of those numbers. -/
theorem shown_ascii {bytes : List UInt8} (h : ∀ b ∈ bytes, b.toNat < 0x80) :
    shown bytes = bytes.map fun b => Char.ofNat b.toNat := by
  induction bytes with
  | nil => simp [shown]
  | cons b rest ih =>
    rw [List.forall_mem_cons] at h
    simp [shown, h.1, ih h.2]

end Utf8
end Text
end SchemaTypings
