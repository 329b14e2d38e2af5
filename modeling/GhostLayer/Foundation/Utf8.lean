import GhostLayer.Foundation.Bytes

/-! # Texts out of any bytes

A reader of UTF-8 that never fails: what is no character, up to the byte that shows
it, is read as one replacement character. The bytes of a text are read back as that
text.
-/

namespace Foundation

namespace Utf8

def replacementCharacter : Char := Char.ofNat 0xFFFD

/-- A character that is not over: the bits that are known, and between which bytes each of the next
ones has to be. -/
structure Pending where
  value : Nat
  bounds : List (Nat × Nat)

def continuation : Nat × Nat := (0x80, 0xBF)

/-- Between which bytes the second of three has to be: no character is written longer than it must
be, and no surrogate is written. -/
def secondOfThree (byte : Nat) : Nat × Nat :=
  if byte = 0xE0 then (0xA0, 0xBF) else if byte = 0xED then (0x80, 0x9F) else continuation

/-- The same for four bytes, and no value above the last character. -/
def secondOfFour (byte : Nat) : Nat × Nat :=
  if byte = 0xF0 then (0x90, 0xBF) else if byte = 0xF4 then (0x80, 0x8F) else continuation

/-- What a byte begins. -/
def first (byte : Nat) : List Char × Option Pending :=
  if byte < 0x80 then ([Char.ofNat byte], none)
  else if byte < 0xC2 then ([replacementCharacter], none)
  else if byte < 0xE0 then ([], some ⟨byte % 32, [continuation]⟩)
  else if byte < 0xF0 then ([], some ⟨byte % 16, [secondOfThree byte, continuation]⟩)
  else if byte < 0xF5 then ([], some ⟨byte % 8, [secondOfFour byte, continuation, continuation]⟩)
  else ([replacementCharacter], none)

/-- A byte that is none of the next ones begins something itself. -/
def next (pending : Option Pending) (byte : Nat) : List Char × Option Pending :=
  match pending with
  | some ⟨value, (low, high) :: bounds⟩ =>
      if low ≤ byte ∧ byte ≤ high then
        match bounds with
        | [] => ([Char.ofNat (value * 64 + byte % 64)], none)
        | _ :: _ => ([], some ⟨value * 64 + byte % 64, bounds⟩)
      else (replacementCharacter :: (first byte).1, (first byte).2)
  | _ => first byte

def decode : Option Pending → Bytes → List Char
  | none, [] => []
  | some _, [] => [replacementCharacter]
  | pending, byte :: rest =>
      (next pending byte.toNat).1 ++ decode (next pending byte.toNat).2 rest

def fromUtf8Lossy (bytes : Bytes) : String := .ofList (decode none bytes)

theorem decode_cons (pending : Option Pending) (byte : UInt8) (rest : Bytes) :
    decode pending (byte :: rest) =
      (next pending byte.toNat).1 ++ decode (next pending byte.toNat).2 rest := by
  cases pending <;> rfl

/-- The byte is one of the next ones, and more of them follow. -/
theorem decode_within {value byte : Nat} {bound after : Nat × Nat} {bounds : List (Nat × Nat)}
    (hsmall : byte < 256) (hbound : bound.1 ≤ byte ∧ byte ≤ bound.2) (rest : Bytes) :
    decode (some ⟨value, bound :: after :: bounds⟩) (UInt8.ofNat byte :: rest) =
      decode (some ⟨value * 64 + byte % 64, after :: bounds⟩) rest := by
  have hbyte : (UInt8.ofNat byte).toNat = byte := by
    rw [UInt8.toNat_ofNat', Nat.mod_eq_of_lt hsmall]
  rw [decode_cons, hbyte, next, if_pos hbound]
  rfl

theorem decode_last {value byte : Nat} (hlow : 0x80 ≤ byte) (hhigh : byte ≤ 0xBF) (rest : Bytes) :
    decode (some ⟨value, [continuation]⟩) (UInt8.ofNat byte :: rest) =
      Char.ofNat (value * 64 + byte % 64) :: decode none rest := by
  have hbyte : (UInt8.ofNat byte).toNat = byte := by
    rw [UInt8.toNat_ofNat', Nat.mod_eq_of_lt (by omega)]
  rw [decode_cons, hbyte, continuation, next, if_pos ⟨hlow, hhigh⟩]
  rfl

theorem decode_first {byte : Nat} (hsmall : byte < 256) (rest : Bytes) :
    decode none (UInt8.ofNat byte :: rest) =
      (first byte).1 ++ decode (first byte).2 rest := by
  rw [decode_cons, UInt8.toNat_ofNat', Nat.mod_eq_of_lt hsmall]
  rfl

theorem scalar_value (character : Char) :
    character.toNat < 0xD800 ∨ 0xDFFF < character.toNat ∧ character.toNat < 0x110000 :=
  character.valid

/-- The bytes of a character are read as that character. -/
theorem decode_utf8EncodeChar (character : Char) (rest : Bytes) :
    decode none (String.utf8EncodeChar character ++ rest) = character :: decode none rest := by
  have hscalar := scalar_value character
  have hread : ∀ value, value = character.toNat →
      Char.ofNat value :: decode none rest = character :: decode none rest := by
    rintro value rfl
    rw [Char.ofNat_toNat]
  have hvalue : character.val.toNat = character.toNat := rfl
  simp only [String.utf8EncodeChar, hvalue]
  generalize character.toNat = value at hscalar hread
  split_ifs with hone htwo hthree
  · rw [List.singleton_append, decode_first (by omega), first, if_pos (by omega)]
    exact hread _ rfl
  · have hbegins : first (value / 64 % 32 + 0xC0) =
        ([], some ⟨value / 64, [continuation]⟩) := by
      rw [first, if_neg (by omega), if_neg (by omega), if_pos (by omega)]
      congr 3
      omega
    rw [List.cons_append, List.singleton_append, decode_first (by omega), hbegins,
      List.nil_append, decode_last (by omega) (by omega)]
    exact hread _ (by omega)
  · have hbegins : first (value / 4096 % 16 + 0xE0) =
        ([], some ⟨value / 4096, [secondOfThree (value / 4096 % 16 + 0xE0), continuation]⟩) := by
      rw [first, if_neg (by omega), if_neg (by omega), if_neg (by omega), if_pos (by omega)]
      congr 3
      omega
    have hsecond : (secondOfThree (value / 4096 % 16 + 0xE0)).1 ≤ value / 64 % 64 + 0x80 ∧
        value / 64 % 64 + 0x80 ≤ (secondOfThree (value / 4096 % 16 + 0xE0)).2 := by
      simp only [secondOfThree, continuation]
      split_ifs <;> simp only <;> omega
    rw [List.cons_append, List.cons_append, List.singleton_append, decode_first (by omega),
      hbegins, List.nil_append, decode_within (by omega) hsecond,
      decode_last (by omega) (by omega)]
    exact hread _ (by omega)
  · have hbegins : first (value / 262144 % 8 + 0xF0) = ([], some ⟨value / 262144,
        [secondOfFour (value / 262144 % 8 + 0xF0), continuation, continuation]⟩) := by
      rw [first, if_neg (by omega), if_neg (by omega), if_neg (by omega), if_neg (by omega),
        if_pos (by omega)]
      congr 3
      omega
    have hsecond : (secondOfFour (value / 262144 % 8 + 0xF0)).1 ≤ value / 4096 % 64 + 0x80 ∧
        value / 4096 % 64 + 0x80 ≤ (secondOfFour (value / 262144 % 8 + 0xF0)).2 := by
      simp only [secondOfFour, continuation]
      split_ifs <;> simp only <;> omega
    have hthird : continuation.1 ≤ value / 64 % 64 + 0x80 ∧
        value / 64 % 64 + 0x80 ≤ continuation.2 := by
      simp only [continuation]
      omega
    rw [List.cons_append, List.cons_append, List.cons_append, List.singleton_append,
      decode_first (by omega), hbegins, List.nil_append, decode_within (by omega) hsecond,
      decode_within (by omega) hthird, decode_last (by omega) (by omega)]
    exact hread _ (by omega)

/-- The bytes of a text are read as that text. -/
theorem fromUtf8Lossy_ofText (text : String) : fromUtf8Lossy (Bytes.ofText text) = text := by
  have hbytes : Bytes.ofText text = text.toList.flatMap String.utf8EncodeChar := by
    rw [Bytes.ofText, ← String.utf8Encode_toList, List.utf8Encode, List.data_toByteArray]
  have hread : ∀ characters : List Char,
      decode none (characters.flatMap String.utf8EncodeChar) = characters := by
    intro characters
    induction characters with
    | nil => rfl
    | cons character characters ih => rw [List.flatMap_cons, decode_utf8EncodeChar, ih]
  rw [fromUtf8Lossy, hbytes, hread, String.ofList_toList]

end Utf8

end Foundation
