import Conclave.Power

/-!
# Bytes and text

A body is a list of bytes. A text is sent as its UTF-8 bytes; `Bytes.text?` reads bytes back as
a text when they are valid UTF-8, and `text?_ofText` says that nothing is lost. `Bytes.repaired`
reads any bytes as a text, with a replacement character for every part that is not valid.
-/

namespace Conclave

abbrev Bytes := List UInt8

namespace Bytes

def ofText (s : String) : Bytes := s.toByteArray.data.toList

/-- The text that the bytes are the UTF-8 form of, if they are valid. -/
def text? (b : Bytes) : Option String := String.fromUTF8? ⟨b.toArray⟩

/-- The text in ASCII that a list of ASCII bytes spells. -/
def ascii (b : Bytes) : String := String.ofList (b.map fun x => Char.ofNat x.toNat)

/-- The number of bytes that follow the first byte of a character beyond ASCII, and the range of the
first one of them. -/
def following? (b : UInt8) : Option (Nat × UInt8 × UInt8) :=
  if 0xc2 ≤ b ∧ b ≤ 0xdf then some (1, 0x80, 0xbf)
  else if b = 0xe0 then some (2, 0xa0, 0xbf)
  else if b = 0xed then some (2, 0x80, 0x9f)
  else if 0xe1 ≤ b ∧ b ≤ 0xef then some (2, 0x80, 0xbf)
  else if b = 0xf0 then some (3, 0x90, 0xbf)
  else if 0xf1 ≤ b ∧ b ≤ 0xf3 then some (3, 0x80, 0xbf)
  else if b = 0xf4 then some (3, 0x80, 0x8f)
  else none

/-- The bytes at the front that can follow a first byte, at most as many as have to. -/
def continuation (count : Nat) (least most : UInt8) : Bytes → Bytes
  | [] => []
  | b :: r =>
    if least ≤ b ∧ b ≤ most then b :: (r.takeWhile fun x => 0x80 ≤ x && x ≤ 0xbf).take (count - 1)
    else []

/-- The code point of a first byte and the bytes that follow it. -/
def codePoint (b : UInt8) (rest : Bytes) : Nat :=
  rest.foldl (fun n x => 64 * n + x.toNat % 64) (b.toNat % twoTo (6 - rest.length))

/-- The characters of bytes. Every longest part that begins a character but does not make one is a
replacement character. -/
def repairedChars : Bytes → List Char
  | [] => []
  | b :: r =>
    if b < 0x80 then Char.ofNat b.toNat :: repairedChars r
    else
      match following? b with
      | none => '\ufffd' :: repairedChars r
      | some (count, least, most) =>
        let rest := continuation count least most r
        (if rest.length = count then Char.ofNat (codePoint b rest) else '\ufffd')
          :: repairedChars (r.drop rest.length)
termination_by b => b.length
decreasing_by
  · exact Nat.lt_succ_self _
  · exact Nat.lt_succ_self _
  · rw [List.length_drop]
    exact Nat.lt_succ_of_le (Nat.sub_le ..)

/-- The text of bytes, with replacement characters in the place of what is not valid. -/
def repaired (b : Bytes) : String := String.ofList (repairedChars b)

theorem text?_ofText (s : String) : text? (ofText s) = some s := by
  have h : (⟨(s.toByteArray.data.toList).toArray⟩ : ByteArray) = s.toByteArray := by simp
  unfold text? ofText
  rw [h]
  simp only [String.fromUTF8?, s.isValidUTF8, dite_true]
  rfl

/-- Bytes that read as a text are the bytes of that text. -/
theorem ofText_of_text? {b : Bytes} {s : String} (h : text? b = some s) : ofText s = b := by
  unfold text? at h
  simp only [String.fromUTF8?] at h
  split at h
  · simp only [Option.some.injEq] at h
    subst h
    simp [ofText, String.fromUTF8]
  · cases h

end Bytes

end Conclave
