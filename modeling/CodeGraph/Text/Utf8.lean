/-!
This file turns bytes into texts and back. A text that is read piece by piece may end in the middle
of a character.
-/

namespace CodeGraph.Utf8

def encode (text : List Char) : ByteArray := (String.ofList text).toUTF8

/-- The text of bytes, if they follow the encoding. -/
def decode? (bytes : ByteArray) : Option (List Char) := (String.fromUTF8? bytes).map String.toList

theorem decode?_encode (text : List Char) : decode? (encode text) = some text := by
  have valid : (String.ofList text).toUTF8.IsValidUTF8 := (String.ofList text).isValidUTF8
  have back : String.fromUTF8 (String.ofList text).toUTF8 valid = String.ofList text := rfl
  rw [decode?, encode, String.fromUTF8?, dif_pos valid, back]
  simp

def isContinuation (byte : UInt8) : Bool := 0x80 ≤ byte && byte < 0xC0

/-- The number of bytes of a character that begins with a byte; none begins with a continuation. -/
def announced (first : UInt8) : Nat :=
  if first < 0x80 then 1
  else if first < 0xC2 then 0
  else if first < 0xE0 then 2
  else if first < 0xF0 then 3
  else if first < 0xF5 then 4
  else 0

/-- The second byte of a character may not make it too short, too large or half a pair. -/
def allowsSecond (first second : UInt8) : Bool :=
  isContinuation second && !(first == 0xE0 && second < 0xA0) && !(first == 0xED && 0xA0 ≤ second) &&
    !(first == 0xF0 && second < 0x90) && !(first == 0xF4 && 0x90 ≤ second)

/-- The bytes begin a character and lack its end. -/
def isCutShort : List UInt8 → Bool
  | [] => false
  | [first] => 1 < announced first
  | first :: second :: rest =>
      rest.length + 2 < announced first && allowsSecond first second && rest.all isContinuation

/-- The text of bytes without so many of them at the end, which must begin a character. -/
def decodeWithout? (bytes : ByteArray) (tail : Nat) : Option (List Char) :=
  let cut := bytes.size - tail
  if tail = 0 ∨ isCutShort (bytes.extract cut bytes.size).toList then
    decode? (bytes.extract 0 cut)
  else none

/-- The text of bytes up to a character that is cut short at the end. -/
def decodeStart? (bytes : ByteArray) : Option (List Char) :=
  (List.range (min 4 (bytes.size + 1))).findSome? (decodeWithout? bytes)

end CodeGraph.Utf8
