/-!
# Bytes as text

A file holds bytes. They are text when they are well-formed UTF-8; the output of
a process is made text by writing U+FFFD for each ill-formed stretch, where a
stretch is the longest beginning of a character that the bytes keep to.
-/

namespace MemoryKeeper.Text

/-- The text that a byte sequence encodes, if it is well-formed UTF-8. -/
def decode? (bytes : ByteArray) : Option String :=
  if valid : bytes.IsValidUTF8 then some (String.ofByteArray bytes valid) else none

def encode (text : String) : ByteArray :=
  text.toByteArray

@[simp]
theorem decode?_encode (text : String) : decode? (encode text) = some text := by
  simp [decode?, encode, text.isValidUTF8]

theorem encode_of_decode? {bytes : ByteArray} {text : String}
    (decoded : decode? bytes = some text) : encode text = bytes := by
  unfold decode? at decoded
  split at decoded
  · injection decoded with equal
    subst equal
    rfl
  · contradiction

/-- Octets that continue a character. -/
def isContinuation (octet : UInt8) : Bool :=
  0x80 ≤ octet && octet ≤ 0xBF

/-- The least and the greatest octet that may follow the first octet of a character. -/
def secondOctets (first : UInt8) : UInt8 × UInt8 :=
  if first == 0xE0 then (0xA0, 0xBF)
  else if first == 0xED then (0x80, 0x9F)
  else if first == 0xF0 then (0x90, 0xBF)
  else if first == 0xF4 then (0x80, 0x8F)
  else (0x80, 0xBF)

/-- The mark that stands for an ill-formed stretch. -/
def replacement : Char := '\uFFFD'

/-- The code point that the payload bits of a character's octets spell. -/
def assemble (leading : Nat) (continuations : List UInt8) : Char :=
  Char.ofNat (continuations.foldl (fun value octet => value * 64 + octet.toNat % 64) leading)

/-- Whether an octet may stand second in a character that starts with the given one. -/
def isSecond (first octet : UInt8) : Bool :=
  (secondOctets first).1 ≤ octet && octet ≤ (secondOctets first).2

/-- The characters of a byte sequence, with the mark for each ill-formed stretch. -/
def lenient : List UInt8 → List Char
  | [] => []
  | first :: rest =>
    if first < 0x80 then Char.ofNat first.toNat :: lenient rest
    else if first < 0xC2 || 0xF4 < first then replacement :: lenient rest
    else
      match rest with
      | [] => [replacement]
      | second :: tail =>
        if !isSecond first second then replacement :: lenient (second :: tail)
        else if first < 0xE0 then assemble (first.toNat % 32) [second] :: lenient tail
        else
          match tail with
          | [] => [replacement]
          | third :: tail =>
            if !isContinuation third then replacement :: lenient (third :: tail)
            else if first < 0xF0 then assemble (first.toNat % 16) [second, third] :: lenient tail
            else
              match tail with
              | [] => [replacement]
              | fourth :: tail =>
                if !isContinuation fourth then replacement :: lenient (fourth :: tail)
                else assemble (first.toNat % 8) [second, third, fourth] :: lenient tail

/-- The text of a byte sequence: exact if it is well-formed, marked where it is not. -/
def decodeLenient (bytes : ByteArray) : String :=
  (decode? bytes).getD (String.ofList (lenient bytes.toList))

end MemoryKeeper.Text
