/-!
# Reading bytes as text

A byte sequence that is UTF-8 is read as itself. In any other, each maximal part that could begin a
character but does not go on as one is shown as U+FFFD, as is each byte that begins none.
-/

namespace PageTemplates.Text

/-- The bytes that may come second after the first byte `b` of a character, and how many bytes
follow the first one. -/
def continuation? (b : UInt8) : Option (UInt8 × UInt8 × Nat) :=
  if 0xC2 ≤ b && b ≤ 0xDF then some (0x80, 0xBF, 1)
  else if b == 0xE0 then some (0xA0, 0xBF, 2)
  else if b == 0xED then some (0x80, 0x9F, 2)
  else if 0xE1 ≤ b && b ≤ 0xEF then some (0x80, 0xBF, 2)
  else if b == 0xF0 then some (0x90, 0xBF, 3)
  else if 0xF1 ≤ b && b ≤ 0xF3 then some (0x80, 0xBF, 3)
  else if b == 0xF4 then some (0x80, 0x8F, 3)
  else none

/-- Reads up to `owed` bytes between `low` and `high`, later ones between 0x80 and 0xBF, onto the
bits in `acc`. The result is the character, if all were there, and how many bytes were read. -/
def readTail : Nat → UInt8 → UInt8 → Nat → List UInt8 → Option Char × Nat
  | 0, _, _, acc, _ => (some (Char.ofNat acc), 0)
  | _ + 1, _, _, _, [] => (none, 0)
  | owed + 1, low, high, acc, b :: rest =>
    if low ≤ b && b ≤ high then
      let (c?, read) := readTail owed 0x80 0xBF (acc * 64 + (b.toNat - 0x80)) rest
      (c?, read + 1)
    else (none, 0)

/-- The first character of a byte sequence, or U+FFFD, and how many bytes after the first it takes. -/
def readChar (b : UInt8) (rest : List UInt8) : Char × Nat :=
  if b < 0x80 then (Char.ofNat b.toNat, 0)
  else match continuation? b with
    | none => ('\uFFFD', 0)
    | some (low, high, owed) =>
      let leadBits := b.toNat % (if owed == 1 then 32 else if owed == 2 then 16 else 8)
      let (c?, read) := readTail owed low high leadBits rest
      (c?.getD '\uFFFD', read)

/-- The characters of a byte sequence. The number counts bytes that belong to the character read
last. -/
def readChars : Nat → List UInt8 → List Char
  | _, [] => []
  | skip + 1, _ :: rest => readChars skip rest
  | 0, b :: rest =>
    let (c, taken) := readChar b rest
    c :: readChars taken rest

/-- The text of a byte sequence that is UTF-8. -/
def ofUtf8? (bytes : ByteArray) : Option String := String.fromUTF8? bytes

/-- The text of a byte sequence, U+FFFD standing for what is not UTF-8. -/
def ofUtf8Lossy (bytes : ByteArray) : String :=
  match ofUtf8? bytes with
  | some s => s
  | none => String.ofList (readChars 0 bytes.toList)

end PageTemplates.Text
