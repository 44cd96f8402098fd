/-!
# Bytes as text

Bytes that are meant as UTF-8 may break off within a character or hold what no character is written
with. To be read they are taken apart from the left: what starts as a character but does not go on
as one, as far as it does, is replaced as a whole, and so is a single byte that starts nothing.
-/

namespace MiniTemplate.Text

/-- What stands in place of bytes that cannot be read. -/
def replacement : String := "�"

/-- The ranges of the bytes that follow a first byte, if a character can start with it. -/
def followers? (first : UInt8) : Option (List (UInt8 × UInt8)) :=
  let follower : UInt8 × UInt8 := (0x80, 0xBF)
  if first < 0x80 then some []
  else if first < 0xC2 then none
  else if first < 0xE0 then some [follower]
  else if first = 0xE0 then some [(0xA0, 0xBF), follower]
  -- the code points after `ED 9F BF` are surrogates
  else if first = 0xED then some [(0x80, 0x9F), follower]
  else if first < 0xF0 then some [follower, follower]
  else if first = 0xF0 then some [(0x90, 0xBF), follower, follower]
  else if first < 0xF4 then some [follower, follower, follower]
  else if first = 0xF4 then some [(0x80, 0x8F), follower, follower]
  else none

/-- How many bytes at the front are in the ranges, one after the other. -/
def fitting : List (UInt8 × UInt8) → List UInt8 → Nat
  | (low, high) :: ranges, b :: rest =>
    if low ≤ b && b ≤ high then fitting ranges rest + 1 else 0
  | _, _ => 0

/-- The text of bytes after so many of them, with replacements for what cannot be read. -/
def readableAfter : Nat → List UInt8 → String
  | _, [] => ""
  | skipped + 1, _ :: rest => readableAfter skipped rest
  | 0, first :: rest =>
    match followers? first with
    | none => replacement ++ readableAfter 0 rest
    | some ranges =>
      let n := fitting ranges rest
      let char :=
        if n = ranges.length then String.fromUTF8? ⟨(first :: rest.take n).toArray⟩ else none
      char.getD replacement ++ readableAfter n rest

/-- The text of bytes, with replacements for what cannot be read. -/
def readable (bytes : List UInt8) : String := readableAfter 0 bytes

-- a euro sign that lacks its last byte, and a byte that starts nothing
example : readable [0x61, 0xE2, 0x82, 0x2E, 0xFF] = "a�.�" := by decide +kernel
example : readable [0xE2, 0x82, 0xAC, 0xED, 0xA0] = "€��" := by decide +kernel

end MiniTemplate.Text
