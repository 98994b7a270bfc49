/-
Text of a byte sequence that need not be UTF-8. Each longest start of a character that the next byte breaks
off becomes one replacement character, and reading goes on at the byte that broke it.
-/
namespace Sql.Text.Utf8

/-- Stands where bytes are no character. -/
def replacement : Char := '\uFFFD'

/-- A character under way: the bits read so far, the bytes still owed, and the range of the next one. -/
structure Pending where
  bits : Nat
  owed : Nat
  low : Nat := 0x80
  high : Nat := 0xBF

/-- What a byte starts. -/
inductive Lead where
  | char (c : Char)
  | pending (p : Pending)
  | invalid

/-- Overlong forms, surrogates and code points past U+10FFFF are kept out by the range of the second byte. -/
def lead (b : Nat) : Lead :=
  if b < 0x80 then .char (Char.ofNat b)
  else if b < 0xC2 then .invalid
  else if b ≤ 0xDF then .pending ⟨b - 0xC0, 1, 0x80, 0xBF⟩
  else if b = 0xE0 then .pending ⟨0, 2, 0xA0, 0xBF⟩
  else if b = 0xED then .pending ⟨0xD, 2, 0x80, 0x9F⟩
  else if b ≤ 0xEF then .pending ⟨b - 0xE0, 2, 0x80, 0xBF⟩
  else if b = 0xF0 then .pending ⟨0, 3, 0x90, 0xBF⟩
  else if b ≤ 0xF3 then .pending ⟨b - 0xF0, 3, 0x80, 0xBF⟩
  else if b = 0xF4 then .pending ⟨4, 3, 0x80, 0x8F⟩
  else .invalid

/-- The characters a first byte gives at once, and the character it leaves under way. -/
def begin (b : Nat) : List Char × Option Pending :=
  match lead b with
  | .char c => ([c], none)
  | .pending p => ([], some p)
  | .invalid => ([replacement], none)

/-- The characters one byte gives, and the character it leaves under way. -/
def step : Option Pending → Nat → List Char × Option Pending
  | none, b => begin b
  | some p, b =>
    if p.low ≤ b ∧ b ≤ p.high then
      let bits := p.bits * 64 + (b - 0x80)
      if p.owed ≤ 1 then ([Char.ofNat bits], none) else ([], some ⟨bits, p.owed - 1, 0x80, 0xBF⟩)
    else
      let (cs, next) := begin b
      (replacement :: cs, next)

/-- The characters of the bytes that are left; a character under way at the end is broken off. -/
def decodeFrom : Option Pending → List UInt8 → List Char
  | none, [] => []
  | some _, [] => [replacement]
  | state, b :: bs =>
    let (cs, next) := step state b.toNat
    cs ++ decodeFrom next bs

/-- The text of a byte sequence, with replacement characters where it is not UTF-8. -/
def decode (bytes : List UInt8) : String :=
  String.ofList (decodeFrom none bytes)

end Sql.Text.Utf8
