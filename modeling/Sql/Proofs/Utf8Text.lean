/-
Bytes that are UTF-8, and bytes that are not.

The decoder reads the encoding of a text as this text (`decodeFrom_encode`). Where it shows no replacement character it has
read an encoding, and from what it has read the bytes can be had back (`encode_decodeFrom_states`).
-/
import Mathlib.Data.List.Lex
import Sql.Text.Utf8

namespace Sql.Text.Utf8

/-- The bytes of a text. -/
def encode (cs : List Char) : List UInt8 := cs.flatMap String.utf8EncodeChar

theorem encode_cons (c : Char) (cs : List Char) : encode (c :: cs) = String.utf8EncodeChar c ++ encode cs :=
  List.flatMap_cons

theorem encode_append (cs ds : List Char) : encode (cs ++ ds) = encode cs ++ encode ds :=
  List.flatMap_append

/-! ## Characters under way -/

/-- The bits read so far and six more. -/
def addBits (bits : Nat) (b : UInt8) : Nat := bits * 64 + (b.toNat - 0x80)

theorem addBits_eq (bits : Nat) (b : UInt8) : addBits bits b = bits * 64 + (b.toNat - 0x80) := by
  unfold addBits
  exact Eq.refl _

/-- The code point of the bits read so far and the bytes that complete them. -/
def assemble (bits : Nat) (tail : List UInt8) : Nat := tail.foldl addBits bits

theorem assemble_nil (bits : Nat) : assemble bits [] = bits := rfl

theorem assemble_cons (bits : Nat) (b : UInt8) (tail : List UInt8) :
    assemble bits (b :: tail) = assemble (bits * 64 + (b.toNat - 0x80)) tail := by
  rw [← addBits_eq, assemble, assemble, List.foldl_cons]

namespace Pending

/-- Bytes that complete a character under way: as many as are owed, and the first one in its range. -/
structure Completes (p : Pending) (tail : List UInt8) : Prop where
  length : tail.length = p.owed
  first : ∀ b ∈ tail.head?, p.low ≤ b.toNat ∧ b.toNat ≤ p.high
  others : ∀ b ∈ tail.tail, 0x80 ≤ b.toNat ∧ b.toNat ≤ 0xBF

/-- A character under way behind the bytes that have begun it: with bytes that complete it they are its encoding. -/
structure Begun (p : Pending) (front : List UInt8) : Prop where
  owed : 0 < p.owed
  encoded : ∀ tail, p.Completes tail → String.utf8EncodeChar (Char.ofNat (assemble p.bits tail)) = front ++ tail

/-- The character under way after one more byte. -/
def next (p : Pending) (b : UInt8) : Pending := ⟨addBits p.bits b, p.owed - 1, 0x80, 0xBF⟩

theorem owed_next (p : Pending) (b : UInt8) : (p.next b).owed = p.owed - 1 := rfl

theorem low_next (p : Pending) (b : UInt8) : (p.next b).low = 0x80 := rfl

theorem high_next (p : Pending) (b : UInt8) : (p.next b).high = 0xBF := rfl

theorem assemble_next (p : Pending) (b : UInt8) (tail : List UInt8) :
    assemble (p.next b).bits tail = assemble p.bits (b :: tail) := by
  unfold assemble next
  rw [List.foldl_cons]

end Pending

open Pending

section

variable {p : Pending} {b : UInt8} {bs front tail : List UInt8}

theorem completes_cons : p.Completes (b :: tail) ↔
    p.low ≤ b.toNat ∧ b.toNat ≤ p.high ∧ 0 < p.owed ∧ (p.next b).Completes tail := by
  constructor
  · rintro ⟨hlength, hfirst, hothers⟩
    obtain ⟨hlow, hhigh⟩ := hfirst b rfl
    rw [List.length_cons] at hlength
    refine ⟨hlow, hhigh, by omega, ?_, fun b' hb' => hothers b' (List.mem_of_mem_head? hb'),
      fun b' hb' => hothers b' (List.mem_of_mem_tail hb')⟩
    rw [owed_next]
    omega
  · rintro ⟨hlow, hhigh, howed, hlength, hfirst, hothers⟩
    refine ⟨?_, ?_, ?_⟩
    · rw [owed_next] at hlength
      rw [List.length_cons]
      omega
    · rintro _ ⟨⟩
      exact ⟨hlow, hhigh⟩
    · intro b' hb'
      cases tail with
      | nil => exact absurd hb' List.not_mem_nil
      | cons b'' tail =>
        rcases List.mem_cons.1 hb' with rfl | hb'
        · exact hfirst b' rfl
        · exact hothers b' hb'

theorem completes_nil : p.Completes [] ↔ p.owed = 0 :=
  ⟨fun h => h.length.symm, fun h => ⟨h.symm, fun _ hb => absurd hb (Option.not_mem_none _), List.forall_mem_nil _⟩⟩

/-- One more byte of a character goes on with it or completes it. -/
theorem decodeFrom_cons (hlow : p.low ≤ b.toNat) (hhigh : b.toNat ≤ p.high) (bs : List UInt8) :
    decodeFrom (some p) (b :: bs) =
      if p.owed ≤ 1 then Char.ofNat (assemble p.bits [b]) :: decodeFrom none bs else decodeFrom (some (p.next b)) bs := by
  rw [decodeFrom, step, if_pos ⟨hlow, hhigh⟩]
  rw [← addBits_eq]
  by_cases howed : p.owed ≤ 1
  · simp only [howed, if_true]
    rfl
  · simp only [howed, if_false]
    rfl

/-- A byte that breaks off a character is read anew. -/
theorem decodeFrom_broken (hb : ¬ (p.low ≤ b.toNat ∧ b.toNat ≤ p.high)) (bs : List UInt8) :
    decodeFrom (some p) (b :: bs) = replacement :: decodeFrom none (b :: bs) := by
  rw [decodeFrom, step, if_neg hb, decodeFrom, step]
  rfl

/-- A character is read from the bytes that complete it. -/
theorem decodeFrom_completes (howed : 0 < p.owed) (h : p.Completes tail) (bs : List UInt8) :
    decodeFrom (some p) (tail ++ bs) = Char.ofNat (assemble p.bits tail) :: decodeFrom none bs := by
  induction tail generalizing p with
  | nil => exact absurd h.length (by simp only [List.length_nil]; omega)
  | cons b tail ih =>
    obtain ⟨hlow, hhigh, -, hrest⟩ := completes_cons.1 h
    rw [List.cons_append, decodeFrom_cons hlow hhigh]
    have hlength : tail.length = p.owed - 1 := hrest.length
    split
    · obtain rfl : tail = [] := List.length_eq_zero_iff.1 (by omega)
      rfl
    · rw [← assemble_next]
      exact ih (by rw [owed_next]; omega) hrest

theorem Pending.Begun.next (h : p.Begun front) (hlow : p.low ≤ b.toNat) (hhigh : b.toNat ≤ p.high)
    (howed : 1 < p.owed) : (p.next b).Begun (front ++ [b]) where
  owed := by rw [owed_next]; omega
  encoded tail htail := by
    have hall := h.encoded (b :: tail) (completes_cons.2 ⟨hlow, hhigh, h.owed, htail⟩)
    rw [assemble_next, hall, List.append_assoc, List.singleton_append]

theorem Pending.Begun.last (h : p.Begun front) (hlow : p.low ≤ b.toNat) (hhigh : b.toNat ≤ p.high)
    (howed : p.owed ≤ 1) : String.utf8EncodeChar (Char.ofNat (assemble p.bits [b])) = front ++ [b] := by
  refine h.encoded [b] (completes_cons.2 ⟨hlow, hhigh, h.owed, ?_, ?_, List.forall_mem_nil _⟩)
  · rw [owed_next, List.length_nil]
    omega
  · simp

end

/-! ## First bytes -/

/-- What the first byte of a character says of the bytes behind it. -/
inductive Leads : Nat → Pending → Prop
  | two {b : Nat} (hlow : 0xC2 ≤ b) (hhigh : b ≤ 0xDF) : Leads b ⟨b - 0xC0, 1, 0x80, 0xBF⟩
  | three {b : Nat} (hlow : 0xE0 ≤ b) (hhigh : b ≤ 0xEF) :
    Leads b ⟨b - 0xE0, 2, if b = 0xE0 then 0xA0 else 0x80, if b = 0xED then 0x9F else 0xBF⟩
  | four {b : Nat} (hlow : 0xF0 ≤ b) (hhigh : b ≤ 0xF4) :
    Leads b ⟨b - 0xF0, 3, if b = 0xF0 then 0x90 else 0x80, if b = 0xF4 then 0x8F else 0xBF⟩

theorem lead_of_leads {b : Nat} {p : Pending} (h : Leads b p) : lead b = .pending p := by
  cases h with
  | two hlow hhigh => simp [lead, show ¬ b < 0x80 by omega, show ¬ b < 0xC2 by omega, hhigh]
  | three hlow hhigh =>
    simp only [lead, show ¬ b < 0x80 by omega, show ¬ b < 0xC2 by omega, show ¬ b ≤ 0xDF by omega, if_false]
    by_cases hfirst : b = 0xE0
    · simp [hfirst]
    · by_cases hlast : b = 0xED
      · simp [hlast]
      · simp [hfirst, hlast, hhigh]
  | four hlow hhigh =>
    simp only [lead, show ¬ b < 0x80 by omega, show ¬ b < 0xC2 by omega, show ¬ b ≤ 0xDF by omega,
      show ¬ b ≤ 0xEF by omega, show ¬ b = 0xE0 by omega, show ¬ b = 0xED by omega, if_false]
    by_cases hfirst : b = 0xF0
    · simp [hfirst]
    · by_cases hlast : b = 0xF4
      · simp [hlast]
      · simp [hfirst, hlast, show b ≤ 0xF3 by omega]

/-- A byte is a character of its own, begins a longer one, or can begin none. -/
theorem lead_cases (b : Nat) :
    b < 0x80 ∧ lead b = .char (Char.ofNat b) ∨ (∃ p, Leads b p ∧ lead b = .pending p) ∨ lead b = .invalid := by
  by_cases hone : b < 0x80
  · exact .inl ⟨hone, by rw [lead, if_pos hone]⟩
  right
  have hpending {p : Pending} (h : Leads b p) : ∃ p, Leads b p ∧ lead b = .pending p := ⟨p, h, lead_of_leads h⟩
  by_cases htwo : 0xC2 ≤ b ∧ b ≤ 0xDF
  · exact .inl (hpending (.two htwo.1 htwo.2))
  by_cases hthree : 0xE0 ≤ b ∧ b ≤ 0xEF
  · exact .inl (hpending (.three hthree.1 hthree.2))
  by_cases hfour : 0xF0 ≤ b ∧ b ≤ 0xF4
  · exact .inl (hpending (.four hfour.1 hfour.2))
  · refine .inr ?_
    by_cases hinvalid : b < 0xC2
    · simp [lead, hone, hinvalid]
    · simp [lead, hone, hinvalid, show ¬ b ≤ 0xDF by omega, show ¬ b ≤ 0xEF by omega, show ¬ b ≤ 0xF3 by omega,
        show ¬ b = 0xE0 by omega, show ¬ b = 0xED by omega, show ¬ b = 0xF0 by omega, show ¬ b = 0xF4 by omega]

/-! ## Encodings -/

theorem encodeChar_eq {v : Nat} (hv : v.isValidChar) : String.utf8EncodeChar (Char.ofNat v) =
    if v ≤ 0x7F then [UInt8.ofNat v]
    else if v ≤ 0x7FF then [UInt8.ofNat (v / 64 % 32 + 0xC0), UInt8.ofNat (v % 64 + 0x80)]
    else if v ≤ 0xFFFF then
      [UInt8.ofNat (v / 4096 % 16 + 0xE0), UInt8.ofNat (v / 64 % 64 + 0x80), UInt8.ofNat (v % 64 + 0x80)]
    else
      [UInt8.ofNat (v / 262144 % 8 + 0xF0), UInt8.ofNat (v / 4096 % 64 + 0x80), UInt8.ofNat (v / 64 % 64 + 0x80),
        UInt8.ofNat (v % 64 + 0x80)] := by
  have hval : (Char.ofNat v).val.toNat = v := by rw [Char.ofNat, dif_pos hv]; rfl
  rw [String.utf8EncodeChar, hval]

theorem ofNat_eq {n : Nat} {b : UInt8} (h : n = b.toNat) : UInt8.ofNat n = b := by rw [h, UInt8.ofNat_toNat]

/-- The first byte of a longer character begins it. -/
theorem Leads.begun {b : UInt8} {p : Pending} (h : Leads b.toNat p) : p.Begun [b] := by
  generalize hn : b.toNat = n at h
  cases h with
  | two hlow hhigh =>
    refine ⟨Nat.one_pos, fun tail htail => ?_⟩
    obtain ⟨t, rfl⟩ := List.length_eq_one_iff.1 htail.length
    obtain ⟨ht, ht'⟩ := htail.first t rfl
    simp only at ht ht' ⊢
    rw [assemble_cons, assemble_nil, encodeChar_eq (.inl (by omega)), if_neg (by omega), if_pos (by omega)]
    rw [ofNat_eq (b := b) (by omega), ofNat_eq (b := t) (by omega)]
    rfl
  | three hlow hhigh =>
    refine ⟨Nat.two_pos, fun tail htail => ?_⟩
    obtain ⟨t, u, rfl⟩ := List.length_eq_two.1 htail.length
    obtain ⟨ht, ht'⟩ := htail.first t rfl
    obtain ⟨hu, hu'⟩ := htail.others u List.mem_cons_self
    simp only at ht ht' ⊢
    -- The range of the second byte leaves out what has a shorter encoding, and surrogates.
    have hlow' : 0x80 ≤ t.toNat ∧ (n = 0xE0 → 0xA0 ≤ t.toNat) := by split at ht <;> omega
    have hhigh' : t.toNat ≤ 0xBF ∧ (n = 0xED → t.toNat ≤ 0x9F) := by split at ht' <;> omega
    clear ht ht'
    rw [assemble_cons, assemble_cons, assemble_nil, encodeChar_eq (by unfold Nat.isValidChar; omega), if_neg (by omega),
      if_neg (by omega), if_pos (by omega)]
    rw [ofNat_eq (b := b) (by omega), ofNat_eq (b := t) (by omega), ofNat_eq (b := u) (by omega)]
    rfl
  | four hlow hhigh =>
    refine ⟨Nat.succ_pos 2, fun tail htail => ?_⟩
    obtain ⟨t, u, w, rfl⟩ := List.length_eq_three.1 htail.length
    obtain ⟨ht, ht'⟩ := htail.first t rfl
    obtain ⟨hu, hu'⟩ := htail.others u List.mem_cons_self
    obtain ⟨hw, hw'⟩ := htail.others w (List.mem_cons_of_mem _ List.mem_cons_self)
    simp only at ht ht' ⊢
    have hlow' : 0x80 ≤ t.toNat ∧ (n = 0xF0 → 0x90 ≤ t.toNat) := by split at ht <;> omega
    have hhigh' : t.toNat ≤ 0xBF ∧ (n = 0xF4 → t.toNat ≤ 0x8F) := by split at ht' <;> omega
    clear ht ht'
    rw [assemble_cons, assemble_cons, assemble_cons, assemble_nil, encodeChar_eq (by unfold Nat.isValidChar; omega),
      if_neg (by omega), if_neg (by omega), if_neg (by omega)]
    rw [ofNat_eq (b := b) (by omega), ofNat_eq (b := t) (by omega), ofNat_eq (b := u) (by omega),
      ofNat_eq (b := w) (by omega)]
    rfl

/-- A character is one byte, or a first byte and the bytes it owes. -/
theorem encodeChar_cases (c : Char) :
    c.toNat < 0x80 ∧ String.utf8EncodeChar c = [UInt8.ofNat c.toNat] ∨
      ∃ b p tail, String.utf8EncodeChar c = b :: tail ∧ Leads b.toNat p ∧ p.Completes tail ∧
        assemble p.bits tail = c.toNat := by
  have hvalid : c.toNat < 0xD800 ∨ 0xDFFF < c.toNat ∧ c.toNat < 0x110000 := c.valid
  have hbyte {n : Nat} (hn : n < 256) : (UInt8.ofNat n).toNat = n := by rw [UInt8.toNat_ofNat', Nat.mod_eq_of_lt hn]
  have hencode := encodeChar_eq hvalid
  rw [Char.ofNat_toNat] at hencode
  generalize c.toNat = v at hvalid hencode ⊢
  rw [hencode]
  by_cases hone : v ≤ 0x7F
  · exact .inl ⟨by omega, if_pos hone⟩
  rw [if_neg hone]
  right
  by_cases htwo : v ≤ 0x7FF
  · rw [if_pos htwo]
    have hb := hbyte (n := v / 64 % 32 + 0xC0) (by omega)
    have ht := hbyte (n := v % 64 + 0x80) (by omega)
    refine ⟨_, _, _, rfl, .two (by omega) (by omega), completes_cons.2 ⟨?_, ?_, Nat.one_pos, completes_nil.2 rfl⟩, ?_⟩
    · rw [ht]; dsimp only; omega
    · rw [ht]; dsimp only; omega
    · rw [assemble_cons, assemble_nil, hb, ht]; dsimp only; omega
  rw [if_neg htwo]
  by_cases hthree : v ≤ 0xFFFF
  · rw [if_pos hthree]
    have hb := hbyte (n := v / 4096 % 16 + 0xE0) (by omega)
    have ht := hbyte (n := v / 64 % 64 + 0x80) (by omega)
    have hu := hbyte (n := v % 64 + 0x80) (by omega)
    refine ⟨_, _, _, rfl, .three (by omega) (by omega), completes_cons.2 ⟨?_, ?_, Nat.two_pos,
      completes_cons.2 ⟨?_, ?_, Nat.one_pos, completes_nil.2 rfl⟩⟩, ?_⟩
    · rw [hb, ht]; dsimp only; split <;> omega
    · rw [hb, ht]; dsimp only; split <;> omega
    · rw [hu, low_next]; omega
    · rw [hu, high_next]; omega
    · rw [assemble_cons, assemble_cons, assemble_nil, hb, ht, hu]; dsimp only; omega
  rw [if_neg hthree]
  have hb := hbyte (n := v / 262144 % 8 + 0xF0) (by omega)
  have ht := hbyte (n := v / 4096 % 64 + 0x80) (by omega)
  have hu := hbyte (n := v / 64 % 64 + 0x80) (by omega)
  have hw := hbyte (n := v % 64 + 0x80) (by omega)
  refine ⟨_, _, _, rfl, .four (by omega) (by omega), completes_cons.2 ⟨?_, ?_, Nat.succ_pos 2,
    completes_cons.2 ⟨?_, ?_, Nat.two_pos, completes_cons.2 ⟨?_, ?_, Nat.one_pos, completes_nil.2 rfl⟩⟩⟩, ?_⟩
  · rw [hb, ht]; dsimp only; split <;> omega
  · rw [hb, ht]; dsimp only; split <;> omega
  · rw [hu, low_next]; omega
  · rw [hu, high_next]; omega
  · rw [hw, low_next]; omega
  · rw [hw, high_next]; omega
  · rw [assemble_cons, assemble_cons, assemble_cons, assemble_nil, hb, ht, hu, hw]; dsimp only; omega

/-! ## Reading what was written, and writing what was read -/

section

variable {b : UInt8}

theorem decodeFrom_none (b : UInt8) (bs : List UInt8) :
    decodeFrom none (b :: bs) = (begin b.toNat).1 ++ decodeFrom (begin b.toNat).2 bs := by
  rw [decodeFrom, step]

theorem decodeFrom_char {c : Char} (h : lead b.toNat = .char c) (bs : List UInt8) :
    decodeFrom none (b :: bs) = c :: decodeFrom none bs := by
  rw [decodeFrom_none, begin, h, List.singleton_append]

theorem decodeFrom_pending {p : Pending} (h : lead b.toNat = .pending p) (bs : List UInt8) :
    decodeFrom none (b :: bs) = decodeFrom (some p) bs := by
  rw [decodeFrom_none, begin, h, List.nil_append]

theorem decodeFrom_invalid (h : lead b.toNat = .invalid) (bs : List UInt8) :
    decodeFrom none (b :: bs) = replacement :: decodeFrom none bs := by
  rw [decodeFrom_none, begin, h, List.singleton_append]

end

theorem decodeFrom_encodeChar (c : Char) (bs : List UInt8) :
    decodeFrom none (String.utf8EncodeChar c ++ bs) = c :: decodeFrom none bs := by
  obtain ⟨hc, hencode⟩ | ⟨b, p, tail, hencode, hleads, hcompletes, hc⟩ := encodeChar_cases c
  · have hb : (UInt8.ofNat c.toNat).toNat = c.toNat := by rw [UInt8.toNat_ofNat', Nat.mod_eq_of_lt (by omega)]
    rw [hencode, List.singleton_append]
    refine decodeFrom_char ?_ bs
    rw [hb, lead, if_pos hc, Char.ofNat_toNat]
  · rw [hencode, List.cons_append, decodeFrom_pending (lead_of_leads hleads),
      decodeFrom_completes hleads.begun.owed hcompletes, hc, Char.ofNat_toNat]

/-- The encoding of a text is read as this text. -/
theorem decodeFrom_encode (cs : List Char) (bs : List UInt8) :
    decodeFrom none (encode cs ++ bs) = cs ++ decodeFrom none bs := by
  induction cs with
  | nil => rfl
  | cons c cs ih => rw [encode_cons, List.append_assoc, decodeFrom_encodeChar, ih, List.cons_append]

/-- What is read without a replacement character is written as the bytes it was read from, those of a character under way
included. -/
theorem encode_decodeFrom_states {bs : List UInt8} :
    (replacement ∉ decodeFrom none bs → encode (decodeFrom none bs) = bs) ∧
      ∀ p front, Pending.Begun p front → replacement ∉ decodeFrom (some p) bs →
        encode (decodeFrom (some p) bs) = front ++ bs := by
  induction bs with
  | nil => exact ⟨fun _ => rfl, fun _ _ _ h => absurd List.mem_cons_self h⟩
  | cons b bs ih =>
    obtain ⟨ihnone, ihsome⟩ := ih
    constructor
    · intro h
      obtain ⟨hb, hlead⟩ | ⟨p, hleads, hlead⟩ | hlead := lead_cases b.toNat
      · rw [decodeFrom_char hlead] at h ⊢
        rw [encode_cons, ihnone (List.not_mem_of_not_mem_cons h), encodeChar_eq (.inl (by omega)), if_pos (by omega),
          UInt8.ofNat_toNat, List.singleton_append]
      · rw [decodeFrom_pending hlead] at h ⊢
        exact ihsome p [b] hleads.begun h
      · rw [decodeFrom_invalid hlead] at h
        exact absurd List.mem_cons_self h
    · intro p front hbegun h
      by_cases hb : p.low ≤ b.toNat ∧ b.toNat ≤ p.high
      · rw [decodeFrom_cons hb.1 hb.2] at h ⊢
        by_cases howed : p.owed ≤ 1
        · rw [if_pos howed] at h ⊢
          rw [encode_cons, hbegun.last hb.1 hb.2 howed, ihnone (List.not_mem_of_not_mem_cons h), List.append_assoc,
            List.singleton_append]
        · rw [if_neg howed] at h ⊢
          rw [ihsome _ _ (hbegun.next hb.1 hb.2 (by omega)) h, List.append_assoc, List.singleton_append]
      · rw [decodeFrom_broken hb] at h
        exact absurd List.mem_cons_self h

/-! ## Bytes and their text -/

/-- Bytes that are the encoding of a text. -/
def Valid (bytes : List UInt8) : Prop := ∃ cs, encode cs = bytes

theorem toList_decode (bytes : List UInt8) : (decode bytes).toList = decodeFrom none bytes :=
  String.toList_ofList

/-- A text is decoded from its encoding. -/
theorem decode_encode (cs : List Char) : decode (encode cs) = String.ofList cs := by
  have h := decodeFrom_encode cs []
  rw [List.append_nil, decodeFrom, List.append_nil] at h
  rw [decode, h]

/-- **Bytes that are UTF-8** are the encoding of the text that is decoded from them. -/
theorem valid_iff {bytes : List UInt8} : Valid bytes ↔ encode (decode bytes).toList = bytes := by
  constructor
  · rintro ⟨cs, rfl⟩
    rw [decode_encode, String.toList_ofList]
  · exact fun h => ⟨_, h⟩

theorem valid_of_no_replacement {bytes : List UInt8} (h : replacement ∉ (decode bytes).toList) : Valid bytes := by
  rw [toList_decode] at h
  exact ⟨_, encode_decodeFrom_states.1 h⟩

/-- Valid bytes are known by their text. -/
theorem eq_of_decode_eq {b c : List UInt8} (hb : Valid b) (hc : Valid c) (h : decode b = decode c) : b = c := by
  rw [← valid_iff.1 hb, h, valid_iff.1 hc]

/-- A byte that is in no encoding becomes one replacement character. -/
theorem decodeFrom_encode_break (before after : List Char) :
    decodeFrom none (encode before ++ 0xFF :: encode after) = before ++ replacement :: after := by
  have hafter := decodeFrom_encode after []
  rw [List.append_nil, decodeFrom, List.append_nil] at hafter
  rw [decodeFrom_encode, decodeFrom_invalid rfl, hafter]

/-- **The text of bytes leaves no choice** of the bytes exactly if it holds no replacement character. -/
theorem decode_determines_iff {b : List UInt8} :
    (∀ c, decode c = decode b → c = b) ↔ replacement ∉ (decode b).toList := by
  constructor
  · intro hunique hmem
    obtain ⟨before, after, hsplit⟩ := List.append_of_mem hmem
    have hencoded : encode (decode b).toList = b := hunique _ (by rw [decode_encode, String.ofList_toList])
    have hbroken : encode before ++ 0xFF :: encode after = b :=
      hunique _ (by rw [decode, decodeFrom_encode_break, ← hsplit, String.ofList_toList])
    -- The replacement character has three bytes where the second sequence has one.
    have hlength : (encode (before ++ replacement :: after)).length = (encode before ++ 0xFF :: encode after).length := by
      rw [← hsplit, hencoded, hbroken]
    have hthree : (String.utf8EncodeChar replacement).length = 3 := rfl
    rw [encode_append, encode_cons, List.length_append, List.length_append, List.length_append, List.length_cons] at hlength
    omega
  · intro h c hc
    exact eq_of_decode_eq (valid_of_no_replacement (hc ▸ h)) (valid_of_no_replacement h) hc

/-! ## The order of texts -/

/-- The greater character has the greater byte at the first place where the two encodings differ. -/
theorem encodeChar_lt {c d : Char} (h : c < d) (xs ys : List UInt8) :
    List.Lex (· < ·) (String.utf8EncodeChar c ++ xs) (String.utf8EncodeChar d ++ ys) := by
  have hcd : c.toNat < d.toNat := h
  have hd : d.toNat < 0xD800 ∨ 0xDFFF < d.toNat ∧ d.toNat < 0x110000 := d.valid
  have hc := encodeChar_eq c.valid
  have hd' := encodeChar_eq d.valid
  simp only [← Char.toNat.eq_1, Char.ofNat_toNat] at hc hd'
  rw [hc, hd']
  generalize c.toNat = v at hcd ⊢
  generalize d.toNat = w at hcd hd ⊢
  have hlast (n : Nat) : (n % 64 + 0x80) % 2 ^ 8 = n % 64 + 0x80 := by omega
  have htwo (n : Nat) : (n % 32 + 0xC0) % 2 ^ 8 = n % 32 + 0xC0 := by omega
  have hthree (n : Nat) : (n % 16 + 0xE0) % 2 ^ 8 = n % 16 + 0xE0 := by omega
  have hfour (n : Nat) : (n % 8 + 0xF0) % 2 ^ 8 = n % 8 + 0xF0 := by omega
  have hdiv (n : Nat) : n / 4096 = n / 64 / 64 := by omega
  have hdiv' (n : Nat) : n / 262144 = n / 64 / 64 / 64 := by omega
  -- A longer encoding has the greater first byte; of equally long ones the digits are compared, from the front.
  split_ifs <;>
    simp only [List.cons_append, List.nil_append, List.cons_lex_cons_iff, UInt8.lt_iff_toNat_lt, ← UInt8.toNat_inj,
      UInt8.toNat_ofNat', hlast, htwo, hthree, hfour, hdiv, hdiv'] <;> omega

/-- The order of texts by their characters is the order by their bytes. -/
theorem encode_lt {cs ds : List Char} (h : List.Lex (· < ·) cs ds) : List.Lex (· < ·) (encode cs) (encode ds) := by
  induction h with
  | @nil d ds =>
    obtain ⟨-, hencode⟩ | ⟨b, -, tail, hencode, -⟩ := encodeChar_cases d
    · rw [encode_cons, hencode]
      exact List.Lex.nil
    · rw [encode_cons, hencode]
      exact List.Lex.nil
  | rel h =>
    rw [encode_cons, encode_cons]
    exact encodeChar_lt h _ _
  | @cons c cs ds _ ih =>
    rw [encode_cons, encode_cons]
    exact .append_left _ ih _

end Sql.Text.Utf8
