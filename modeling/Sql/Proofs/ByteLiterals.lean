/-
Literals of byte sequences.

A byte sequence is written as the text that is decoded from it, so its literal tells what this text tells: bytes that are
UTF-8 are known by their literal, and so are bytes whose text shows no replacement character (`byteLiterals_eq_iff`).
-/
import Sql.Proofs.ColumnValues
import Sql.Proofs.QuotedText
import Sql.Proofs.Utf8Text

namespace Sql

open Text.Utf8

/-- A text is read back from its literal. -/
theorem Dialect.stringLiteral_eq_iff (d : Dialect) {x y : String} : d.stringLiteral x = d.stringLiteral y ↔ x = y := by
  refine ⟨fun h => ?_, congrArg _⟩
  have hchars := congrArg String.toList h
  rw [stringLiteral, stringLiteral, String.toList_ofList, String.toList_ofList, literalChars, literalChars] at hchars
  refine String.toList_inj.1 ?_
  cases hescape : d.stringEscape with
  | backslash =>
    simp only [hescape, List.cons_append, List.cons.injEq, true_and] at hchars
    have hread := congrArg Quoting.readBackslash hchars
    rw [Quoting.readBackslash_backslash, Quoting.readBackslash_backslash] at hread
    exact congrArg Prod.fst (Option.some.inj hread)
  | doubled =>
    simp only [hescape, List.cons_append, List.cons.injEq, true_and] at hchars
    have hread := congrArg (Quoting.readDoubled '\x27') hchars
    have hend : ([] : List Char).head? ≠ some '\x27' := by simp
    rw [Quoting.readDoubled_double hend, Quoting.readDoubled_double hend] at hread
    exact congrArg Prod.fst (Option.some.inj hread)

theorem Value.literal_bytes_eq_iff (d : Dialect) {b c : List UInt8} :
    (Value.bytes b).literal d = (Value.bytes c).literal d ↔ decode b = decode c :=
  d.stringLiteral_eq_iff

/-- A constant is its literal, without arguments. -/
theorem Expr.render_constant {d : Dialect} {style : ParamStyle} (hd : style = .named → d.supportsNamed = true) (v : Value) :
    (Expr.constant v).render d style = .ok ⟨v.literal d, .empty style⟩ := by
  have hspells : (Expr.constant v).Spells d style (v.literal d) := by
    rw [Expr.Spells, Expr.script]
    exact .literal _
  have hempty : (Args.empty style).Hold style [] := by
    cases style with
    | positional => rfl
    | named => exact ⟨.empty, rfl, by simp [Bindings.get?, Bindings.empty]⟩
  have hnone : (Expr.constant v).parameters d.pagination = ([] : List (String × Value)).map .ofEntry := rfl
  obtain ⟨args, hrender, hargs⟩ := render_of_spells hd hspells hnone List.nodup_nil
  rw [hrender, hargs.eq hempty]

/-- **Literals of bytes** are equal exactly if the bytes have one text. They tell bytes that are UTF-8 apart, and a literal
is that of one byte sequence only exactly if no character of it stands for bytes that are none. -/
theorem byteLiterals_eq_iff (d : Dialect) (b : List UInt8) :
    (∀ c, (Value.bytes b).literal d = (Value.bytes c).literal d ↔ decode b = decode c) ∧
      (Valid b → ∀ c, Valid c → ((Value.bytes b).literal d = (Value.bytes c).literal d ↔ b = c)) ∧
      ((∀ c, (Value.bytes b).literal d = (Value.bytes c).literal d → b = c) ↔ replacement ∉ (decode b).toList) ∧
      ∀ style, (style = .named → d.supportsNamed = true) →
        (Expr.constant (.bytes b)).render d style = .ok ⟨(Value.bytes b).literal d, .empty style⟩ := by
  refine ⟨fun c => Value.literal_bytes_eq_iff d, fun hb c hc => ?_, ?_, fun style hd => Expr.render_constant hd _⟩
  · rw [Value.literal_bytes_eq_iff]
    exact ⟨eq_of_decode_eq hb hc, congrArg decode⟩
  · rw [← decode_determines_iff]
    refine forall_congr' fun c => ?_
    rw [Value.literal_bytes_eq_iff, eq_comm, eq_comm (a := b)]

/-- `é` in one piece and in two. -/
theorem byteLiterals_composed : (Value.bytes [0xC3, 0xA9]).literal .mysql ≠ (Value.bytes [0x65, 0xCC, 0x81]).literal .mysql := by
  have hone : Valid [0xC3, 0xA9] := ⟨['é'], rfl⟩
  have htwo : Valid [0x65, 0xCC, 0x81] := ⟨['e', '\u0301'], rfl⟩
  exact fun h => absurd (((byteLiterals_eq_iff .mysql [0xC3, 0xA9]).2.1 hone _ htwo).1 h) (by decide)

/-- Two characters that break off. -/
theorem byteLiterals_broken : ([0xE2, 0x82] : List UInt8) ≠ [0xE2, 0x98] ∧
    (Value.bytes [0xE2, 0x82]).literal .mysql = (Value.bytes [0xE2, 0x98]).literal .mysql ∧
    (Value.bytes [0xE2, 0x82]).literal .sqlServer = (Value.bytes [0xE2, 0x98]).literal .sqlServer := by
  have htext : decode [0xE2, 0x82] = decode [0xE2, 0x98] := by decide +kernel
  exact ⟨by decide, (Value.literal_bytes_eq_iff _).2 htext, (Value.literal_bytes_eq_iff _).2 htext⟩

end Sql
