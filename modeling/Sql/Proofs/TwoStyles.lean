/-
Parameters by position and parameters by name are two readings of one script.

A writer goes through a tree as through its script (`Writer.writeExpr_eq_write`), so `render_positional` and `render_named_ok` say
what a rendering is, piece by piece; `render_named_error_iff` says which failure it reports when it is refused. What a writer does
with one piece is said once for each style (`Writes.push`, `Holds.push`), and runs over pieces follow from that.
-/
import Sql.Expr.Build
import Sql.Proofs.WriterScripts

namespace Sql

namespace Piece

/-- A piece as SQL text. -/
def textIn (d : Dialect) (style : ParamStyle) : Piece → String
  | .text s => s
  | .parameter name _ =>
    match style with
    | .positional => d.placeholder
    | .named => d.namedParameter (name.getD "")

/-- The value of a parameter. -/
def value? : Piece → Option Value
  | .text _ => none
  | .parameter _ value => some value

/-- The value of the first parameter with a name. -/
def firstValue? (name : String) : List Piece → Option Value
  | [] => none
  | .parameter (some other) value :: pieces =>
    if other = name then some value else firstValue? name pieces
  | _ :: pieces => firstValue? name pieces

/-- Why a piece is refused behind others where parameters are named: it has no name, or its name already
holds a value that differs from its own. -/
def refusal? (before : List Piece) : Piece → Option Error
  | .text _ => none
  | .parameter none _ => some .unnamedParameter
  | .parameter (some name) value =>
    match firstValue? name before with
    | some held => if held.equals value then none else some (.conflictingParameter name)
    | none => none

/-- No piece is refused behind those that stand before it. -/
def Accepted (before pieces : List Piece) : Prop :=
  ∀ mid piece after, pieces = mid ++ piece :: after → piece.refusal? (before ++ mid) = none

/-- The first piece that is refused is refused for this reason. -/
def Refused (before pieces : List Piece) (error : Error) : Prop :=
  ∃ mid piece after, pieces = mid ++ piece :: after ∧ Accepted before mid ∧
    piece.refusal? (before ++ mid) = some error

theorem firstValue?_append (name : String) (before after : List Piece) :
    firstValue? name (before ++ after) = (firstValue? name before).or (firstValue? name after) := by
  fun_induction firstValue? name before with
  | case1 => simp
  | case2 value pieces => simp [firstValue?]
  | case3 other value pieces hne ih => simpa [firstValue?, hne] using ih
  | case4 piece pieces hother ih =>
    rw [List.cons_append, firstValue?, ih]
    exact hother

theorem Accepted.nil {before : List Piece} : Accepted before [] := by
  intro mid piece after h
  simp at h

theorem accepted_cons {before pieces : List Piece} {piece : Piece} :
    Accepted before (piece :: pieces) ↔
      piece.refusal? before = none ∧ Accepted (before ++ [piece]) pieces := by
  constructor
  · intro h
    refine ⟨by simpa using h [] piece pieces rfl, fun mid other after heq => ?_⟩
    simpa using h (piece :: mid) other after (by rw [heq]; rfl)
  · rintro ⟨hfirst, hrest⟩ mid other after heq
    cases mid with
    | nil =>
      obtain ⟨rfl, rfl⟩ := List.cons_eq_cons.1 heq
      simpa using hfirst
    | cons head mid =>
      obtain ⟨rfl, rfl⟩ := List.cons_eq_cons.1 heq
      simpa using hrest mid other after rfl

theorem refused_cons {before pieces : List Piece} {piece : Piece} {error : Error} :
    Refused before (piece :: pieces) error ↔
      piece.refusal? before = some error ∨
        piece.refusal? before = none ∧ Refused (before ++ [piece]) pieces error := by
  constructor
  · rintro ⟨mid, other, after, heq, haccepted, hrefused⟩
    cases mid with
    | nil =>
      obtain ⟨rfl, rfl⟩ := List.cons_eq_cons.1 heq
      exact .inl (by simpa using hrefused)
    | cons head mid =>
      obtain ⟨rfl, rfl⟩ := List.cons_eq_cons.1 heq
      obtain ⟨hfirst, hmid⟩ := accepted_cons.1 haccepted
      exact .inr ⟨hfirst, mid, other, after, rfl, hmid, by simpa using hrefused⟩
  · rintro (hfirst | ⟨hfirst, mid, other, after, rfl, hmid, hrefused⟩)
    · exact ⟨[], piece, pieces, rfl, Accepted.nil, by simpa using hfirst⟩
    · exact ⟨piece :: mid, other, after, rfl, accepted_cons.2 ⟨hfirst, hmid⟩, by simpa using hrefused⟩

/-- The text of pieces in a style. -/
def textOf (d : Dialect) (style : ParamStyle) (pieces : List Piece) : String :=
  String.join (pieces.map (·.textIn d style))

/-- The values of the parameters among pieces. -/
def valuesOf (pieces : List Piece) : List Value :=
  pieces.filterMap (·.value?)

theorem textOf_append (d : Dialect) (style : ParamStyle) (before after : List Piece) :
    textOf d style (before ++ after) = textOf d style before ++ textOf d style after := by
  simp [textOf]

end Piece

namespace Writer

open Piece

/-! ## Parameters by position -/

/-- A writer that has written pieces with parameters by position. -/
structure Writes (w : Writer) (d : Dialect) (before : List Piece) : Prop where
  dialect : w.dialect = d
  sql : w.sql = textOf d .positional before
  args : w.args = .positional (valuesOf before)

theorem Writes.push {w : Writer} {d : Dialect} {before : List Piece} (h : w.Writes d before) (piece : Piece) :
    ∃ w', w.push piece = .ok w' ∧ w'.Writes d (before ++ [piece]) := by
  cases piece with
  | text s =>
    refine ⟨_, rfl, h.dialect, ?_, ?_⟩
    · simp [h.sql, textOf, textIn]
    · simp [h.args, valuesOf, value?]
  | parameter name value =>
    simp only [Writer.push, pushParameter, h.args]
    refine ⟨_, rfl, h.dialect, ?_, ?_⟩
    · simp [h.sql, h.dialect, textOf, textIn]
    · simp [valuesOf, value?]

theorem Writes.pushAll {w : Writer} {d : Dialect} {before : List Piece} (h : w.Writes d before)
    (pieces : List Piece) : ∃ w', w.pushAll pieces = (w', none) ∧ w'.Writes d (before ++ pieces) := by
  induction pieces generalizing w before with
  | nil => exact ⟨w, rfl, by simpa using h⟩
  | cons piece pieces ih =>
    obtain ⟨w₁, hpush, h₁⟩ := h.push piece
    obtain ⟨w₂, hall, h₂⟩ := ih h₁
    refine ⟨w₂, ?_, by simpa using h₂⟩
    rw [Writer.pushAll, hpush]
    exact hall

/-! ## Parameters by name -/

/-- A writer that has written pieces with parameters by name: each name holds its first value. -/
structure Holds (w : Writer) (d : Dialect) (before : List Piece) : Prop where
  dialect : w.dialect = d
  sql : w.sql = textOf d .named before
  args : ∃ values, w.args = .named values ∧ ∀ name, values.get? name = firstValue? name before

theorem Holds.push {w : Writer} {d : Dialect} {before : List Piece} {piece : Piece} (h : w.Holds d before)
    (hok : piece.refusal? before = none) :
    ∃ w', w.push piece = .ok w' ∧ w'.Holds d (before ++ [piece]) := by
  obtain ⟨values, hargs, hvalues⟩ := h.args
  cases piece with
  | text s =>
    refine ⟨_, rfl, h.dialect, ?_, values, hargs, fun name => ?_⟩
    · simp [h.sql, textOf, textIn]
    · simp [firstValue?_append, hvalues, firstValue?]
  | parameter name value =>
    cases name with
    | none => simp [refusal?] at hok
    | some name =>
      have htext : w.sql ++ w.dialect.namedParameter name =
          textOf d .named (before ++ [.parameter (some name) value]) := by
        simp [h.sql, h.dialect, textOf, textIn]
      simp only [Writer.push, pushParameter, hargs, hvalues]
      cases hheld : firstValue? name before with
      | some held =>
        have hequal : held.equals value = true := by simpa [refusal?, hheld] using hok
        simp only [hequal, if_true]
        refine ⟨_, rfl, h.dialect, htext, values, rfl, fun other => ?_⟩
        rw [hvalues, firstValue?_append]
        by_cases hname : name = other
        · rw [← hname, hheld, Option.some_or]
        · simp [firstValue?, hname]
      | none =>
        refine ⟨_, rfl, h.dialect, htext, values.insert name value, rfl, fun other => ?_⟩
        rw [firstValue?_append]
        by_cases hname : name = other
        · rw [← hname, Bindings.get?_insert_self, hheld]
          simp [firstValue?]
        · rw [Bindings.get?_insert_other _ _ (Ne.symm hname), hvalues]
          simp [firstValue?, hname]

theorem Holds.push_refused {w : Writer} {d : Dialect} {before : List Piece} {piece : Piece} {error : Error}
    (h : w.Holds d before) (hrefused : piece.refusal? before = some error) : w.push piece = .error error := by
  obtain ⟨values, hargs, hvalues⟩ := h.args
  cases piece with
  | text s => simp [refusal?] at hrefused
  | parameter name value =>
    cases name with
    | none => simpa [Writer.push, pushParameter, hargs, refusal?] using hrefused
    | some name =>
      simp only [Writer.push, pushParameter, hargs, hvalues]
      cases hheld : firstValue? name before with
      | none => simp [refusal?, hheld] at hrefused
      | some held =>
        simp only [refusal?, hheld] at hrefused
        split at hrefused
        · cases hrefused
        · next hdiffers =>
          simp only [hdiffers]
          simpa using hrefused

/-- A run over pieces: all are written, or the first that is refused ends it. -/
theorem Holds.pushAll {w : Writer} {d : Dialect} {before : List Piece} (h : w.Holds d before)
    (pieces : List Piece) :
    (Accepted before pieces ∧ ∃ w', w.pushAll pieces = (w', none) ∧ w'.Holds d (before ++ pieces)) ∨
      ∃ w' error, Refused before pieces error ∧ w.pushAll pieces = (w', some error) := by
  induction pieces generalizing w before with
  | nil => exact .inl ⟨Accepted.nil, w, rfl, by simpa using h⟩
  | cons piece pieces ih =>
    cases hrefusal : piece.refusal? before with
    | some error =>
      refine .inr ⟨w, error, refused_cons.2 (.inl hrefusal), ?_⟩
      rw [Writer.pushAll, h.push_refused hrefusal]
    | none =>
      obtain ⟨w₁, hpush, h₁⟩ := h.push hrefusal
      rw [Writer.pushAll, hpush]
      rcases ih h₁ with ⟨haccepted, w₂, hall, h₂⟩ | ⟨w₂, error, hrefused, hall⟩
      · exact .inl ⟨accepted_cons.2 ⟨hrefusal, haccepted⟩, w₂, hall, by simpa using h₂⟩
      · exact .inr ⟨w₂, error, refused_cons.2 (.inr ⟨hrefusal, hrefused⟩), hall⟩

end Writer

/-! ## Renderings -/

namespace Script

open Piece

/-- The text of a script in a style. -/
def textIn (d : Dialect) (style : ParamStyle) (s : Script) : String := textOf d style s.pieces

theorem textIn_text (d : Dialect) (style : ParamStyle) (s : String) : (text s).textIn d style = s := by
  simp [textIn, textOf, text, Piece.textIn]

/-- Behind a script without a fault the text goes on. -/
theorem textIn_append (d : Dialect) (style : ParamStyle) {s : Script} (h : s.fault = none) (t : Script) :
    (s ++ t).textIn d style = s.textIn d style ++ t.textIn d style := by
  obtain ⟨pieces, fault⟩ := s
  cases h
  exact textOf_append d style pieces t.pieces

/-- The values of the parameters of a script, in their order. -/
def values (s : Script) : List Value := valuesOf s.pieces

/-- The first thing that is wrong with a script where parameters are named: a piece that is refused behind
those before it, else the fault at its end. -/
def FirstFailure (s : Script) (error : Error) : Prop :=
  Refused [] s.pieces error ∨
    Accepted [] s.pieces ∧ ∃ fault, s.fault = some fault ∧ error = .invalidQuery fault

end Script

open Piece

theorem start_positional (d : Dialect) : Writer.start d .positional = .ok ⟨d, "", .positional []⟩ := by
  simp [Writer.start, Args.empty]

theorem start_named {d : Dialect} (hd : d.supportsNamed = true) :
    Writer.start d .named = .ok ⟨d, "", .named .empty⟩ := by
  simp [Writer.start, Args.empty, hd]

theorem render_of_start {e : Expr} {d : Dialect} {style : ParamStyle} {w : Writer}
    (h : Writer.start d style = .ok w) : e.render d style = Writer.result (w.writeExpr e) := by
  simp only [Expr.render, h]
  rfl

theorem writeExpr_of_pushAll {e : Expr} {w w' : Writer} (h : w.pushAll (e.script w.dialect).pieces = (w', none)) :
    w.writeExpr e = (w', (e.script w.dialect).fault.map .invalidQuery) := by
  rw [Writer.writeExpr_eq_write, Writer.write, h]

theorem render_positional (e : Expr) (d : Dialect) :
    e.render d .positional =
      match (e.script d).fault with
      | none => .ok ⟨(e.script d).textIn d .positional, .positional (e.script d).values⟩
      | some fault => .error (.invalidQuery fault) := by
  have hstart : (⟨d, "", .positional []⟩ : Writer).Writes d [] := ⟨rfl, rfl, rfl⟩
  obtain ⟨w, hall, hw⟩ := hstart.pushAll (e.script d).pieces
  rw [render_of_start (start_positional d), writeExpr_of_pushAll hall]
  cases (e.script d).fault with
  | some fault => rfl
  | none => simp [Writer.result, Writer.rendered, hw.sql, hw.args, Script.textIn, Script.values]

/-- How a rendering by name ends: every piece is accepted, or the first that is refused is reported. -/
theorem render_named {d : Dialect} (hd : d.supportsNamed = true) (e : Expr) :
    (Accepted [] (e.script d).pieces ∧
      ∃ values : Bindings Value, (∀ name, values.get? name = firstValue? name (e.script d).pieces) ∧
        e.render d .named =
          match (e.script d).fault with
          | none => .ok ⟨(e.script d).textIn d .named, .named values⟩
          | some fault => .error (.invalidQuery fault)) ∨
      ∃ error, Refused [] (e.script d).pieces error ∧ e.render d .named = .error error := by
  have hstart : (⟨d, "", .named .empty⟩ : Writer).Holds d [] := ⟨rfl, rfl, .empty, rfl, fun _ => rfl⟩
  rcases hstart.pushAll (e.script d).pieces with ⟨haccepted, w, hall, hw⟩ | ⟨w, error, hrefused, hall⟩
  · obtain ⟨values, hargs, hvalues⟩ := hw.args
    refine .inl ⟨haccepted, values, hvalues, ?_⟩
    rw [render_of_start (start_named hd), writeExpr_of_pushAll hall]
    cases (e.script d).fault with
    | some fault => rfl
    | none => simp [Writer.result, Writer.rendered, hw.sql, hargs, Script.textIn]
  · refine .inr ⟨error, hrefused, ?_⟩
    rw [render_of_start (start_named hd)]
    rw [Writer.writeExpr_eq_write, Writer.write, hall]
    rfl

theorem supportsNamed_of_render {e : Expr} {d : Dialect} {r : Rendered} (h : e.render d .named = .ok r) :
    d.supportsNamed = true := by
  cases hd : d.supportsNamed with
  | true => rfl
  | false =>
    have hstart : e.render d .named = .error (.unsupportedStyle d.name) := by
      simp only [Expr.render, Writer.start, hd]
      rfl
    rw [hstart] at h
    cases h

/-- A rendering in either style spells the script of its tree. -/
theorem render_ok {e : Expr} {d : Dialect} {style : ParamStyle} {r : Rendered} (h : e.render d style = .ok r) :
    (e.script d).fault = none ∧ r.sql = (e.script d).textIn d style := by
  cases style with
  | positional =>
    rw [render_positional] at h
    split at h
    · next hfault => exact ⟨hfault, (Except.ok.inj h) ▸ rfl⟩
    · cases h
  | named =>
    rcases render_named (supportsNamed_of_render h) e with ⟨-, values, -, hrun⟩ | ⟨error, -, hrun⟩
    · rw [hrun] at h
      split at h
      · next hfault => exact ⟨hfault, (Except.ok.inj h) ▸ rfl⟩
      · cases h
    · rw [hrun] at h
      cases h

/-- By position, a tree renders exactly if its script has no fault. -/
theorem renders_positional_iff {e : Expr} {d : Dialect} :
    (∃ r, e.render d .positional = .ok r) ↔ (e.script d).fault = none := by
  rw [render_positional]
  cases (e.script d).fault <;> simp

/-- A piece is not both refused and accepted. -/
theorem not_refused_of_accepted {before pieces : List Piece} {error : Error} (h : Accepted before pieces) :
    ¬ Refused before pieces error := by
  rintro ⟨mid, piece, after, rfl, -, hrefused⟩
  rw [h mid piece after rfl] at hrefused
  cases hrefused

theorem refused_unique {before pieces : List Piece} {error error' : Error} (h : Refused before pieces error)
    (h' : Refused before pieces error') : error = error' := by
  induction pieces generalizing before with
  | nil =>
    obtain ⟨mid, piece, after, heq, -⟩ := h
    simp at heq
  | cons piece pieces ih =>
    rcases refused_cons.1 h with h | ⟨h, hrest⟩ <;> rcases refused_cons.1 h' with h' | ⟨h', hrest'⟩
    · exact Option.some.inj (h.symm.trans h')
    · cases h.symm.trans h'
    · cases h.symm.trans h'
    · exact ih hrest hrest'

theorem render_named_error_iff {d : Dialect} (hd : d.supportsNamed = true) (e : Expr) (error : Error) :
    e.render d .named = .error error ↔ (e.script d).FirstFailure error := by
  rcases render_named hd e with ⟨haccepted, values, -, hrun⟩ | ⟨first, hrefused, hrun⟩
  · rw [hrun]
    constructor
    · intro h
      split at h
      · cases h
      · next fault hfault => exact .inr ⟨haccepted, fault, hfault, (Except.error.inj h).symm⟩
    · rintro (h | ⟨-, fault, hfault, rfl⟩)
      · exact absurd h (not_refused_of_accepted haccepted)
      · rw [hfault]
  · rw [hrun]
    constructor
    · intro h
      exact .inl (Except.error.inj h ▸ hrefused)
    · rintro (h | ⟨haccepted, -⟩)
      · rw [refused_unique hrefused h]
      · exact absurd hrefused (not_refused_of_accepted haccepted)

theorem render_named_ok {d : Dialect} {e : Expr} {r : Rendered} (hd : d.supportsNamed = true)
    (h : e.render d .named = .ok r) :
    Accepted [] (e.script d).pieces ∧
      ∃ values : Bindings Value, r.args = .named values ∧
        ∀ name, values.get? name = firstValue? name (e.script d).pieces := by
  rcases render_named hd e with ⟨haccepted, values, hvalues, hrun⟩ | ⟨error, -, hrun⟩
  · rw [hrun] at h
    split at h
    · exact ⟨haccepted, values, (Except.ok.inj h) ▸ rfl, hvalues⟩
    · cases h
  · rw [hrun] at h
    cases h

/-- **One script, two readings.** The script of a tree in a dialect says what both styles write. By position
the tree renders exactly if the script has no fault: every parameter becomes the placeholder and its value
the next argument. By name the first failure from left to right is reported; if there is none, every
parameter becomes its name behind the mark, and each name holds the value of its first occurrence, to which
the later ones are equal. -/
theorem styles_read_one_script {d : Dialect} (hd : d.supportsNamed = true) (e : Expr) :
    (∀ r, e.render d .positional = .ok r ↔
      (e.script d).fault = none ∧
        r = ⟨(e.script d).textIn d .positional, .positional (e.script d).values⟩) ∧
    (∀ error, e.render d .positional = .error error ↔
      ∃ fault, (e.script d).fault = some fault ∧ error = .invalidQuery fault) ∧
    (∀ error, e.render d .named = .error error ↔ (e.script d).FirstFailure error) ∧
    (∀ r, e.render d .named = .ok r →
      r.sql = (e.script d).textIn d .named ∧
        (∃ values : Bindings Value, r.args = .named values ∧
          ∀ name, values.get? name = firstValue? name (e.script d).pieces) ∧
        ∀ before name value after held, (e.script d).pieces = before ++ .parameter (some name) value :: after →
          firstValue? name before = some held → held.equals value = true) := by
  refine ⟨fun r => ?_, fun error => ?_, render_named_error_iff hd e, fun r h => ?_⟩
  · rw [render_positional]
    cases (e.script d).fault <;> simp [eq_comm]
  · rw [render_positional]
    cases (e.script d).fault <;> simp [eq_comm]
  · obtain ⟨haccepted, hargs⟩ := render_named_ok hd h
    refine ⟨(render_ok h).2, hargs, fun before name value after held hpieces hheld => ?_⟩
    simpa [refusal?, hheld] using haccepted before _ after hpieces

/-- The second of two parameters with one name is refused if their values differ. -/
theorem styles_read_one_script_conflict :
    Dialect.mysql.supportsNamed = true ∧
      (Expr.listOf .comma [.var "id" (.int 1), .var "id" (.int 2)]).render .mysql .named =
        .error (.conflictingParameter "id") :=
  ⟨rfl, ((styles_read_one_script rfl _).2.2.1 _).2 (.inl
    ⟨[.parameter (some "id") (.int 1), .text ","], .parameter (some "id") (.int 2), [], rfl,
      accepted_cons.2 ⟨rfl, accepted_cons.2 ⟨rfl, Accepted.nil⟩⟩, by decide⟩)⟩

end Sql
