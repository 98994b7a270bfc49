/-
What comes of a rendering apart from its text.

The arguments, or the reason of a refusal, depend on a script only by its parameters and its fault: `render_args_eq` says
so, whatever literal text stands between the parameters. Scripts that agree in these are `Alike`, and scripts made of
scripts that are alike in the same way are alike.
-/
import Sql.Proofs.Parameters

namespace Sql

/-! ## Collecting arguments -/

namespace Args

/-- The arguments behind one more parameter. -/
def push (args : Args) (q : Parameter) : Except Error Args :=
  match args with
  | .positional values => .ok (.positional (values ++ [q.value]))
  | .named values =>
    match q.name with
    | none => .error .unnamedParameter
    | some name =>
      match values.get? name with
      | some held => if held.equals q.value then .ok (.named values) else .error (.conflictingParameter name)
      | none => .ok (.named (values.insert name q.value))

/-- The arguments behind parameters up to the first that is refused. -/
def pushAll (args : Args) : List Parameter → Args × Option Error
  | [] => (args, none)
  | q :: qs =>
    match args.push q with
    | .ok args => args.pushAll qs
    | .error error => (args, some error)

end Args

namespace Writer

theorem map_args_push (w : Writer) (name : Option String) (value : Value) :
    (w.push (.parameter name value)).map (·.args) = w.args.push ⟨name, value⟩ := by
  obtain ⟨d, sql, args⟩ := w
  cases args with
  | positional values => rfl
  | named values =>
    cases name with
    | none => rfl
    | some name =>
      simp only [push, pushParameter, Args.push]
      cases values.get? name with
      | none => rfl
      | some held => cases hequal : held.equals value <;> simp [Except.map, hequal]

/-- Literal text leaves the arguments as they are. -/
theorem args_pushAll (w : Writer) (pieces : List Piece) :
    ((w.pushAll pieces).1.args, (w.pushAll pieces).2) = w.args.pushAll (Piece.parametersOf pieces) := by
  induction pieces generalizing w with
  | nil => rfl
  | cons piece pieces ih =>
    cases piece with
    | text s => exact ih _
    | parameter name value =>
      have hpush := map_args_push w name value
      have hfirst : Piece.parametersOf (.parameter name value :: pieces) = ⟨name, value⟩ :: Piece.parametersOf pieces :=
        rfl
      rw [hfirst, Args.pushAll, Writer.pushAll, ← hpush]
      cases w.push (.parameter name value) with
      | error error => rfl
      | ok w' => exact ih w'

end Writer

/-- What the parameters and the fault of a script make of arguments. -/
def Script.outcome (s : Script) (args : Args) : Except Error Args :=
  match args.pushAll s.parameters with
  | (_, some error) => .error error
  | (args, none) =>
    match s.fault with
    | none => .ok args
    | some fault => .error (.invalidQuery fault)

/-- **What comes of a rendering** apart from its text is the outcome of the script. -/
theorem render_args_eq (e : Expr) (d : Dialect) (style : ParamStyle) :
    (e.render d style).map (·.args) = (Writer.start d style).bind fun w => (e.script d).outcome w.args := by
  cases hstart : Writer.start d style with
  | error error => simp [Expr.render, hstart, Except.map, Except.bind, bind]
  | ok w =>
    have hdialect : w.dialect = d := by
      unfold Writer.start at hstart
      split at hstart
      · cases hstart
      · rw [← Except.ok.inj hstart]
    have hpieces := w.args_pushAll (e.script d).pieces
    rw [render_of_start hstart, Writer.writeExpr_eq_write, hdialect, Writer.write, Except.bind, Script.outcome,
      Script.parameters, ← hpieces]
    rcases w.pushAll (e.script d).pieces with ⟨w', _ | error⟩
    · cases (e.script d).fault <;> rfl
    · rfl

/-! ## Scripts that differ in their text only -/

/-- Two scripts with the same parameters and the same fault. -/
structure Script.Alike (s t : Script) : Prop where
  fault : s.fault = t.fault
  parameters : s.parameters = t.parameters

/-- Trees whose scripts are alike render to the same arguments or are refused with the same error. -/
theorem render_args_of_alike {e e' : Expr} {d : Dialect} (h : (e.script d).Alike (e'.script d)) (style : ParamStyle) :
    (e.render d style).map (·.args) = (e'.render d style).map (·.args) := by
  rw [render_args_eq, render_args_eq]
  simp only [Script.outcome, h.fault, h.parameters]

namespace Script.Alike

variable {s s' t t' : Script}

theorem refl (s : Script) : s.Alike s := ⟨rfl, rfl⟩

theorem texts (x y : String) : (Script.text x).Alike (.text y) := ⟨rfl, rfl⟩

/-- Behind a fault nothing follows, and in front of it the parameters add up. -/
theorem append (hs : s.Alike s') (ht : t.Alike t') : (s ++ t).Alike (s' ++ t') := by
  obtain ⟨pieces, fault⟩ := s
  obtain ⟨pieces', fault'⟩ := s'
  obtain ⟨rfl, hparameters⟩ := hs
  cases fault with
  | some fault => exact ⟨rfl, hparameters⟩
  | none =>
    refine ⟨ht.fault, ?_⟩
    rw [Script.parameters_append rfl, Script.parameters_append rfl, hparameters, ht.parameters]

theorem paren (hs : s.Alike s') : s.paren.Alike s'.paren := ((refl _).append hs).append (refl _)

theorem parenIf (grouped : Bool) (hs : s.Alike s') : (Script.parenIf grouped s).Alike (Script.parenIf grouped s') := by
  cases grouped with
  | false => exact hs
  | true => exact hs.paren

theorem join (separator : Script) {es : List α} {f g : α → Script} (h : ∀ e ∈ es, (f e).Alike (g e)) :
    (Script.join separator (es.map f)).Alike (Script.join separator (es.map g)) := by
  induction es with
  | nil => exact refl _
  | cons e es ih =>
    obtain ⟨he, hes⟩ := List.forall_mem_cons.1 h
    cases es with
    | nil => exact he
    | cons e' es => exact (he.append (refl separator)).append (ih hes)

end Script.Alike

end Sql
