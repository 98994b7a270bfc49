/-
Scripts: a statement as literal text and parameters in the order in which they are written, up to the point
where the statement turns out to be malformed, if it does.

A script does not say how parameters are spelled. Writers make no scripts; that they write what the scripts say, in both styles
of parameters, is `Writer.writeExpr_eq_write`.
-/
import Sql.Error
import Sql.Value.Basic

namespace Sql

inductive Piece where
  | text (s : String)
  | parameter (name : Option String) (value : Value)
deriving DecidableEq

structure Script where
  pieces : List Piece
  /-- Why the statement stops after the pieces. -/
  fault : Option QueryFault := none
deriving DecidableEq

namespace Script

def nil : Script := ⟨[], none⟩

def text (s : String) : Script := ⟨[.text s], none⟩

def parameter (name : Option String) (value : Value) : Script := ⟨[.parameter name value], none⟩

def fail (fault : QueryFault) : Script := ⟨[], some fault⟩

/-- One script after another. Nothing is written after a fault. -/
def append (s t : Script) : Script :=
  match s.fault with
  | none => ⟨s.pieces ++ t.pieces, t.fault⟩
  | some _ => s

instance : Append Script := ⟨append⟩

theorem append_def (s t : Script) : s ++ t = s.append t := rfl

@[simp] theorem nil_append (s : Script) : nil ++ s = s := rfl

@[simp] theorem append_nil (s : Script) : s ++ nil = s := by
  obtain ⟨pieces, fault⟩ := s
  cases fault <;> simp [append_def, append, nil]

theorem append_assoc (s t u : Script) : s ++ t ++ u = s ++ (t ++ u) := by
  obtain ⟨pieces, fault⟩ := s
  obtain ⟨pieces', fault'⟩ := t
  cases fault <;> cases fault' <;> simp [append_def, append]

/-- Scripts with a separator between each two. -/
def join (separator : Script) : List Script → Script
  | [] => nil
  | [s] => s
  | s :: t :: rest => s ++ separator ++ join separator (t :: rest)

/-- Scripts with a separator in front of each. -/
def joinBehind (separator : Script) : List Script → Script
  | [] => nil
  | s :: ss => separator ++ s ++ joinBehind separator ss

theorem join_cons (separator s : Script) (ss : List Script) :
    join separator (s :: ss) = s ++ joinBehind separator ss := by
  induction ss generalizing s with
  | nil => rw [joinBehind, append_nil, join]
  | cons t ss ih => rw [join, ih, joinBehind, append_assoc, append_assoc]

/-- A script in parentheses. -/
def paren (s : Script) : Script := text "( " ++ s ++ text " )"

def parenIf (grouped : Bool) (s : Script) : Script :=
  if grouped then s.paren else s

/-! ## Faults -/

@[simp] theorem fault_nil : nil.fault = none := rfl

@[simp] theorem fault_text (s : String) : (text s).fault = none := rfl

theorem fault_append (s t : Script) : (s ++ t).fault = s.fault.or t.fault := by
  obtain ⟨pieces, fault⟩ := s
  cases fault <;> simp [append_def, append]

@[simp] theorem fault_append_eq_none {s t : Script} : (s ++ t).fault = none ↔ s.fault = none ∧ t.fault = none := by
  obtain ⟨pieces, fault⟩ := s
  cases fault <;> simp [append_def, append]

@[simp] theorem fault_paren {s : Script} : s.paren.fault = none ↔ s.fault = none := by
  simp [paren]

@[simp] theorem fault_parenIf {grouped : Bool} {s : Script} : (parenIf grouped s).fault = none ↔ s.fault = none := by
  cases grouped <;> simp [parenIf]

theorem fault_join {separator : Script} (hsep : separator.fault = none) {ss : List Script} :
    (join separator ss).fault = none ↔ ∀ s ∈ ss, s.fault = none := by
  induction ss with
  | nil => simp [join]
  | cons s ss ih =>
    cases ss with
    | nil => simp [join]
    | cons t ss => simp only [join, fault_append_eq_none, hsep, and_true, ih, List.forall_mem_cons]

end Script

end Sql
