/-
The SET list of an UPDATE.

Its assignments are equalities as `Expr.compare` builds them, which are also the tests of conditions: against a NULL
constant the operator is IS. `setList_texts` says what the list is written as, whichever steps filled it, and that every
item is an assignment exactly if no value is a NULL constant.
-/
import Sql.Rewrite
import Sql.Proofs.StatementTexts

namespace Sql

variable {d : Dialect} {style : ParamStyle}

/-- A column and the value that it is set to. -/
structure Setting where
  qualifiers : List String
  column : String
  value : Expr

namespace Setting

/-- The equality that sets the column. -/
def pair (s : Setting) : Binary Expr := Expr.compare (.identifier s.qualifiers s.column) .eq s.value

/-- `column=value` -/
def assignmentText (d : Dialect) (style : ParamStyle) (s : Setting) : String :=
  d.identifierText s.qualifiers s.column ++ "=" ++ s.value.textIn d style

/-- What is written for the equality. -/
def pairText (d : Dialect) (style : ParamStyle) (s : Setting) : String :=
  if s.value.isNullConstant then d.identifierText s.qualifiers s.column ++ d.spaced "IS" ++ d.keyword "NULL"
  else s.assignmentText d style

theorem textIn_pair (s : Setting) : (Expr.binary s.pair).textIn d style = s.pairText d style := by
  obtain ⟨qualifiers, column, value⟩ := s
  have hleft (op : BinaryOp) : ((Expr.identifier qualifiers column).script d ++ d.operator op).Spells d style
      (d.identifierText qualifiers column ++ if op.isKeyword then d.spaced op.text else op.text) :=
    .append (.literal _) (.literal _)
  cases hnull : value.isNullConstant with
  | true =>
    obtain rfl : value = .null := by
      unfold Expr.isNullConstant at hnull
      split at hnull
      · rfl
      · cases hnull
    have hvalue : Expr.null.Spells d style (d.keyword "NULL") := .literal _
    exact ((hleft .is).append hvalue).text
  | false =>
    have hpair : Setting.pair ⟨qualifiers, column, value⟩ = ⟨.identifier qualifiers column, .eq, value⟩ := by
      simp [pair, Expr.compare, hnull]
    have hscript : (Expr.binary ⟨.identifier qualifiers column, .eq, value⟩).script d =
        (Expr.identifier qualifiers column).script d ++ d.operator .eq ++ value.script d := rfl
    rw [hpair, pairText, hnull, if_neg Bool.false_ne_true, Expr.textIn, hscript,
      Script.textIn_append d style (hleft .eq).fault, (hleft .eq).text]
    rfl

/-- Behind the column a test and an assignment differ. -/
theorem not_null_of_texts {s : Setting} {x y : String} (h : s.pairText d style ++ x = s.assignmentText d style ++ y) :
    s.value.isNullConstant = false := by
  cases hnull : s.value.isNullConstant with
  | false => rfl
  | true =>
    rw [pairText, if_pos hnull, assignmentText] at h
    simp only [String.append_assoc, String.append_right_inj] at h
    -- The word of the test stands behind a blank, whatever the dialect writes for it.
    simpa [Dialect.spaced] using congrArg String.toList h

theorem pairText_eq_iff {s : Setting} :
    s.pairText d style = s.assignmentText d style ↔ s.value.isNullConstant = false := by
  constructor
  · intro heq
    exact not_null_of_texts (x := "") (y := "") (by rw [heq])
  · intro hnull
    rw [pairText, hnull, if_neg Bool.false_ne_true]

end Setting

/-! ## Steps -/

/-- A step that fills the list: the statement is given another list or one more item, or it is rewritten. -/
inductive SetStep where
  | set (settings : List Setting)
  | push (setting : Setting)
  | rewrite (settings : List Setting)

namespace SetStep

def apply : SetStep → Rewrite
  | .set settings => .onUpdate (·.withPairs (settings.map (·.pair)))
  | .push setting => .onUpdate (·.push setting.pair)
  | .rewrite settings => .assignments (settings.map (·.pair))

/-- The settings behind a step. -/
def held (settings : List Setting) : SetStep → List Setting
  | .set others | .rewrite others => others
  | .push setting => settings ++ [setting]

theorem apply_withPairs (u : Update Expr) (settings : List Setting) (step : SetStep) :
    step.apply (.update (u.withPairs (settings.map (·.pair)))) =
      .update (u.withPairs ((step.held settings).map (·.pair))) := by
  cases step with
  | set others => rfl
  | push setting => simp [apply, held, Rewrite.onUpdate, Update.push, Update.withPairs]
  | rewrite others => rfl

theorem inOrder_withPairs (u : Update Expr) (settings : List Setting) (steps : List SetStep) :
    Rewrite.inOrder (steps.map (·.apply)) (.update (u.withPairs (settings.map (·.pair)))) =
      .update (u.withPairs ((steps.foldl held settings).map (·.pair))) := by
  induction steps generalizing settings with
  | nil => rfl
  | cons step steps ih =>
    have hstep := apply_withPairs u settings step
    have hrest := ih (step.held settings)
    simp only [Rewrite.inOrder] at hrest ⊢
    rw [List.map_cons, List.foldl_cons, hstep, hrest, List.foldl_cons]

end SetStep

/-! ## Texts -/

/-- **The text of the SET list**: the equalities in order, whichever steps filled the list. An equality with a NULL constant
is written as a test, so the list is one of assignments exactly if there is none. -/
theorem setList_texts {table : Expr} {condition : Option Expr} {steps : List SetStep} {settings : List Setting} {r : Rendered}
    (hheld : steps.foldl SetStep.held [] = settings)
    (hr : (Rewrite.inOrder (steps.map (·.apply)) (.update { table, condition })).render d style = .ok r) :
    r.sql = assigningText d style table (settings.map (·.pairText d style)) condition ∧
      (r.sql = assigningText d style table (settings.map (·.assignmentText d style)) condition ↔
        ∀ s ∈ settings, s.value.isNullConstant = false) := by
  have hfilled : Rewrite.inOrder (steps.map (·.apply)) (.update { table, condition }) =
      .update (Update.withPairs { table, condition } (settings.map (·.pair))) := by
    rw [← hheld]
    exact SetStep.inOrder_withPairs { table, condition } [] steps
  rw [hfilled] at hr
  have hsql : r.sql = assigningText d style table (settings.map (·.pairText d style)) condition := by
    rw [(spells_assigning (render_ok hr).1).sql hr]
    simp only [Update.withPairs, List.map_map, Function.comp_def, Setting.textIn_pair]
  refine ⟨hsql, ?_⟩
  rw [hsql, assigningText, assigningText, String.append_left_inj, String.append_right_inj,
    intercalate_map_eq_iff fun s _ x y h => Setting.pairText_eq_iff.2 (Setting.not_null_of_texts h)]
  simp only [Setting.pairText_eq_iff]

/-- A list is replaced and then has one item more, which binds a NULL. -/
def replacedAndPushed : List SetStep :=
  [.set [⟨[], "b", .var "b" (.int 2)⟩], .rewrite [⟨["t"], "a", .constant (.int 1)⟩], .push ⟨[], "b", .var "b" .null⟩]

theorem setList_texts_replacedAndPushed :
    ∃ r, (Rewrite.inOrder (replacedAndPushed.map (·.apply)) (.update { table := .name "t" })).render .sqlServer .named =
        .ok r ∧
      r.sql = "UPDATE [t] SET [t].[a]=1, [b]=@b" := by
  have hfault : ((Rewrite.inOrder (replacedAndPushed.map (·.apply)) (.update { table := .name "t" })).script
      .sqlServer).fault = none := rfl
  obtain ⟨r, hr⟩ := (renders_named_iff rfl hfault).2 (by decide)
  exact ⟨r, hr, (setList_texts rfl hr).1⟩

/-- Setting a column to NULL writes a test. -/
theorem setList_null :
    ∃ r, (Expr.update (Update.withPairs { table := .name "t" } [Expr.compare (.name "a") .eq .null])).render .mysql
        .positional = .ok r ∧
      r.sql = "UPDATE `t` SET `a` IS NULL" ∧ r.sql ≠ "UPDATE `t` SET `a`=NULL" :=
  ⟨_, rfl, by decide, by decide⟩

end Sql
