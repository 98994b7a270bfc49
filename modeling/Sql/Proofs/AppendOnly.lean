/-
Writers only append, and write a tree as it renders alone.

Each call writes a script (`WriterCall.exists_script`), so what one piece adds to a writer (`extends_push`) is all that runs of
calls do to it, whether they end well or not. A writer that is reached by calls has written pieces that were accepted one after
another (`Wrote.run`); a tree is accepted behind them exactly if it is accepted alone and agrees with them on the names that
both have (`accepted_behind_iff`).
-/
import Sql.Proofs.NamedParameters

namespace Sql

/-! ## Calls -/

/-- One call on a writer. -/
inductive WriterCall where
  | text (s : String)
  | keyword (word : String)
  | spaced (word : String)
  | quoted (name : String)
  | parameter (name : Option String) (value : Value)
  | expr (e : Expr)

def WriterCall.steps : WriterCall → Writing Unit
  | text s => Writing.pushText s
  | keyword word => Writing.pushKeyword word
  | spaced word => Writing.pushSpaced word
  | quoted name => Writing.pushQuoted name
  | parameter name value => Writing.pushParameter name value
  | expr e => Writing.writeExpr e

/-- The writer behind some calls. One that fails leaves what it has written. -/
def Writer.run (w : Writer) (calls : List WriterCall) : Writer :=
  calls.foldl (fun w call => (call.steps.outcome w).1) w

/-- A call writes a script. -/
theorem WriterCall.exists_script (call : WriterCall) (w : Writer) : ∃ s, call.steps.outcome w = w.write s := by
  cases call with
  | text s => exact ⟨_, Writing.emits_text s w rfl⟩
  | keyword word => exact ⟨_, Writing.emits_keyword w.dialect word w rfl⟩
  | spaced word => exact ⟨_, Writing.emits_spaced w.dialect word w rfl⟩
  | quoted name => exact ⟨_, Writing.emits_quoted w.dialect name w rfl⟩
  | parameter name value => exact ⟨_, Writing.emits_parameter name value w rfl⟩
  | expr e => exact ⟨_, w.writeExpr_eq_write e⟩

/-! ## What stays -/

/-- Arguments that are all still there: a list goes on, and a name keeps its value. -/
inductive Args.Keeps : Args → Args → Prop where
  | positional (values more : List Value) : Keeps (.positional values) (.positional (values ++ more))
  | named {held later : Bindings Value} (h : ∀ name value, held.get? name = some value → later.get? name = some value) :
      Keeps (.named held) (.named later)

theorem Args.Keeps.refl (args : Args) : args.Keeps args := by
  cases args with
  | positional values => simpa using Keeps.positional values []
  | named held => exact .named fun _ _ h => h

theorem Args.Keeps.trans {args args' args'' : Args} (h : args.Keeps args') (h' : args'.Keeps args'') :
    args.Keeps args'' := by
  cases h with
  | positional values more =>
    cases h' with
    | positional _ more' => simpa using Keeps.positional values (more ++ more')
  | named h =>
    cases h' with
    | named h' => exact .named fun name value hvalue => h' name value (h name value hvalue)

namespace Writer

/-- A writer that has written more than another one. -/
structure Extends (w' w : Writer) : Prop where
  dialect : w'.dialect = w.dialect
  sql : ∃ more, w'.sql = w.sql ++ more
  args : w.args.Keeps w'.args

theorem Extends.refl (w : Writer) : w.Extends w := ⟨rfl, ⟨"", by simp⟩, .refl _⟩

theorem Extends.trans {w w' w'' : Writer} (h : w'.Extends w) (h' : w''.Extends w') : w''.Extends w := by
  obtain ⟨more, hmore⟩ := h.sql
  obtain ⟨more', hmore'⟩ := h'.sql
  refine ⟨h'.dialect.trans h.dialect, ⟨more ++ more', ?_⟩, h.args.trans h'.args⟩
  rw [hmore', hmore, String.append_assoc]

/-- One piece. -/
theorem extends_push {w w' : Writer} {piece : Piece} (h : w.push piece = .ok w') : w'.Extends w := by
  obtain ⟨s, -, rfl⟩ | ⟨name, value, values, -, hargs, rfl⟩ | ⟨name, value, held, v, -, -, -, -, rfl⟩ |
    ⟨name, value, held, -, hargs, hheld, rfl⟩ := push_cases h
  · exact ⟨rfl, ⟨s, rfl⟩, .refl _⟩
  · exact ⟨rfl, ⟨_, rfl⟩, hargs ▸ .positional values [value]⟩
  · exact ⟨rfl, ⟨_, rfl⟩, .refl _⟩
  · refine ⟨rfl, ⟨_, rfl⟩, hargs ▸ .named fun other v hv => ?_⟩
    have hne : other ≠ name := by
      rintro rfl
      rw [hheld] at hv
      cases hv
    rw [Bindings.get?_insert_other held value hne, hv]

/-- Pieces, up to the one that is refused. -/
theorem extends_pushAll (w : Writer) (pieces : List Piece) : (w.pushAll pieces).1.Extends w := by
  induction pieces generalizing w with
  | nil => exact .refl w
  | cons piece pieces ih =>
    rw [pushAll]
    cases hpush : w.push piece with
    | error error => exact .refl w
    | ok w' => exact (extends_push hpush).trans (ih w')

/-- A script, up to where it ends or fails. -/
theorem extends_write (w : Writer) (s : Script) : (w.write s).1.Extends w := by
  rw [write_fst]
  exact w.extends_pushAll s.pieces

theorem extends_writeExpr (w : Writer) (e : Expr) : (w.writeExpr e).1.Extends w := by
  rw [writeExpr_eq_write]
  exact w.extends_write _

theorem extends_run (w : Writer) (calls : List WriterCall) : (w.run calls).Extends w := by
  induction calls generalizing w with
  | nil => exact .refl w
  | cons call calls ih =>
    obtain ⟨s, hs⟩ := call.exists_script w
    have hcall : (call.steps.outcome w).1.Extends w := by
      rw [hs]
      exact w.extends_write s
    exact hcall.trans (ih _)

end Writer

/-! ## What was written -/

namespace Piece

open Parameter

theorem name_of_first {name : String} {ps : List Parameter} {q : Parameter} (h : first? name ps = some q) :
    q.name = some name := by
  simpa using List.find?_some h

/-- What is accepted behind pieces that were: what is accepted alone and gives no name another value. -/
theorem accepted_behind_iff {before pieces : List Piece} (hbefore : (parametersOf before).Pairwise Agree) :
    Accepted before pieces ↔
      Accepted [] pieces ∧
        ∀ name v v', firstValue? name before = some v → firstValue? name pieces = some v' → v.equals v' = true := by
  have halone : Accepted [] pieces ↔ _ := accepted_iff List.Pairwise.nil
  rw [accepted_iff hbefore, halone, List.nil_append, parametersOf_append, List.pairwise_append]
  simp only [firstValue?_eq]
  constructor
  · rintro ⟨hnames, -, hpieces, hcross⟩
    refine ⟨⟨hnames, hpieces⟩, fun name v v' hv hv' => ?_⟩
    obtain ⟨a, ha, rfl⟩ := Option.map_eq_some_iff.1 hv
    obtain ⟨b, hb, rfl⟩ := Option.map_eq_some_iff.1 hv'
    have hname : a.name = b.name := (name_of_first ha).trans (name_of_first hb).symm
    exact hcross a (List.mem_of_find?_eq_some ha) b (List.mem_of_find?_eq_some hb) hname
  · rintro ⟨⟨hnames, hpieces⟩, hfirst⟩
    refine ⟨hnames, hbefore, hpieces, fun a ha b hb hname => ?_⟩
    obtain ⟨name, hb'⟩ := Option.isSome_iff_exists.1 (hnames b hb)
    have ha' := hname.trans hb'
    -- Both are equal to the first of their name on their side, and these two are equal.
    obtain ⟨f, hf, hfname, -, hfa⟩ := first?_related hbefore ha ha'
    obtain ⟨g, hg, hgname, -, hgb⟩ := first?_related hpieces hb hb'
    have hfg : f.value.equals g.value = true := hfirst name _ _ (by rw [hf]; rfl) (by rw [hg]; rfl)
    have hag : a.value.equals g.value = true := by
      rcases hfa with rfl | hfa
      · exact hfg
      · exact Value.equals_trans (Value.equals_symm (hfa (hfname.trans ha'.symm))) hfg
    rcases hgb with rfl | hgb
    · exact hag
    · exact Value.equals_trans hag (hgb (hgname.trans hb'.symm))

end Piece

namespace Writer

open Piece

/-- What a run that is refused has written: the pieces before the refused one. -/
theorem pushAll_written (w : Writer) (pieces : List Piece) :
    ∃ written, w.pushAll written = ((w.pushAll pieces).1, none) := by
  induction pieces generalizing w with
  | nil => exact ⟨[], rfl⟩
  | cons piece pieces ih =>
    rw [pushAll]
    cases hpush : w.push piece with
    | error error => exact ⟨[], rfl⟩
    | ok w' =>
      obtain ⟨written, hwritten⟩ := ih w'
      refine ⟨piece :: written, ?_⟩
      rw [pushAll, hpush]
      exact hwritten

/-- A writer that has written pieces, all of them accepted. -/
def Wrote (w : Writer) (d : Dialect) (before : List Piece) : ParamStyle → Prop
  | .positional => w.Writes d before
  | .named => d.supportsNamed = true ∧ w.Holds d before ∧ (parametersOf before).Pairwise Parameter.Agree

variable {w : Writer} {d : Dialect} {style : ParamStyle} {before : List Piece}

theorem wrote_start (h : start d style = .ok w) : w.Wrote d [] style := by
  unfold start at h
  split at h
  · cases h
  · next hstyle =>
    cases h
    cases style with
    | positional => exact ⟨rfl, rfl, rfl⟩
    | named => exact ⟨by simpa using hstyle, ⟨rfl, rfl, .empty, rfl, fun _ => rfl⟩, List.Pairwise.nil⟩

/-- Whatever is written next and however it ends, what the writer has written was accepted. -/
theorem Wrote.write (h : w.Wrote d before style) (s : Script) : ∃ before', (w.write s).1.Wrote d before' style := by
  obtain ⟨written, hwritten⟩ := w.pushAll_written s.pieces
  rw [write_fst]
  refine ⟨before ++ written, ?_⟩
  cases style with
  | positional =>
    obtain ⟨w', hall, hw'⟩ := Writes.pushAll h written
    cases hwritten.symm.trans hall
    exact hw'
  | named =>
    obtain ⟨hsupport, hholds, hpairs⟩ := h
    rcases hholds.pushAll written with ⟨haccepted, w', hall, hw'⟩ | ⟨w', error, -, hall⟩
    · cases hwritten.symm.trans hall
      exact ⟨hsupport, hw', ((accepted_iff hpairs).1 haccepted).2⟩
    · cases hwritten.symm.trans hall

theorem Wrote.run (h : w.Wrote d before style) (calls : List WriterCall) :
    ∃ before', (w.run calls).Wrote d before' style := by
  induction calls generalizing w before with
  | nil => exact ⟨before, h⟩
  | cons call calls ih =>
    obtain ⟨s, hs⟩ := call.exists_script w
    obtain ⟨before', h'⟩ := h.write s
    rw [← hs] at h'
    exact ih h'

end Writer

/-! ## A tree behind what was written -/

namespace Args

/-- No name holds values that differ. Values are compared as those of a repeated name are, so NaN differs from itself. -/
def Agree (args args' : Args) : Prop :=
  ∀ name v v', args.get? name = some v → args'.get? name = some v' → v.equals v' = true

/-- Arguments behind others: one list after the other, or the union of two maps. -/
inductive Joined : Args → Args → Args → Prop where
  | positional (values more : List Value) : Joined (.positional values) (.positional more) (.positional (values ++ more))
  | named {held more all : Bindings Value} (h : ∀ name, all.get? name = (held.get? name).or (more.get? name)) :
      Joined (.named held) (.named more) (.named all)

end Args

namespace Writer

open Piece

/-- A writer writes a tree as it renders alone: it ends well exactly if the tree renders and, by name, its arguments agree
with those that are there; then text and arguments are appended. -/
structure Appends (w : Writer) (e : Expr) (d : Dialect) (style : ParamStyle) : Prop where
  ends_iff : (w.writeExpr e).2 = none ↔ ∃ r, e.render d style = .ok r ∧ (style = .named → w.args.Agree r.args)
  appended : ∀ r, (w.writeExpr e).2 = none → e.render d style = .ok r →
    (w.writeExpr e).1.sql = w.sql ++ r.sql ∧ w.args.Joined r.args (w.writeExpr e).1.args

variable {w : Writer} {d : Dialect} {style : ParamStyle} {before : List Piece}

theorem Writes.appends (h : w.Writes d before) (e : Expr) : w.Appends e d .positional := by
  obtain ⟨w', hall, hw'⟩ := h.pushAll (e.script d).pieces
  rw [← h.dialect] at hall
  have hwrite := writeExpr_of_pushAll hall
  rw [h.dialect] at hwrite
  refine ⟨?_, fun r _ hr => ?_⟩
  · rw [hwrite]
    simp [← renders_positional_iff]
  · rw [render_positional] at hr
    split at hr
    · cases hr
      have hvalues : valuesOf (before ++ (e.script d).pieces) = valuesOf before ++ valuesOf (e.script d).pieces :=
        List.filterMap_append
      rw [hwrite, hw'.sql, hw'.args, h.sql, h.args, textOf_append, hvalues]
      exact ⟨rfl, .positional _ _⟩
    · cases hr

/-- A writer and a tree with parameters by name: what each name holds before and in the tree alone decides. -/
theorem Holds.agree_iff {r : Rendered} (h : w.Holds d before) (hd : d.supportsNamed = true) {e : Expr}
    (hr : e.render d .named = .ok r) :
    w.args.Agree r.args ↔ ∀ name v v', firstValue? name before = some v →
      firstValue? name (e.script d).pieces = some v' → v.equals v' = true := by
  obtain ⟨held, hargs, hheld⟩ := h.args
  obtain ⟨-, values, hrargs, hvalues⟩ := render_named_ok hd hr
  simp only [Args.Agree, hargs, hrargs, Args.get?, hheld, hvalues]

/-- A tree is written to its end exactly if its script has no fault and its pieces are accepted behind those before. -/
theorem Holds.ends_iff (h : w.Holds d before) (e : Expr) :
    (w.writeExpr e).2 = none ↔ (e.script d).fault = none ∧ Accepted before (e.script d).pieces := by
  rcases h.pushAll (e.script d).pieces with ⟨haccepted, w', hall, -⟩ | ⟨w', error, hrefused, hall⟩
  · rw [← h.dialect] at hall
    rw [writeExpr_of_pushAll hall, h.dialect, Option.map_eq_none_iff]
    exact ⟨fun hfault => ⟨hfault, haccepted⟩, And.left⟩
  · have hfails : (w.writeExpr e).2 = some error := by
      rw [writeExpr_eq_write, Writer.write, h.dialect, hall]
    rw [hfails]
    exact iff_of_false (Option.some_ne_none error) fun hends => not_refused_of_accepted hends.2 hrefused

/-- Behind a tree that is accepted a writer holds its pieces too. -/
theorem Holds.writeExpr (h : w.Holds d before) {e : Expr} (haccepted : Accepted before (e.script d).pieces) :
    (w.writeExpr e).1.Holds d (before ++ (e.script d).pieces) := by
  rcases h.pushAll (e.script d).pieces with ⟨-, w', hall, hw'⟩ | ⟨w', error, hrefused, -⟩
  · rw [← h.dialect] at hall
    rwa [writeExpr_of_pushAll hall]
  · exact absurd hrefused (not_refused_of_accepted haccepted)

theorem exists_render_named (hd : d.supportsNamed = true) {e : Expr} (hfault : (e.script d).fault = none)
    (haccepted : Accepted [] (e.script d).pieces) : ∃ r, e.render d .named = .ok r := by
  rcases render_named hd e with ⟨-, values, -, hrun⟩ | ⟨error, hrefused, -⟩
  · rw [hfault] at hrun
    exact ⟨_, hrun⟩
  · exact absurd hrefused (not_refused_of_accepted haccepted)

theorem Holds.appends (h : w.Holds d before) (hd : d.supportsNamed = true)
    (hpairs : (parametersOf before).Pairwise Parameter.Agree) (e : Expr) : w.Appends e d .named where
  ends_iff := by
    rw [h.ends_iff, accepted_behind_iff hpairs]
    constructor
    · rintro ⟨hfault, halone, hagree⟩
      obtain ⟨r, hr⟩ := exists_render_named hd hfault halone
      exact ⟨r, hr, fun _ => (h.agree_iff hd hr).2 hagree⟩
    · rintro ⟨r, hr, hagree⟩
      exact ⟨(render_ok hr).1, (render_named_ok hd hr).1, (h.agree_iff hd hr).1 (hagree rfl)⟩
  appended r hends hr := by
    have hw' := h.writeExpr ((h.ends_iff e).1 hends).2
    obtain ⟨held, hargs, hheld⟩ := h.args
    obtain ⟨all, hargs', hall⟩ := hw'.args
    obtain ⟨-, values, hrargs, hvalues⟩ := render_named_ok hd hr
    rw [hw'.sql, hargs', h.sql, hargs, hrargs, (render_ok hr).2, textOf_append]
    refine ⟨rfl, .named fun name => ?_⟩
    rw [hall, hheld, hvalues, firstValue?_append]

theorem Wrote.appends (h : w.Wrote d before style) (e : Expr) : w.Appends e d style := by
  cases style with
  | positional => exact Writes.appends h e
  | named =>
    obtain ⟨hd, hholds, hpairs⟩ := h
    exact hholds.appends hd hpairs e

end Writer

/-- **Writers only append, and write a tree as it renders alone**, whatever calls were made before, failed ones included.
Further calls keep the text and the arguments that are there. A tree is written to its end exactly if it renders and, by name,
no name holds a value before that differs from its value in the tree; then its text is appended and its arguments are joined
to those before. -/
theorem writer_appends {d : Dialect} {style : ParamStyle} {start : Writer} (hstart : Writer.start d style = .ok start)
    (calls : List WriterCall) (e : Expr) :
    ((start.run calls).writeExpr e).1.Extends (start.run calls) ∧
      (∀ later, ((start.run calls).run later).Extends (start.run calls)) ∧
      (start.run calls).Appends e d style := by
  obtain ⟨before, hbefore⟩ := (Writer.wrote_start hstart).run calls
  exact ⟨Writer.extends_writeExpr _ _, Writer.extends_run _, hbefore.appends e⟩

/-- A test, a conflict behind it, and a word. -/
def refusedCalls : List WriterCall :=
  [.expr (.binary ⟨.name "id", .eq, .var "id" (.int 1)⟩), .expr (.var "id" (.int 2)), .spaced "OR"]

/-- The same parameter again is written behind the conflict, another value is not. -/
theorem writer_appends_refused : ∃ start, Writer.start .mysql .named = .ok start ∧
    (start.run refusedCalls).sql = "\x60id\x60=:id OR " ∧
    ((start.run refusedCalls).writeExpr (.var "id" (.int 1))).2 = none ∧
    ((start.run refusedCalls).writeExpr (.var "id" (.int 1))).1.sql = "\x60id\x60=:id OR :id" ∧
    ((start.run refusedCalls).writeExpr (.var "id" (.int 3))).2 ≠ none := by
  have hstart : Writer.start .mysql .named = .ok ⟨.mysql, "", .named .empty⟩ := rfl
  obtain ⟨-, -, hends, happended⟩ := writer_appends hstart refusedCalls (.var "id" (.int 1))
  obtain ⟨-, -, hends', -⟩ := writer_appends hstart refusedCalls (.var "id" (.int 3))
  have hrenders (n : Int64) : (Expr.var "id" (.int n)).render .mysql .named =
      .ok ⟨":id", .named (Bindings.empty.insert "id" (.int n))⟩ := rfl
  have hagree : (Args.named (Bindings.empty.insert "id" (.int 1))).Agree (.named (Bindings.empty.insert "id" (.int 1))) := by
    intro name v v' hv hv'
    cases Option.some.inj (hv.symm.trans hv')
    by_cases hname : name = "id"
    · subst hname
      cases hv
      rfl
    · rw [Args.get?, Bindings.get?_insert_other _ _ hname] at hv
      cases hv
  have hwritten := hends.2 ⟨_, hrenders 1, fun _ => hagree⟩
  refine ⟨_, hstart, rfl, hwritten, (happended _ hwritten (hrenders 1)).1, fun hnone => ?_⟩
  obtain ⟨r, hr, hdiffers⟩ := hends'.1 hnone
  cases hr.symm.trans (hrenders 3)
  exact absurd (hdiffers rfl "id" (.int 1) (.int 3) rfl rfl) (by decide)

end Sql
