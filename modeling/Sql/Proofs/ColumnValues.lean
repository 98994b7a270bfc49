/-
Statements whose values stand under names of their own, such as the names of columns.

`render_of_spells` says that such a statement renders in either style and what comes out: the text that it spells, and
its values as the arguments, in their order by position and as a map by name.
-/
import Sql.Entity.Statements
import Sql.Proofs.LastEntries
import Sql.Proofs.NamedParameters
import Sql.Proofs.Spelling

namespace Sql

/-- A parameter as a style writes it. -/
def Dialect.placeholderIn (d : Dialect) (style : ParamStyle) (name : String) : String :=
  match style with
  | .positional => d.placeholder
  | .named => d.namedParameter name

theorem Piece.textIn_parameter (d : Dialect) (style : ParamStyle) (name : String) (value : Value) :
    (Piece.parameter (some name) value).textIn d style = d.placeholderIn style name := by
  cases style <;> rfl

/-- The arguments are these values: by position in their order, and by name under their names. -/
def Args.Hold (args : Args) : ParamStyle → List (String × Value) → Prop
  | .positional, entries => args = .positional (entries.map (·.2))
  | .named, entries =>
    ∃ values : Bindings Value, args = .named values ∧
      ∀ name value, values.get? name = some value ↔ (name, value) ∈ entries

/-- Given values are held by one list or map of arguments only. -/
theorem Args.Hold.eq {args args' : Args} {style : ParamStyle} {entries : List (String × Value)}
    (h : args.Hold style entries) (h' : args'.Hold style entries) : args = args' := by
  cases style with
  | positional => exact Eq.trans h (Eq.symm h')
  | named =>
    obtain ⟨values, rfl, hvalues⟩ := h
    obtain ⟨values', rfl, hvalues'⟩ := h'
    congr 1
    refine Bindings.ext_of_mem fun entry => ?_
    rw [← Bindings.get?_eq_some_iff, ← Bindings.get?_eq_some_iff, hvalues, hvalues']

/-- A value under a name as a parameter. -/
def Parameter.ofEntry (entry : String × Value) : Parameter := ⟨some entry.1, entry.2⟩

section

variable {d : Dialect} {style : ParamStyle} {e : Expr} {text : String} {entries : List (String × Value)}

/-- Arguments by name that bind all values hold nothing else. -/
theorem args_hold (hd : d.supportsNamed = true) (hparameters : e.parameters d.pagination = entries.map .ofEntry)
    {r : Rendered} (hr : e.render d .named = .ok r) (hbinds : ∀ q ∈ e.parameters d.pagination, r.Binds q) :
    r.args.Hold .named entries := by
  obtain ⟨-, values, hargs, -⟩ := render_named_ok hd hr
  refine ⟨values, hargs, fun name value => ?_⟩
  have hget : r.args.get? name = values.get? name := by rw [hargs, Args.get?]
  rw [← hget]
  constructor
  · -- An argument is the value of a parameter with its name.
    intro hvalue
    rw [get?_args hd hr, hparameters] at hvalue
    obtain ⟨q, hq, hqvalue⟩ := Option.map_eq_some_iff.1 hvalue
    obtain ⟨entry, hentry, rfl⟩ := List.mem_map.1 (List.mem_of_find?_eq_some hq)
    have hname : entry.1 = name := by simpa [Parameter.ofEntry] using List.find?_some hq
    rwa [← hname, ← hqvalue]
  · intro hmem
    exact binds_named.1 (hbinds (.ofEntry (name, value)) (hparameters ▸ List.mem_map_of_mem hmem))

theorem spells_var (name : String) (value : Value) :
    (Expr.var name value).Spells d style (d.placeholderIn style name) :=
  Piece.textIn_parameter d style name value ▸ .parameter (some name) value

/-- **A statement whose values have names of their own** renders in either style, with these values as arguments. -/
theorem render_of_spells (hd : style = .named → d.supportsNamed = true) (hspells : e.Spells d style text)
    (hparameters : e.parameters d.pagination = entries.map .ofEntry) (hnames : (entries.map (·.1)).Nodup) :
    ∃ args, e.render d style = .ok ⟨text, args⟩ ∧ args.Hold style entries := by
  suffices ∃ r, e.render d style = .ok r ∧ r.args.Hold style entries by
    obtain ⟨⟨sql, args⟩, hr, hargs⟩ := this
    obtain rfl : sql = text := hspells.sql hr
    exact ⟨args, hr, hargs⟩
  cases style with
  | positional =>
    obtain ⟨r, hr⟩ := renders_positional_iff.2 hspells.fault
    refine ⟨r, hr, ?_⟩
    rw [args_of_render hr, hparameters, List.map_map]
    rfl
  | named =>
    have hnamed : ∀ q ∈ e.parameters d.pagination, q.name.isSome = true := by
      rw [hparameters, List.forall_mem_map]
      exact fun _ _ => rfl
    have hcompatible : (e.parameters d.pagination).Pairwise Parameter.Compatible := by
      rw [hparameters, List.pairwise_map]
      exact (List.pairwise_map.1 hnames).imp fun hne hname => absurd (Option.some.inj hname) hne
    obtain ⟨r, hr, hbinds⟩ := (binds_iff (hd rfl) hspells.fault).2 ⟨hnamed, hcompatible⟩
    exact ⟨r, hr, args_hold (hd rfl) hparameters hr hbinds⟩

/-! ## Columns -/

/-- `column=placeholder` -/
def Column.assignmentIn (c : Column) (d : Dialect) (style : ParamStyle) : String :=
  d.quote c.name ++ "=" ++ d.placeholderIn style c.name

theorem spells_assign (c : Column) (value : Value) :
    (Expr.binary (c.assign value)).Spells d style (c.assignmentIn d style) := by
  have hequal : (Expr.binary ⟨.name c.name, .eq, .var c.name value⟩).Spells d style _ :=
    spells_binary (spells_name c.name) (spells_var c.name value) rfl
  exact hequal

theorem parameters_assign (p : Pagination) (c : Column) (value : Value) :
    binaryParameters p (c.assign value) = [⟨some c.name, value⟩] := rfl

theorem allParameters_names (p : Pagination) (es : List α) (name : α → String) :
    allParameters p (es.map fun e => Expr.name (name e)) = [] := by
  rw [allParameters_eq, List.flatMap_map, List.flatMap_eq_nil_iff]
  exact fun _ _ => rfl

end

/-! ## Records -/

section

variable {ρ : Type} [Record ρ]

/-- What a record holds in columns at their places: the values under the names of the columns. -/
def Record.columnValues (record : ρ) (columns : List (Column × Nat)) : List (String × Value) :=
  columns.map fun entry => (entry.1.name, (values record)[entry.2]?.getD .null)

/-- Assignments and tests of columns bind what the record holds in them. -/
theorem parameters_columnValues (p : Pagination) (record : ρ) (columns : List (Column × Nat)) :
    allParameters p (columns.map fun entry => .binary (entry.1.assign (Record.valueAt record entry.2))) =
      (Record.columnValues record columns).map .ofEntry := by
  rw [allParameters_eq, List.flatMap_map, Record.columnValues, List.map_map, List.map_eq_flatMap]
  rfl

end

end Sql
