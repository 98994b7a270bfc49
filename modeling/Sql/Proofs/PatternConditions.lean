/-
Conditions whose patterns are compared with LIKE.

`Rewrite.autoFuzzy` changes the operators of a WHERE clause and nothing else. What it may change is said by places: the steps
to items of lists and into parentheses that lead from the clause to a tree in it. `autoFuzzy_rewrites` says that the
rewriting gives the one tree that has LIKE at the places of equalities with patterns and is the same everywhere else, that
it may be repeated and exchanged with the rewritings of separators, and that a rendering keeps its arguments and errors.
-/
import Sql.Rewrite
import Sql.Proofs.Outcomes
import Sql.Proofs.WriteGuard

namespace Sql

/-! ## Places in a condition -/

/-- A step from a condition to one in it. -/
inductive Descent where
  | item (place : Nat)
  | inside

namespace Expr

/-- The tree to which steps lead, if they lead to one. -/
def at? : List Descent → Expr → Option Expr
  | [], e => some e
  | .item place :: path, .list l => (l.items[place]?).bind (at? path)
  | .inside :: path, .paren inner => inner.at? path
  | _ :: _, _ => none

/-- The tree to which steps lead from a WHERE clause. -/
def conditionAt? (path : List Descent) (s : Expr) : Option Expr := s.condition?.bind (at? path)

/-- A tree without the trees to which steps lead. -/
def face : Expr → Expr
  | .list ⟨separator, items, lead, trail⟩ => .list ⟨separator, items.map fun _ => null, lead, trail⟩
  | .paren _ => .paren null
  | e => e

/-- A tree is known by the faces at all places in it. -/
theorem eq_of_faces {e e' : Expr} (h : ∀ path, (e.at? path).map face = (e'.at? path).map face) : e = e' := by
  induction e using Expr.induct generalizing e' with
  | node e ih =>
    have hface : e.face = e'.face := Option.some.inj (h [])
    cases e with
    | list l =>
      obtain ⟨separator, items, lead, trail⟩ := l
      cases e' with
      | list l' =>
        obtain ⟨separator', items', lead', trail'⟩ := l'
        simp only [face, list.injEq, Listing.mk.injEq] at hface
        obtain ⟨rfl, hlength, rfl, rfl⟩ := hface
        have hlength : items.length = items'.length := by simpa using congrArg List.length hlength
        have hitems : items = items' := by
          refine List.ext_getElem hlength fun place hplace hplace' => ?_
          refine ih items[place] (by simp [children]) fun path => ?_
          simpa [at?, hplace, hplace'] using h (.item place :: path)
        rw [hitems]
      | _ => simp [face] at hface
    | paren inner =>
      cases e' with
      | paren inner' =>
        have hinner : inner = inner' :=
          ih inner (List.mem_singleton_self inner) fun path => by simpa [at?] using h (.inside :: path)
        rw [hinner]
      | _ => simp [face] at hface
    | _ => cases e' <;> first | exact hface | simp [face] at hface

end Expr

/-- An equality with a text that holds one of the characters of patterns. -/
def Binary.EqualsPattern (b : Binary Expr) : Prop :=
  b.op = .eq ∧ ∃ s : String, (b.right = .constant (.text s) ∨ ∃ name, b.right = .bound name (.text s)) ∧
    ('%' ∈ s.toList ∨ '?' ∈ s.toList ∨ '.' ∈ s.toList)

/-- A statement in whose WHERE clause patterns are compared with LIKE: at each place of an equality with a pattern there
is the same test with LIKE, at all other places there is what there was, and nothing else is changed. -/
structure ComparesPatterns (s s' : Expr) : Prop where
  outside : s'.mapCondition (fun _ => none) = s.mapCondition fun _ => none
  like : ∀ path b, s.conditionAt? path = some (.binary b) → b.EqualsPattern →
    s'.conditionAt? path = some (.binary { b with op := .like })
  same : ∀ path e, s.conditionAt? path = some e → (∀ b, e = .binary b → ¬ b.EqualsPattern) →
    (s'.conditionAt? path).map Expr.face = some e.face
  absent : ∀ path, s.conditionAt? path = none → s'.conditionAt? path = none

/-! ## Statements and their WHERE clauses -/

namespace Expr

theorem mapCondition_mapCondition (s : Expr) (f g : Option Expr → Option Expr) :
    (s.mapCondition f).mapCondition g = s.mapCondition (g ∘ f) := by
  cases s <;> rfl

/-- A statement is known by its WHERE clause and by what it is without it. -/
theorem mapCondition_condition? (s : Expr) : (s.mapCondition fun _ => none).mapCondition (fun _ => s.condition?) = s := by
  cases s <;> rfl

theorem eq_of_condition {s s' : Expr} (houtside : (s.mapCondition fun _ => none) = s'.mapCondition fun _ => none)
    (hcondition : s.condition? = s'.condition?) : s = s' := by
  rw [← s.mapCondition_condition?, houtside, hcondition, mapCondition_condition?]

end Expr

theorem condition?_autoFuzzy (s : Expr) : (Rewrite.autoFuzzy s).condition? = s.condition?.map Expr.fuzzy := by
  cases s <;> rfl

/-! ## Which operators change -/

theorem Value.isPattern_iff (v : Value) :
    v.isPattern = true ↔ ∃ s, v = .text s ∧ ('%' ∈ s.toList ∨ '?' ∈ s.toList ∨ '.' ∈ s.toList) := by
  cases v with
  | text s =>
    simp only [Value.isPattern, Value.asText?, Option.any_some, List.any_eq_true, Bool.or_eq_true, beq_iff_eq,
      Value.text.injEq, exists_eq_left']
    constructor
    · rintro ⟨c, hc, (rfl | rfl) | rfl⟩
      · exact .inl hc
      · exact .inr (.inl hc)
      · exact .inr (.inr hc)
    · rintro (hc | hc | hc)
      · exact ⟨_, hc, .inl (.inl rfl)⟩
      · exact ⟨_, hc, .inl (.inr rfl)⟩
      · exact ⟨_, hc, .inr rfl⟩
  | _ => simp [Value.isPattern, Value.asText?]

theorem Expr.isPattern_iff (e : Expr) :
    e.isPattern = true ↔ ∃ s : String, (e = .constant (.text s) ∨ ∃ name, e = .bound name (.text s)) ∧
      ('%' ∈ s.toList ∨ '?' ∈ s.toList ∨ '.' ∈ s.toList) := by
  cases e <;> simp [Expr.isPattern, Value.isPattern_iff]

theorem fuzzy_of_equalsPattern {b : Binary Expr} (h : b.EqualsPattern) : b.fuzzy = { b with op := .like } := by
  rw [Binary.fuzzy, if_pos ⟨h.1, b.right.isPattern_iff.2 h.2⟩]

theorem fuzzy_of_not_equalsPattern {b : Binary Expr} (h : ¬ b.EqualsPattern) : b.fuzzy = b := by
  rw [Binary.fuzzy, if_neg fun hpattern => h ⟨hpattern.1, b.right.isPattern_iff.1 hpattern.2⟩]

theorem Binary.fuzzy_fuzzy (b : Binary Expr) : b.fuzzy.fuzzy = b.fuzzy := by
  by_cases h : b.EqualsPattern
  · rw [fuzzy_of_equalsPattern h]
    exact fuzzy_of_not_equalsPattern fun hlike => nomatch hlike.1
  · rw [fuzzy_of_not_equalsPattern h, fuzzy_of_not_equalsPattern h]

namespace Expr

/-- The rewriting leaves the places of a tree where they are. -/
theorem at?_fuzzy (path : List Descent) (e : Expr) : e.fuzzy.at? path = (e.at? path).map fuzzy := by
  induction path generalizing e with
  | nil => rfl
  | cons step path ih =>
    cases step with
    | item place =>
      cases e with
      | list l =>
        simp only [fuzzy, at?, fuzzyItems_eq, List.getElem?_map, Option.map_bind]
        cases l.items[place]? with
        | none => rfl
        | some e => exact ih e
      | _ => rfl
    | inside =>
      cases e with
      | paren inner => exact ih inner
      | _ => rfl

theorem fuzzy_fuzzy (e : Expr) : e.fuzzy.fuzzy = e.fuzzy := by
  induction e using Expr.induct with
  | node e ih =>
    cases e with
    | list l =>
      have hitems : ∀ e ∈ l.items, e.fuzzy.fuzzy = e.fuzzy := fun e he => ih e (by simp [children, he])
      simpa [fuzzy, fuzzyItems_eq] using hitems
    | paren inner => rw [fuzzy, fuzzy, ih inner (List.mem_singleton_self inner)]
    | binary b => rw [fuzzy, fuzzy, b.fuzzy_fuzzy]
    | _ => rfl

theorem fuzzy_joinedBy (separator : Separator) (e : Expr) : (e.joinedBy separator).fuzzy = e.fuzzy.joinedBy separator := by
  cases e <;> rfl

/-- Only an equality with a pattern shows another face. -/
theorem face_fuzzy {e : Expr} (h : ∀ b, e = .binary b → ¬ b.EqualsPattern) : e.fuzzy.face = e.face := by
  cases e with
  | list l => simp only [fuzzy, face, fuzzyItems_eq, List.map_map, Function.comp_def]
  | binary b => rw [fuzzy, fuzzy_of_not_equalsPattern (h b rfl)]
  | _ => rfl

end Expr

theorem conditionAt?_autoFuzzy (path : List Descent) (s : Expr) :
    (Rewrite.autoFuzzy s).conditionAt? path = (s.conditionAt? path).map Expr.fuzzy := by
  rw [Expr.conditionAt?, Expr.conditionAt?, condition?_autoFuzzy]
  cases s.condition? with
  | none => rfl
  | some e => exact e.at?_fuzzy path

namespace ComparesPatterns

theorem autoFuzzy (s : Expr) : ComparesPatterns s (Rewrite.autoFuzzy s) where
  outside := Expr.mapCondition_mapCondition s _ _
  like path b hplace hpattern := by
    rw [conditionAt?_autoFuzzy, hplace, Option.map_some, Expr.fuzzy, fuzzy_of_equalsPattern hpattern]
  same path e hplace hother := by
    rw [conditionAt?_autoFuzzy, hplace, Option.map_some, Option.map_some, Expr.face_fuzzy hother]
  absent path hplace := by rw [conditionAt?_autoFuzzy, hplace, Option.map_none]

variable {s s' s'' : Expr}

/-- At every place, two such statements show the same face. -/
theorem face_eq (h : ComparesPatterns s s') (h' : ComparesPatterns s s'') (path : List Descent) :
    (s'.conditionAt? path).map Expr.face = (s''.conditionAt? path).map Expr.face := by
  cases hplace : s.conditionAt? path with
  | none => rw [h.absent path hplace, h'.absent path hplace]
  | some e =>
    by_cases hother : ∀ b, e = .binary b → ¬ b.EqualsPattern
    · rw [h.same path e hplace hother, h'.same path e hplace hother]
    · simp only [Classical.not_forall, Classical.not_not] at hother
      obtain ⟨b, rfl, hpattern⟩ := hother
      rw [h.like path b hplace hpattern, h'.like path b hplace hpattern]

/-- There is one statement in which patterns are compared with LIKE. -/
theorem unique (h : ComparesPatterns s s') (h' : ComparesPatterns s s'') : s' = s'' := by
  have hfaces := h.face_eq h'
  refine Expr.eq_of_condition (h.outside.trans h'.outside.symm) ?_
  have hroot := hfaces []
  simp only [Expr.conditionAt?] at hfaces hroot
  cases hs' : s'.condition? with
  | none => cases hs'' : s''.condition? <;> simp [hs', hs'', Expr.at?] at hroot ⊢
  | some e =>
    cases hs'' : s''.condition? with
    | none => simp [hs', hs'', Expr.at?] at hroot
    | some e' =>
      rw [hs', hs''] at hfaces
      exact congrArg some (Expr.eq_of_faces hfaces)

end ComparesPatterns

/-! ## What comes of a rendering -/

namespace Expr

theorem isEmptyCondition_fuzzy (e : Expr) : e.fuzzy.isEmptyCondition = e.isEmptyCondition := by
  induction e using Expr.induct with
  | node e ih =>
    cases e with
    | list l =>
      obtain ⟨separator, items, lead, trail⟩ := l
      have hitem : ∀ e ∈ items, e.fuzzy.isEmptyCondition = e.isEmptyCondition :=
        fun e he => ih e (by simp [children, he])
      have hitems : (items.map fuzzy).all isEmptyCondition = items.all isEmptyCondition := by
        rw [Bool.eq_iff_iff, List.all_eq_true, List.all_eq_true, List.forall_mem_map]
        exact forall₂_congr fun e he => by rw [hitem e he]
      cases lead <;> cases trail <;>
        simp [fuzzy, isEmptyCondition, fuzzyItems_eq, allEmptyConditions_eq, hitems]
    | paren inner => exact ih inner (List.mem_singleton_self inner)
    | _ => rfl

end Expr

theorem drops_fuzzy (separator : Separator) (e : Expr) : separator.drops e.fuzzy = separator.drops e := by
  rw [Separator.drops, Separator.drops, e.isEmptyCondition_fuzzy]

theorem shown_fuzzy (separator : Separator) (items : List Expr) :
    (fuzzyItems items).filter (!separator.drops ·) = (items.filter (!separator.drops ·)).map Expr.fuzzy := by
  rw [fuzzyItems_eq, List.filter_map]
  simp only [Function.comp_def, drops_fuzzy]

theorem needsGroupIn_fuzzy (separator : Separator) (e : Expr) : e.fuzzy.needsGroupIn separator = e.needsGroupIn separator := by
  cases e with
  | list l =>
    have hcompound : { l with items := fuzzyItems l.items }.isCompound = l.isCompound := by
      rw [Listing.isCompound, Listing.shownItems, shown_fuzzy, List.length_map]
      rfl
    rw [Expr.fuzzy, Expr.needsGroupIn, Expr.needsGroupIn, hcompound]
  | _ => rfl

section

variable (d : Dialect)

/-- Neither of the operators tests membership, and neither has parameters. -/
theorem alike_fuzzy_binary (b : Binary Expr) : (binaryScript d b.fuzzy).Alike (binaryScript d b) := by
  by_cases h : b.EqualsPattern
  · obtain ⟨left, op, right⟩ := b
    obtain rfl : op = .eq := h.1
    rw [fuzzy_of_equalsPattern h]
    exact ((Script.Alike.refl _).append (.texts _ _)).append (.refl _)
  · rw [fuzzy_of_not_equalsPattern h]
    exact .refl _

theorem alike_fuzzy (e : Expr) : (e.fuzzy.script d).Alike (e.script d) := by
  induction e using Expr.induct with
  | node e ih =>
    cases e with
    | list l =>
      obtain ⟨separator, items, lead, trail⟩ := l
      have hitems : (Script.join (d.separator separator) (itemScripts d separator (fuzzyItems items))).Alike
          (.join (d.separator separator) (itemScripts d separator items)) := by
        rw [itemScripts_eq_map, itemScripts_eq_map, shown_fuzzy, List.map_map]
        refine .join _ fun e he => ?_
        rw [Function.comp_apply, needsGroupIn_fuzzy]
        exact (ih e (by simp [Expr.children, (List.mem_filter.1 he).1])).parenIf _
      simp only [Expr.fuzzy, Expr.script]
      exact ((Script.Alike.refl _).append hitems).append (.refl _)
    | paren inner => exact (ih inner (List.mem_singleton_self inner)).paren
    | binary b => exact alike_fuzzy_binary d b
    | _ => exact .refl _

theorem saysNothing_fuzzy (condition : Option Expr) : saysNothing (condition.map Expr.fuzzy) = saysNothing condition := by
  cases condition with
  | none => rfl
  | some e => exact e.isEmptyCondition_fuzzy

theorem alike_fuzzy_option (condition : Option Expr) :
    (optionScript d (condition.map Expr.fuzzy)).Alike (optionScript d condition) := by
  cases condition with
  | none => exact .refl _
  | some e => exact alike_fuzzy d e

theorem alike_fuzzy_clause (keyword : String) (condition : Option Expr) :
    (d.clause keyword (saysNothing (condition.map Expr.fuzzy)) (optionScript d (condition.map Expr.fuzzy))).Alike
      (d.clause keyword (saysNothing condition) (optionScript d condition)) := by
  rw [saysNothing_fuzzy]
  unfold Dialect.clause
  split
  · exact .refl _
  · exact (Script.Alike.refl _).append (alike_fuzzy_option d condition)

theorem alike_fuzzy_guard (verb : WriteVerb) (condition : Option Expr) :
    (d.guard verb (condition.map Expr.fuzzy) (optionScript d (condition.map Expr.fuzzy))).Alike
      (d.guard verb condition (optionScript d condition)) := by
  cases condition with
  | none => exact .refl _
  | some e =>
    simp only [Option.map_some, Dialect.guard, e.isEmptyCondition_fuzzy]
    split
    · exact .refl _
    · exact (Script.Alike.refl _).append (alike_fuzzy d e)

theorem alike_autoFuzzy (s : Expr) : ((Rewrite.autoFuzzy s).script d).Alike (s.script d) := by
  cases s with
  | select s =>
    have hclause := alike_fuzzy_clause d "WHERE" s.condition
    simp only [Rewrite.autoFuzzy, Expr.mapCondition, Expr.script]
    split
    · exact .refl _
    · exact (((((Script.Alike.refl _).append hclause).append (.refl _)).append (.refl _)).append (.refl _)).append
        (.refl _)
  | update u =>
    have hguard := alike_fuzzy_guard d .update u.condition
    simp only [Rewrite.autoFuzzy, Expr.mapCondition, Expr.script]
    split
    · exact .refl _
    · exact (Script.Alike.refl _).append hguard
  | delete s => exact (Script.Alike.refl _).append (alike_fuzzy_guard d .delete s.condition)
  | _ => exact .refl _

end

/-- **Comparing patterns with LIKE** changes a statement exactly at the equalities with patterns of its WHERE clause. It may be
done again and before or after the conditions are joined by another word, and a rendering keeps its arguments or the error
with which it is refused. -/
theorem autoFuzzy_rewrites (s : Expr) :
    (∀ s', ComparesPatterns s s' ↔ s' = Rewrite.autoFuzzy s) ∧
    Rewrite.autoFuzzy (Rewrite.autoFuzzy s) = Rewrite.autoFuzzy s ∧
    (∀ separator, Rewrite.autoFuzzy (Rewrite.joinConditions separator s) =
      Rewrite.joinConditions separator (Rewrite.autoFuzzy s)) ∧
    ∀ d style, ((Rewrite.autoFuzzy s).render d style).map (·.args) = (s.render d style).map (·.args) := by
  refine ⟨fun s' => ⟨fun h => h.unique (.autoFuzzy s), ?_⟩, ?_, fun separator => ?_, fun d style => ?_⟩
  · rintro rfl
    exact .autoFuzzy s
  · refine Expr.eq_of_condition ?_ ?_
    · exact (ComparesPatterns.autoFuzzy _).outside
    · simp only [condition?_autoFuzzy, Option.map_map, Function.comp_def, Expr.fuzzy_fuzzy]
  · simp only [Rewrite.autoFuzzy, Rewrite.joinConditions, Expr.mapCondition_mapCondition, Function.comp_def,
      Option.map_map, Expr.fuzzy_joinedBy]
  · exact render_args_of_alike (alike_autoFuzzy d s) style

end Sql
