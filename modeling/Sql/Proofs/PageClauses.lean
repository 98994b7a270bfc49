/-
The clauses at the end of a query, which cut its rows off.

`LIMIT n OFFSET m` is two clauses behind the order of the rows, and `OFFSET m ROWS FETCH NEXT n ROWS ONLY` are two others.
`pages_stand` says which of them a query has and where they stand, in every query that a statement shows.
-/
import Sql.Criteria
import Sql.Proofs.QueryClauses
import Sql.Proofs.WrittenParts

namespace Sql

/-! ## Pages -/

/-- The clauses of a page that is given as LIMIT and OFFSET. -/
structure PagedByLimit (limited skipped : Prop) (words : List ClauseWord) : Prop where
  limit_iff : .limit ∈ words ↔ limited
  no_fetch : .fetch ∉ words
  offset_iff : limited → (.offset ∈ words ↔ skipped)
  offset_behind : limited → .offset ∈ words → [.limit, .offset] <:+: words

/-- The clauses of a page that is given as OFFSET and FETCH. Where there is an order, it stands directly before them. -/
structure PagedByFetch (sorted limited skipped : Prop) (words : List ClauseWord) : Prop where
  no_limit : .limit ∉ words
  offset_iff : .offset ∈ words ↔ limited ∨ skipped
  fetch_iff : .fetch ∈ words ↔ limited
  offset_behind : sorted → .offset ∈ words → [.orderBy, .offset] <:+: words
  fetch_behind : .fetch ∈ words → [.offset, .fetch] <:+: words

/-- The clauses of a query as its dialect pages it: in the order of the grammar, with an order of the rows if it is sorted. -/
structure Paged (p : Pagination) (sorted limited skipped : Prop) (words : List ClauseWord) : Prop where
  ordered : words.Sublist ClauseWord.order
  orderBy_iff : .orderBy ∈ words ↔ sorted
  byLimit : p = .limitOffset → PagedByLimit limited skipped words
  byFetch : p = .offsetFetch → PagedByFetch sorted limited skipped words

namespace Select

variable {d : Dialect} {style : ParamStyle} {s : Select Expr}

theorem isSome_orderBy : (s.body? d style .orderBy).isSome = true ↔ s.orderBy ≠ [] := by
  unfold body? tree? pageText?
  cases s.orderBy <;> simp

/-- Clauses that are next to each other in the grammar, of those that are written. -/
theorem infix_words (d : Dialect) (style : ParamStyle) (s : Select Expr) {words : List ClauseWord}
    (h : words <:+: ClauseWord.order) :
    (words.filter fun word => (s.body? d style word).isSome) <:+: (s.clauses d style).map (·.word) := by
  rw [words_eq]
  exact h.filter _

theorem pagedByLimit (hd : d.pagination = .limitOffset) :
    PagedByLimit (s.limit.isSome = true) (s.offset.isSome = true) ((s.clauses d style).map (·.word)) := by
  have hlimit : (s.body? d style .limit).isSome = s.limit.isSome := by simp [body?, tree?, pageText?, hd]
  have hoffset : (s.body? d style .offset).isSome = s.offset.isSome := by simp [body?, tree?, pageText?, hd]
  have hfetch : (s.body? d style .fetch).isSome = false := by simp [body?, tree?, pageText?, hd]
  refine ⟨?_, ?_, fun _ => ?_, fun hlimited hskipped => ?_⟩
  · rw [mem_words, hlimit]
  · rw [mem_words, hfetch]
    exact Bool.false_ne_true
  · rw [mem_words, hoffset]
  · rw [← hlimit] at hlimited
    have hgrammar : [.limit, .offset] <:+: ClauseWord.order := ⟨[_, _, _, _, _], [_], rfl⟩
    have hnext := infix_words d style s hgrammar
    simpa [hlimited, mem_words.1 hskipped] using hnext

theorem pagedByFetch (hd : d.pagination = .offsetFetch) :
    PagedByFetch (s.orderBy ≠ []) (s.limit.isSome = true) (s.offset.isSome = true)
      ((s.clauses d style).map (·.word)) := by
  have hlimit : (s.body? d style .limit).isSome = false := by simp [body?, tree?, pageText?, hd]
  have hoffset : (s.body? d style .offset).isSome = (s.limit.isSome || s.offset.isSome) := by
    simp [body?, tree?, pageText?, hd]
  have hfetch : (s.body? d style .fetch).isSome = s.limit.isSome := by simp [body?, tree?, pageText?, hd]
  refine ⟨?_, ?_, ?_, fun hsorted hpaged => ?_, fun hlimited => ?_⟩
  · rw [mem_words, hlimit]
    exact Bool.false_ne_true
  · rw [mem_words, hoffset, Bool.or_eq_true]
  · rw [mem_words, hfetch]
  · -- Between the order and the page there is no LIMIT.
    have hgrammar : [.orderBy, .limit, .offset] <:+: ClauseWord.order := ⟨[_, _, _, _], [_], rfl⟩
    have hnext := infix_words d style s hgrammar
    simpa [isSome_orderBy.2 hsorted, hlimit, mem_words.1 hpaged] using hnext
  · have hoffset : (s.body? d style .offset).isSome = true := by
      rw [mem_words, hfetch] at hlimited
      rw [hoffset, hlimited, Bool.true_or]
    have hgrammar : [.offset, .fetch] <:+: ClauseWord.order := ⟨[_, _, _, _, _, _], [], rfl⟩
    have hnext := infix_words d style s hgrammar
    simpa [mem_words.1 hlimited, hoffset] using hnext

theorem paged (d : Dialect) (style : ParamStyle) (s : Select Expr) :
    Paged d.pagination (s.orderBy ≠ []) (s.limit.isSome = true) (s.offset.isSome = true)
      ((s.clauses d style).map (·.word)) where
  ordered := by
    rw [words_eq]
    exact List.filter_sublist
  orderBy_iff := by rw [mem_words, isSome_orderBy]
  byLimit := pagedByLimit
  byFetch := pagedByFetch

end Select

theorem Criteria.paged (d : Dialect) (style : ParamStyle) (c : Criteria) (table : Expr) (columns : List Expr) :
    Paged d.pagination (c.sortColumns ≠ []) (0 < c.limit) (0 < c.offset)
      (((c.toSelect table columns).clauses d style).map (·.word)) := by
  have hpaged := (c.toSelect table columns).paged d style
  have hsorted : (c.toSelect table columns).orderBy ≠ [] ↔ c.sortColumns ≠ [] := by
    unfold Criteria.toSelect
    cases c.sortColumns <;> simp
  have hlimit : (c.toSelect table columns).limit.isSome = true ↔ 0 < c.limit := by simp [Criteria.toSelect]
  have hoffset : (c.toSelect table columns).offset.isSome = true ↔ 0 < c.offset := by simp [Criteria.toSelect]
  simpa only [hsorted, hlimit, hoffset] using hpaged

/-- **Pages stand where they belong.** The text of a query that is shown in a statement stands there in one piece, as its columns
and clauses. Where rows are paged by LIMIT, OFFSET stands directly behind a limit that is given; where they are paged by
FETCH, this stands directly behind OFFSET, and OFFSET directly behind the order of the same query if there is one. -/
theorem pages_stand {d : Dialect} {style : ParamStyle} {e : Expr} {s : Select Expr} {r : Rendered}
    (hr : e.render d style = .ok r) (hs : e.Shows (.select s)) :
    (∃ front back, r.sql = front ++ s.text d style ++ back) ∧
      Paged d.pagination (s.orderBy ≠ []) (s.limit.isSome = true) (s.offset.isSome = true)
        ((s.clauses d style).map (·.word)) ∧
      ∀ (c : Criteria) table columns, s = c.toSelect table columns →
        Paged d.pagination (c.sortColumns ≠ []) (0 < c.limit) (0 < c.offset) ((s.clauses d style).map (·.word)) := by
  obtain ⟨hfault, front, back, hsql⟩ := sql_of_shows hr hs
  refine ⟨⟨front, back, ?_⟩, s.paged d style, ?_⟩
  · rw [hsql, Select.textIn_select hfault]
  · rintro c table columns rfl
    exact c.paged d style table columns

/-- The latest ten entries. -/
def latestTen : Criteria := { sortColumns := ["day"], direction := .descending, limit := 10 }

/-- The latest ten entries as what another query reads from. -/
def fromLatestTen : Expr :=
  .select { columns := [], source := some (.alias (.paren (.select (latestTen.toSelect (.name "entry") []))) "e") }

theorem pages_stand_latestTen :
    ∃ r, fromLatestTen.render .sqlServer .positional = .ok r ∧
      r.sql = "SELECT * FROM ( SELECT * FROM [entry] ORDER BY [day] DESC OFFSET ? ROWS FETCH NEXT ? ROWS ONLY ) AS [e]" ∧
      let words := ((latestTen.toSelect (.name "entry") []).clauses .sqlServer .positional).map (·.word)
      [.orderBy, .offset] <:+: words ∧ [.offset, .fetch] <:+: words := by
  have hshows : fromLatestTen.Shows (.select (latestTen.toSelect (.name "entry") [])) :=
    .through List.mem_cons_self (.through (List.mem_singleton_self _) (.through (List.mem_singleton_self _) (.self _)))
  obtain ⟨r, hr, hsql⟩ : ∃ r, fromLatestTen.render .sqlServer .positional = .ok r ∧
      r.sql = "SELECT * FROM ( SELECT * FROM [entry] ORDER BY [day] DESC OFFSET ? ROWS FETCH NEXT ? ROWS ONLY ) AS [e]" :=
    ⟨_, (Expr.render_eq _ _ _).trans rfl, by decide⟩
  have hpaged := ((pages_stand hr hshows).2.2 latestTen _ _ rfl).byFetch rfl
  exact ⟨r, hr, hsql, hpaged.offset_behind (by decide) (hpaged.offset_iff.2 (.inl (by decide))),
    hpaged.fetch_behind (hpaged.fetch_iff.2 (by decide))⟩

/-- Ten rows behind the first twenty, in no order. -/
def secondTen : Select Expr := { columns := [], source := some (.name "t"), limit := some 10, offset := some 20 }

/-- A page is written where there is no order, and an offset where there is no limit. -/
theorem pages_alone :
    (∃ r, (Expr.select secondTen).render .sqlServer .positional = .ok r ∧
      r.sql = "SELECT * FROM [t] OFFSET ? ROWS FETCH NEXT ? ROWS ONLY" ∧
      (secondTen.clauses .sqlServer .positional).map (·.word) = [.source, .offset, .fetch]) ∧
    ∃ r, (Expr.select { secondTen with limit := none }).render .mysql .positional = .ok r ∧
      r.sql = "SELECT * FROM `t` OFFSET ?" ∧
      (({ secondTen with limit := none } : Select Expr).clauses .mysql .positional).map (·.word) = [.source, .offset] :=
  ⟨⟨_, (Expr.render_eq _ _ _).trans rfl, by decide, rfl⟩, _, (Expr.render_eq _ _ _).trans rfl, by decide, rfl⟩

end Sql
