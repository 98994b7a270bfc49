/-
What the scan of columns for keys finds.

A key goes to the first column that claims it. The claims that come too late are kept as duplicates: what one claim adds
(`Keys.duplicates_claim`) gives, by induction over the claims, what a whole scan adds (`Keys.duplicates_claimAll`), and
claims are scanned in the order of columns and, within a column, of keys. `ofColumns_scans` says what an entity is told of
its keys, what is logged and what is refused.
-/
import Mathlib.Data.List.Forall2
import Sql.Proofs.EntityKeys

namespace Sql

/-! ## Claims and duplicates -/

/-- The flag of each key. -/
inductive Column.Flagged (c : Column) : KeyKind → Prop where
  | primary (h : c.isPrimaryKey = true) : c.Flagged .primary
  | tenant (h : c.isTenantKey = true) : c.Flagged .tenant
  | softDelete (h : c.isSoftDelete = true) : c.Flagged .softDelete

theorem Column.flagged_iff {c : Column} {kind : KeyKind} : c.Flagged kind ↔ c.isKey kind = true := by
  constructor
  · rintro (h | h | h) <;> exact h
  · cases kind with
    | primary => exact .primary
    | tenant => exact .tenant
    | softDelete => exact .softDelete

instance (c : Column) (kind : KeyKind) : Decidable (c.Flagged kind) := decidable_of_iff _ Column.flagged_iff.symm

/-- The column at a place is not ignored and is flagged for a key. -/
def ClaimedAt (columns : List Column) (kind : KeyKind) (place : Nat) : Prop :=
  ∃ c, columns[place]? = some c ∧ c.ignored = false ∧ c.Flagged kind

instance (columns : List Column) (kind : KeyKind) (place : Nat) : Decidable (ClaimedAt columns kind place) :=
  inferInstanceAs (Decidable (∃ c ∈ columns[place]?, c.ignored = false ∧ c.Flagged kind))

/-- No column before this one claims the key. -/
def FirstClaimedAt (columns : List Column) (kind : KeyKind) (place : Nat) : Prop :=
  ClaimedAt columns kind place ∧ ∀ earlier < place, ¬ ClaimedAt columns kind earlier

instance (columns : List Column) (kind : KeyKind) (place : Nat) : Decidable (FirstClaimedAt columns kind place) :=
  inferInstanceAs (Decidable (_ ∧ _))

/-- The order of keys within a column. -/
def KeyKind.rank : KeyKind → Nat
  | primary => 0
  | tenant => 1
  | softDelete => 2

/-- The order of columns and, within a column, of keys. -/
def scannedBefore (claim claim' : KeyKind × Nat) : Prop :=
  claim.2 < claim'.2 ∨ claim.2 = claim'.2 ∧ claim.1.rank < claim'.1.rank

namespace Duplicate

variable {table : String} {columns : List Column} {d d' : Duplicate}

/-- A claim of a key that an earlier column holds, because it was the first to claim it. -/
structure Found (columns : List Column) (d : Duplicate) : Prop where
  first : FirstClaimedAt columns d.kind d.first
  second : ClaimedAt columns d.kind d.second
  further : d.first < d.second

/-- The order in which duplicates are found. -/
def Before (d d' : Duplicate) : Prop := scannedBefore (d.kind, d.second) (d'.kind, d'.second)

/-- A warning that names the column which holds the key, and the one that claims it too. -/
def Warns (table : String) (columns : List Column) (d : Duplicate) (event : LogEvent) : Prop :=
  ∃ holder other, columns[d.first]? = some holder ∧ columns[d.second]? = some other ∧
    event = ⟨.entities, .warn, [("table", table), ("kind", d.kind.text), ("first", holder.name), ("second", other.name),
      ("message", "duplicate key marker, keeping the first")]⟩

/-- An error that names these two columns. -/
def Refuses (table : String) (columns : List Column) (d : Duplicate) (error : Error) : Prop :=
  ∃ holder other, columns[d.first]? = some holder ∧ columns[d.second]? = some other ∧
    error = .ambiguousKey table d.kind holder.name other.name

theorem Before.asymm (h : d.Before d') : ¬ d'.Before d := by
  simp only [Before, scannedBefore] at h ⊢
  omega

end Duplicate

/-! ## The scan -/

namespace Keys

def claimAll (k : Keys) (claims : List (KeyKind × Nat)) : Keys :=
  claims.foldl (fun keys (kind, place) => keys.claim kind place) k

/-- The duplicate that a claim is, if the key is held at another place. -/
def duplicate? (k : Keys) (claim : KeyKind × Nat) : Option Duplicate :=
  (k.get? claim.1).bind fun first => if first = claim.2 then none else some ⟨claim.1, first, claim.2⟩

theorem duplicate?_eq_some {k : Keys} {claim : KeyKind × Nat} {d : Duplicate} :
    k.duplicate? claim = some d ↔ k.get? claim.1 = some d.first ∧ d.first ≠ claim.2 ∧ claim = (d.kind, d.second) := by
  obtain ⟨kind, place⟩ := claim
  obtain ⟨kind', first, second⟩ := d
  rw [duplicate?, Option.bind_eq_some_iff]
  constructor
  · rintro ⟨holder, hheld, hdup⟩
    split at hdup
    · cases hdup
    · next hne =>
      cases hdup
      exact ⟨hheld, hne, rfl⟩
  · rintro ⟨hheld, hne, heq⟩
    cases heq
    exact ⟨first, hheld, if_neg hne⟩

/-- A claim that comes first adds no duplicate, and any other adds one. -/
theorem duplicates_claim (k : Keys) (kind : KeyKind) (place : Nat) :
    (k.claim kind place).duplicates = k.duplicates ++ ((k.get? kind).map (⟨kind, ·, place⟩)).toList := by
  unfold claim
  cases hheld : k.get? kind with
  | none => cases kind <;> simp [set]
  | some first => simp

/-- A claim takes the key for no other place. -/
theorem get?_claim_ne {k : Keys} {kind : KeyKind} {place : Nat} {claim : KeyKind × Nat} (hne : claim ≠ (kind, place))
    (hfree : k.get? claim.1 ≠ some claim.2) : (k.claim kind place).get? claim.1 ≠ some claim.2 := by
  rw [get?_claim]
  cases hheld : k.get? claim.1 with
  | some first =>
    rw [Option.some_or, ← hheld]
    exact hfree
  | none =>
    rw [Option.none_or]
    split
    · next hkind =>
      intro hplace
      exact hne (Prod.ext hkind.symm (Option.some.inj hplace).symm)
    · exact nofun

/-- What is held once stays held, so what comes after a claim does not change the duplicate that it is. -/
theorem duplicate?_claimAll {k : Keys} {kind : KeyKind} {place : Nat} (hfree : k.get? kind ≠ some place)
    (claims : List (KeyKind × Nat)) :
    (k.claimAll ((kind, place) :: claims)).duplicate? (kind, place) = (k.get? kind).map (⟨kind, ·, place⟩) := by
  have hheld : (k.claimAll ((kind, place) :: claims)).get? kind = some ((k.get? kind).getD place) := by
    rw [claimAll, get?_claimAll, List.find?_cons_of_pos (by simp)]
    cases k.get? kind <;> rfl
  rw [duplicate?, hheld, Option.bind_some]
  cases hfirst : k.get? kind with
  | none => rw [Option.getD_none, if_pos rfl, Option.map_none]
  | some first =>
    have hne : first ≠ place := fun heq => hfree (hfirst.trans (congrArg some heq))
    rw [Option.getD_some, if_neg hne, Option.map_some]

/-- Claims in order: every one of them is a duplicate if, in the end, another place holds its key. -/
theorem duplicates_claimAll {k : Keys} {claims : List (KeyKind × Nat)} (hnodup : claims.Nodup)
    (hfree : ∀ claim ∈ claims, k.get? claim.1 ≠ some claim.2) :
    (k.claimAll claims).duplicates = k.duplicates ++ claims.filterMap (k.claimAll claims).duplicate? := by
  induction claims generalizing k with
  | nil => simp [claimAll]
  | cons claim claims ih =>
    obtain ⟨kind, place⟩ := claim
    obtain ⟨hnew, hnodup⟩ := List.nodup_cons.1 hnodup
    obtain ⟨hplace, hfree⟩ := List.forall_mem_cons.1 hfree
    have hrest : ∀ claim ∈ claims, (k.claim kind place).get? claim.1 ≠ some claim.2 := fun claim hclaim =>
      get?_claim_ne (fun heq => hnew (heq ▸ hclaim)) (hfree claim hclaim)
    calc (k.claimAll ((kind, place) :: claims)).duplicates
        = (k.claim kind place).duplicates ++
            claims.filterMap (k.claimAll ((kind, place) :: claims)).duplicate? := ih hnodup hrest
      _ = k.duplicates ++ (((k.claimAll ((kind, place) :: claims)).duplicate? (kind, place)).toList ++
            claims.filterMap (k.claimAll ((kind, place) :: claims)).duplicate?) := by
          rw [duplicates_claim, List.append_assoc, duplicate?_claimAll hplace]
      _ = k.duplicates ++ ((kind, place) :: claims).filterMap (k.claimAll ((kind, place) :: claims)).duplicate? := by
          rw [List.filterMap_cons]
          cases (k.claimAll ((kind, place) :: claims)).duplicate? (kind, place) <;> rfl

end Keys

section

variable {columns : List Column} {kind : KeyKind} {place start : Nat}

theorem Column.mem_claims {c : Column} : kind ∈ c.claims ↔ c.ignored = false ∧ c.Flagged kind := by
  rw [flagged_iff]
  unfold Column.claims
  cases c.ignored with
  | true => simp
  | false => cases kind <;> simp

theorem mem_keyClaims : (kind, place) ∈ keyClaims start columns ↔
    ∃ i, place = start + i ∧ ClaimedAt columns kind i := by
  induction columns generalizing start with
  | nil => simp [keyClaims, ClaimedAt]
  | cons c columns ih =>
    have hhere : (kind, place) ∈ (c.claims.map fun kind => (kind, start)) ↔ place = start ∧ ClaimedAt (c :: columns) kind 0 := by
      simp only [ClaimedAt, List.mem_map, Column.mem_claims, Prod.mk.injEq, List.getElem?_cons_zero, Option.some.injEq,
        exists_eq_left']
      constructor
      · rintro ⟨_, hclaims, rfl, rfl⟩
        exact ⟨rfl, hclaims⟩
      · rintro ⟨rfl, hclaims⟩
        exact ⟨kind, hclaims, rfl, rfl⟩
    rw [keyClaims, List.mem_append, hhere, ih]
    constructor
    · rintro (⟨rfl, hclaimed⟩ | ⟨i, rfl, hclaimed⟩)
      · exact ⟨0, rfl, hclaimed⟩
      · exact ⟨i + 1, by omega, hclaimed⟩
    · rintro ⟨i, rfl, hclaimed⟩
      cases i with
      | zero => exact .inl ⟨rfl, hclaimed⟩
      | succ i => exact .inr ⟨i, by omega, hclaimed⟩

theorem keyClaims_ordered (start : Nat) (columns : List Column) : (keyClaims start columns).Pairwise scannedBefore := by
  induction columns generalizing start with
  | nil => exact .nil
  | cons c columns ih =>
    rw [keyClaims, List.pairwise_append]
    refine ⟨?_, ih (start + 1), ?_⟩
    · have hranks : c.claims.Pairwise fun kind kind' => kind.rank < kind'.rank := by
        unfold Column.claims
        split
        · exact .nil
        · exact List.Pairwise.filter _ (by decide)
      rw [List.pairwise_map]
      exact hranks.imp fun hrank => .inr ⟨rfl, hrank⟩
    · rintro claim hhere ⟨kind', place'⟩ hlater
      obtain ⟨kind, -, rfl⟩ := List.mem_map.1 hhere
      obtain ⟨i, rfl, -⟩ := mem_keyClaims.1 hlater
      exact .inl (by show start < start + 1 + i; omega)

theorem claimedAt_iff : ClaimedAt columns kind place ↔ (kind, place) ∈ keyClaims 0 columns := by
  simp [mem_keyClaims]

end

namespace Entity

variable {table : String} {columns : List Column} {kind : KeyKind} {place : Nat} {d : Duplicate}

theorem get?_eq_some_iff_firstClaimedAt :
    (ofColumns table columns).keys.get? kind = some place ↔ FirstClaimedAt columns kind place := by
  rw [get?_ofColumns, List.findIdx?_eq_some_iff_getElem]
  have hclaimed {i : Nat} (hi : i < columns.length) : ClaimedAt columns kind i ↔ columns[i].claimsKey kind = true := by
    simp [ClaimedAt, Column.claimsKey, Column.flagged_iff, List.getElem?_eq_getElem hi]
  constructor
  · rintro ⟨hbound, hhere, hbefore⟩
    refine ⟨(hclaimed hbound).2 hhere, fun earlier hearlier hclaim => ?_⟩
    exact hbefore earlier hearlier ((hclaimed (Nat.lt_trans hearlier hbound)).1 hclaim)
  · rintro ⟨hhere, hbefore⟩
    obtain ⟨c, hc, -⟩ := id hhere
    obtain ⟨hbound, -⟩ := List.getElem?_eq_some_iff.1 hc
    refine ⟨hbound, (hclaimed hbound).1 hhere, fun earlier hearlier hclaim => ?_⟩
    exact hbefore earlier hearlier ((hclaimed (Nat.lt_trans hearlier hbound)).2 hclaim)

theorem get?_eq_none_iff_not_claimed :
    (ofColumns table columns).keys.get? kind = none ↔ ∀ place, ¬ ClaimedAt columns kind place := by
  rw [get?_ofColumns, List.findIdx?_eq_none_iff]
  constructor
  · rintro hnone place ⟨c, hc, hmapped, hkey⟩
    have hclaims := hnone c (List.mem_of_getElem? hc)
    simp [Column.claimsKey, hmapped, Column.flagged_iff.1 hkey] at hclaims
  · intro hnone c hc
    obtain ⟨place, hplace⟩ := List.getElem?_of_mem hc
    cases hclaims : c.claimsKey kind with
    | false => rfl
    | true =>
      rw [Column.claimsKey, Bool.and_eq_true, Bool.not_eq_true', ← Column.flagged_iff] at hclaims
      exact absurd ⟨c, hplace, hclaims⟩ (hnone place)

/-! ## Duplicates -/

theorem duplicates_ofColumns (table : String) (columns : List Column) :
    (ofColumns table columns).keys.duplicates =
      (keyClaims 0 columns).filterMap (ofColumns table columns).keys.duplicate? := by
  have hnodup : (keyClaims 0 columns).Nodup := by
    refine (keyClaims_ordered 0 columns).imp fun hbefore heq => ?_
    rw [heq, scannedBefore] at hbefore
    omega
  have hfree : ∀ claim ∈ keyClaims 0 columns, ({} : Keys).get? claim.1 ≠ some claim.2 := by
    rintro ⟨kind, place⟩ -
    cases kind <;> exact nofun
  exact Keys.duplicates_claimAll hnodup hfree

variable (table) in
theorem mem_duplicates : d ∈ (ofColumns table columns).keys.duplicates ↔ d.Found columns := by
  rw [duplicates_ofColumns, List.mem_filterMap]
  constructor
  · rintro ⟨claim, hclaim, hdup⟩
    obtain ⟨hheld, hne, rfl⟩ := Keys.duplicate?_eq_some.1 hdup
    have hfirst := get?_eq_some_iff_firstClaimedAt.1 hheld
    have hsecond := claimedAt_iff.2 hclaim
    refine ⟨hfirst, hsecond, Nat.lt_of_le_of_ne (Nat.le_of_not_lt fun hlt => ?_) hne⟩
    exact hfirst.2 d.second hlt hsecond
  · rintro ⟨hfirst, hsecond, hfurther⟩
    exact ⟨(d.kind, d.second), claimedAt_iff.1 hsecond,
      Keys.duplicate?_eq_some.2 ⟨get?_eq_some_iff_firstClaimedAt.2 hfirst, Nat.ne_of_lt hfurther, rfl⟩⟩

theorem duplicates_ordered (table : String) (columns : List Column) :
    (ofColumns table columns).keys.duplicates.Pairwise Duplicate.Before := by
  rw [duplicates_ofColumns]
  refine (keyClaims_ordered 0 columns).filterMap _ fun claim claim' hbefore d hd d' hd' => ?_
  obtain ⟨-, -, rfl⟩ := Keys.duplicate?_eq_some.1 hd
  obtain ⟨-, -, rfl⟩ := Keys.duplicate?_eq_some.1 hd'
  exact hbefore

/-- Two columns that claim one key make a duplicate. -/
theorem exists_found {place' : Nat} (h : ClaimedAt columns kind place) (h' : ClaimedAt columns kind place')
    (hlt : place < place') : ∃ d : Duplicate, d.Found columns := by
  obtain ⟨first, hfirst⟩ : ∃ first, FirstClaimedAt columns kind first := by
    cases hheld : (ofColumns "" columns).keys.get? kind with
    | none => exact absurd h (get?_eq_none_iff_not_claimed.1 hheld place)
    | some first => exact ⟨first, get?_eq_some_iff_firstClaimedAt.1 hheld⟩
  have hle : first ≤ place := Nat.le_of_not_lt fun hgt => hfirst.2 place hgt h
  exact ⟨⟨kind, first, place'⟩, hfirst, h', Nat.lt_of_le_of_lt hle hlt⟩

variable (table) in
theorem duplicates_eq_nil_iff : (ofColumns table columns).keys.duplicates = [] ↔
    ∀ kind place place', ClaimedAt columns kind place → ClaimedAt columns kind place' → place = place' := by
  constructor
  · intro hnone kind place place' h h'
    have hfound {d : Duplicate} (hd : d.Found columns) : False := by
      rw [← mem_duplicates table, hnone] at hd
      exact absurd hd List.not_mem_nil
    rcases Nat.lt_trichotomy place place' with hlt | heq | hgt
    · obtain ⟨d, hd⟩ := exists_found h h' hlt
      exact (hfound hd).elim
    · exact heq
    · obtain ⟨d, hd⟩ := exists_found h' h hgt
      exact (hfound hd).elim
  · intro hone
    refine List.eq_nil_iff_forall_not_mem.2 fun d hd => ?_
    obtain ⟨hfirst, hsecond, hfurther⟩ := (mem_duplicates table).1 hd
    exact absurd (hone d.kind d.first d.second hfirst.1 hsecond) (Nat.ne_of_lt hfurther)

/-! ## Events and errors -/

theorem nameAt_eq {c : Column} (hc : columns[place]? = some c) : (ofColumns table columns).nameAt place = c.name := by
  have hcolumns : (ofColumns table columns).columns = columns := rfl
  rw [nameAt, hcolumns, hc, Option.map_some, Option.getD_some]

/-- The columns of a duplicate are columns of the entity. -/
theorem exists_columns_of_found (hd : d.Found columns) :
    ∃ holder other, columns[d.first]? = some holder ∧ columns[d.second]? = some other := by
  obtain ⟨holder, hholder, -⟩ := hd.first.1
  obtain ⟨other, hother, -⟩ := hd.second
  exact ⟨holder, other, hholder, hother⟩

theorem warns_duplicateEvent (hd : d.Found columns) :
    d.Warns table columns ((ofColumns table columns).duplicateEvent d) := by
  obtain ⟨holder, other, hholder, hother⟩ := exists_columns_of_found hd
  refine ⟨holder, other, hholder, hother, ?_⟩
  rw [duplicateEvent, nameAt_eq hholder, nameAt_eq hother]
  rfl

theorem filter_warn_events (e : Entity) :
    e.events.filter (·.level = .warn) = e.keys.duplicates.map e.duplicateEvent := by
  have hwarn : (e.keys.duplicates.map e.duplicateEvent).filter (·.level = .warn) = e.keys.duplicates.map e.duplicateEvent :=
    List.filter_eq_self.2 (List.forall_mem_map.2 fun _ _ => rfl)
  rw [events, List.filter_append, hwarn]
  exact List.append_nil _

/-- Of duplicates in order, the first is the one before all others. -/
theorem validate_eq_error_iff {error : Error} : (ofColumns table columns).validate = .error error ↔
    ∃ d : Duplicate, d.Found columns ∧ (∀ d' : Duplicate, d'.Found columns → d' = d ∨ d.Before d') ∧
      d.Refuses table columns error := by
  unfold validate
  cases hdups : (ofColumns table columns).keys.duplicates with
  | nil =>
    refine ⟨nofun, ?_⟩
    rintro ⟨d, hd, -⟩
    rw [← mem_duplicates table, hdups] at hd
    exact absurd hd List.not_mem_nil
  | cons first others =>
    have hordered := duplicates_ordered table columns
    rw [hdups] at hordered
    have hmem {d : Duplicate} : d.Found columns ↔ d = first ∨ d ∈ others := by
      rw [← mem_duplicates table, hdups, List.mem_cons]
    have hfirst : first.Found columns := hmem.2 (.inl rfl)
    have hleast : ∀ d : Duplicate, d.Found columns → d = first ∨ first.Before d := fun d hd =>
      (hmem.1 hd).imp_right (List.rel_of_pairwise_cons hordered)
    obtain ⟨holder, other, hholder, hother⟩ := exists_columns_of_found hfirst
    dsimp only
    rw [nameAt_eq hholder, nameAt_eq hother]
    constructor
    · intro h
      cases h
      exact ⟨first, hfirst, hleast, holder, other, hholder, hother, rfl⟩
    · rintro ⟨d, hd, hleast', holder', other', hholder', hother', rfl⟩
      obtain rfl : first = d := by
        rcases hleast' first hfirst with heq | hbefore
        · exact heq
        · exact ((hleast d hd).resolve_right fun h => hbefore.asymm h).symm
      cases hholder.symm.trans hholder'
      cases hother.symm.trans hother'
      rfl

/-- **The first column that claims a key holds it, and every further claim is reported.** A key has the place of the first column
that is not ignored and is flagged for it, so it is never out of range. There is one warning for each further such column, in
the order of columns and, within a column, of keys, and it names both columns. An entity is valid exactly if no two
columns claim one key, and otherwise it is refused for the first of these duplicates. -/
theorem ofColumns_scans (table : String) (columns : List Column) :
    (∀ kind place, (ofColumns table columns).keys.get? kind = some place ↔ FirstClaimedAt columns kind place) ∧
    (∀ kind, (ofColumns table columns).keys.get? kind = none ↔ ∀ place, ¬ ClaimedAt columns kind place) ∧
    (∀ kind place, (ofColumns table columns).keys.get? kind = some place →
      ∃ c, columns[place]? = some c ∧ (ofColumns table columns).require kind = .ok c) ∧
    (∀ kind, (ofColumns table columns).keys.get? kind = none →
      (ofColumns table columns).require kind = .error (.missingKey table kind)) ∧
    (∃ found : List Duplicate, found.Pairwise Duplicate.Before ∧ (∀ d, d ∈ found ↔ d.Found columns) ∧
      List.Forall₂ (Duplicate.Warns table columns) found
        ((ofColumns table columns).events.filter (·.level = .warn))) ∧
    ((ofColumns table columns).validate = .ok () ↔
      ∀ kind place place', ClaimedAt columns kind place → ClaimedAt columns kind place' → place = place') ∧
    ∀ error, (ofColumns table columns).validate = .error error ↔
      ∃ d : Duplicate, d.Found columns ∧ (∀ d' : Duplicate, d'.Found columns → d' = d ∨ d.Before d') ∧
        d.Refuses table columns error := by
  refine ⟨fun _ _ => get?_eq_some_iff_firstClaimedAt, fun _ => get?_eq_none_iff_not_claimed, ?_, ?_, ?_, ?_,
    fun _ => validate_eq_error_iff⟩
  · intro kind place hplace
    obtain ⟨c, hc, -⟩ := (get?_eq_some_iff_firstClaimedAt.1 hplace).1
    have hkey : (ofColumns table columns).key? kind = some c := Option.bind_eq_some_iff.2 ⟨place, hplace, hc⟩
    exact ⟨c, hc, by rw [require, hkey]⟩
  · intro kind hnone
    have hkey : (ofColumns table columns).key? kind = none := by rw [key?, hnone, Option.bind_none]
    rw [require, hkey]
    rfl
  · refine ⟨(ofColumns table columns).keys.duplicates, duplicates_ordered table columns, fun _ => mem_duplicates table, ?_⟩
    rw [filter_warn_events, List.forall₂_map_right_iff, List.forall₂_same]
    exact fun d hd => warns_duplicateEvent ((mem_duplicates table).1 hd)
  · rw [← duplicates_eq_nil_iff table, validate]
    cases (ofColumns table columns).keys.duplicates <;> simp

/-- An ignored column between those of the keys, and one that claims two keys which are held already. -/
def doublyKeyed : List Column :=
  [.ofField "uid" { primaryKey := some true, ignored := true }, .ofField "id" {}, .ofField "tenant_id" {},
    .ofField "owner" { primaryKey := some true, tenantKey := some true }]

theorem ofColumns_scans_doublyKeyed :
    (ofColumns "user" doublyKeyed).keys.get? .primary = some 1 ∧
      (ofColumns "user" doublyKeyed).keys.get? .tenant = some 2 ∧
      (ofColumns "user" doublyKeyed).require .softDelete = .error (.missingKey "user" .softDelete) ∧
      ((ofColumns "user" doublyKeyed).events.filter (·.level = .warn)).map (·.fields.take 4) =
        [[("table", "user"), ("kind", KeyKind.primary.text), ("first", "id"), ("second", "owner")],
          [("table", "user"), ("kind", KeyKind.tenant.text), ("first", "tenant_id"), ("second", "owner")]] ∧
      (ofColumns "user" doublyKeyed).validate = .error (.ambiguousKey "user" .primary "id" "owner") ∧
      ∃ d : Duplicate, d.Found doublyKeyed ∧
        d.Refuses "user" doublyKeyed (.ambiguousKey "user" .primary "id" "owner") := by
  obtain ⟨hfirst, -, -, hmissing, -, -, hrefused⟩ := ofColumns_scans "user" doublyKeyed
  have hvalidate : (ofColumns "user" doublyKeyed).validate = .error (.ambiguousKey "user" .primary "id" "owner") := rfl
  obtain ⟨d, hfound, -, hnames⟩ := (hrefused _).1 hvalidate
  exact ⟨(hfirst .primary 1).2 (by decide), (hfirst .tenant 2).2 (by decide), hmissing .softDelete (by decide), by decide,
    hvalidate, d, hfound, hnames⟩

end Entity

end Sql
