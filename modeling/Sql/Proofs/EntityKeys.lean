/-
The keys of an entity are the first of its columns that claim them.

`get?_ofColumns` says so; whatever holds a key is therefore one of the columns and is not ignored, and the keys
of an entity whose columns have different names have different names too.
-/
import Sql.Entity

namespace Sql

/-! ## Claims -/

/-- A claim is granted if nobody holds the key yet. -/
theorem Keys.get?_claim (k : Keys) (kind kind' : KeyKind) (place : Nat) :
    (k.claim kind place).get? kind' = (k.get? kind').or (if kind = kind' then some place else none) := by
  unfold Keys.claim
  cases hheld : k.get? kind with
  | none =>
    by_cases hkind : kind = kind'
    · subst hkind
      rw [hheld]
      cases kind <;> rfl
    · cases kind <;> cases kind' <;> simp [Keys.get?, Keys.set] at hkind ⊢
  | some first =>
    have hsame : ({ k with duplicates := k.duplicates ++ [⟨kind, first, place⟩] } : Keys).get? kind' =
        k.get? kind' := by
      cases kind' <;> rfl
    by_cases hkind : kind = kind'
    · subst hkind
      simp [hsame, hheld]
    · simp [hsame, hkind]

/-- Claims in order: what is free goes to the first claim. -/
theorem Keys.get?_claimAll (k : Keys) (claims : List (KeyKind × Nat)) (kind : KeyKind) :
    (claims.foldl (fun keys (kind, place) => keys.claim kind place) k).get? kind =
      (k.get? kind).or ((claims.find? (·.1 == kind)).map (·.2)) := by
  induction claims generalizing k with
  | nil => simp
  | cons claim claims ih =>
    obtain ⟨kind', place⟩ := claim
    rw [List.foldl_cons, ih, get?_claim, Option.or_assoc]
    by_cases hkind : kind' = kind
    · simp [hkind]
    · simp [hkind]

/-- No column holds two keys. -/
def Keys.Distinct (k : Keys) : Prop := (k.primary.toList ++ k.tenant.toList ++ k.softDelete.toList).Nodup

instance (k : Keys) : Decidable k.Distinct := inferInstanceAs (Decidable (List.Nodup _))

theorem Keys.Distinct.kind_eq {k : Keys} (h : k.Distinct) {kind kind' : KeyKind} {place : Nat}
    (hplace : k.get? kind = some place) (hplace' : k.get? kind' = some place) : kind = kind' := by
  cases kind <;> cases kind' <;> simp only [get?] at hplace hplace' <;>
    simp [Distinct, List.nodup_append, hplace, hplace'] at h ⊢

/-- Whether a column claims a key. -/
def Column.claimsKey (c : Column) (kind : KeyKind) : Bool := !c.ignored && c.isKey kind

theorem Column.find?_claims (c : Column) (kind : KeyKind) (place : Nat) :
    (c.claims.map fun kind => (kind, place)).find? (·.1 == kind) =
      if c.claimsKey kind then some (kind, place) else none := by
  unfold Column.claims Column.claimsKey
  cases c.ignored with
  | true => rfl
  | false =>
    cases hp : c.isKey .primary <;> cases ht : c.isKey .tenant <;> cases hs : c.isKey .softDelete <;> cases kind <;>
      simp [hp, ht, hs]

theorem find?_keyClaims (start : Nat) (columns : List Column) (kind : KeyKind) :
    ((keyClaims start columns).find? (·.1 == kind)).map (·.2) =
      (columns.findIdx? (·.claimsKey kind)).map (start + ·) := by
  induction columns generalizing start with
  | nil => rfl
  | cons c columns ih =>
    rw [keyClaims, List.find?_append, Column.find?_claims, List.findIdx?_cons]
    cases c.claimsKey kind with
    | true => rfl
    | false =>
      simp only [Bool.false_eq_true, if_false, Option.none_or, ih, Option.map_map]
      congr 1
      funext i
      show start + 1 + i = start + (i + 1)
      omega

namespace Entity

/-- **The first column that claims a key holds it.** -/
theorem get?_ofColumns (table : String) (columns : List Column) (kind : KeyKind) :
    (ofColumns table columns).keys.get? kind = columns.findIdx? (·.claimsKey kind) := by
  have hfree : ({} : Keys).get? kind = none := by cases kind <;> rfl
  simp only [ofColumns, Keys.get?_claimAll, hfree, Option.none_or, find?_keyClaims, Nat.zero_add, Option.map_id']

/-! ## Columns with keys -/

variable {table : String} {columns : List Column} {kind kind' : KeyKind} {place place' : Nat} {c c' : Column}

theorem getElem?_of_key (h : (ofColumns table columns).key? kind = some c) :
    ∃ place : Nat, (ofColumns table columns).keys.get? kind = some place ∧ columns[place]? = some c ∧
      c.claimsKey kind = true := by
  obtain ⟨place, hplace, hc⟩ := Option.bind_eq_some_iff.1 h
  have hc : columns[place]? = some c := hc
  refine ⟨place, hplace, hc, ?_⟩
  rw [get?_ofColumns] at hplace
  obtain ⟨hbound, hclaims, -⟩ := List.findIdx?_eq_some_iff_getElem.1 hplace
  rw [List.getElem?_eq_getElem hbound] at hc
  rwa [Option.some.inj hc] at hclaims

theorem mem_mappedColumns_of_key (h : (ofColumns table columns).key? kind = some c) :
    c ∈ (ofColumns table columns).mappedColumns := by
  obtain ⟨place, -, hc, hclaims⟩ := getElem?_of_key h
  rw [Column.claimsKey, Bool.and_eq_true] at hclaims
  exact List.mem_filter.2 ⟨List.mem_of_getElem? hc, hclaims.1⟩

/-- Two mapped columns at different places have different names if all of them do. -/
theorem name_ne_of_place_ne (hnames : ((ofColumns table columns).mappedColumns.map (·.name)).Nodup)
    (hc : columns[place]? = some c) (hc' : columns[place']? = some c') (hmapped : c.ignored = false)
    (hmapped' : c'.ignored = false) (hne : place ≠ place') : c.name ≠ c'.name := by
  have hpairs : columns.Pairwise fun a b => a.ignored = false → b.ignored = false → a.name ≠ b.name := by
    simpa [List.Nodup, mappedColumns, ofColumns, List.pairwise_map, List.pairwise_filter] using hnames
  obtain ⟨hbound, rfl⟩ := List.getElem?_eq_some_iff.1 hc
  obtain ⟨hbound', rfl⟩ := List.getElem?_eq_some_iff.1 hc'
  rw [List.pairwise_iff_getElem] at hpairs
  rcases Nat.lt_or_gt_of_ne hne with hlt | hlt
  · exact hpairs _ _ hbound hbound' hlt hmapped hmapped'
  · exact (hpairs _ _ hbound' hbound hlt hmapped' hmapped).symm

/-- Two keys at different places have different names. -/
theorem key_name_ne (hnames : ((ofColumns table columns).mappedColumns.map (·.name)).Nodup)
    (hkeys : (ofColumns table columns).keys.Distinct)
    (hc : (ofColumns table columns).key? kind = some c) (hc' : (ofColumns table columns).key? kind' = some c')
    (hne : kind ≠ kind') : c.name ≠ c'.name := by
  obtain ⟨place, hplace, hcolumn, hclaims⟩ := getElem?_of_key hc
  obtain ⟨place', hplace', hcolumn', hclaims'⟩ := getElem?_of_key hc'
  rw [Column.claimsKey, Bool.and_eq_true, Bool.not_eq_true'] at hclaims hclaims'
  refine name_ne_of_place_ne hnames hcolumn hcolumn' hclaims.1 hclaims'.1 ?_
  rintro rfl
  exact hne (hkeys.kind_eq hplace hplace')

end Entity

end Sql
