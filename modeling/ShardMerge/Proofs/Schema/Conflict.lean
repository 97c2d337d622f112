import ShardMerge.Proofs.Column.Description
import ShardMerge.Proofs.Schema.Merge

/-!
# What a conflict reports

The types that an unfinished merge holds, and what the failure of a merge says of its sources.

* `holdsMaximal_foldl_combine` reads the invariant of a merge off the sources themselves: after any
  number of sources a column holds the maximal declared types, and each of them names its first
  source.  The merge may be one that fails later, or one that recovers from a conflict.
* `merge_reports` says that a reported conflict is a true one, and that no merge succeeds against
  one.  The reported column is the first one without a widest type, both sources declare what they
  are said to declare, and the two types are told apart by what is displayed of them.
-/

namespace ShardMerge

/-- A declared type of a column that fits in no other one. -/
structure IsMaximal (sources : List SourceSchema) (name : String) (type : ColumnType) : Prop where
  declared : Declares sources name type
  maximal : ∀ other, Declares sources name other → type.fitsIn other = true → other = type

/-- A widest type is the only maximal one. -/
theorem IsWidest.isMaximal_iff {sources : List SourceSchema} {name : String}
    {widest type : ColumnType} (h : IsWidest sources name widest) :
    IsMaximal sources name type ↔ type = widest := by
  constructor
  · intro hmaximal
    exact (hmaximal.maximal widest h.declared (h.widest type hmaximal.declared)).symm
  · rintro rfl
    refine ⟨h.declared, ?_⟩
    intro other hother hfits
    exact ColumnType.fitsIn_antisymm (h.widest other hother) hfits

/-! ## The types that are held -/

namespace HoldsMaximal

variable {held : List Contender} {sources : List SourceSchema} {name : String}

/-- The held types differ from each other, as each fits in itself. -/
theorem nodup_types {declared : List Contender} (h : HoldsMaximal held declared) :
    (held.map (·.type)).Nodup := by
  rw [List.Nodup, List.pairwise_map]
  refine h.incomparable.imp ?_
  intro a b hincomparable hsame
  have hfits := hincomparable.1
  rw [hsame, ColumnType.fitsIn_refl] at hfits
  cases hfits

theorem mem_types_iff (h : HoldsMaximal held (declarations sources name)) {type : ColumnType} :
    type ∈ held.map (·.type) ↔ IsMaximal sources name type := by
  rw [List.mem_map]
  constructor
  · intro hheld
    obtain ⟨a, ha, rfl⟩ := hheld
    refine ⟨declares_iff.2 ⟨a, h.mem_declared ha, rfl⟩, ?_⟩
    intro other hother hfits
    obtain ⟨d, hd, rfl⟩ := declares_iff.1 hother
    exact (h.eq_of_fitsIn ha hd hfits).symm
  · intro hmaximal
    obtain ⟨d, hd, rfl⟩ := declares_iff.1 hmaximal.declared
    -- What covers a maximal type is that type.
    obtain ⟨a, ha, hfits⟩ := h.covers d hd
    have hdeclared : Declares sources name a.type := declares_iff.2 ⟨a, h.mem_declared ha, rfl⟩
    exact ⟨a, ha, hmaximal.maximal a.type hdeclared hfits⟩

theorem firstDeclarer?_eq (h : HoldsMaximal held (declarations sources name)) {a : Contender}
    (ha : a ∈ held) : firstDeclarer? sources name a.type = some a.origin := by
  have hfound := h.first a ha
  rw [find?_declarations, Option.map_eq_some_iff] at hfound
  obtain ⟨origin, hdeclarer, hsame⟩ := hfound
  rw [hdeclarer, ← hsame]

/-- Every held type is declared by the source that it names. -/
theorem exists_source (h : HoldsMaximal held (declarations sources name)) {a : Contender}
    (ha : a ∈ held) : ∃ s ∈ sources, s.origin = a.origin ∧ ⟨name, a.type⟩ ∈ s.columns := by
  obtain ⟨s, hs, hc, horigin⟩ := mem_declarations.1 (h.mem_declared ha)
  exact ⟨s, hs, horigin, hc⟩

end HoldsMaximal

/-- Types that do not compare are told apart by what is displayed of them. -/
theorem Contender.Incomparable.describe_ne {a b : Contender} (h : a.Incomparable b) :
    a.type.describe ≠ b.type.describe := by
  intro hsame
  have hfits := h.1
  rw [ColumnType.describe_injective hsame, ColumnType.fitsIn_refl] at hfits
  cases hfits

namespace UnifiedSchema

variable {first : SourceSchema} {rest : List SourceSchema}

/-- After any number of sources there is a column for each declared name.  It holds the maximal ones
among the types that are declared for it, every one of them once and with the first source that
declares it. -/
theorem holdsMaximal_foldl_combine (hfirst : first.names.Nodup) :
    (rest.foldl combine (ofSource first)).columns.map (·.name) =
        ((first :: rest).flatMap (·.names)).eraseDups ∧
      ∀ c ∈ (rest.foldl combine (ofSource first)).columns,
        (c.held.map (·.type)).Nodup ∧
          (∀ type, type ∈ c.held.map (·.type) ↔ IsMaximal (first :: rest) c.name type) ∧
          ∀ h ∈ c.held, firstDeclarer? (first :: rest) c.name h.type = some h.origin := by
  refine ⟨names_foldl_combine hfirst, ?_⟩
  intro c hc
  have hholds := holdsMaximal_of_mem hfirst hc
  exact ⟨hholds.nodup_types, fun _ => hholds.mem_types_iff, fun _ ha => hholds.firstDeclarer?_eq ha⟩

/-- Three sources of which no one declares a type that holds the other two prices. -/
def conflictingSources : List SourceSchema :=
  [{ origin := ⟨"shop", "orders_1"⟩, columns := [⟨"id", .integer 32⟩, ⟨"price", .decimal 12 2⟩],
     primaryKey := ["id"] },
   { origin := ⟨"shop", "orders_2"⟩, columns := [⟨"id", .integer 64⟩, ⟨"price", .decimal 10 4⟩],
     primaryKey := ["id"] },
   { origin := ⟨"shop", "orders_3"⟩, columns := [⟨"note", .text⟩, ⟨"price", .decimal 14 2⟩],
     primaryKey := [] }]

/-- The third price drives out the first one, and the second stays beside it. -/
theorem holdsMaximal_foldl_combine_conflicting :
    ∃ first rest, conflictingSources = first :: rest ∧ first.names.Nodup ∧
      (rest.foldl combine (ofSource first)).columns.map (fun c => (c.name, c.held)) =
        [("id", [⟨.integer 64, ⟨"shop", "orders_2"⟩⟩]),
         ("price", [⟨.decimal 14 2, ⟨"shop", "orders_3"⟩⟩, ⟨.decimal 10 4, ⟨"shop", "orders_2"⟩⟩]),
         ("note", [⟨.text, ⟨"shop", "orders_3"⟩⟩])] ∧
      ∀ c ∈ (rest.foldl combine (ofSource first)).columns,
        ∀ type, type ∈ c.held.map (·.type) ↔ IsMaximal conflictingSources c.name type := by
  refine ⟨_, _, rfl, by decide, by decide, ?_⟩
  intro c hc
  exact ((holdsMaximal_foldl_combine (by decide)).2 c hc).2.1

/-! ## The conflict that is reported -/

/-- The column is the first one, in the order of first appearance, without a widest type. -/
def IsFirstUnsettled (sources : List SourceSchema) (column : String) : Prop :=
  ∃ before after, (sources.flatMap (·.names)).eraseDups = before ++ column :: after ∧
    (∀ name ∈ before, ∃ type, IsWidest sources name type) ∧
    ¬ ∃ type, IsWidest sources column type

/-- What a report of two types says of the sources. -/
structure Blames (sources : List SourceSchema) (column : String) (first second : Contender) :
    Prop where
  unsettled : IsFirstUnsettled sources column
  first_declared : ∃ s ∈ sources, s.origin = first.origin ∧ ⟨column, first.type⟩ ∈ s.columns
  second_declared : ∃ s ∈ sources, s.origin = second.origin ∧ ⟨column, second.type⟩ ∈ s.columns
  incomparable : first.Incomparable second
  /-- The report shows two texts that differ. -/
  describe_ne : first.type.describe ≠ second.type.describe

/-- The reported column is the first one with a contender. -/
theorem isFirstUnsettled_of_conflict? (hfirst : first.names.Nodup) {c : UnifiedColumn}
    {rival : Contender} (h : (rest.foldl combine (ofSource first)).conflict? = some (c, rival)) :
    c ∈ (rest.foldl combine (ofSource first)).columns ∧ rival ∈ c.contenders ∧
      IsFirstUnsettled (first :: rest) c.name := by
  obtain ⟨before, c', after, hcolumns, hreported, hbefore⟩ := List.findSome?_eq_some_iff.1 h
  obtain ⟨rival', hhead, hsame⟩ := Option.map_eq_some_iff.1 hreported
  cases hsame
  have hc : c ∈ (rest.foldl combine (ofSource first)).columns := by simp [hcolumns]
  have hrival : rival ∈ c.contenders := List.mem_of_head? hhead
  refine ⟨hc, hrival, before.map (·.name), after.map (·.name), ?_, ?_, ?_⟩
  · rw [← names_foldl_combine hfirst, hcolumns, List.map_append, List.map_cons]
  · intro name hname
    obtain ⟨b, hb, rfl⟩ := List.mem_map.1 hname
    refine (contenders_eq_nil_iff hfirst (by simp [hcolumns, hb])).1 ?_
    simpa using hbefore b hb
  · rw [← contenders_eq_nil_iff hfirst hc]
    exact List.ne_nil_of_mem hrival

theorem blames_of_merge {sources : List SourceSchema} (hnames : ∀ s ∈ sources, s.names.Nodup)
    {column : String} {firstOrigin secondOrigin : TableName} {firstType secondType : ColumnType}
    (h : merge sources =
      .error (.incompatibleColumnType column firstOrigin firstType secondOrigin secondType)) :
    Blames sources column ⟨firstType, firstOrigin⟩ ⟨secondType, secondOrigin⟩ := by
  cases sources with
  | nil => cases h
  | cons first rest =>
    have hfirst := hnames first List.mem_cons_self
    rw [merge] at h
    cases hconflict : (rest.foldl combine (ofSource first)).conflict? with
    | none => simp [hconflict] at h
    | some conflict =>
      obtain ⟨c, rival⟩ := conflict
      simp only [hconflict] at h
      cases h
      obtain ⟨hc, hrival, hunsettled⟩ := isFirstUnsettled_of_conflict? hfirst hconflict
      have hholds := holdsMaximal_of_mem hfirst hc
      have hincomparable : Contender.Incomparable ⟨c.type, c.origin⟩ rival :=
        (List.pairwise_cons.1 hholds.incomparable).1 rival hrival
      exact ⟨hunsettled, hholds.exists_source List.mem_cons_self,
        hholds.exists_source (List.mem_cons_of_mem _ hrival), hincomparable,
        Contender.Incomparable.describe_ne hincomparable⟩

/-- A merge that fails on a column reports a true conflict, and it fails on some column whenever a
declared name has no widest type. -/
theorem merge_reports {sources : List SourceSchema} (hnames : ∀ s ∈ sources, s.names.Nodup) :
    (∀ column firstOrigin firstType secondOrigin secondType,
      merge sources =
          .error (.incompatibleColumnType column firstOrigin firstType secondOrigin secondType) →
        Blames sources column ⟨firstType, firstOrigin⟩ ⟨secondType, secondOrigin⟩) ∧
    ((∃ name ∈ sources.flatMap (·.names), ¬ ∃ type, IsWidest sources name type) →
      ∃ column firstOrigin firstType secondOrigin secondType, merge sources =
        .error (.incompatibleColumnType column firstOrigin firstType secondOrigin secondType)) := by
  refine ⟨fun _ _ _ _ _ h => blames_of_merge hnames h, ?_⟩
  intro hconflict
  obtain ⟨name, hname, hunsettled⟩ := hconflict
  have hne : sources ≠ [] := by
    rintro rfl
    cases hname
  refine merge_eq_error_of_not_ok hne fun hmerged => hunsettled ?_
  exact (exists_merge_eq_ok_iff hne hnames).1 hmerged name (exists_declares_iff.2 hname)

theorem merge_reports_conflicting :
    (∀ s ∈ conflictingSources, s.names.Nodup) ∧
      merge conflictingSources =
        .error (.incompatibleColumnType "price" ⟨"shop", "orders_3"⟩ (.decimal 14 2)
          ⟨"shop", "orders_2"⟩ (.decimal 10 4)) ∧
      Blames conflictingSources "price" ⟨.decimal 14 2, ⟨"shop", "orders_3"⟩⟩
        ⟨.decimal 10 4, ⟨"shop", "orders_2"⟩⟩ := by
  have hnames : ∀ s ∈ conflictingSources, s.names.Nodup := by decide
  exact ⟨hnames, rfl, (merge_reports hnames).1 _ _ _ _ _ rfl⟩

end UnifiedSchema

end ShardMerge
