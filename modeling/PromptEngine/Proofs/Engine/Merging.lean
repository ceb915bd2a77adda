/-
  PromptEngine.Proofs.Engine.Merging — a collection joins a registry as a whole or not at all.

  A collection whose name is new becomes the last one.  Otherwise its functions go behind those of
  the collection that is there, unless the two share a name: then nothing is done, and the error
  names the first of its functions whose name is taken (`addCollection_eq_error_iff`).  Because
  no name is shared, what is merged is laid over nothing: every function that was there is found
  and listed as before, and the new ones follow in their order (`joined_of_addCollection`).

  Main result: `addCollection_atomic`.
-/
import PromptEngine.Proofs.Engine.LastWriter

namespace PromptEngine.Registry

variable {σ : Type} {r r' : Registry σ} {c known : Collection σ} {name : String}
  {error : EngineError}

/-! ## §1. Shared names. -/

/-- The name that is reported is the first one that the other collection has as well. -/
theorem clash?_eq_some_iff :
    clash? known c = some name ↔
      ∃ front back, c.functions.names = front ++ name :: back ∧
        (∀ other ∈ front, other ∉ known.functions.names) ∧ name ∈ known.functions.names := by
  unfold clash?
  rw [List.find?_eq_some_iff_append]
  simp only [Bool.not_eq_true', Bool.eq_false_iff, ne_eq, Table.contains_iff_mem_names]
  constructor
  · rintro ⟨hshared, front, back, hnames, hfront⟩
    exact ⟨front, back, hnames, hfront, hshared⟩
  · rintro ⟨front, back, hnames, hfront, hshared⟩
    exact ⟨hshared, front, back, hnames, hfront⟩

/-- **When a collection is refused**: a collection of its name is there, and they share a name. -/
theorem addCollection_eq_error_iff :
    r.addCollection c = .error error ↔
      ∃ known name, r.collections.get? c.name = some known ∧ clash? known c = some name ∧
        error = .duplicateFunction c.name name := by
  unfold addCollection
  cases hknown : r.collections.get? c.name with
  | none => simp
  | some known =>
      dsimp only
      cases hclash : clash? known c with
      | none => simp [hclash]
      | some name => simp [hclash, eq_comm]

/-- A shared name is enough for a collection to be refused. -/
theorem exists_clash?_iff :
    (∃ name, clash? known c = some name) ↔
      ∃ name ∈ c.functions.names, name ∈ known.functions.names := by
  rw [← Option.isSome_iff_exists]
  unfold clash?
  rw [List.find?_isSome]
  simp only [Table.contains_iff_mem_names]

/-! ## §2. A collection that joins. -/

/-- What a registry comes to when a collection joins it. -/
structure Joined (r : Registry σ) (c : Collection σ) (r' : Registry σ) : Prop where
  /-- Every function of the collection is found under its name, by templates and by models. -/
  found : ∀ f ∈ c.functions.values,
    r'.get c.name f.name = .ok f ∧ r'.resolve ⟨some c.name, f.name⟩ = .ok f ∧
      r'.resolveTool (c.name ++ "-" ++ f.name) = .ok f
  /-- Every function that was found is found as before. -/
  kept : ∀ collection name f, r.get collection name = .ok f → r'.get collection name = .ok f
  /-- Nothing else is found. -/
  only : ∀ collection name f, r'.get collection name = .ok f →
    r.get collection name = .ok f ∨ collection = c.name ∧ f ∈ c.functions.values
  /-- A collection whose name is new becomes the last one. -/
  new : r.collections.get? c.name = none →
    r'.collections.entries = r.collections.entries ++ [(c.name, c)] ∧
      r'.functions = r.functions ++ c.functions.values
  /-- A collection that is there keeps its place and what it has; the new functions follow. -/
  known : ∀ known, r.collections.get? c.name = some known →
    (∃ front back merged, r.collections.entries = front ++ (c.name, known) :: back ∧
      r'.collections.entries = front ++ (c.name, merged) :: back ∧
      merged = { known with functions := merged.functions } ∧
      merged.functions.entries = known.functions.entries ++ c.functions.entries) ∧
    ∃ front back, r.functions = front ++ known.functions.values ++ back ∧
      r'.functions = front ++ known.functions.values ++ c.functions.values ++ back

/-- Where no name is shared, the functions that are added go behind those that are there. -/
theorem entries_merged
    (hfree : ∀ name ∈ c.functions.names, known.functions.contains name = false) :
    (known.functions.insertAll c.functions.entries).entries
      = known.functions.entries ++ c.functions.entries := by
  refine Table.entries_insertAll c.functions.nodup ?_
  intro name hname hthere
  have hcontains := (Table.contains_iff_mem_names known.functions name).2 hthere
  rw [hfree name hname] at hcontains
  contradiction

/-- A collection whose name is new is listed behind the others. -/
theorem functions_put_new (h : r.collections.get? c.name = none) :
    (r.put c).functions = r.functions ++ c.functions.values := by
  unfold functions put
  rw [Table.values_insert_of_get?_none h, List.flatMap_append, List.flatMap_singleton]

/-- A collection that joins stores nothing where a function is held. -/
theorem get?_of_holds? (h : r.addCollection c = .ok r') {f : Function σ}
    (hheld : r.holds? c.name name = some f) : c.functions.get? name = none := by
  obtain ⟨known, hknown, hf⟩ := Option.bind_eq_some_iff.1 hheld
  obtain ⟨hnew, -⟩ | ⟨other, hother, hfree, -⟩ := addCollection_cases h
  · rw [hknown] at hnew
    contradiction
  · obtain rfl := Option.some.inj (hknown.symm.trans hother)
    -- The name is taken, so it is none of the names that join.
    refine (Entries.find?_eq_none_iff name c.functions.entries).2 ?_
    intro hmem
    have hthere : known.functions.contains name = true := by
      rw [Table.contains, hf]
      rfl
    rw [hfree name hmem] at hthere
    contradiction

/-- **What is found once a collection has joined**: what was found before, and its functions under
its name. -/
theorem get_addCollection_iff (hr : r.Sound) (hc : c.Built) (h : r.addCollection c = .ok r')
    {collection : String} {f : Function σ} :
    r'.get collection name = .ok f ↔
      r.get collection name = .ok f ∨
        collection = c.name ∧ c.functions.get? name = some f := by
  have happly : (Change.addCollection c).apply r = (.ok (), r') := by
    unfold Change.apply
    dsimp only
    rw [h]
  have hadmissible : (Change.addCollection c).Admissible := hc
  have hheld := holds?_apply hr hadmissible collection name
  rw [happly] at hheld
  dsimp only at hheld
  rw [get_eq_ok_iff, get_eq_ok_iff, hheld, Change.stored?]
  by_cases hname : c.name = collection
  · subst hname
    rw [if_pos rfl]
    -- Of what the collection has and what is held under its name at most one is there.
    cases hold : r.holds? c.name name with
    | none => simp
    | some g => simp [get?_of_holds? h hold]
  · rw [if_neg hname, Option.none_or]
    simp [Ne.symm hname]

/-- A collection that is there keeps its place among the others. -/
theorem collections_merged (hr : r.Sound) (hknown : r.collections.get? c.name = some known)
    (h : r.addCollection c = .ok r') :
    ∃ front back merged, r.collections.entries = front ++ (c.name, known) :: back ∧
      r'.collections.entries = front ++ (c.name, merged) :: back ∧
      merged = { known with functions := merged.functions } ∧
      merged.functions.entries = known.functions.entries ++ c.functions.entries := by
  obtain ⟨hnew, -⟩ | ⟨other, hother, hfree, rfl⟩ := addCollection_cases h
  · rw [hnew] at hknown
    contradiction
  · obtain rfl := Option.some.inj (hknown.symm.trans hother)
    obtain ⟨front, back, hfront, hput⟩ := Entries.exists_put_of_find? hknown
    refine ⟨front, back,
      { known with functions := known.functions.insertAll c.functions.entries }, hfront, ?_, rfl,
      entries_merged hfree⟩
    show Entries.put known.name _ r.collections.entries = _
    rw [(hr.of_get? hknown).2]
    exact hput _

/-- The functions that join a collection are listed behind those that it has. -/
theorem functions_merged (hr : r.Sound) (hknown : r.collections.get? c.name = some known)
    (h : r.addCollection c = .ok r') :
    ∃ front back, r.functions = front ++ known.functions.values ++ back ∧
      r'.functions = front ++ known.functions.values ++ c.functions.values ++ back := by
  obtain ⟨front, back, merged, hfront, hafter, -, hmerged⟩ := collections_merged hr hknown h
  refine ⟨front.flatMap (·.2.functions.values), back.flatMap (·.2.functions.values), ?_, ?_⟩
  · unfold functions Table.values
    rw [hfront]
    simp [List.flatMap_map]
  · unfold functions Table.values
    rw [hafter]
    simp [List.flatMap_map, hmerged]

/-- **A collection that is accepted joins as a whole.** -/
theorem joined_of_addCollection (hr : r.Sound) (hc : c.Built) (h : r.addCollection c = .ok r') :
    r.Joined c r' := by
  have hsound := Collection.sound_of_built hc
  -- A function of a collection is stored under its own name.
  have hfound : ∀ f ∈ c.functions.values, r'.get c.name f.name = .ok f := by
    intro f hf
    obtain ⟨entry, hentry, rfl⟩ := List.mem_map.1 hf
    refine (get_addCollection_iff hr hc h).2 (Or.inr ⟨rfl, ?_⟩)
    rw [Table.get?_eq_some_iff, ← hsound.key entry hentry]
    exact hentry
  refine ⟨?_, ?_, ?_, ?_, ?_⟩
  · intro f hf
    refine ⟨hfound f hf, hfound f hf, ?_⟩
    rw [resolveTool_joined r' hsound.name]
    exact hfound f hf
  · intro collection name f hf
    exact (get_addCollection_iff hr hc h).2 (Or.inl hf)
  · intro collection name f hf
    have hwhere := (get_addCollection_iff hr hc h).1 hf
    exact hwhere.imp_right (And.imp_right Table.mem_values_of_get?)
  · intro hnew
    obtain ⟨-, rfl⟩ | ⟨known, hknown, -, -⟩ := addCollection_cases h
    · exact ⟨Table.entries_insert_of_get?_none hnew, functions_put_new hnew⟩
    · rw [hnew] at hknown
      contradiction
  · intro known hknown
    exact ⟨collections_merged hr hknown h, functions_merged hr hknown h⟩

/-! ## §3. All or nothing. -/

/-- **A collection joins as a whole or not at all.**  In a registry that can be reached, a
collection is refused exactly if one of the same name is there and they share the name of a
function.  Then the error reports the first such name in the order of the collection, and the
registry is as it was.
Otherwise every function of the collection is found under its name; the functions are listed in
their order, behind those of the collection that is there or as a new last collection; and all
functions that were there keep their places and are found as before. -/
theorem addCollection_atomic (hr : r.Reachable) (hc : c.Built) :
    ((∃ error, ((Change.addCollection c).apply r).1 = .error error) ↔
      ∃ known, r.collections.get? c.name = some known ∧
        ∃ name ∈ c.functions.names, name ∈ known.functions.names) ∧
    (∀ error, ((Change.addCollection c).apply r).1 = .error error →
      ((Change.addCollection c).apply r).2 = r ∧
        ∃ known front name back, r.collections.get? c.name = some known ∧
          c.functions.names = front ++ name :: back ∧
          (∀ other ∈ front, other ∉ known.functions.names) ∧ name ∈ known.functions.names ∧
          error = .duplicateFunction c.name name) ∧
    (((Change.addCollection c).apply r).1 = .ok () →
      r.Joined c ((Change.addCollection c).apply r).2) := by
  unfold Change.apply
  dsimp only
  cases hadd : r.addCollection c with
  | error error =>
      obtain ⟨known, name, hknown, hclash, herror⟩ := addCollection_eq_error_iff.1 hadd
      have hshares := exists_clash?_iff.1 ⟨name, hclash⟩
      refine ⟨iff_of_true ⟨error, rfl⟩ ⟨known, hknown, hshares⟩, ?_, nofun⟩
      intro other hother
      obtain rfl := Except.error.inj hother
      obtain ⟨front, back, hnames, hfront, hshared⟩ := clash?_eq_some_iff.1 hclash
      exact ⟨rfl, known, front, name, back, hknown, hnames, hfront, hshared, herror⟩
  | ok r' =>
      refine ⟨iff_of_false (fun ⟨error, herror⟩ => nomatch herror) ?_, nofun,
        fun _ => joined_of_addCollection (sound_of_reachable hr) hc hadd⟩
      rintro ⟨known, hknown, hshared⟩
      obtain ⟨name, hclash⟩ := exists_clash?_iff.2 hshared
      have hrefused := addCollection_eq_error_iff.2 ⟨known, name, hknown, hclash, rfl⟩
      rw [hadd] at hrefused
      contradiction

/-- A collection whose second function has a name that is taken. -/
def goodbyes : Collection Unit :=
  { evening with functions := evening.functions.insert "hello" (greeting.inCollection "early") }

/-- The clash stands behind a function that could join, which does not join either. -/
theorem addCollection_atomic_goodbyes :
    ((Change.addCollection goodbyes).apply early).1 = .error (.duplicateFunction "early" "hello") ∧
      ((Change.addCollection goodbyes).apply early).2 = early ∧
      early.Joined evening ((Change.addCollection evening).apply early).2 ∧
      ((Change.addCollection evening).apply early).2.get "early" "bye"
        = .ok (farewell.inCollection "early") := by
  have hearly : early.Reachable := .register .empty "early" greeting false
  have hevening : evening.Built := by
    have hcreate : Collection.create "early" = .ok ({ name := "early" } : Collection Unit) := rfl
    have hadd : ({ name := "early" } : Collection Unit).add farewell = .ok evening := rfl
    exact .add (.create hcreate) hadd
  have hgoodbyes : goodbyes.Built := by
    have hadd : evening.add greeting = .ok goodbyes := rfl
    exact .add hevening hadd
  have hrefused : ((Change.addCollection goodbyes).apply early).1
      = .error (.duplicateFunction "early" "hello") := rfl
  obtain ⟨-, hnothing, -⟩ := addCollection_atomic hearly hgoodbyes
  obtain ⟨-, -, hwhole⟩ := addCollection_atomic hearly hevening
  have hjoined := hwhole rfl
  have hfound := hjoined.found (farewell.inCollection "early") (List.mem_singleton.2 rfl)
  exact ⟨hrefused, (hnothing _ hrefused).1, hjoined, hfound.1⟩

end PromptEngine.Registry
