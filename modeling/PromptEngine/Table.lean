/-
  PromptEngine.Table — tables that remember the order in which their names first came.

  A table is a list of entries with distinct names.  Writing to a name that is there changes the
  value in its place; a new name goes to the end; taking a name out keeps the others in order.
  Main facts: what a name holds after a write (`get?_insert`), and which names are there, in which
  order (`names_insert`).
-/

namespace PromptEngine

/-! ## §1. Entries. -/

namespace Entries

variable {α : Type}

/-- Write to a name, in its place or at the end. -/
def put (name : String) (value : α) : List (String × α) → List (String × α)
  | [] => [(name, value)]
  | (n, v) :: rest => if n = name then (name, value) :: rest else (n, v) :: put name value rest

/-- The names of entries, in order. -/
def names (entries : List (String × α)) : List String :=
  entries.map Prod.fst

/-- What a name holds. -/
def find? (name : String) : List (String × α) → Option α
  | [] => none
  | (n, v) :: rest => if n = name then some v else find? name rest

theorem names_put (name : String) (value : α) (entries : List (String × α)) :
    names (put name value entries)
      = if name ∈ names entries then names entries else names entries ++ [name] := by
  induction entries with
  | nil => simp [put, names]
  | cons e rest ih =>
    simp only [names] at ih ⊢
    unfold put
    split <;> rename_i h
    · simp [h]
    · have h' : ¬ name = e.1 := fun e => h e.symm
      by_cases hm : name ∈ rest.map Prod.fst <;>
        simp only [List.map_cons, ih, List.mem_cons, h', hm, false_or, if_true, if_false,
          List.cons_append]

theorem nodup_put (name : String) (value : α) {entries : List (String × α)}
    (h : (names entries).Nodup) : (names (put name value entries)).Nodup := by
  rw [names_put]
  split
  · exact h
  · rename_i hn
    exact List.nodup_append.2 ⟨h, by simp, by simp; exact fun a ha e => hn (e ▸ ha)⟩

theorem find?_put (name n : String) (value : α) (entries : List (String × α)) :
    find? n (put name value entries) = if name = n then some value else find? n entries := by
  induction entries with
  | nil => rfl
  | cons e rest ih =>
    unfold put
    split <;> rename_i h
    · subst h
      simp only [find?]
      split <;> rfl
    · simp only [find?, ih]
      split <;> rename_i h'
      · rw [if_neg fun hn => h (h'.trans hn.symm)]
      · rfl

theorem find?_eq_none_iff (name : String) (entries : List (String × α)) :
    find? name entries = none ↔ name ∉ names entries := by
  induction entries with
  | nil => simp [find?, names]
  | cons e rest ih =>
    simp only [names] at ih
    simp only [find?, names, List.map_cons, List.mem_cons, not_or]
    split <;> rename_i h
    · simp [h]
    · rw [ih]
      exact ⟨fun hn => ⟨fun e => h e.symm, hn⟩, And.right⟩

end Entries

/-! ## §2. Tables. -/

/-- A table from names to values. -/
structure Table (α : Type) where
  entries : List (String × α)
  nodup : (Entries.names entries).Nodup
  deriving DecidableEq, Repr

namespace Table

variable {α : Type}

/-- The table without entries. -/
def empty : Table α :=
  ⟨[], by simp [Entries.names]⟩

instance : Inhabited (Table α) := ⟨empty⟩

theorem ext_entries {a b : Table α} (h : a.entries = b.entries) : a = b := by
  cases a; cases b; simp_all

/-- What a name holds. -/
def get? (t : Table α) (name : String) : Option α :=
  Entries.find? name t.entries

/-- The names of a table, in the order in which they first came. -/
def names (t : Table α) : List String :=
  Entries.names t.entries

/-- The values of a table, in the order of their names. -/
def values (t : Table α) : List α :=
  t.entries.map Prod.snd

/-- The number of entries. -/
def size (t : Table α) : Nat :=
  t.entries.length

/-- Whether there is no entry. -/
def isEmpty (t : Table α) : Bool :=
  t.entries.isEmpty

/-- Whether there is an entry of that name. -/
def contains (t : Table α) (name : String) : Bool :=
  (t.get? name).isSome

/-- Write a value to a name. -/
def insert (t : Table α) (name : String) (value : α) : Table α :=
  ⟨Entries.put name value t.entries, Entries.nodup_put name value t.nodup⟩

/-- Write several entries, one after the other. -/
def insertAll (t : Table α) (entries : List (String × α)) : Table α :=
  entries.foldl (fun t (name, value) => t.insert name value) t

/-- The table that results from writing several entries. -/
def ofList (entries : List (String × α)) : Table α :=
  empty.insertAll entries

/-- Take a name out. -/
def erase (t : Table α) (name : String) : Table α :=
  ⟨t.entries.filter (·.1 != name), by
    have h := t.nodup
    simp only [Entries.names] at h ⊢
    exact h.sublist ((List.filter_sublist (l := t.entries)).map _)⟩

/-- Change every value. -/
def map {β : Type} (f : α → β) (t : Table α) : Table β :=
  ⟨t.entries.map fun (name, value) => (name, f value), by
    have h := t.nodup
    simpa [Entries.names, Function.comp_def] using h⟩

/-- Whether two tables have the same names with the same values, in whatever order. -/
def sameContent (same : α → α → Bool) (a b : Table α) : Bool :=
  a.size == b.size && a.entries.all fun (name, value) =>
    match b.get? name with
    | some other => same value other
    | none => false

/-! ## §3. Laws. -/

@[simp] theorem get?_empty (name : String) : (empty : Table α).get? name = none := rfl

@[simp] theorem names_empty : (empty : Table α).names = [] := rfl

/-- A write is seen at its name and nowhere else. -/
theorem get?_insert (t : Table α) (name n : String) (value : α) :
    (t.insert name value).get? n = if name = n then some value else t.get? n :=
  Entries.find?_put name n value t.entries

/-- A write moves no name; a new name goes to the end. -/
theorem names_insert (t : Table α) (name : String) (value : α) :
    (t.insert name value).names
      = if name ∈ t.names then t.names else t.names ++ [name] :=
  Entries.names_put name value t.entries

/-- A name is there exactly if it holds something. -/
theorem contains_iff_mem_names (t : Table α) (name : String) :
    t.contains name = true ↔ name ∈ t.names := by
  have none_iff : t.get? name = none ↔ name ∉ t.names := Entries.find?_eq_none_iff name t.entries
  by_cases h : name ∈ t.names
  · simp [contains, h, Option.isSome_iff_ne_none, none_iff]
  · simp [contains, h, none_iff.2 h]

end Table

end PromptEngine
