/-
  PromptEngine.Proofs.Json.Records — the fields of a record come back from its members.

  A record that is written with each declared field at most once, and with no other member, is read
  with these fields (`fields?_present`), so a look-up among them finds what was written.  From there
  each kind of field has its own lemma: one that has to be there, one that may be absent, and a list
  or a table that is left out when it is empty.
-/
import PromptEngine.Chat.WireFormat
import PromptEngine.Proofs.Json.Printing

namespace PromptEngine

open Json Json.Document

/-! ## §1. The members that are present. -/

namespace Json

theorem names_present_sublist (members : List (String × Option Json)) :
    (Entries.names (present members)).Sublist (members.map Prod.fst) := by
  induction members with
  | nil => exact List.Sublist.slnil
  | cons member rest ih =>
      obtain ⟨name, value?⟩ := member
      cases value? with
      | none => exact ih.cons name
      | some value => exact ih.cons_cons name

theorem lookup_eq_none_of_not_mem {members : List (String × Json)} {name : String}
    (h : name ∉ Entries.names members) : members.lookup name = none := by
  rw [← find?_eq_lookup]
  exact (Entries.find?_eq_none_iff name members).mpr h

/-- A name of its own holds its value, if it has one. -/
theorem lookup_present {members : List (String × Option Json)} (h : (members.map Prod.fst).Nodup)
    (name : String) : (present members).lookup name = (members.lookup name).join := by
  induction members with
  | nil => rfl
  | cons member rest ih =>
      obtain ⟨n, value?⟩ := member
      obtain ⟨hnew, hrest⟩ := List.nodup_cons.mp h
      by_cases hname : name = n
      · subst hname
        rw [List.lookup_cons_self]
        cases value? with
        | none =>
            -- The name is not written, and no later member has it.
            show (present rest).lookup name = none
            exact lookup_eq_none_of_not_mem fun hmem =>
              hnew ((names_present_sublist rest).subset hmem)
        | some value => exact List.lookup_cons_self
      · have hother : (name == n) = false := beq_false_of_ne hname
        rw [List.lookup_cons, hother]
        cases value? with
        | none => exact ih hrest
        | some value =>
            show ((n, value) :: present rest).lookup name = _
            rw [List.lookup_cons, hother]
            exact ih hrest

/-- What a record holds is nested less deep than the record. -/
theorem depth_lt_of_present {j value : Json} {members : List (String × Option Json)}
    (hj : j = .object (present members)) (hnodup : (members.map Prod.fst).Nodup) (name : String)
    (hvalue : (members.lookup name).join = some value) : value.depth < j.depth := by
  rw [← lookup_present hnodup, ← find?_eq_lookup] at hvalue
  have hle := memberDepth_le_iff.mp (Nat.le_refl _) _ (Entries.mem_of_find? hvalue)
  rw [hj]
  exact Nat.lt_succ_of_le hle

end Json

/-! ## §2. The fields of a record. -/

namespace Json.Document

theorem ofMembers_eq_map (members : List (String × Json)) :
    Document.ofMembers members = members.map fun member => (some member.1, ofJson member.2) := by
  induction members with
  | nil => rw [Document.ofMembers]; rfl
  | cons member rest ih => rw [Document.ofMembers, ih]; rfl

theorem ofItems_eq_map (items : List Json) : Document.ofItems items = items.map ofJson := by
  induction items with
  | nil => rw [Document.ofItems]; rfl
  | cons item rest ih => rw [Document.ofItems, ih]; rfl

/-- Members with declared names of their own are fields. -/
theorem memberFields?_ofMembers {declared : List String} {members : List (String × Json)}
    (hnodup : (Entries.names members).Nodup)
    (hdeclared : ∀ name ∈ Entries.names members, name ∈ declared) :
    memberFields? declared (Document.ofMembers members)
      = some (members.map fun member => (member.1, ofJson member.2)) := by
  induction members with
  | nil => rw [Document.ofMembers]; rfl
  | cons member rest ih =>
      obtain ⟨hnew, hrest⟩ := List.nodup_cons.mp hnodup
      obtain ⟨hfirst, hbehind⟩ := List.forall_mem_cons.mp hdeclared
      -- A field that is given twice would be refused.
      have hfree : ((rest.map fun member => (member.1, ofJson member.2)).any
          (·.1 == member.1)) = false := by
        rw [List.any_eq_false]
        intro field hfield heq
        obtain ⟨other, hother, rfl⟩ := List.mem_map.mp hfield
        rw [← beq_iff_eq.mp heq] at hnew
        exact hnew (List.mem_map_of_mem hother)
      rw [Document.ofMembers, memberFields?, ih hrest hbehind]
      show (if member.1 ∈ declared then _ else _) = _
      rw [if_pos hfirst, hfree]
      rfl

theorem lookup_map_ofJson (members : List (String × Json)) (name : String) :
    (members.map fun member => (member.1, ofJson member.2)).lookup name
      = (members.lookup name).map ofJson := by
  induction members with
  | nil => rfl
  | cons member rest ih =>
      rw [List.map_cons, List.lookup_cons, List.lookup_cons]
      cases name == member.1 with
      | true => rfl
      | false => exact ih

/-- **The fields of a record are the members that are present.** -/
theorem memberFields?_present (declared : List String) (members : List (String × Option Json))
    (hnames : members.map Prod.fst = declared) (hnodup : declared.Nodup) :
    ∃ fields, memberFields? declared (Document.ofMembers (present members)) = some fields ∧
      ∀ name, fields.lookup name = (members.lookup name).join.map ofJson := by
  subst hnames
  have hsub := names_present_sublist members
  refine ⟨_, memberFields?_ofMembers (hnodup.sublist hsub) fun _ hname => hsub.subset hname, ?_⟩
  intro name
  rw [lookup_map_ofJson, lookup_present hnodup]

theorem fields?_present {j : Json} {members : List (String × Option Json)}
    (hj : j = .object (present members)) (declared : List String)
    (hnames : members.map Prod.fst = declared) (hnodup : declared.Nodup) :
    ∃ fields, (ofJson j).fields? declared = some fields ∧
      ∀ name, fields.lookup name = (members.lookup name).join.map ofJson := by
  rw [hj, ofJson]
  exact memberFields?_present declared members hnames hnodup

/-! ## §3. The kinds of fields. -/

variable {α : Type} {fields : Fields} {name : String} {read : Document → Option α}

/-- A field that has to be there. -/
theorem required?_of_lookup {j : Json} {a : α} (hfield : fields.lookup name = some (ofJson j))
    (hread : read (ofJson j) = some a) : required? read fields name = some a := by
  unfold required?
  rw [hfield]
  exact hread

/-- A field that may be absent, and is not null if it is there. -/
theorem optional?_of_lookup {write : α → Json} {a? : Option α}
    (hfield : fields.lookup name = (a?.map write).map ofJson)
    (hread : ∀ a, read (ofJson (write a)) = some a) (hnull : ∀ a, ofJson (write a) ≠ .null) :
    optional? read fields name = some a? := by
  unfold optional?
  rw [hfield]
  cases a? with
  | none => rfl
  | some a =>
      rw [Option.map_some, Option.map_some]
      split
      · contradiction
      · next hfound => exact absurd (Option.some.inj hfound) (hnull a)
      · next d _ hfound =>
          rw [← Option.some.inj hfound, hread a]
          rfl

/-- The items of an array, if each of them can be read. -/
theorem list?_ofItems {write : α → Json} {items : List α}
    (hread : ∀ a ∈ items, read (ofJson (write a)) = some a) :
    list? read (ofJson (.array (items.map write))) = some items := by
  rw [ofJson, ofItems_eq_map, List.map_map]
  show (items.map (ofJson ∘ write)).mapM read = some items
  induction items with
  | nil => rfl
  | cons a items ih =>
      obtain ⟨ha, hitems⟩ := List.forall_mem_cons.mp hread
      rw [List.map_cons, List.mapM_cons, ih hitems, Function.comp_apply, ha]
      rfl

/-- A list that is left out when it is empty. -/
theorem default?_list {write : α → Json} {items : List α}
    (hfield : fields.lookup name = (listMember? write items).map ofJson)
    (hread : ∀ a ∈ items, read (ofJson (write a)) = some a) :
    default? [] (list? read) fields name = some items := by
  unfold default?
  rw [hfield]
  cases items with
  | nil => rfl
  | cons a items => exact list?_ofItems hread

/-- A table that is left out when it is empty. -/
theorem default?_table {limit : Nat} {t : Table Json}
    (hfield : fields.lookup name
      = (if t.isEmpty then none else some (.object t.entries)).map ofJson)
    (hdepth : memberDepth t.entries ≤ limit) (hcanonical : ∀ entry ∈ t.entries, entry.2.Canonical) :
    default? .empty (table? limit) fields name = some t := by
  unfold default?
  rw [hfield]
  cases hempty : t.isEmpty with
  | true =>
      have hnone : t = .empty := Table.ext_entries (List.isEmpty_iff.mp hempty)
      rw [hnone]
      rfl
  | false =>
      show table? limit (ofJson (.object t.entries)) = some t
      rw [ofJson, table?, memberValues?_ofMembers t.entries limit hdepth,
        (canonicalMembers_iff.mpr hcanonical).eq_self, Option.map_some, Table.ofList_entries]

end Json.Document

end PromptEngine
