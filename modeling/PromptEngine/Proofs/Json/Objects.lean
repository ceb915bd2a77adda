/-
  PromptEngine.Proofs.Json.Objects — the objects that are read from texts.

  The reader builds canonical objects: the names of their members ascend (`ascending_of_read?`), so
  no name occurs twice, and a member is what the last text of its name said (`lookup_insertMember`).
  Where such an object is written over a table, a name holds its member (`get?_insertAll`).  A text
  of nothing but white space says nothing (`read?_blank`), also where its characters are none that
  a JSON text may hold between its parts.
-/
import Mathlib.Data.String.Basic
import PromptEngine.Arguments
import PromptEngine.Json.Reader
import PromptEngine.Proofs.Table
import PromptEngine.Text.WhiteSpace

namespace PromptEngine

namespace Json

variable {name : String} {value : Json} {members : List (String × Json)}

/-! ## §1. Members. -/

/-- The part of a value that a path of names leads to. -/
def at? (value : Json) : List String → Option Json
  | [] => some value
  | name :: path => (value.member? name).bind (·.at? path)

theorem find?_eq_lookup (name : String) (members : List (String × Json)) :
    Entries.find? name members = members.lookup name := by
  induction members with
  | nil => rfl
  | cons member rest ih =>
      obtain ⟨n, v⟩ := member
      rw [Entries.find?, List.lookup_cons, ih]
      by_cases h : n = name
      · rw [if_pos h, h, beq_self_eq_true]
      · rw [if_neg h, beq_eq_false_iff_ne.2 (Ne.symm h)]

/-- A member that is put in is seen at its name and nowhere else. -/
theorem lookup_insertMember (name : String) (value : Json) (members : List (String × Json))
    (n : String) :
    (insertMember name value members).lookup n
      = if name = n then some value else members.lookup n := by
  simp only [← find?_eq_lookup]
  induction members with
  | nil => rfl
  | cons member rest ih =>
      obtain ⟨m, v⟩ := member
      unfold insertMember
      split
      · rfl
      · split <;> rename_i hname
        · subst hname
          simp only [Entries.find?]
          split <;> rfl
        · simp only [Entries.find?, ih]
          split <;> rename_i hn
          · rw [if_neg fun heq => hname (heq.trans hn.symm)]
          · rfl

/-! ## §2. Canonical objects. -/

/-- The names of the members ascend. -/
def Ascending (members : List (String × Json)) : Prop :=
  (Entries.names members).Pairwise (· < ·)

theorem Ascending.nodup (h : Ascending members) : (Entries.names members).Nodup :=
  List.Pairwise.imp (fun hlt => ne_of_lt hlt) h

theorem mem_names_insertMember {n : String}
    (h : n ∈ Entries.names (insertMember name value members)) :
    n = name ∨ n ∈ Entries.names members := by
  induction members with
  | nil => exact Or.inl (List.mem_singleton.1 h)
  | cons member rest ih =>
      unfold insertMember at h
      split at h
      · exact List.mem_cons.1 h
      · split at h
        · exact (List.mem_cons.1 h).imp_right (List.mem_cons_of_mem _)
        · rcases List.mem_cons.1 h with rfl | h
          · exact Or.inr List.mem_cons_self
          · exact (ih h).imp_right (List.mem_cons_of_mem _)

theorem Ascending.insertMember (h : Ascending members) (name : String) (value : Json) :
    Ascending (insertMember name value members) := by
  induction members with
  | nil => exact List.pairwise_singleton _ _
  | cons member rest ih =>
      obtain ⟨hfirst, hrest⟩ := List.pairwise_cons.1 h
      unfold Json.insertMember
      split <;> rename_i hlt
      · -- The new name is the least one.
        refine List.pairwise_cons.2 ⟨fun n hn => ?_, h⟩
        rcases List.mem_cons.1 hn with rfl | hn
        · exact hlt
        · exact lt_trans hlt (hfirst n hn)
      · split <;> rename_i hname
        · subst hname
          exact h
        · refine List.pairwise_cons.2 ⟨fun n hn => ?_, ih hrest⟩
          rcases mem_names_insertMember hn with rfl | hn
          · exact lt_of_le_of_ne (not_lt.1 hlt) (Ne.symm hname)
          · exact hfirst n hn

theorem ascending_foldl_insertMember (given : List (String × Json)) (h : Ascending members) :
    Ascending (given.foldl (fun sorted (name, value) => insertMember name value sorted)
      members) := by
  induction given generalizing members with
  | nil => exact h
  | cons first rest ih => exact ih (h.insertMember first.1 first.2)

/-- A name behind all others goes to the end. -/
theorem insertMember_of_last {members : List (String × Json)} {name : String}
    (h : ∀ n ∈ Entries.names members, n < name) (value : Json) :
    insertMember name value members = members ++ [(name, value)] := by
  induction members with
  | nil => rfl
  | cons first rest ih =>
      obtain ⟨hfirst, hrest⟩ := List.forall_mem_cons.mp h
      unfold insertMember
      rw [if_neg (lt_asymm hfirst), if_neg (ne_of_gt hfirst), ih hrest]
      rfl

/-- Members whose names ascend are put in one behind the other. -/
theorem foldl_insertMember {members : List (String × Json)} (sorted : List (String × Json))
    (h : Ascending (sorted ++ members)) :
    members.foldl (fun sorted (name, value) => insertMember name value sorted) sorted
      = sorted ++ members := by
  induction members generalizing sorted with
  | nil => exact (List.append_nil _).symm
  | cons first rest ih =>
      obtain ⟨name, value⟩ := first
      have hlast : ∀ n ∈ Entries.names sorted, n < name := by
        intro n hn
        rw [Ascending, Entries.names, List.map_append] at h
        exact (List.pairwise_append.mp h).2.2 n hn name List.mem_cons_self
      rw [List.append_cons] at h ⊢
      rw [List.foldl_cons]
      dsimp only
      rw [insertMember_of_last hlast]
      exact ih _ h

/-- **The names of the members of an object that was read ascend.** -/
theorem ascending_of_read? {text : String} (h : read? text = some (.object members)) :
    Ascending members := by
  obtain ⟨document, -, hvalue⟩ := Option.bind_eq_some_iff.1 h
  -- Only an object has an object as its value, and that one is built member by member.
  cases document with
  | object given =>
      obtain ⟨values, -, hmembers⟩ := Option.map_eq_some_iff.1 hvalue
      rw [← Json.object.inj hmembers]
      exact ascending_foldl_insertMember values List.Pairwise.nil
  | null => cases hvalue
  | bool b => cases hvalue
  | number n =>
      obtain ⟨_, -, hnumber⟩ := Option.map_eq_some_iff.1 hvalue
      cases hnumber
  | string s =>
      obtain ⟨_, -, hstring⟩ := Option.map_eq_some_iff.1 hvalue
      cases hstring
  | array items =>
      obtain ⟨_, -, harray⟩ := Option.map_eq_some_iff.1 hvalue
      cases harray

/-! ## §3. Blank texts. -/

theorem isWhiteSpace_of_isDigit {c : Char} (h : c.isDigit = true) : isWhiteSpace c = false := by
  simp only [Char.isDigit, Bool.and_eq_true, decide_eq_true_eq] at h
  obtain ⟨hlow, hhigh⟩ := h
  have hlow' : 48 ≤ c.toNat := hlow
  have hhigh' : c.toNat ≤ 57 := hhigh
  unfold isWhiteSpace inRanges whiteSpaceRanges
  simp only [List.any_cons, List.any_nil, Bool.or_false, Bool.or_eq_false_iff,
    Bool.and_eq_false_iff, decide_eq_false_iff_not]
  omega

/-- No number begins with white space. -/
theorem literal?_blank {c : Char} (h : isWhiteSpace c = true) (negative : Bool)
    (rest : List Char) : literal? negative (c :: rest) = none := by
  have hdigit : isDigit c = false := by
    cases hd : isDigit c with
    | false => rfl
    | true =>
        rw [isWhiteSpace_of_isDigit hd] at h
        contradiction
  have hzero : c ≠ '0' := by
    rintro rfl
    contradiction
  have hwhole : whole? (c :: rest) = none := by
    rw [whole?]
    · unfold digits?
      rw [List.takeWhile_cons_of_neg (by rw [hdigit]; exact Bool.false_ne_true)]
    · exact fun _ heq => hzero (List.cons.inj heq).1
  unfold literal?
  rw [hwhole]
  rfl

/-- No lexeme begins with white space. -/
theorem lexeme?_blank {c : Char} (h : isWhiteSpace c = true) (rest : List Char) :
    lexeme? c rest = none := by
  unfold lexeme?
  split
  case h_12 =>
    rw [literal?_blank h]
    rfl
  all_goals contradiction

/-- A text of nothing but white space has no lexemes, or none that can be told. -/
theorem lexemes?_blank {text : List Char} (h : ∀ c ∈ text, isWhiteSpace c = true) :
    lexemes? text = some [] ∨ lexemes? text = none := by
  induction text with
  | nil =>
      rw [lexemes?]
      exact Or.inl rfl
  | cons c rest ih =>
      rw [lexemes?]
      split
      · exact ih fun d hd => h d (List.mem_cons_of_mem _ hd)
      · refine Or.inr ?_
        split
        · next hread =>
            rw [lexeme?_blank (h c List.mem_cons_self)] at hread
            contradiction
        · rfl

/-- **A blank text says nothing.** -/
theorem read?_blank {text : String} (h : text.toList.all isWhiteSpace = true) :
    read? text = none := by
  unfold read? Document.read?
  rcases lexemes?_blank (List.all_eq_true.1 h) with hlex | hlex <;> rw [hlex] <;> rfl

end Json

/-! ## §4. Objects over tables. -/

/-- Where the members of an object are written over a table, a name holds its member, and any other
name what it held. -/
theorem Arguments.get?_insertAll (arguments : Arguments) {members : List (String × Json)}
    (h : Json.Ascending members) (name : String) :
    (arguments.insertAll members).get? name
      = ((Json.object members).member? name).or (arguments.get? name) := by
  show (arguments.values.insertAll members).get? name = _
  rw [Table.get?_insertAll h.nodup, Json.find?_eq_lookup]
  rfl

end PromptEngine
