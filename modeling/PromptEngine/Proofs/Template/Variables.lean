/-
  PromptEngine.Proofs.Template.Variables — the variables that are listed for a template.

  The list is built name by name, and a name is put to its end unless one that is the same up to
  case is there (`distinctNames_concat`).  So every listed name is among the given ones, every
  given one is the same up to case as a listed one, and no two that are listed are the same.
-/
import Mathlib.Data.List.Induction
import Mathlib.Data.List.Pairwise
import PromptEngine.Template.Basic

namespace PromptEngine.Template

/-- The variables that a template refers to, one for each reference, in source order. -/
def references (template : Template) : List String :=
  template.blocks.flatMap fun block => block.node.variableNames

theorem variableNames_eq_distinctNames (template : Template) :
    template.variableNames = distinctNames template.references := rfl

/-! ## §1. Names that are the same up to case. -/

theorem sameName_iff {a b : String} : sameName a b = true ↔ a.toLower = b.toLower := by
  unfold sameName
  exact beq_iff_eq

@[simp]
theorem sameName_self (name : String) : sameName name name = true :=
  sameName_iff.mpr rfl

theorem sameName_comm (a b : String) : sameName a b = sameName b a :=
  Bool.beq_comm

/-! ## §2. The list of distinct names. -/

/-- One more name is listed unless it is there up to case. -/
theorem distinctNames_concat (names : List String) (name : String) :
    distinctNames (names ++ [name])
      = if (distinctNames names).any (sameName name) then distinctNames names
        else distinctNames names ++ [name] := by
  unfold distinctNames
  rw [List.foldl_append, List.foldl_cons, List.foldl_nil]

/-- A name that is listed is one of the given ones. -/
theorem mem_of_mem_distinctNames {names : List String} {name : String}
    (h : name ∈ distinctNames names) : name ∈ names := by
  induction names using List.reverseRecOn with
  | nil => exact h
  | append_singleton names last ih =>
      rw [distinctNames_concat] at h
      apply List.mem_append.mpr
      split at h
      · exact Or.inl (ih h)
      · exact (List.mem_append.mp h).imp_left ih

/-- Every name is listed up to case. -/
theorem exists_mem_distinctNames {names : List String} {name : String} (h : name ∈ names) :
    ∃ listed ∈ distinctNames names, sameName listed name = true := by
  induction names using List.reverseRecOn with
  | nil => contradiction
  | append_singleton names last ih =>
      rw [distinctNames_concat]
      by_cases hseen : (distinctNames names).any (sameName last) = true
      · rw [if_pos hseen]
        obtain hfront | hlast := List.mem_append.mp h
        · exact ih hfront
        · -- The name is not listed itself, but the one that keeps it from the list is.
          obtain ⟨listed, hlisted, hsame⟩ := List.any_eq_true.mp hseen
          refine ⟨listed, hlisted, ?_⟩
          rw [sameName_comm, List.mem_singleton.mp hlast]
          exact hsame
      · rw [if_neg hseen]
        obtain hfront | hlast := List.mem_append.mp h
        · obtain ⟨listed, hlisted, hsame⟩ := ih hfront
          exact ⟨listed, List.mem_append_left [last] hlisted, hsame⟩
        · exact ⟨name, List.mem_append_right (distinctNames names) hlast, sameName_self name⟩

/-- No two names that are listed are the same up to case. -/
theorem pairwise_distinctNames (names : List String) :
    (distinctNames names).Pairwise fun a b => sameName a b = false := by
  induction names using List.reverseRecOn with
  | nil => exact List.Pairwise.nil
  | append_singleton names last ih =>
      rw [distinctNames_concat]
      by_cases hseen : (distinctNames names).any (sameName last) = true
      · rw [if_pos hseen]
        exact ih
      · rw [if_neg hseen]
        refine List.pairwise_append.mpr ⟨ih, List.pairwise_singleton .., ?_⟩
        intro listed hlisted name hname
        rw [List.mem_singleton.mp hname, sameName_comm]
        apply Bool.eq_false_iff.mpr
        intro hsame
        exact hseen (List.any_eq_true.mpr ⟨listed, hlisted, hsame⟩)

/-- Of the spellings of one name at most one is listed. -/
theorem eq_of_mem_distinctNames {names : List String} {a b : String}
    (ha : a ∈ distinctNames names) (hb : b ∈ distinctNames names) (h : sameName a b = true) :
    a = b := by
  have hsymm : Std.Symm fun x y => sameName x y = false := by
    refine ⟨fun x y hxy => ?_⟩
    rw [sameName_comm]
    exact hxy
  by_contra hne
  have hdiffer : sameName a b = false := (pairwise_distinctNames names).forall ha hb hne
  rw [hdiffer] at h
  contradiction

end PromptEngine.Template
