/-
  PromptEngine.Proofs.Template.Listing — the variables of a template are listed once each, in the
  order of their first references.

  Names are compared up to the case of ASCII letters, character by character (`EqualUpToCase`).  A
  list of variables is right for a template (`ListsVariables`) if it has one name for each
  reference, spells it as its first reference does, and follows the source.  This says nothing of
  how the list is made, and yet it leaves only one list (`ListsVariables.eq`).

  The list that is made takes some of the references in their order, and each of them has
  none before it that is the same up to case (`exists_firsts`).  Since the references stand one
  behind the other, these are the first ones.

  Main result: `variableNames_listed`.
-/
import PromptEngine.Proofs.Template.References

namespace PromptEngine.Template

/-! ## §1. Names up to case. -/

/-- The second character is the small letter that belongs to the first, an ASCII capital letter. -/
def IsCapitalOf (capital small : Char) : Prop :=
  'A' ≤ capital ∧ capital ≤ 'Z' ∧ small.toNat = capital.toNat + 32

/-- The characters are the same, or they are one letter in both cases. -/
def SameLetter (a b : Char) : Prop :=
  a = b ∨ IsCapitalOf a b ∨ IsCapitalOf b a

/-- The names have the same letters one after the other. -/
def EqualUpToCase (a b : String) : Prop :=
  List.Forall₂ SameLetter a.toList b.toList

/-- Putting a character in lower case moves the ASCII capital letters by 32, and no other. -/
theorem toNat_toLower (c : Char) :
    c.toLower.toNat = if 'A' ≤ c ∧ c ≤ 'Z' then c.toNat + 32 else c.toNat := by
  by_cases hcapital : c.val ≥ 'A'.val ∧ c.val ≤ 'Z'.val
  · have hle : c.val.toNat ≤ 90 := hcapital.2
    have hsize : c.val.toNat + 32 < 2 ^ 32 := by omega
    rw [if_pos (show 'A' ≤ c ∧ c ≤ 'Z' from hcapital), Char.toLower, dif_pos hcapital]
    show (c.val + 32).toNat = c.val.toNat + 32
    rw [UInt32.toNat_add]
    exact Nat.mod_eq_of_lt hsize
  · rw [if_neg (show ¬ ('A' ≤ c ∧ c ≤ 'Z') from hcapital), Char.toLower, dif_neg hcapital]

theorem toLower_eq_iff {a b : Char} : a.toLower = b.toLower ↔ SameLetter a b := by
  have hcapital : ∀ c : Char, 'A' ≤ c ∧ c ≤ 'Z' ↔ 65 ≤ c.toNat ∧ c.toNat ≤ 90 := fun _ => Iff.rfl
  unfold SameLetter IsCapitalOf
  rw [← Char.toNat_inj, ← Char.toNat_inj, toNat_toLower, toNat_toLower, ← and_assoc, ← and_assoc]
  simp only [hcapital]
  split <;> split <;> omega

/-- Names are told apart just if they are not equal up to case. -/
theorem sameName_iff_equalUpToCase {a b : String} : sameName a b = true ↔ EqualUpToCase a b := by
  rw [sameName_iff, ← String.toList_inj]
  unfold String.toLower EqualUpToCase
  rw [String.toList_map, String.toList_map, ← List.forall₂_eq_eq_eq, List.forall₂_map_left_iff,
    List.forall₂_map_right_iff]
  simp only [toLower_eq_iff]

theorem EqualUpToCase.refl (name : String) : EqualUpToCase name name :=
  sameName_iff_equalUpToCase.mp (sameName_self name)

theorem EqualUpToCase.symm {a b : String} (h : EqualUpToCase a b) : EqualUpToCase b a := by
  rw [← sameName_iff_equalUpToCase, sameName_comm]
  exact sameName_iff_equalUpToCase.mpr h

theorem EqualUpToCase.trans {a b c : String} (hab : EqualUpToCase a b) (hbc : EqualUpToCase b c) :
    EqualUpToCase a c := by
  rw [← sameName_iff_equalUpToCase, sameName_iff] at hab hbc ⊢
  exact hab.trans hbc

/-! ## §2. The references that are listed. -/

/-- **Listed are the references that have none of the same name before them**, in their order. -/
theorem exists_firsts (references : List (Spanned String)) :
    ∃ firsts : List (Spanned String), firsts.Sublist references ∧
      firsts.map (·.node) = distinctNames (references.map (·.node)) ∧
      ∀ first ∈ firsts, ∃ before after, references = before ++ first :: after ∧
        ∀ other ∈ before, sameName other.node first.node = false := by
  induction references using List.reverseRecOn with
  | nil => exact ⟨[], .slnil, rfl, List.forall_mem_nil _⟩
  | append_singleton references last ih =>
      obtain ⟨firsts, hsublist, hnames, hfirst⟩ := ih
      have hfirst' : ∀ first ∈ firsts, ∃ before after,
          references ++ [last] = before ++ first :: after ∧
            ∀ other ∈ before, sameName other.node first.node = false := by
        intro first hmem
        obtain ⟨before, after, rfl, hbefore⟩ := hfirst first hmem
        exact ⟨before, after ++ [last], by simp, hbefore⟩
      rw [List.map_append, List.map_singleton, distinctNames_concat, ← hnames]
      by_cases hseen : (firsts.map (·.node)).any (sameName last.node) = true
      · rw [if_pos hseen]
        exact ⟨firsts, hsublist.trans (List.sublist_append_left _ _), rfl, hfirst'⟩
      · rw [if_neg hseen]
        refine ⟨firsts ++ [last], hsublist.append (.refl _), by simp, ?_⟩
        refine List.forall_mem_append.mpr ⟨hfirst', List.forall_mem_singleton.mpr ?_⟩
        refine ⟨references, [], rfl, ?_⟩
        intro other hother
        apply Bool.eq_false_iff.mpr
        intro hsame
        -- Another spelling of the last name would have brought this name into the list.
        obtain ⟨listed, hlisted, hspelling⟩ := exists_mem_distinctNames
          (List.mem_map_of_mem (f := (·.node)) hother)
        rw [← hnames] at hlisted
        refine hseen (List.any_eq_true.mpr ⟨listed, hlisted, ?_⟩)
        rw [sameName_iff] at hsame hspelling ⊢
        rw [hspelling, hsame]

/-! ## §3. First references. -/

/-- Here the template refers to the variable, and before this place it does not, in any spelling. -/
structure FirstRefersAt (template : Template) (name : String) (place : Span) : Prop where
  refers : template.RefersAt name place
  first : ∀ other elsewhere, template.RefersAt other elsewhere → EqualUpToCase other name →
    place.start ≤ elsewhere.start

/-- The names are the variables of the template: one for each reference, spelled as its first
reference is, and in the order of the first references in the source. -/
structure ListsVariables (template : Template) (names : List String) : Prop where
  complete : ∀ name place, template.RefersAt name place →
    ∃! listed, listed ∈ names ∧ EqualUpToCase listed name
  spelled : ∀ listed ∈ names, ∃ place, template.FirstRefersAt listed place
  distinct : names.Pairwise fun a b => ¬ EqualUpToCase a b
  ordered : names.Pairwise fun a b => ∀ p q,
    template.FirstRefersAt a p → template.FirstRefersAt b q → p.start < q.start

variable {source : String} {template : Template}

/-- A variable has one first reference, and that has one spelling. -/
theorem FirstRefersAt.unique (h : parse source = .ok template) {a b : String} {p q : Span}
    (ha : template.FirstRefersAt a p) (hb : template.FirstRefersAt b q)
    (hsame : EqualUpToCase a b) : a = b ∧ p = q := by
  have hle := ha.first b q hb.refers hsame.symm
  have hge := hb.first a p ha.refers hsame
  exact ha.refers.unique h hb.refers (Nat.le_antisymm hle hge)

/-- A name is listed just if it is the spelling of a first reference. -/
theorem ListsVariables.mem_iff (h : parse source = .ok template) {names : List String}
    (hnames : template.ListsVariables names) {name : String} :
    name ∈ names ↔ ∃ place, template.FirstRefersAt name place := by
  constructor
  · exact hnames.spelled name
  · intro hfirst
    obtain ⟨place, hplace⟩ := hfirst
    obtain ⟨listed, ⟨hlisted, hsame⟩, -⟩ := hnames.complete name place hplace.refers
    obtain ⟨elsewhere, helsewhere⟩ := hnames.spelled listed hlisted
    obtain ⟨rfl, -⟩ := helsewhere.unique h hplace hsame
    exact hlisted

theorem ListsVariables.nodup {names : List String} (hnames : template.ListsVariables names) :
    names.Nodup := by
  refine hnames.distinct.imp ?_
  rintro a _ hne rfl
  exact hne (.refl a)

/-- **A template has one list of variables.** -/
theorem ListsVariables.eq (h : parse source = .ok template) {names others : List String}
    (hnames : template.ListsVariables names) (hothers : template.ListsVariables others) :
    names = others := by
  refine List.Perm.eq_of_pairwise ?_ hnames.ordered hothers.ordered ?_
  · -- Of two names one comes first in the source, and not both do.
    intro a b ha hb hab hba
    obtain ⟨p, hp⟩ := hnames.spelled a ha
    obtain ⟨q, hq⟩ := hothers.spelled b hb
    exact absurd (hab p q hp hq) (Nat.lt_asymm (hba q p hq hp))
  · refine (List.perm_ext_iff_of_nodup hnames.nodup hothers.nodup).mpr ?_
    intro name
    rw [hnames.mem_iff h, hothers.mem_iff h]

/-! ## §4. The variables of a template. -/

/-- The listed names are the spellings of first references, which follow one another. -/
theorem exists_firstReferences (h : parse source = .ok template) :
    ∃ firsts : List (Spanned String), firsts.map (·.node) = template.variableNames ∧
      (firsts.Pairwise fun a b => a.span.start < b.span.start) ∧
      ∀ first ∈ firsts, template.FirstRefersAt first.node first.span := by
  have hordered := (located_of_parse h).ascending
  obtain ⟨firsts, hsublist, hnames, hfirst⟩ := exists_firsts template.placedReferences
  rw [map_node_placedReferences, ← variableNames_eq_distinctNames] at hnames
  refine ⟨firsts, hnames, hordered.sublist hsublist, ?_⟩
  intro first hmem
  refine ⟨mem_placedReferences_iff.mp (hsublist.subset hmem), ?_⟩
  intro other elsewhere hrefers hsame
  obtain ⟨before, after, hsplit, hbefore⟩ := hfirst first hmem
  have hother := mem_placedReferences_iff.mpr hrefers
  rw [hsplit] at hother hordered
  -- The other reference is not before this one in the row, so it is not before it in the source.
  obtain hearlier | hlater := List.mem_append.mp hother
  · have hdiffer := hbefore _ hearlier
    rw [sameName_iff_equalUpToCase.mpr hsame] at hdiffer
    contradiction
  · obtain ⟨-, htail, -⟩ := List.pairwise_append.mp hordered
    obtain rfl | hafter := List.mem_cons.mp hlater
    · exact Nat.le_refl _
    · exact Nat.le_of_lt ((List.pairwise_cons.mp htail).1 _ hafter)

/-- The variables of a template are listed as they should be. -/
theorem listsVariables_variableNames (h : parse source = .ok template) :
    template.ListsVariables template.variableNames := by
  obtain ⟨firsts, hnames, hordered, hfirst⟩ := exists_firstReferences h
  have hspelled : ∀ listed ∈ template.variableNames,
      ∃ place, template.FirstRefersAt listed place := by
    rw [← hnames]
    exact List.forall_mem_map.mpr fun first hmem => ⟨first.span, hfirst first hmem⟩
  refine { complete := ?_, spelled := hspelled, distinct := ?_, ordered := ?_ }
  -- Every reference has its name up to case in the list, once.
  · intro name place hrefers
    have hname : name ∈ template.references := by
      rw [← map_node_placedReferences]
      exact List.mem_map_of_mem (mem_placedReferences_iff.mpr hrefers)
    obtain ⟨listed, hlisted, hspelling⟩ := exists_mem_distinctNames hname
    have hsame := sameName_iff_equalUpToCase.mp hspelling
    refine ⟨listed, ⟨hlisted, hsame⟩, ?_⟩
    intro other hother
    obtain ⟨hmem, hother⟩ := hother
    apply eq_of_mem_distinctNames hmem hlisted
    exact sameName_iff_equalUpToCase.mpr (hother.trans hsame.symm)
  · refine (pairwise_distinctNames template.references).imp ?_
    intro a b hdiffer hsame
    rw [sameName_iff_equalUpToCase.mpr hsame] at hdiffer
    contradiction
  · rw [← hnames, List.pairwise_map]
    refine hordered.imp_of_mem ?_
    intro a b ha hb hab p q hp hq
    obtain ⟨-, rfl⟩ := hp.unique h (hfirst a ha) (.refl _)
    obtain ⟨-, rfl⟩ := hq.unique h (hfirst b hb) (.refl _)
    exact hab

/-- **The variables of a template are listed once each, in the order of their first references.**
Every reference of a template that is read, be it a block, a positional argument or the value of a
named one, stands in its source as its place says, and no two begin at the same byte.  The list of
variables holds, for each reference, exactly one name that is equal to it up to case; each name in
it is spelled as its first reference is; no two are equal up to case; and they follow one another as
their first references do in the source.  No other list is like this. -/
theorem variableNames_listed (h : parse source = .ok template) :
    (∀ name place, template.RefersAt name place →
      ∃ part, Occupies 0 source.toList place part ∧ WritesReference name part) ∧
    (∀ a b p q, template.RefersAt a p → template.RefersAt b q → p.start = q.start →
      a = b ∧ p = q) ∧
    ∀ names, template.ListsVariables names ↔ names = template.variableNames := by
  refine ⟨?_, ?_, ?_⟩
  · intro name place hrefers
    exact (located_of_parse h).written _ (mem_placedReferences_iff.mpr hrefers)
  · intro a b p q ha hb
    exact ha.unique h hb
  · intro names
    have hlists := listsVariables_variableNames h
    constructor
    · intro hnames
      exact hnames.eq h hlists
    · rintro rfl
      exact hlists

/-- A template with references of all kinds: names in several spellings, one first referred to by
name, a dollar sign in a literal, a blank region and a character of several bytes. -/
def itinerary : Template :=
  { source := "ä \x7b\x7b $Name \x7d\x7d\x7b\x7b \x7d\x7d"
      ++ "\x7b\x7b f $name '$x' to=$City \x7d\x7d"
      ++ "\x7b\x7bg.h $CITY $zip\x7d\x7d\x7b\x7b$Zip\x7d\x7d"
    blocks :=
      [⟨.text "ä ", ⟨0, 3⟩⟩, ⟨.variable "Name", ⟨3, 14⟩⟩, ⟨.text "\x7b\x7b \x7d\x7d", ⟨14, 19⟩⟩,
        ⟨.invocation
          { function := ⟨⟨none, "f"⟩, ⟨22, 23⟩⟩
            positional := [⟨.variable "name", ⟨24, 29⟩⟩, ⟨.value ⟨"$x", .single⟩, ⟨30, 34⟩⟩]
            named := .ofList
              [("to", ⟨⟨⟨"to", ⟨35, 37⟩⟩, ⟨.variable "City", ⟨38, 43⟩⟩⟩, ⟨35, 43⟩⟩)] }, ⟨19, 46⟩⟩,
        ⟨.invocation
          { function := ⟨⟨some "g", "h"⟩, ⟨48, 51⟩⟩
            positional := [⟨.variable "CITY", ⟨52, 57⟩⟩, ⟨.variable "zip", ⟨58, 62⟩⟩]
            named := .empty }, ⟨46, 64⟩⟩,
        ⟨.variable "Zip", ⟨64, 72⟩⟩] }

theorem variableNames_listed_itinerary :
    parse itinerary.source = .ok itinerary ∧
      itinerary.variableNames = ["Name", "City", "zip"] ∧
      itinerary.ListsVariables ["Name", "City", "zip"] ∧
      itinerary.RefersAt "City" ⟨38, 43⟩ ∧
      ∃ part, Occupies 0 itinerary.source.toList ⟨38, 43⟩ part ∧ WritesReference "City" part := by
  have hparse : parse itinerary.source = .ok itinerary := by cbv
  have hnames : itinerary.variableNames = ["Name", "City", "zip"] := by cbv
  have hcity : itinerary.RefersAt "City" ⟨38, 43⟩ := by
    apply mem_placedReferences_iff.mp
    decide
  obtain ⟨hwritten, -, hlists⟩ := variableNames_listed hparse
  exact ⟨hparse, hnames, (hlists _).mpr hnames.symm, hcity, hwritten "City" ⟨38, 43⟩ hcity⟩

end PromptEngine.Template
