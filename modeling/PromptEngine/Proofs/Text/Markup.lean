/-
  PromptEngine.Proofs.Text.Markup — what escaping does to a text.

  The five replacements over the whole text amount to one replacement for each character
  (`escape_eq_flatMap`), because no entity contains a character that a later step replaces.  From
  this it follows that an escaped text has no markup characters of its own and that every
  ampersand in it begins an entity (`escaped_escape`).
-/
import Mathlib.Data.List.Basic
import PromptEngine.Text.Markup

namespace PromptEngine.Markup

/-! ## §1. Character by character. -/

/-- What stands for a character in an escaped text. -/
def entityOf (c : Char) : List Char :=
  (entities.lookup c).getD [c]

theorem replaceChar_append (c : Char) (replacement first rest : List Char) :
    replaceChar c replacement (first ++ rest)
      = replaceChar c replacement first ++ replaceChar c replacement rest :=
  List.flatMap_append

theorem escape_append (first rest : List Char) :
    escape (first ++ rest) = escape first ++ escape rest := by
  unfold escape
  generalize entities = steps
  induction steps generalizing first rest with
  | nil => rfl
  | cons step steps ih =>
      obtain ⟨c, entity⟩ := step
      show List.foldl _ (replaceChar c entity (first ++ rest)) steps = _
      rw [replaceChar_append]
      exact ih _ _

/-- A character without an entity is left alone by every step. -/
theorem replaceChar_of_ne {c d : Char} (replacement : List Char) (h : d ≠ c) :
    replaceChar c replacement [d] = [d] := by
  simp [replaceChar, h]

theorem mem_entities_iff {c : Char} :
    c ∈ entities.map Prod.fst ↔ c = '&' ∨ c = '<' ∨ c = '>' ∨ c = '"' ∨ c = '\'' := by
  simp [entities]

theorem ne_of_not_mem {c : Char} (h : c ∉ entities.map Prod.fst) :
    c ≠ '&' ∧ c ≠ '<' ∧ c ≠ '>' ∧ c ≠ '"' ∧ c ≠ '\'' := by
  simpa [mem_entities_iff] using h

/-- The characters that have an entity have it by `entityOf`. -/
theorem mem_entities_of_mem {c : Char} (h : c ∈ entities.map Prod.fst) :
    (c, entityOf c) ∈ entities := by
  obtain rfl | rfl | rfl | rfl | rfl := mem_entities_iff.mp h <;> decide

theorem entityOf_of_not_mem {c : Char} (h : c ∉ entities.map Prod.fst) : entityOf c = [c] := by
  have hnone : entities.lookup c = none := by
    rw [List.lookup_eq_none_iff]
    intro step hstep
    rw [bne_iff_ne]
    rintro rfl
    exact h (List.mem_map_of_mem hstep)
  rw [entityOf, hnone]
  rfl

theorem escape_singleton (c : Char) : escape [c] = entityOf c := by
  by_cases hmem : c ∈ entities.map Prod.fst
  · obtain rfl | rfl | rfl | rfl | rfl := mem_entities_iff.mp hmem <;> decide
  · obtain ⟨hamp, hlt, hgt, hquot, hapos⟩ := ne_of_not_mem hmem
    rw [entityOf_of_not_mem hmem]
    simp only [escape, entities, List.foldl_cons, List.foldl_nil]
    rw [replaceChar_of_ne _ hamp, replaceChar_of_ne _ hlt, replaceChar_of_ne _ hgt,
      replaceChar_of_ne _ hquot, replaceChar_of_ne _ hapos]

/-- **Escaping replaces each character by itself**, whatever stands around it. -/
theorem escape_eq_flatMap (text : List Char) : escape text = text.flatMap entityOf := by
  induction text with
  | nil => rfl
  | cons c text ih =>
      rw [← List.singleton_append, escape_append, escape_singleton, ih]
      rfl

/-! ## §2. What an escaped text contains. -/

/-- Whether a character opens or closes tags or quotes an attribute. -/
def isMarkup (c : Char) : Bool :=
  c == '<' || c == '>' || c == '"' || c == '\''

/-- The markup characters of a text, in their order. -/
def markup (text : List Char) : List Char :=
  text.filter isMarkup

theorem markup_append (first rest : List Char) :
    markup (first ++ rest) = markup first ++ markup rest :=
  List.filter_append ..

/-- A text that is harmless inside markup: it has no markup characters, and every ampersand in it
begins an entity. -/
structure Escaped (text : List Char) : Prop where
  plain : ∀ c ∈ text, isMarkup c = false
  ampersand : ∀ front back, text = front ++ '&' :: back →
    ∃ entity ∈ entities, entity.2 <+: '&' :: back

namespace Escaped

theorem nil : Escaped [] :=
  ⟨fun c hc => absurd hc List.not_mem_nil, fun front back h => by simp at h⟩

theorem markup_eq_nil {text : List Char} (h : Escaped text) : markup text = [] :=
  List.filter_eq_nil_iff.mpr fun c hc => by simp [h.plain c hc]

theorem append {first rest : List Char} (hfirst : Escaped first) (hrest : Escaped rest) :
    Escaped (first ++ rest) := by
  refine ⟨fun c hc => ?_, fun front back h => ?_⟩
  · obtain hc | hc := List.mem_append.mp hc
    · exact hfirst.plain c hc
    · exact hrest.plain c hc
  · obtain ⟨more, -, hback⟩ | ⟨more, hfront, hmore⟩ := List.append_eq_append_iff.mp h
    · exact hrest.ampersand more back hback
    · cases more with
      | nil => exact hrest.ampersand [] back hmore.symm
      | cons c more =>
          -- The ampersand stands in the first text, and so does the entity that it begins.
          obtain ⟨rfl, rfl⟩ : '&' = c ∧ back = more ++ rest := by simpa using hmore
          obtain ⟨entity, hentity, hstarts⟩ := hfirst.ampersand front more hfront
          exact ⟨entity, hentity, hstarts.trans (List.prefix_append ('&' :: more) rest)⟩

end Escaped

/-- What stands for a character is harmless: an entity begins with its only ampersand, and a
character without entity is neither an ampersand nor markup. -/
theorem escaped_entityOf (c : Char) : Escaped (entityOf c) := by
  by_cases hmem : c ∈ entities.map Prod.fst
  · have hplain : (entityOf c).all (fun d => !isMarkup d) = true ∧ '&' ∉ (entityOf c).tail := by
      obtain rfl | rfl | rfl | rfl | rfl := mem_entities_iff.mp hmem <;> decide
    refine ⟨fun d hd => ?_, fun front back h => ⟨_, mem_entities_of_mem hmem, ?_⟩⟩
    · simpa using List.all_eq_true.mp hplain.1 d hd
    · cases front with
      | nil => exact h ▸ List.prefix_refl (entityOf c)
      | cons d front =>
          have hrest : (entityOf c).tail = front ++ '&' :: back := by rw [h]; rfl
          have hin : '&' ∈ (entityOf c).tail := by rw [hrest]; simp
          exact absurd hin hplain.2
  · -- The character stands for itself, and it is none of the five.
    rw [entityOf_of_not_mem hmem]
    obtain ⟨hamp, hlt, hgt, hquot, hapos⟩ := ne_of_not_mem hmem
    refine ⟨fun d hd => ?_, fun front back h => ?_⟩
    · rw [List.mem_singleton.mp hd]
      simp [isMarkup, hlt, hgt, hquot, hapos]
    · have hin : '&' ∈ [c] := by rw [h]; simp
      exact absurd (List.mem_singleton.mp hin).symm hamp

/-- **An escaped text is harmless.** -/
theorem escaped_escape (text : List Char) : Escaped (escape text) := by
  rw [escape_eq_flatMap]
  induction text with
  | nil => exact .nil
  | cons c text ih =>
      rw [List.flatMap_cons]
      exact (escaped_entityOf c).append ih

end PromptEngine.Markup
