/-
  PromptEngine.Proofs.Text.Unescaping — escaping can be undone, and what it gives is all there is.

  `unescape` reads a text once, from left to right, and puts a character in the place of each
  entity.  Escaping writes each character by itself (`escape_eq_flatMap`), so one step of reading
  takes what one character was written as (`unescape_written_append`), and the whole is read back
  (`unescape_escape`).  In the other direction every text without markup characters of its own, in
  which every ampersand begins an entity, is the escaped form of what is read from it
  (`escape_unescape`).

  Main result: `escapeString_faithful`.
-/
import PromptEngine.Proofs.Text.Markup

namespace PromptEngine.Markup

/-! ## §1. The rule and its inverse. -/

/-- What a character is written as. -/
def written : Char → List Char
  | '&' => "&amp;".toList
  | '<' => "&lt;".toList
  | '>' => "&gt;".toList
  | '"' => "&quot;".toList
  | '\'' => "&apos;".toList
  | c => [c]

/-- Read the entities of a text, once and from left to right.  An ampersand that begins none of
them stands for itself. -/
def unescape : List Char → List Char
  | '&' :: 'a' :: 'm' :: 'p' :: ';' :: rest => '&' :: unescape rest
  | '&' :: 'l' :: 't' :: ';' :: rest => '<' :: unescape rest
  | '&' :: 'g' :: 't' :: ';' :: rest => '>' :: unescape rest
  | '&' :: 'q' :: 'u' :: 'o' :: 't' :: ';' :: rest => '"' :: unescape rest
  | '&' :: 'a' :: 'p' :: 'o' :: 's' :: ';' :: rest => '\'' :: unescape rest
  | c :: rest => c :: unescape rest
  | [] => []

/-- Read the entities of a string. -/
def unescapeString (text : String) : String :=
  String.ofList (unescape text.toList)

theorem written_of_not_mem {c : Char} (h : c ∉ entities.map Prod.fst) : written c = [c] := by
  obtain ⟨hamp, hlt, hgt, hquot, hapos⟩ := ne_of_not_mem h
  rw [written] <;> assumption

/-- The rule is that of the table of entities. -/
theorem written_eq_entityOf (c : Char) : written c = entityOf c := by
  by_cases hmem : c ∈ entities.map Prod.fst
  · obtain rfl | rfl | rfl | rfl | rfl := mem_entities_iff.mp hmem <;> rfl
  · rw [entityOf_of_not_mem hmem, written_of_not_mem hmem]

/-! ## §2. Reading what was written. -/

/-- A character that is no ampersand is read as itself. -/
theorem unescape_cons {c : Char} (h : c ≠ '&') (rest : List Char) :
    unescape (c :: rest) = c :: unescape rest := by
  rw [unescape] <;> intros <;> contradiction

/-- What a character is written as is read as the character, whatever follows. -/
theorem unescape_written_append (c : Char) (rest : List Char) :
    unescape (written c ++ rest) = c :: unescape rest := by
  by_cases hmem : c ∈ entities.map Prod.fst
  · obtain rfl | rfl | rfl | rfl | rfl := mem_entities_iff.mp hmem <;> rfl
  · rw [written_of_not_mem hmem, List.singleton_append]
    exact unescape_cons (ne_of_not_mem hmem).1 rest

theorem escape_eq_flatMap_written (text : List Char) : escape text = text.flatMap written := by
  have hrule : written = entityOf := funext written_eq_entityOf
  rw [hrule, escape_eq_flatMap]

/-- **Escaping is undone by reading once.** -/
theorem unescape_escape (text : List Char) : unescape (escape text) = text := by
  rw [escape_eq_flatMap_written]
  induction text with
  | nil => rfl
  | cons c text ih => rw [List.flatMap_cons, unescape_written_append, ih]

/-! ## §3. Writing what was read. -/

theorem escape_cons (c : Char) (text : List Char) :
    escape (c :: text) = written c ++ escape text := by
  rw [escape_eq_flatMap_written, List.flatMap_cons, ← escape_eq_flatMap_written]

theorem isMarkup_eq_false_iff {c : Char} :
    isMarkup c = false ↔ c ≠ '<' ∧ c ≠ '>' ∧ c ≠ '"' ∧ c ≠ '\'' := by
  simp only [isMarkup, Bool.or_eq_false_iff, beq_eq_false_iff_ne, and_assoc]

/-- The back of a harmless text is harmless. -/
theorem Escaped.of_append {first rest : List Char} (h : Escaped (first ++ rest)) :
    Escaped rest := by
  refine ⟨fun c hc => h.plain c (List.mem_append_right first hc), fun front back heq => ?_⟩
  refine h.ampersand (first ++ front) back ?_
  rw [heq, List.append_assoc]

/-- A character of a harmless text that is no ampersand stands for itself. -/
theorem Escaped.written_eq {c : Char} {rest : List Char} (h : Escaped (c :: rest))
    (hamp : c ≠ '&') : written c = [c] := by
  obtain ⟨hlt, hgt, hquot, hapos⟩ := isMarkup_eq_false_iff.mp (h.plain c List.mem_cons_self)
  rw [written] <;> assumption

/-- An ampersand of a harmless text begins what some character is written as. -/
theorem Escaped.exists_written {rest : List Char} (h : Escaped ('&' :: rest)) :
    ∃ c more, c ∈ entities.map Prod.fst ∧ '&' :: rest = written c ++ more := by
  obtain ⟨⟨c, entity⟩, hentity, more, hmore⟩ := h.ampersand [] rest rfl
  have hwritten : written c = entity := by
    revert hentity
    simp only [entities, List.mem_cons, Prod.mk.injEq, List.not_mem_nil, or_false]
    rintro (⟨rfl, rfl⟩ | ⟨rfl, rfl⟩ | ⟨rfl, rfl⟩ | ⟨rfl, rfl⟩ | ⟨rfl, rfl⟩) <;> rfl
  refine ⟨c, more, List.mem_map_of_mem hentity, ?_⟩
  rw [hwritten]
  exact hmore.symm

/-- **A harmless text is the escaped form of what is read from it.** -/
theorem escape_unescape {text : List Char} (h : Escaped text) : escape (unescape text) = text := by
  induction hsize : text.length using Nat.strongRecOn generalizing text with
  | ind size ih =>
      cases text with
      | nil => rfl
      | cons c rest =>
          by_cases hamp : c = '&'
          · -- The whole entity is read in one step.
            subst hamp
            obtain ⟨d, more, hd, hrest⟩ := h.exists_written
            rw [hrest] at h hsize ⊢
            have hshorter : more.length < size := by
              rw [← hsize, List.length_append]
              obtain rfl | rfl | rfl | rfl | rfl := mem_entities_iff.mp hd <;> simp [written]
            rw [unescape_written_append, escape_cons, ih _ hshorter h.of_append rfl]
          · have hshorter : rest.length < size := by
              rw [← hsize]
              exact Nat.lt_succ_self _
            have hback : Escaped rest := Escaped.of_append (show Escaped ([c] ++ rest) from h)
            rw [unescape_cons hamp, escape_cons, h.written_eq hamp, ih _ hshorter hback rfl,
              List.singleton_append]

/-! ## §4. Strings. -/

theorem toList_escapeString (text : String) : (escapeString text).toList = escape text.toList :=
  String.toList_ofList

theorem unescapeString_escapeString (text : String) :
    unescapeString (escapeString text) = text := by
  rw [unescapeString, toList_escapeString, unescape_escape, String.ofList_toList]

/-- **Escaping loses nothing and lets nothing through.**  The replacements over the whole text
amount to writing each character by itself; so a text may be escaped in parts.  What comes out has no
markup characters, its ampersands begin entities, and reading these once gives back the text, so no
two texts are escaped alike.  Nothing else is an escaped text: whatever has no markup characters and
no other ampersands is what some text is escaped as. -/
theorem escapeString_faithful :
    (∀ text, escapeString text = String.ofList (text.toList.flatMap written)) ∧
    (∀ first rest, escapeString (first ++ rest) = escapeString first ++ escapeString rest) ∧
    (∀ text, '<' ∉ (escapeString text).toList ∧ '>' ∉ (escapeString text).toList ∧
      '"' ∉ (escapeString text).toList ∧ '\'' ∉ (escapeString text).toList) ∧
    (∀ text, unescapeString (escapeString text) = text) ∧
    Function.Injective escapeString ∧
    ∀ text, (∃ plain, escapeString plain = text) ↔ Escaped text.toList := by
  refine ⟨fun text => ?_, fun first rest => ?_, fun text => ?_,
    unescapeString_escapeString, ?_, fun text => ⟨?_, fun h => ?_⟩⟩
  · rw [escapeString, escape_eq_flatMap_written]
  · unfold escapeString
    rw [String.toList_append, escape_append, String.ofList_append]
  · rw [toList_escapeString]
    have hplain : ∀ c, isMarkup c = true → c ∉ escape text.toList := fun c hc hmem =>
      Bool.false_ne_true (((escaped_escape text.toList).plain c hmem).symm.trans hc)
    exact ⟨hplain _ rfl, hplain _ rfl, hplain _ rfl, hplain _ rfl⟩
  · exact Function.LeftInverse.injective unescapeString_escapeString
  · rintro ⟨plain, rfl⟩
    rw [toList_escapeString]
    exact escaped_escape plain.toList
  · refine ⟨unescapeString text, ?_⟩
    rw [escapeString, unescapeString, String.toList_ofList, escape_unescape h, String.ofList_toList]

/-- Entities in a text are escaped like any other characters. -/
theorem escapeString_faithful_nested :
    escapeString "<b>&lt;&amp;" = "&lt;b&gt;&amp;lt;&amp;amp;" ∧
      unescapeString "&lt;b&gt;&amp;lt;&amp;amp;" = "<b>&lt;&amp;" ∧
      Escaped "&lt;b&gt;&amp;lt;&amp;amp;".toList := by
  obtain ⟨-, -, -, hread, -, hexact⟩ := escapeString_faithful
  have hwritten : escapeString "<b>&lt;&amp;" = "&lt;b&gt;&amp;lt;&amp;amp;" := by decide
  refine ⟨hwritten, ?_, (hexact _).mp ⟨_, hwritten⟩⟩
  rw [← hwritten]
  exact hread _

end PromptEngine.Markup
