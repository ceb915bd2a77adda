/-
  PromptEngine.Proofs.Json.Printing — a value comes back from the text that it is written as.

  The reader has two passes, and the proof has one for each.  The text of a value is cut into the
  lexemes of the value (`lexemes?_compactChars`); from these the machine builds the document that
  the value is written as (`run?_lexemes`).  The document has the value again, with the members of
  its objects sorted, as long as the nesting stays within the limit (`value?_ofJson`).

  Main results: `documentRead?_compactChars` and `read?_compact`.
-/
import PromptEngine.Proofs.Json.Scalars

namespace PromptEngine.Json

/-! ## §1. Sizes and parts. -/

mutual

/-- The numbers in a value. -/
def numbers : Json → List Number
  | .number n => [n]
  | .array items => itemNumbers items
  | .object members => memberNumbers members
  | _ => []

/-- The numbers in the items of an array. -/
def itemNumbers : List Json → List Number
  | [] => []
  | item :: rest => item.numbers ++ itemNumbers rest

/-- The numbers in the members of an object. -/
def memberNumbers : List (String × Json) → List Number
  | [] => []
  | (_, value) :: rest => value.numbers ++ memberNumbers rest

end

mutual

/-- How many arrays and objects are nested in each other. -/
def depth : Json → Nat
  | .array items => itemDepth items + 1
  | .object members => memberDepth members + 1
  | _ => 0

/-- The greatest depth of an item. -/
def itemDepth : List Json → Nat
  | [] => 0
  | item :: rest => max item.depth (itemDepth rest)

/-- The greatest depth of a member. -/
def memberDepth : List (String × Json) → Nat
  | [] => 0
  | (_, value) :: rest => max value.depth (memberDepth rest)

end

theorem memberDepth_le_iff {members : List (String × Json)} {limit : Nat} :
    memberDepth members ≤ limit ↔ ∀ member ∈ members, member.2.depth ≤ limit := by
  induction members with
  | nil => exact ⟨fun _ => nofun, fun _ => Nat.zero_le _⟩
  | cons first rest ih =>
      show max first.2.depth (memberDepth rest) ≤ limit ↔ _
      rw [Nat.max_le, ih, List.forall_mem_cons]

theorem itemDepth_le_iff {items : List Json} {limit : Nat} :
    itemDepth items ≤ limit ↔ ∀ item ∈ items, item.depth ≤ limit := by
  induction items with
  | nil => exact ⟨fun _ => nofun, fun _ => Nat.zero_le _⟩
  | cons first rest ih =>
      show max first.depth (itemDepth rest) ≤ limit ↔ _
      rw [Nat.max_le, ih, List.forall_mem_cons]

mutual

/-- The members of every object in a value stand in the order of their names. -/
def Canonical : Json → Prop
  | .array items => CanonicalItems items
  | .object members => Ascending members ∧ CanonicalMembers members
  | _ => True

/-- Every item is canonical. -/
def CanonicalItems : List Json → Prop
  | [] => True
  | item :: rest => item.Canonical ∧ CanonicalItems rest

/-- The value of every member is canonical. -/
def CanonicalMembers : List (String × Json) → Prop
  | [] => True
  | (_, value) :: rest => value.Canonical ∧ CanonicalMembers rest

end

mutual

/-- The lexemes that a value is written with. -/
def lexemes : Json → List Lexeme
  | .null => [.null]
  | .bool b => [.bool b]
  | .number n => [.number (some n)]
  | .string s => [.string (some s)]
  | .array items => .beginArray :: itemLexemes items ++ [.endArray]
  | .object members => .beginObject :: memberLexemes members ++ [.endObject]

/-- The lexemes of items, with commas between them. -/
def itemLexemes : List Json → List Lexeme
  | [] => []
  | [item] => item.lexemes
  | item :: rest => item.lexemes ++ .comma :: itemLexemes rest

/-- The lexemes of members, with commas between them. -/
def memberLexemes : List (String × Json) → List Lexeme
  | [] => []
  | [(name, value)] => .string (some name) :: .colon :: value.lexemes
  | (name, value) :: rest =>
    .string (some name) :: .colon :: value.lexemes ++ .comma :: memberLexemes rest

end

/-! ## §2. From the text to the lexemes. -/

theorem isWhiteSpace_of_isSpace {c : Char} (h : isSpace c = true) : isWhiteSpace c = true := by
  unfold isSpace at h
  simp only [Bool.or_eq_true, beq_iff_eq] at h
  obtain ((rfl | rfl) | rfl) | rfl := h <;> decide

/-- A lexeme at the front of a text is the first of its lexemes. -/
theorem lexemes?_of_lexeme? {c : Char} {text rest : List Char} {l : Lexeme}
    (h : lexeme? c text = some (l, rest)) :
    lexemes? (c :: text) = (lexemes? rest).map (l :: ·) := by
  have hspace : ¬ isSpace c = true := by
    -- A blank is skipped, but no lexeme begins with one.
    intro hspace
    rw [lexeme?_blank (isWhiteSpace_of_isSpace hspace)] at h
    contradiction
  rw [lexemes?, if_neg hspace]
  split
  · next h' =>
      obtain ⟨rfl, rfl⟩ := Prod.mk.inj (Option.some.inj (h.symm.trans h'))
      rfl
  · next h' =>
      rw [h'] at h
      contradiction

theorem lexemes?_openArray (rest : List Char) :
    lexemes? ('[' :: rest) = (lexemes? rest).map (.beginArray :: ·) :=
  lexemes?_of_lexeme? rfl

theorem lexemes?_closeArray (rest : List Char) :
    lexemes? (']' :: rest) = (lexemes? rest).map (.endArray :: ·) :=
  lexemes?_of_lexeme? rfl

theorem lexemes?_openObject (rest : List Char) :
    lexemes? ('\x7b' :: rest) = (lexemes? rest).map (.beginObject :: ·) :=
  lexemes?_of_lexeme? rfl

theorem lexemes?_closeObject (rest : List Char) :
    lexemes? ('\x7d' :: rest) = (lexemes? rest).map (.endObject :: ·) :=
  lexemes?_of_lexeme? rfl

theorem lexemes?_comma (rest : List Char) :
    lexemes? (',' :: rest) = (lexemes? rest).map (.comma :: ·) :=
  lexemes?_of_lexeme? rfl

theorem lexemes?_colon (rest : List Char) :
    lexemes? (':' :: rest) = (lexemes? rest).map (.colon :: ·) :=
  lexemes?_of_lexeme? rfl

theorem closes_nil : Closes [] := by
  intro c hc
  contradiction

theorem closes_cons {c : Char} (h : c = ',' ∨ c = ']' ∨ c = '\x7d') (rest : List Char) :
    Closes (c :: rest) := by
  intro d hd
  rw [← Option.some.inj hd]
  exact h

/-- A name is one lexeme. -/
theorem lexemes?_quoted (name : String) (rest : List Char) :
    lexemes? (quoted name ++ rest) = (lexemes? rest).map (.string (some name) :: ·) := by
  obtain ⟨written, heq, hread⟩ := lexeme?_quoted name rest
  rw [heq, lexemes?_of_lexeme? hread]

mutual

/-- **The text of a value is cut into the lexemes of the value.** -/
theorem lexemes?_compactChars : ∀ (j : Json), (∀ n ∈ j.numbers, n.Fits) →
    ∀ rest, Closes rest →
      lexemes? (compactChars j ++ rest) = (lexemes? rest).map (j.lexemes ++ ·)
  | .null, _, rest, _ => by
      have hread : lexeme? 'n' ('u' :: 'l' :: 'l' :: rest) = some (.null, rest) := rfl
      exact lexemes?_of_lexeme? hread
  | .bool true, _, rest, _ => by
      have hread : lexeme? 't' ('r' :: 'u' :: 'e' :: rest) = some (.bool true, rest) := rfl
      exact lexemes?_of_lexeme? hread
  | .bool false, _, rest, _ => by
      have hread : lexeme? 'f' ('a' :: 'l' :: 's' :: 'e' :: rest) = some (.bool false, rest) := rfl
      exact lexemes?_of_lexeme? hread
  | .number (.integer n), h, rest, hrest => by
      -- Only here it matters what follows: another digit would belong to the number.
      have hfits : (Number.integer n).Fits := h _ (List.mem_singleton.mpr rfl)
      obtain ⟨c, text, heq, hread⟩ := lexeme?_integer hfits hrest
      show lexemes? ((Number.integer n).toText.toList ++ rest) = _
      rw [heq, lexemes?_of_lexeme? hread]
      rfl
  | .number (.real _), h, _, _ => (h _ (List.mem_singleton.mpr rfl)).elim
  | .string s, _, rest, _ => lexemes?_quoted s rest
  | .array items, h, rest, _ => by
      -- The closing bracket goes with the items, so that each of them is followed by a mark.
      show lexemes? ('[' :: ((compactItems items ++ [']']) ++ rest)) = _
      rw [List.append_assoc, List.singleton_append, lexemes?_openArray,
        lexemes?_compactItems items h rest, Option.map_map]
      refine congrArg (Option.map · _) (funext fun behind => ?_)
      show Lexeme.beginArray :: (itemLexemes items ++ .endArray :: behind)
        = (.beginArray :: itemLexemes items ++ [.endArray]) ++ behind
      rw [List.append_assoc, List.singleton_append, List.cons_append]
  | .object members, h, rest, _ => by
      show lexemes? ('\x7b' :: ((compactMembers members ++ ['\x7d']) ++ rest)) = _
      rw [List.append_assoc, List.singleton_append, lexemes?_openObject,
        lexemes?_compactMembers members h rest, Option.map_map]
      refine congrArg (Option.map · _) (funext fun behind => ?_)
      show Lexeme.beginObject :: (memberLexemes members ++ .endObject :: behind)
        = (.beginObject :: memberLexemes members ++ [.endObject]) ++ behind
      rw [List.append_assoc, List.singleton_append, List.cons_append]

/-- The text of items, up to the bracket that closes their array. -/
theorem lexemes?_compactItems : ∀ (items : List Json), (∀ n ∈ itemNumbers items, n.Fits) →
    ∀ rest, lexemes? (compactItems items ++ ']' :: rest)
      = (lexemes? rest).map (itemLexemes items ++ .endArray :: ·)
  | [], _, rest => lexemes?_closeArray rest
  | [item], h, rest => by
      have hitem : ∀ n ∈ item.numbers, n.Fits := fun n hn => h n (List.mem_append_left _ hn)
      show lexemes? (compactChars item ++ ']' :: rest) = _
      rw [lexemes?_compactChars item hitem _ (closes_cons (by simp) rest), lexemes?_closeArray,
        Option.map_map]
      rfl
  | item :: next :: more, h, rest => by
      obtain ⟨hitem, hmore⟩ := List.forall_mem_append.mp h
      show lexemes? ((compactChars item ++ ',' :: compactItems (next :: more)) ++ ']' :: rest) = _
      rw [List.append_assoc, List.cons_append,
        lexemes?_compactChars item hitem _ (closes_cons (by simp) _), lexemes?_comma,
        lexemes?_compactItems (next :: more) hmore rest, Option.map_map, Option.map_map]
      refine congrArg (Option.map · _) (funext fun behind => ?_)
      show item.lexemes ++ .comma :: (itemLexemes (next :: more) ++ .endArray :: behind)
        = (item.lexemes ++ .comma :: itemLexemes (next :: more)) ++ .endArray :: behind
      rw [List.append_assoc, List.cons_append]

/-- The text of members, up to the brace that closes their object. -/
theorem lexemes?_compactMembers : ∀ (members : List (String × Json)),
    (∀ n ∈ memberNumbers members, n.Fits) →
    ∀ rest, lexemes? (compactMembers members ++ '\x7d' :: rest)
      = (lexemes? rest).map (memberLexemes members ++ .endObject :: ·)
  | [], _, rest => lexemes?_closeObject rest
  | [(name, value)], h, rest => by
      have hvalue : ∀ n ∈ value.numbers, n.Fits := fun n hn => h n (List.mem_append_left _ hn)
      show lexemes? ((quoted name ++ ':' :: compactChars value) ++ '\x7d' :: rest) = _
      rw [List.append_assoc, List.cons_append, lexemes?_quoted, lexemes?_colon,
        lexemes?_compactChars value hvalue _ (closes_cons (by simp) rest), lexemes?_closeObject,
        Option.map_map, Option.map_map, Option.map_map]
      rfl
  | (name, value) :: next :: more, h, rest => by
      obtain ⟨hvalue, hmore⟩ := List.forall_mem_append.mp h
      show lexemes? ((quoted name ++ ':' :: compactChars value ++ ',' ::
        compactMembers (next :: more)) ++ '\x7d' :: rest) = _
      rw [List.append_assoc, List.append_assoc, List.cons_append, List.cons_append, lexemes?_quoted,
        lexemes?_colon, lexemes?_compactChars value hvalue _ (closes_cons (by simp) _),
        lexemes?_comma, lexemes?_compactMembers (next :: more) hmore rest, Option.map_map,
        Option.map_map, Option.map_map, Option.map_map]
      refine congrArg (Option.map · _) (funext fun behind => ?_)
      show .string (some name) :: .colon :: (value.lexemes ++ .comma ::
          (memberLexemes (next :: more) ++ .endObject :: behind))
        = (.string (some name) :: .colon :: value.lexemes ++ .comma ::
          memberLexemes (next :: more)) ++ .endObject :: behind
      rw [List.append_assoc, List.cons_append]
      rfl

end

/-! ## §3. From the lexemes to the document. -/

/-- One lexeme and the rest of them. -/
theorem run?_cons {state next : State} {l : Lexeme} (h : step? state l = some next)
    (rest : List Lexeme) : run? state (l :: rest) = run? next rest := by
  rw [run?, h, Option.bind_some]

/-- No value begins with a closing bracket. -/
theorem exists_lexemes_eq_cons (j : Json) : ∃ l more, j.lexemes = l :: more ∧ l ≠ .endArray := by
  cases j with
  | null => exact ⟨_, _, rfl, nofun⟩
  | bool b => exact ⟨_, _, rfl, nofun⟩
  | number n => exact ⟨_, _, rfl, nofun⟩
  | string s => exact ⟨_, _, rfl, nofun⟩
  | array items => exact ⟨_, _, rfl, nofun⟩
  | object members => exact ⟨_, _, rfl, nofun⟩

/-- Behind an opening bracket, items are read as anywhere else. -/
theorem run?_itemOrEnd (stack : List Frame) (item : Json) (items : List Json)
    (rest : List Lexeme) :
    run? (.itemOrEnd stack) (itemLexemes (item :: items) ++ rest)
      = run? (.value stack) (itemLexemes (item :: items) ++ rest) := by
  obtain ⟨l, more, hlexemes, hl⟩ := exists_lexemes_eq_cons item
  have hbegins : ∃ behind, itemLexemes (item :: items) = l :: behind := by
    cases items with
    | nil => exact ⟨more, hlexemes⟩
    | cons next items =>
        refine ⟨more ++ .comma :: itemLexemes (next :: items), ?_⟩
        show item.lexemes ++ _ = _
        rw [hlexemes, List.cons_append]
  obtain ⟨behind, hbehind⟩ := hbegins
  have hstep : step? (.itemOrEnd stack) l = step? (.value stack) l := by
    rw [step?, step?]
    intro _ _ hend
    exact absurd hend hl
  rw [hbehind, List.cons_append, run?, run?, hstep]

/-- Behind an opening brace, members are read as anywhere else. -/
theorem run?_nameOrEnd (before : List (Option String × Document)) (stack : List Frame)
    (member : String × Json) (members : List (String × Json)) (rest : List Lexeme) :
    run? (.nameOrEnd (.object before :: stack)) (memberLexemes (member :: members) ++ rest)
      = run? (.name (.object before :: stack)) (memberLexemes (member :: members) ++ rest) := by
  cases members with
  | nil => rfl
  | cons next members => rfl

mutual

/-- **The machine builds the document that a value is written as.** -/
theorem run?_lexemes : ∀ (j : Json) (stack : List Frame) (rest : List Lexeme),
    run? (.value stack) (j.lexemes ++ rest) = run? (complete (.ofJson j) stack) rest
  | .null, _, _ => run?_cons rfl _
  | .bool _, _, _ => run?_cons rfl _
  | .number _, _, _ => run?_cons rfl _
  | .string _, _, _ => run?_cons rfl _
  | .array items, stack, rest => by
      show run? (.value stack) (.beginArray :: (itemLexemes items ++ [.endArray]) ++ rest) = _
      rw [List.cons_append, List.append_assoc, List.singleton_append, run?_cons rfl]
      cases hitems : items with
      | nil => exact run?_cons rfl rest
      | cons item more =>
          -- The machine is behind the bracket and goes on as if it waited for a value.
          rw [run?_itemOrEnd, ← hitems, run?_itemLexemes items (by simp [hitems]) [] stack rest]
          rfl
  | .object members, stack, rest => by
      show run? (.value stack) (.beginObject :: (memberLexemes members ++ [.endObject]) ++ rest) = _
      rw [List.cons_append, List.append_assoc, List.singleton_append, run?_cons rfl]
      cases hmembers : members with
      | nil => exact run?_cons rfl rest
      | cons member more =>
          rw [run?_nameOrEnd, ← hmembers,
            run?_memberLexemes members (by simp [hmembers]) [] stack rest]
          rfl

/-- The items of an array are collected behind those that were read before. -/
theorem run?_itemLexemes : ∀ (items : List Json), items ≠ [] → ∀ (before : List Document)
    (stack : List Frame) (rest : List Lexeme),
    run? (.value (.array before :: stack)) (itemLexemes items ++ .endArray :: rest)
      = run? (complete (.array (before.reverse ++ Document.ofItems items)) stack) rest
  | [], h, _, _, _ => absurd rfl h
  | [item], _, before, stack, rest => by
      show run? _ (item.lexemes ++ .endArray :: rest) = _
      rw [run?_lexemes item, run?_cons rfl, List.reverse_cons]
      rfl
  | item :: next :: more, _, before, stack, rest => by
      show run? _ ((item.lexemes ++ .comma :: itemLexemes (next :: more)) ++ .endArray :: rest) = _
      rw [List.append_assoc, List.cons_append, run?_lexemes item, run?_cons rfl,
        run?_itemLexemes (next :: more) nofun (.ofJson item :: before) stack rest,
        List.reverse_cons, List.append_assoc]
      rfl

/-- The members of an object are collected behind those that were read before. -/
theorem run?_memberLexemes : ∀ (members : List (String × Json)), members ≠ [] →
    ∀ (before : List (Option String × Document)) (stack : List Frame) (rest : List Lexeme),
    run? (.name (.object before :: stack)) (memberLexemes members ++ .endObject :: rest)
      = run? (complete (.object (before.reverse ++ Document.ofMembers members)) stack) rest
  | [], h, _, _, _ => absurd rfl h
  | [(name, value)], _, before, stack, rest => by
      show run? _ (.string (some name) :: .colon :: (value.lexemes ++ .endObject :: rest)) = _
      rw [run?_cons rfl, run?_cons rfl, run?_lexemes value, run?_cons rfl, List.reverse_cons]
      rfl
  | (name, value) :: next :: more, _, before, stack, rest => by
      show run? _ (.string (some name) :: .colon ::
        ((value.lexemes ++ .comma :: memberLexemes (next :: more)) ++ .endObject :: rest)) = _
      rw [run?_cons rfl, run?_cons rfl, List.append_assoc, List.cons_append, run?_lexemes value,
        run?_cons rfl,
        run?_memberLexemes (next :: more) nofun ((some name, .ofJson value) :: before) stack rest,
        List.reverse_cons, List.append_assoc]
      rfl

end

/-- **The text of a value says the document that the value is written as.** -/
theorem documentRead?_compactChars {j : Json} (h : ∀ n ∈ j.numbers, n.Fits) :
    Document.read? (compactChars j) = some (.ofJson j) := by
  have hlexemes := lexemes?_compactChars j h [] closes_nil
  have hempty : lexemes? [] = some [] := by rw [lexemes?]
  rw [List.append_nil, hempty, Option.map_some] at hlexemes
  unfold Document.read?
  rw [hlexemes]
  show (run? (.value []) (j.lexemes ++ [])).bind _ = _
  rw [run?_lexemes]
  rfl

/-! ## §4. Canonical values. -/

mutual

/-- A canonical value is not changed by sorting the members of its objects. -/
theorem Canonical.eq_self : ∀ {j : Json}, j.Canonical → j.canonical = j
  | .null, _ => rfl
  | .bool _, _ => rfl
  | .number _, _ => rfl
  | .string _, _ => rfl
  | .array items, h => congrArg Json.array (CanonicalItems.eq_self h)
  | .object members, h => by
      show ofMembers (canonicalMembers members) = .object members
      rw [CanonicalMembers.eq_self h.2, ofMembers, foldl_insertMember [] h.1]
      rfl

theorem CanonicalItems.eq_self : ∀ {items : List Json}, CanonicalItems items →
    canonicalItems items = items
  | [], _ => rfl
  | item :: rest, h => by
      show item.canonical :: canonicalItems rest = _
      rw [h.1.eq_self, CanonicalItems.eq_self h.2]

theorem CanonicalMembers.eq_self : ∀ {members : List (String × Json)}, CanonicalMembers members →
    canonicalMembers members = members
  | [], _ => rfl
  | (name, value) :: rest, h => by
      show (name, value.canonical) :: canonicalMembers rest = _
      rw [h.1.eq_self, CanonicalMembers.eq_self h.2]

end

theorem canonicalMembers_iff {members : List (String × Json)} :
    CanonicalMembers members ↔ ∀ member ∈ members, member.2.Canonical := by
  induction members with
  | nil => exact ⟨fun _ => nofun, fun _ => trivial⟩
  | cons member rest ih =>
      rw [List.forall_mem_cons, ← ih]
      rfl

/-! ## §5. From the document to the value. -/

mutual

/-- **A document that a value is written as has that value**, with the members of objects sorted,
as long as the nesting stays within the limit. -/
theorem value?_ofJson : ∀ (j : Json) (limit : Nat), j.depth ≤ limit →
    Document.value? limit (.ofJson j) = some j.canonical
  | .null, _, _ => by rw [Document.ofJson, Document.value?]; rfl
  | .bool b, _, _ => by rw [Document.ofJson, Document.value?]; rfl
  | .number n, _, _ => by rw [Document.ofJson, Document.value?]; rfl
  | .string s, _, _ => by rw [Document.ofJson, Document.value?]; rfl
  | .array items, 0, h => absurd h (Nat.not_succ_le_zero _)
  | .array items, limit + 1, h => by
      rw [Document.ofJson, Document.value?, values?_ofItems items limit (Nat.le_of_succ_le_succ h)]
      rfl
  | .object members, 0, h => absurd h (Nat.not_succ_le_zero _)
  | .object members, limit + 1, h => by
      rw [Document.ofJson, Document.value?,
        memberValues?_ofMembers members limit (Nat.le_of_succ_le_succ h)]
      rfl

theorem values?_ofItems : ∀ (items : List Json) (limit : Nat), itemDepth items ≤ limit →
    Document.values? limit (Document.ofItems items) = some (canonicalItems items)
  | [], _, _ => by rw [Document.ofItems, Document.values?]; rfl
  | item :: rest, limit, h => by
      rw [Document.ofItems, Document.values?, value?_ofJson item limit (le_of_max_le_left h),
        values?_ofItems rest limit (le_of_max_le_right h)]
      rfl

theorem memberValues?_ofMembers : ∀ (members : List (String × Json)) (limit : Nat),
    memberDepth members ≤ limit →
    Document.memberValues? limit (Document.ofMembers members) = some (canonicalMembers members)
  | [], _, _ => by rw [Document.ofMembers, Document.memberValues?]; rfl
  | (name, value) :: rest, limit, h => by
      rw [Document.ofMembers, Document.memberValues?,
        value?_ofJson value limit (le_of_max_le_left h),
        memberValues?_ofMembers rest limit (le_of_max_le_right h)]
      rfl

end

/-- What can be written and read back: the numbers are integers of 64 bits, and the nesting stays
within the limit of the reader. -/
structure Writable (j : Json) : Prop where
  numbers : ∀ n ∈ j.numbers, n.Fits
  depth : j.depth ≤ Document.nestingLimit

/-- **A canonical value comes back from its text.** -/
theorem read?_compact {j : Json} (h : j.Writable) (hcanonical : j.Canonical) :
    read? j.compact = some j := by
  unfold read? compact
  rw [String.toList_ofList, documentRead?_compactChars h.numbers, Option.bind_some,
    value?_ofJson j Document.nestingLimit h.depth, hcanonical.eq_self]

end PromptEngine.Json
