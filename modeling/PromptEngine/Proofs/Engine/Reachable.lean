/-
  PromptEngine.Proofs.Engine.Reachable — registries as they come about, and the names in them.

  A registry comes about from the empty one by registrations, refused ones included, and by adding
  collections, which come about from new ones by adding functions.  Each step keeps the registry
  sound: collections and functions stand under their own names, these are identifiers, and a
  function knows the collection that it stands in (`Registry.Sound`).  The separators of tool names
  and of templates stand in no identifier.  So each name of a function says where it stands, and
  no two functions have the same one.

  Main results:
    * `Registry.sound_of_reachable` — every step keeps the registry sound,
    * `Registry.names_of_reachable` — the names of a function are its own and lead back to it.
-/
import Mathlib.Data.List.Nodup
import PromptEngine.Proofs.Engine.Registration
import PromptEngine.Proofs.Table
import PromptEngine.Proofs.Template.Grammar

namespace PromptEngine

variable {σ : Type}

/-! ## §1. How collections and registries come about. -/

/-- The collections that can be built: a new one, the same with another description, and one with a
function added.  A refused function leaves the collection as it was. -/
inductive Collection.Built : Collection σ → Prop where
  | create {name : String} {description : Option String} {c : Collection σ}
      (h : Collection.create name description = .ok c) : Built c
  | describe {c : Collection σ} (h : Built c) (description : Option String) :
      Built { c with description }
  | add {c c' : Collection σ} {f : Function σ} {replace : Bool} (h : Built c)
      (hadd : c.add f replace = .ok c') : Built c'

/-- The registries that can be reached from the empty one.  A refused registration counts with
what it leaves behind; a refused collection leaves the registry as it was. -/
inductive Registry.Reachable : Registry σ → Prop where
  | empty : Reachable .empty
  | register {r : Registry σ} (h : Reachable r) (collection : String) (f : Function σ)
      (replace : Bool) : Reachable (r.register collection f replace).2
  | addCollection {r r' : Registry σ} {c : Collection σ} (h : Reachable r) (hc : c.Built)
      (hadd : r.addCollection c = .ok r') : Reachable r'

/-! ## §2. What a step can do. -/

theorem checkName_eq_ok_iff {name : String} :
    checkName name = .ok () ↔ isIdentifier name = true := by
  unfold checkName
  cases isIdentifier name <;> simp

/-- A new collection has a name that is an identifier, and no functions. -/
theorem Collection.create_eq_ok {name : String} {description : Option String} {c : Collection σ}
    (h : Collection.create name description = .ok c) :
    isIdentifier name = true ∧ c = { name, description } := by
  unfold Collection.create at h
  cases hname : checkName name with
  | error e =>
      rw [hname] at h
      contradiction
  | ok _ =>
      rw [hname] at h
      exact ⟨checkName_eq_ok_iff.1 hname, (Except.ok.inj h).symm⟩

/-- A function that is added has an identifier as its name, which is free unless it may be taken
over, and stands under it as a function of the collection. -/
theorem Collection.add_eq_ok {c c' : Collection σ} {f : Function σ} {replace : Bool}
    (h : c.add f replace = .ok c') :
    isIdentifier f.name = true ∧ (replace = true ∨ c.functions.contains f.name = false) ∧
      c' = { c with functions := c.functions.insert f.name (f.inCollection c.name) } := by
  unfold Collection.add at h
  cases hname : checkName f.name with
  | error e =>
      rw [hname] at h
      contradiction
  | ok _ =>
      rw [hname] at h
      simp only [bind, Except.bind] at h
      split at h <;> rename_i htaken
      · contradiction
      · refine ⟨checkName_eq_ok_iff.1 hname, ?_, (Except.ok.inj h).symm⟩
        cases replace with
        | true => exact Or.inl rfl
        | false => exact Or.inr (by simpa using htaken)

namespace Registry

variable {r r' : Registry σ} {c : Collection σ} {collection : String} {f : Function σ}
  {replace : Bool}

/-- A registration leaves the registry as it was, or puts a collection under its name: the one
that functions are registered in, with the function or without it. -/
theorem register_cases (r : Registry σ) (collection : String) (f : Function σ) (replace : Bool) :
    (r.register collection f replace).2 = r ∨
      ∃ c c', r.entry collection = .ok c ∧ (c' = c ∨ c.add f replace = .ok c') ∧
        (r.register collection f replace).2 = ⟨r.collections.insert collection c'⟩ := by
  unfold register
  cases hentry : r.entry collection with
  | error e => exact Or.inl rfl
  | ok c =>
      refine Or.inr ?_
      cases hadd : c.add f replace with
      | error e => exact ⟨c, c, rfl, Or.inl rfl, by simp only [hadd]⟩
      | ok c' => exact ⟨c, c', rfl, Or.inr hadd, by simp only [hadd]⟩

/-- A collection is added as it is, or its functions are added to one of the same name that has
none of their names. -/
theorem addCollection_cases (h : r.addCollection c = .ok r') :
    (r.collections.get? c.name = none ∧ r' = r.put c) ∨
      ∃ known, r.collections.get? c.name = some known ∧
        (∀ name ∈ c.functions.names, known.functions.contains name = false) ∧
        r' = r.put { known with
          functions := known.functions.insertAll c.functions.entries } := by
  unfold addCollection at h
  split at h
  · next hknown => exact Or.inl ⟨hknown, (Except.ok.inj h).symm⟩
  · next known hknown =>
      split at h
      · contradiction
      · next hclash =>
          refine Or.inr ⟨known, hknown, fun name hname => ?_, (Except.ok.inj h).symm⟩
          exact Bool.eq_false_iff.2 (List.find?_eq_none.1 hclash name hname)

end Registry

/-! ## §3. The invariant. -/

/-- A collection has an identifier as its name, and so have its functions; each stands under its
own name and knows its collection. -/
structure Collection.Sound (c : Collection σ) : Prop where
  name : isIdentifier c.name = true
  key : ∀ entry ∈ c.functions.entries, entry.1 = entry.2.name
  functionName : ∀ entry ∈ c.functions.entries, isIdentifier entry.1 = true
  collection : ∀ entry ∈ c.functions.entries, entry.2.descriptor.collection = c.name

/-- Each collection of a registry is sound and stands under its own name. -/
structure Registry.Sound (r : Registry σ) : Prop where
  key : ∀ entry ∈ r.collections.entries, entry.1 = entry.2.name
  sound : ∀ entry ∈ r.collections.entries, entry.2.Sound

namespace Collection

theorem sound_of_empty {name : String} (h : isIdentifier name = true)
    (description : Option String) : ({ name, description } : Collection σ).Sound where
  name := h
  key _ hmem := absurd hmem List.not_mem_nil
  functionName _ hmem := absurd hmem List.not_mem_nil
  collection _ hmem := absurd hmem List.not_mem_nil

/-- Adding a function keeps a collection sound, and its name. -/
theorem Sound.add {c c' : Collection σ} {f : Function σ} {replace : Bool} (h : c.Sound)
    (hadd : c.add f replace = .ok c') : c'.Sound ∧ c'.name = c.name := by
  obtain ⟨hname, -, rfl⟩ := add_eq_ok hadd
  refine ⟨⟨h.name, fun entry hmem => ?_, fun entry hmem => ?_, fun entry hmem => ?_⟩, rfl⟩
  all_goals obtain rfl | hold := Table.mem_insert hmem
  · rfl
  · exact h.key entry hold
  · exact hname
  · exact h.functionName entry hold
  · rfl
  · exact h.collection entry hold

/-- The functions of a sound collection can be added to another one of the same name. -/
theorem Sound.merge {known c : Collection σ} (hknown : known.Sound) (hc : c.Sound)
    (hname : known.name = c.name) :
    ({ known with functions := known.functions.insertAll c.functions.entries }
      : Collection σ).Sound := by
  refine ⟨hknown.name, fun entry hmem => ?_, fun entry hmem => ?_, fun entry hmem => ?_⟩
  all_goals obtain hnew | hold := Table.mem_insertAll hmem
  · exact hc.key entry hnew
  · exact hknown.key entry hold
  · exact hc.functionName entry hnew
  · exact hknown.functionName entry hold
  · exact (hc.collection entry hnew).trans hname.symm
  · exact hknown.collection entry hold

theorem sound_of_built {c : Collection σ} (h : c.Built) : c.Sound := by
  induction h with
  | create hcreate =>
      obtain ⟨hname, rfl⟩ := create_eq_ok hcreate
      exact sound_of_empty hname _
  | describe h description ih => exact ⟨ih.name, ih.key, ih.functionName, ih.collection⟩
  | add h hadd ih => exact (ih.add hadd).1

end Collection

namespace Registry

variable {r r' : Registry σ} {c : Collection σ} {collection : String} {f : Function σ}
  {replace : Bool}

theorem sound_empty : (empty : Registry σ).Sound where
  key _ hmem := absurd hmem List.not_mem_nil
  sound _ hmem := absurd hmem List.not_mem_nil

/-- What is found under a name in a sound registry is sound and has that name. -/
theorem Sound.of_get? (h : r.Sound) (hget : r.collections.get? collection = some c) :
    c.Sound ∧ c.name = collection := by
  have hmem := Table.get?_eq_some_iff.1 hget
  exact ⟨h.sound _ hmem, (h.key _ hmem).symm⟩

/-- A sound collection may be put under its name. -/
theorem Sound.insert (h : r.Sound) (hc : c.Sound) (hname : c.name = collection) :
    Registry.Sound ⟨r.collections.insert collection c⟩ := by
  refine ⟨fun entry hmem => ?_, fun entry hmem => ?_⟩
  all_goals obtain rfl | hold := Table.mem_insert hmem
  · exact hname.symm
  · exact h.key entry hold
  · exact hc
  · exact h.sound entry hold

theorem Sound.entry (h : r.Sound) (hentry : r.entry collection = .ok c) :
    c.Sound ∧ c.name = collection := by
  unfold Registry.entry at hentry
  split at hentry
  · next known hknown =>
      obtain rfl := Except.ok.inj hentry
      exact h.of_get? hknown
  · obtain ⟨hname, rfl⟩ := Collection.create_eq_ok hentry
    exact ⟨Collection.sound_of_empty hname none, rfl⟩

/-- **A registration keeps a registry sound**, whether it is refused or not. -/
theorem Sound.register (h : r.Sound) : (r.register collection f replace).2.Sound := by
  obtain hsame | ⟨c, c', hentry, hadd, hput⟩ := register_cases r collection f replace
  · rwa [hsame]
  · obtain ⟨hc, hname⟩ := h.entry hentry
    rw [hput]
    obtain rfl | hadd := hadd
    · exact h.insert hc hname
    · obtain ⟨hc', hname'⟩ := hc.add hadd
      exact h.insert hc' (hname'.trans hname)

/-- **Adding a collection keeps a registry sound.** -/
theorem Sound.addCollection (h : r.Sound) (hc : c.Sound) (hadd : r.addCollection c = .ok r') :
    r'.Sound := by
  obtain ⟨-, rfl⟩ | ⟨known, hknown, -, rfl⟩ := addCollection_cases hadd
  · exact h.insert hc rfl
  · obtain ⟨hsound, hname⟩ := h.of_get? hknown
    exact h.insert (hsound.merge hc hname) rfl

/-- **Every registry that can be reached is sound.** -/
theorem sound_of_reachable (h : r.Reachable) : r.Sound := by
  induction h with
  | empty => exact sound_empty
  | register h collection f replace ih => exact ih.register
  | addCollection h hc hadd ih => exact ih.addCollection (Collection.sound_of_built hc) hadd

end Registry

/-! ## §4. Names and what they stand for. -/

/-- A character that no name is made of stands in no identifier. -/
theorem not_mem_of_isIdentifier {name : String} (h : isIdentifier name = true) {separator : Char}
    (hseparator : isNameChar separator = false) : separator ∉ name.toList := by
  intro hmem
  have hchar := List.all_eq_true.1 ((isIdentifier_iff name).1 h).2 separator hmem
  rw [hseparator] at hchar
  contradiction

/-- The name of a function that stands in a collection begins with that of the collection. -/
theorem Descriptor.joinedName_of_isIdentifier {d : Descriptor}
    (h : isIdentifier d.collection = true) (separator : String) :
    d.joinedName separator = d.collection ++ separator ++ d.name := by
  have hne : d.collection ≠ "" := by
    intro hempty
    rw [hempty] at h
    exact absurd h (by decide)
  unfold Descriptor.joinedName
  rw [if_neg (by simpa using hne)]

/-- Behind an identifier the separator of a tool name stands where the collection ends. -/
theorem Registry.resolveTool_joined (r : Registry σ) {collection : String}
    (h : isIdentifier collection = true) (name : String) :
    r.resolveTool (collection ++ "-" ++ name) = r.get collection name := by
  have hname : ∀ c ∈ collection.toList, (c != toolSeparator) = true := by
    intro c hmem
    rw [bne_iff_ne]
    rintro rfl
    exact not_mem_of_isIdentifier h (by decide) hmem
  have hjoined : (collection ++ "-" ++ name).toList
      = collection.toList ++ toolSeparator :: name.toList := by
    rw [String.toList_append, String.toList_append, List.append_assoc]
    rfl
  unfold Registry.resolveTool
  rw [hjoined, List.takeWhile_append_of_pos hname, List.dropWhile_append_of_pos hname,
    List.takeWhile_cons_of_neg (by simp), List.dropWhile_cons_of_neg (by simp), List.append_nil]
  dsimp only
  rw [String.ofList_toList, String.ofList_toList]

/-- A reference to a function is read as the call of that function without arguments. -/
theorem Code.parse_reference {reference : FunctionRef}
    (hcollection : ∀ collection ∈ reference.collection, isIdentifier collection = true)
    (hname : isIdentifier reference.name = true) (offset : Nat) :
    ∃ call, Code.parse reference.toText offset = .ok (.invocation call) ∧
      call.bare = { function := reference } := by
  have hwell : (BareBlock.call { function := reference }).WellFormed :=
    { collection := hcollection, name := hname
      positional := fun _ hmem => absurd hmem List.not_mem_nil
      named := fun _ hmem => absurd hmem List.not_mem_nil
      distinct := List.nodup_nil }
  have hcode : (BareBlock.call { function := reference }).code = reference.toText.toList :=
    List.append_nil _
  obtain ⟨tokens, hlex, htokens⟩ := lex_of_starts (BareBlock.starts_code hwell) offset
  rw [hcode] at hlex
  obtain ⟨block, hparse, hbare⟩ := Code.parse_of_tokens hwell not_false hlex htokens
  cases block with
  | invocation call => exact ⟨call, hparse, BareBlock.call.inj hbare⟩
  | text _ => cases hbare
  | value _ => cases hbare
  | «variable» _ => cases hbare
  | namedArgument _ => cases hbare

/-! ## §5. The functions of a sound registry. -/

namespace Registry.Sound

variable {r : Registry σ} {f : Function σ}

theorem of_mem_values (h : r.Sound) {c : Collection σ} (hc : c ∈ r.collections.values) :
    c.Sound ∧ r.collections.get? c.name = some c := by
  obtain ⟨entry, hentry, rfl⟩ := List.mem_map.1 hc
  refine ⟨h.sound entry hentry, Table.get?_eq_some_iff.2 ?_⟩
  rw [← h.key entry hentry]
  exact hentry

/-- No function stands in two places. -/
theorem nodup_functions (h : r.Sound) : r.functions.Nodup := by
  unfold Registry.functions
  refine List.nodup_flatMap.2 ⟨fun c hc => ?_, ?_⟩
  · refine List.Nodup.of_map (fun f => f.name) ?_
    rw [Table.map_values (h.of_mem_values hc).1.key]
    exact c.functions.nodup
  · -- A function in two collections would know both, and their names differ.
    have hnames : (r.collections.values.map (·.name)).Nodup := by
      rw [Table.map_values h.key]
      exact r.collections.nodup
    refine (List.pairwise_map.1 hnames).imp_of_mem fun {c d} hc hd hne f hfc hfd => ?_
    obtain ⟨entry, hentry, rfl⟩ := List.mem_map.1 hfc
    obtain ⟨entry', hentry', heq⟩ := List.mem_map.1 hfd
    apply hne
    rw [← (h.of_mem_values hc).1.collection entry hentry, ← heq,
      (h.of_mem_values hd).1.collection entry' hentry']

/-- A function stands under its name in the collection that it knows. -/
theorem located (h : r.Sound) (hf : f ∈ r.functions) :
    isIdentifier f.descriptor.collection = true ∧ isIdentifier f.name = true ∧
      r.get f.descriptor.collection f.name = .ok f := by
  obtain ⟨c, hc, hfc⟩ := List.mem_flatMap.1 hf
  obtain ⟨entry, hentry, rfl⟩ := List.mem_map.1 hfc
  obtain ⟨hsound, hget⟩ := h.of_mem_values hc
  have hcollection := hsound.collection entry hentry
  have hkey := hsound.key entry hentry
  have hfunction : c.functions.get? entry.2.name = some entry.2 := by
    refine Table.get?_eq_some_iff.2 ?_
    rw [← hkey]
    exact hentry
  refine ⟨hcollection ▸ hsound.name, hkey ▸ hsound.functionName entry hentry, ?_⟩
  unfold Registry.get
  rw [hcollection, hget]
  dsimp only
  rw [hfunction]

theorem resolveTool_toolName (h : r.Sound) (hf : f ∈ r.functions) :
    r.resolveTool f.descriptor.toolName = .ok f := by
  obtain ⟨hcollection, -, hget⟩ := h.located hf
  unfold Descriptor.toolName
  rw [Descriptor.joinedName_of_isIdentifier hcollection, r.resolveTool_joined hcollection]
  exact hget

theorem parse_qualifiedName (h : r.Sound) (hf : f ∈ r.functions) (offset : Nat) :
    ∃ call, Code.parse f.descriptor.qualifiedName offset = .ok (.invocation call) ∧
      r.resolve call.function.node = .ok f := by
  obtain ⟨hcollection, hname, hget⟩ := h.located hf
  have htext : f.descriptor.qualifiedName
      = FunctionRef.toText ⟨some f.descriptor.collection, f.name⟩ := by
    unfold Descriptor.qualifiedName
    rw [Descriptor.joinedName_of_isIdentifier hcollection]
    rfl
  have hsome : ∀ collection ∈ (⟨some f.descriptor.collection, f.name⟩ : FunctionRef).collection,
      isIdentifier collection = true := by
    intro collection hmem
    rwa [← Option.some.inj hmem]
  obtain ⟨call, hparse, hbare⟩ := Code.parse_reference hsome hname offset
  have hnode : call.function.node = ⟨some f.descriptor.collection, f.name⟩ :=
    congrArg BareCall.function hbare
  refine ⟨call, htext ▸ hparse, ?_⟩
  rw [hnode]
  exact hget

end Registry.Sound

/-- **The names in a registry that can be reached.**  Collections and functions stand under their
own names, which are identifiers, and functions know their collections.  No two functions have the
same name for chat models, and none the same name for templates.  Every function is found by either
name, and in its collection. -/
theorem Registry.names_of_reachable {r : Registry σ} (h : r.Reachable) :
    (∀ entry ∈ r.collections.entries,
      entry.1 = entry.2.name ∧ isIdentifier entry.1 = true ∧
      ∀ inner ∈ entry.2.functions.entries,
        inner.1 = inner.2.name ∧ isIdentifier inner.1 = true ∧
        inner.2.descriptor.collection = entry.2.name) ∧
    (r.descriptors.map (·.toolName)).Nodup ∧
    (r.descriptors.map (·.qualifiedName)).Nodup ∧
    ∀ f ∈ r.functions,
      f.descriptor.toolName = f.descriptor.collection ++ "-" ++ f.name ∧
      f.descriptor.qualifiedName = f.descriptor.collection ++ "." ++ f.name ∧
      r.resolveTool f.descriptor.toolName = .ok f ∧
      r.get f.descriptor.collection f.name = .ok f ∧
      ∀ offset, ∃ call, Code.parse f.descriptor.qualifiedName offset = .ok (.invocation call) ∧
        r.resolve call.function.node = .ok f := by
  have hsound := sound_of_reachable h
  refine ⟨fun entry hmem => ?_, ?_, ?_, fun f hf => ?_⟩
  · have hc := hsound.sound entry hmem
    have hkey := hsound.key entry hmem
    exact ⟨hkey, hkey ▸ hc.name, fun inner hinner =>
      ⟨hc.key inner hinner, hc.functionName inner hinner, hc.collection inner hinner⟩⟩
  · -- Functions of one tool name are found by it, so they are one function.
    rw [descriptors, List.map_map]
    refine List.Nodup.map_on (fun f hf g hg heq => ?_) hsound.nodup_functions
    have hfound := hsound.resolveTool_toolName hf
    rw [show f.descriptor.toolName = g.descriptor.toolName from heq,
      hsound.resolveTool_toolName hg] at hfound
    exact (Except.ok.inj hfound).symm
  · rw [descriptors, List.map_map]
    refine List.Nodup.map_on (fun f hf g hg heq => ?_) hsound.nodup_functions
    obtain ⟨call, hparse, hresolve⟩ := hsound.parse_qualifiedName hf 0
    obtain ⟨call', hparse', hresolve'⟩ := hsound.parse_qualifiedName hg 0
    rw [show f.descriptor.qualifiedName = g.descriptor.qualifiedName from heq, hparse'] at hparse
    obtain rfl := Block.invocation.inj (Except.ok.inj hparse)
    rw [hresolve'] at hresolve
    exact (Except.ok.inj hresolve).symm
  · obtain ⟨hcollection, -, hget⟩ := hsound.located hf
    exact ⟨Descriptor.joinedName_of_isIdentifier hcollection "-",
      Descriptor.joinedName_of_isIdentifier hcollection ".", hsound.resolveTool_toolName hf, hget,
      hsound.parse_qualifiedName hf⟩

/-- Another function that can be registered. -/
def farewell : Function Unit :=
  .ofPure { name := "bye" } fun _ => .ok (.string "bye")

/-- A collection of the name of one that is there. -/
def evening : Collection Unit :=
  { name := "early", functions := Table.empty.insert "bye" (farewell.inCollection "early") }

/-- A registration is refused and leaves its collection behind; then a collection is merged into
the other one. -/
theorem names_of_reachable_evening :
    (Registry.early.register "late" Registry.unnamable).1 = .error (.invalidName "no name") ∧
    ∃ r, (Registry.early.register "late" Registry.unnamable).2.addCollection evening = .ok r ∧
      r.Reachable ∧ r.collections.names = ["early", "late"] ∧
      r.descriptors.map (·.toolName) = ["early-hello", "early-bye"] ∧
      r.resolveTool "early-bye" = .ok (farewell.inCollection "early") := by
  have hevening : evening.Built := by
    have hcreate : Collection.create "early" = .ok ({ name := "early" } : Collection Unit) := rfl
    have hadd : ({ name := "early" } : Collection Unit).add farewell = .ok evening := rfl
    exact .add (.create hcreate) hadd
  have hlate : (Registry.early.register "late" Registry.unnamable).2.Reachable :=
    .register (.register .empty "early" Registry.greeting false) "late" Registry.unnamable false
  refine ⟨rfl, _, rfl, .addCollection hlate hevening rfl, rfl, rfl, ?_⟩
  have hfound := (Registry.names_of_reachable (.addCollection hlate hevening rfl)).2.2.2
    (farewell.inCollection "early") (List.mem_cons_of_mem _ List.mem_cons_self)
  exact hfound.2.2.1

end PromptEngine
