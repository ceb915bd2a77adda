/-
  PromptEngine.Proofs.Engine.Registration — what a refused registration leaves behind.

  A function is refused for the name of its collection, for its own name, or because its name is
  taken.  A collection that is there stays as it is, and none is created under a name that is no
  identifier.  But a collection that is not there is created before the name of the function is
  looked at, and stays behind without functions if that name is refused (`register_new`).  No
  function can be found or lost by that, yet the collection is there: it takes part in the order
  in which later functions are found (`register_refused_found`).

  Main result: `register_refused`.
-/
import PromptEngine.Engine.Registry
import PromptEngine.Proofs.Table

namespace PromptEngine

/-! ## §1. Registration. -/

namespace Registry

variable {σ : Type} {r : Registry σ} {collection : String} {f : Function σ} {replace : Bool}
  {error : EngineError}

/-- A collection that is there decides by itself, and stays as it is if it refuses. -/
theorem register_known {c : Collection σ} (h : r.collections.get? collection = some c)
    (hrefused : c.add f replace = .error error) :
    r.register collection f replace = (.error error, r) := by
  unfold register entry
  rw [h]
  dsimp only
  rw [hrefused]
  dsimp only
  rw [Table.insert_of_get? h]

/-- No collection is created under a name that is no identifier. -/
theorem register_unnamable (h : r.collections.get? collection = none)
    (hname : isIdentifier collection = false) :
    r.register collection f replace = (.error (.invalidName collection), r) := by
  have hcreate : (Collection.create collection : Except EngineError (Collection σ))
      = .error (.invalidName collection) := by
    unfold Collection.create checkName
    rw [hname]
    rfl
  unfold register entry
  rw [h]
  dsimp only
  rw [hcreate]

/-- A new collection is there whatever becomes of the function. -/
theorem register_new (h : r.collections.get? collection = none)
    (hname : isIdentifier collection = true) :
    r.register collection f replace =
      match ({ name := collection } : Collection σ).add f replace with
      | .ok c => (.ok (), ⟨r.collections.insert collection c⟩)
      | .error error => (.error error, r.put { name := collection }) := by
  have hcreate : (Collection.create collection : Except EngineError (Collection σ))
      = .ok { name := collection } := by
    unfold Collection.create checkName
    rw [hname]
    rfl
  unfold register entry
  rw [h]
  dsimp only
  rw [hcreate]
  dsimp only
  cases ({ name := collection } : Collection σ).add f replace <;> rfl

/-- A collection without functions refuses a function only for its name. -/
theorem add_empty_eq_error_iff :
    ({ name := collection } : Collection σ).add f replace = .error error ↔
      isIdentifier f.name = false ∧ error = .invalidName f.name := by
  have hfree : ({ name := collection } : Collection σ).functions.contains f.name = false := rfl
  unfold Collection.add checkName
  cases isIdentifier f.name with
  | false =>
      simp only [bind, Except.bind, Bool.false_eq_true, if_false, true_and, Except.error.injEq]
      exact eq_comm
  | true =>
      rw [hfree]
      simp [bind, Except.bind, pure, Except.pure]

/-! ## §2. A collection without functions. -/

section LeftOver

variable (h : r.collections.get? collection = none)

include h

theorem values_put_empty :
    (r.put { name := collection }).collections.values
      = r.collections.values ++ [{ name := collection }] :=
  Table.values_insert_of_get?_none h

theorem functions_put_empty : (r.put { name := collection }).functions = r.functions := by
  unfold functions
  rw [values_put_empty h, List.flatMap_append, List.flatMap_singleton]
  exact List.append_nil _

theorem find_put_empty (name : String) :
    (r.put { name := collection }).find name = r.find name := by
  have hempty : [({ name := collection } : Collection σ)].findSome?
      (fun c => c.functions.get? name) = none := rfl
  unfold find
  rw [values_put_empty h, List.findSome?_append, hempty, Option.or_none]

omit h in
theorem get_put_of_ne {c : Collection σ} {other : String} (hne : c.name ≠ other) (name : String) :
    (r.put c).get other name = r.get other name := by
  unfold get put
  rw [Table.get?_insert, if_neg hne]

/-- Of the collection itself only the wording of a failed look-up is new. -/
theorem get_put_empty (name : String) :
    r.get collection name = .error (.collectionNotFound collection) ∧
      (r.put { name := collection }).get collection name
        = .error (.functionNotFound collection name) := by
  constructor
  · unfold get
    rw [h]
  · unfold get put
    rw [Table.get?_insert, if_pos rfl]
    rfl

theorem toOption_get_put_empty (other name : String) :
    ((r.put { name := collection }).get other name).toOption = (r.get other name).toOption := by
  by_cases heq : collection = other
  · subst heq
    obtain ⟨hbefore, hafter⟩ := get_put_empty h name
    rw [hbefore, hafter]
    rfl
  · rw [get_put_of_ne heq]

theorem toOption_resolve_put_empty (reference : FunctionRef) :
    ((r.put { name := collection }).resolve reference).toOption
      = (r.resolve reference).toOption := by
  unfold resolve
  cases reference.collection with
  | none => exact congrArg Except.toOption (find_put_empty h reference.name)
  | some other => exact toOption_get_put_empty h other reference.name

theorem toOption_resolveTool_put_empty (tool : String) :
    ((r.put { name := collection }).resolveTool tool).toOption = (r.resolveTool tool).toOption := by
  unfold resolveTool
  dsimp only
  split
  · exact congrArg Except.toOption (find_put_empty h tool)
  · exact toOption_get_put_empty h _ _

theorem put_empty_ne : r.put { name := collection } ≠ r := by
  intro heq
  have hthere : (r.put { name := collection }).collections.get? collection
      = some { name := collection } := by
    unfold put
    rw [Table.get?_insert, if_pos rfl]
  rw [heq, h] at hthere
  contradiction

end LeftOver

/-! ## §3. Refusals. -/

/-- What a refused registration can leave: the registry as it was, or a new collection. -/
theorem register_refused_cases (h : (r.register collection f replace).1 = .error error) :
    ((r.collections.contains collection = true ∨ isIdentifier collection = false) ∧
        (r.register collection f replace).2 = r) ∨
      (r.collections.get? collection = none ∧ isIdentifier collection = true ∧
        isIdentifier f.name = false ∧ error = .invalidName f.name ∧
        (r.register collection f replace).2 = r.put { name := collection }) := by
  cases hknown : r.collections.get? collection with
  | some c =>
      have hthere : r.collections.contains collection = true := by
        rw [Table.contains, hknown]
        rfl
      refine Or.inl ⟨Or.inl hthere, ?_⟩
      cases hadd : c.add f replace with
      | error e => rw [register_known hknown hadd]
      | ok c' =>
          rw [register, entry, hknown] at h
          simp only [hadd] at h
          contradiction
  | none =>
      cases hname : isIdentifier collection with
      | false => exact Or.inl ⟨Or.inr rfl, by rw [register_unnamable hknown hname]⟩
      | true =>
          rw [register_new hknown hname] at h ⊢
          cases hadd : ({ name := collection } : Collection σ).add f replace with
          | ok c =>
              rw [hadd] at h
              contradiction
          | error e =>
              rw [hadd] at h
              obtain ⟨hbad, he⟩ := add_empty_eq_error_iff.mp hadd
              obtain rfl : e = error := Except.error.inj h
              exact Or.inr ⟨rfl, rfl, hbad, he, rfl⟩

/-- **A refused registration.**  It leaves the registry as it was exactly if the collection was
there or cannot be; else a new collection without functions is left behind, as the last one.  In
either case the functions are those that were there, and every look-up finds what it found. -/
theorem register_refused (r : Registry σ) (collection : String) (f : Function σ) (replace : Bool)
    (error : EngineError) (h : (r.register collection f replace).1 = .error error) :
    ((r.register collection f replace).2 = r ↔
        r.collections.contains collection = true ∨ isIdentifier collection = false) ∧
      ((r.register collection f replace).2 ≠ r →
        error = .invalidName f.name ∧
          (r.register collection f replace).2.collections.entries
            = r.collections.entries ++ [(collection, { name := collection })]) ∧
      (r.register collection f replace).2.functions = r.functions ∧
      (∀ name, (r.register collection f replace).2.find name = r.find name) ∧
      (∀ other name, other ≠ collection →
        (r.register collection f replace).2.get other name = r.get other name) ∧
      (∀ other name, ((r.register collection f replace).2.get other name).toOption
        = (r.get other name).toOption) ∧
      (∀ reference, ((r.register collection f replace).2.resolve reference).toOption
        = (r.resolve reference).toOption) ∧
      ∀ tool, ((r.register collection f replace).2.resolveTool tool).toOption
        = (r.resolveTool tool).toOption := by
  obtain ⟨hwhy, hsame⟩ | ⟨hnew, hname, -, herror, hleft⟩ := register_refused_cases h
  · rw [hsame]
    exact ⟨⟨fun _ => hwhy, fun _ => rfl⟩, fun hne => absurd rfl hne, rfl, fun _ => rfl,
      fun _ _ _ => rfl, fun _ _ => rfl, fun _ => rfl, fun _ => rfl⟩
  · have habsent : r.collections.contains collection = false := by
      rw [Table.contains, hnew]
      rfl
    rw [hleft]
    -- The new collection is left behind, with no function in it.
    refine ⟨⟨fun heq => absurd heq (put_empty_ne hnew), ?_⟩,
      fun _ => ⟨herror, Table.entries_insert_of_get?_none hnew⟩, functions_put_empty hnew,
      find_put_empty hnew, fun other name hne => get_put_of_ne hne.symm name,
      toOption_get_put_empty hnew, toOption_resolve_put_empty hnew,
      toOption_resolveTool_put_empty hnew⟩
    rintro (hthere | hbad)
    · rw [habsent] at hthere
      contradiction
    · rw [hname] at hbad
      contradiction

/-- A function whose name is refused. -/
def unnamable : Function Unit :=
  .ofPure { name := "no name" } fun _ => .ok .null

/-- A function that can be registered. -/
def greeting : Function Unit :=
  .ofPure { name := "hello" } fun _ => .ok (.string "hi")

/-- A registry with one function. -/
def early : Registry Unit :=
  (empty.register "early" greeting).2

theorem register_refused_early :
    (early.register "late" unnamable true).1 = .error (.invalidName "no name") ∧
      (early.register "late" unnamable true).2.collections.entries
        = early.collections.entries ++ [("late", { name := "late" })] ∧
      (early.register "late" unnamable true).2.functions = early.functions := by
  have hrefused : (early.register "late" unnamable true).1 = .error (.invalidName "no name") := by
    rfl
  have hnew : early.collections.contains "late" = false := by decide +kernel
  have hname : isIdentifier "late" = true := by decide +kernel
  obtain ⟨hsame, hleft, hfunctions, -⟩ :=
    register_refused early "late" unnamable true (.invalidName "no name") hrefused
  refine ⟨hrefused, (hleft fun heq => ?_).2, hfunctions⟩
  rcases hsame.mp heq with hthere | hbad
  · rw [hnew] at hthere
    contradiction
  · rw [hname] at hbad
    contradiction

/-- A refused registration can be noticed: the next look-up fails for another reason, and later
the name `hello` means the function of the collection that was left behind. -/
theorem register_refused_found :
    ((empty : Registry Unit).register "late" unnamable).1 = .error (.invalidName "no name") ∧
      (empty : Registry Unit).get "late" "hello" = .error (.collectionNotFound "late") ∧
      ((empty : Registry Unit).register "late" unnamable).2.get "late" "hello"
        = .error (.functionNotFound "late" "hello") ∧
      (((empty : Registry Unit).register "early" greeting).2.register "late" greeting).2.find "hello"
        = .ok (greeting.inCollection "early") ∧
      ((((empty : Registry Unit).register "late" unnamable).2.register "early" greeting).2.register
        "late" greeting).2.find "hello" = .ok (greeting.inCollection "late") := by
  refine ⟨?_, ?_, ?_, ?_, ?_⟩ <;> rfl

end Registry

end PromptEngine
