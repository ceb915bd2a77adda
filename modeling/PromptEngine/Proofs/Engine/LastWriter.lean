/-
  PromptEngine.Proofs.Engine.LastWriter — a registry holds what was stored last, in a stable order.

  Functions are stored one by one or with a whole collection, under the names of a collection and
  of the function.  Whatever is done to a registry comes to one thing: a collection is put under
  its name (`Change.Puts`), which holds what the change stores over what was there and keeps the
  names that were there in front of new ones; a refused change leaves at most a collection without
  functions.  From that follows what one change does to every pair of names (`holds?_apply`) and to
  the order in which functions are listed (`places_apply`), and by induction over the changes what
  a registry holds after all of them (`holds?_after`).

  Main result: `after_lastStored`.
-/
import PromptEngine.Proofs.Engine.Reachable
import PromptEngine.Proofs.Engine.Simulation

namespace PromptEngine

variable {σ : Type}

/-- The collection and the name that a function is listed under. -/
def Function.place (f : Function σ) : String × String :=
  (f.descriptor.collection, f.descriptor.name)

namespace Registry

/-! ## §1. Changes. -/

/-- What can be done to a registry. -/
inductive Change (σ : Type) where
  /-- Register a function; `replace` allows it to take the place of another one. -/
  | register (collection : String) (f : Function σ) (replace : Bool := false)
  /-- Add a collection. -/
  | addCollection (c : Collection σ)

namespace Change

/-- Make a change.  A refused collection leaves the registry as it was. -/
def apply (change : Change σ) (r : Registry σ) : Except EngineError Unit × Registry σ :=
  match change with
  | .register collection f replace => r.register collection f replace
  | .addCollection c =>
    match r.addCollection c with
    | .ok r' => (.ok (), r')
    | .error error => (.error error, r)

/-- The function that a change stores under a pair of names, unless it is refused. -/
def stored? (collection name : String) : Change σ → Option (Function σ)
  | .register c f _ => if c = collection ∧ f.name = name then some (f.inCollection c) else none
  | .addCollection c => if c.name = collection then c.functions.get? name else none

/-- A collection that is added has been built from a new one. -/
def Admissible : Change σ → Prop
  | .register _ _ _ => True
  | .addCollection c => c.Built

end Change

/-- The registry after changes, of which the latest comes first. -/
def after : List (Change σ) → Registry σ
  | [] => .empty
  | change :: earlier => (change.apply (after earlier)).2

/-- The function that was stored last under a pair of names by a change that was not refused.  The
latest change comes first. -/
def lastStored? (collection name : String) : List (Change σ) → Option (Function σ)
  | [] => none
  | change :: earlier =>
    match (change.apply (after earlier)).1 with
    | .ok _ => (change.stored? collection name).or (lastStored? collection name earlier)
    | .error _ => lastStored? collection name earlier

/-- The pairs of names under which functions are listed, in order. -/
def places (r : Registry σ) : List (String × String) :=
  r.descriptors.map fun d => (d.collection, d.name)

/-! ## §2. What a registry holds. -/

/-- What a registry holds under a pair of names. -/
def holds? (r : Registry σ) (collection name : String) : Option (Function σ) :=
  (r.collections.get? collection).bind fun c => c.functions.get? name

variable {r r' : Registry σ} {c : Collection σ} {collection name : String} {f : Function σ}

theorem toOption_get (r : Registry σ) (collection name : String) :
    (r.get collection name).toOption = r.holds? collection name := by
  unfold get holds?
  cases r.collections.get? collection with
  | none => rfl
  | some c =>
      rw [Option.bind_some]
      dsimp only
      cases c.functions.get? name <;> rfl

theorem get_eq_ok_iff : r.get collection name = .ok f ↔ r.holds? collection name = some f := by
  rw [← toOption_get]
  cases r.get collection name <;> simp [Except.toOption]

theorem holds?_put (r : Registry σ) (c : Collection σ) (collection name : String) :
    (r.put c).holds? collection name
      = if c.name = collection then c.functions.get? name else r.holds? collection name := by
  unfold holds? put
  rw [Table.get?_insert]
  split <;> rfl

theorem places_eq (r : Registry σ) : r.places = r.functions.map Function.place :=
  List.map_map

namespace Sound

/-- What is held under a pair of names is listed under it. -/
theorem place_of_holds? (h : r.Sound) (hheld : r.holds? collection name = some f) :
    f ∈ r.functions ∧ f.place = (collection, name) := by
  refine ⟨mem_functions_of_get (get_eq_ok_iff.2 hheld), ?_⟩
  obtain ⟨c, hc, hf⟩ := Option.bind_eq_some_iff.1 hheld
  obtain ⟨hsound, rfl⟩ := h.of_get? hc
  have hentry := Table.get?_eq_some_iff.1 hf
  exact Prod.ext (hsound.collection _ hentry) (hsound.key _ hentry).symm

theorem holds?_place (h : r.Sound) (hf : f ∈ r.functions) :
    r.holds? f.place.1 f.place.2 = some f :=
  get_eq_ok_iff.1 (h.located hf).2.2

/-- **Every pair of names that holds a function is listed, and no other.** -/
theorem mem_places_iff (h : r.Sound) :
    (collection, name) ∈ r.places ↔ (r.holds? collection name).isSome := by
  rw [places_eq, List.mem_map, Option.isSome_iff_exists]
  constructor
  · rintro ⟨f, hf, hplace⟩
    have hheld := h.holds?_place hf
    rw [hplace] at hheld
    exact ⟨f, hheld⟩
  · rintro ⟨f, hheld⟩
    obtain ⟨hf, hplace⟩ := h.place_of_holds? hheld
    exact ⟨f, hf, hplace⟩

/-- No pair of names is listed twice. -/
theorem nodup_places (h : r.Sound) : r.places.Nodup := by
  rw [places_eq]
  refine List.Nodup.map_on (fun f hf g hg heq => ?_) h.nodup_functions
  have hheld := h.holds?_place hf
  rw [heq, h.holds?_place hg] at hheld
  exact (Option.some.inj hheld).symm

/-- **A name alone** means the first function of that name in the order in which they are
listed. -/
theorem toOption_find (h : r.Sound) (name : String) :
    (r.find name).toOption = r.functions.find? (·.name = name) := by
  have hfirst : r.functions.find? (·.name = name)
      = r.collections.values.findSome? fun c => c.functions.get? name := by
    have hsame : r.collections.values.filterMap (fun c => c.functions.values.find? (·.name = name))
        = r.collections.values.filterMap fun c => c.functions.get? name :=
      List.filterMap_congr fun c hc => Table.find?_values (h.of_mem_values hc).1.key name
    unfold functions
    rw [List.find?_flatMap, ← List.head?_filterMap, hsame, List.head?_filterMap]
  rw [hfirst]
  unfold find
  cases r.collections.values.findSome? fun c => c.functions.get? name <;> rfl

end Sound

/-! ## §3. What a change does. -/

/-- An accepted change comes to putting a collection under its name.  It holds what the change
stores over what was there, and the names that were there stand in front. -/
structure Change.Puts (change : Change σ) (r : Registry σ) (c : Collection σ) : Prop where
  sound : c.Sound
  stored : ∀ name, c.functions.get? name
    = (change.stored? c.name name).or (r.holds? c.name name)
  only : ∀ collection name, c.name ≠ collection → change.stored? collection name = none
  front : ∀ known, r.collections.get? c.name = some known →
    known.functions.names <+: c.functions.names

/-- The collection that functions are registered in has what is held under its name. -/
theorem entry_functions (h : r.entry collection = .ok c) :
    (∀ name, c.functions.get? name = r.holds? collection name) ∧
      ∀ known, r.collections.get? collection = some known → known = c := by
  unfold Registry.entry at h
  unfold holds?
  cases hknown : r.collections.get? collection with
  | some known =>
      rw [hknown] at h
      obtain rfl := Except.ok.inj h
      exact ⟨fun name => rfl, fun other hother => (Option.some.inj hother).symm⟩
  | none =>
      rw [hknown] at h
      obtain ⟨-, rfl⟩ := Collection.create_eq_ok h
      exact ⟨fun name => rfl, fun known hother => absurd hother nofun⟩

theorem register_eq_ok {replace : Bool} (h : (r.register collection f replace).1 = .ok ()) :
    ∃ c c', r.entry collection = .ok c ∧ c.add f replace = .ok c' ∧
      (r.register collection f replace).2 = ⟨r.collections.insert collection c'⟩ := by
  unfold register at h ⊢
  cases hentry : r.entry collection with
  | error e =>
      rw [hentry] at h
      contradiction
  | ok c =>
      rw [hentry] at h
      dsimp only at h ⊢
      cases hadd : c.add f replace with
      | error e =>
          rw [hadd] at h
          contradiction
      | ok c' => exact ⟨c, c', rfl, hadd, rfl⟩

/-- A function that is registered is put into its collection. -/
theorem puts_of_register (hr : r.Sound) {replace : Bool}
    (h : (r.register collection f replace).1 = .ok ()) :
    ∃ c, (Change.register collection f replace).Puts r c ∧
      (r.register collection f replace).2 = r.put c := by
  obtain ⟨c, c', hentry, hadd, hput⟩ := register_eq_ok h
  obtain ⟨hc, rfl⟩ := hr.entry hentry
  obtain ⟨hsound, -⟩ := hc.add hadd
  obtain ⟨hheld, hknown⟩ := entry_functions hentry
  obtain ⟨-, -, rfl⟩ := Collection.add_eq_ok hadd
  refine ⟨_, ⟨hsound, fun name => ?_, fun other name hne => ?_, fun known hget => ?_⟩, hput⟩
  · show (c.functions.insert f.name (f.inCollection c.name)).get? name = _
    rw [Table.get?_insert, hheld, Change.stored?]
    by_cases hname : f.name = name <;> simp [hname]
  · exact if_neg fun hboth => hne hboth.1
  · obtain rfl := hknown known hget
    show _ <+: (known.functions.insert f.name _).names
    rw [Table.names_insert]
    split
    · exact List.prefix_rfl
    · exact List.prefix_append _ _

/-- A collection that is added is put as it is, or behind what is there under its name. -/
theorem puts_of_addCollection (hr : r.Sound) (hc : c.Sound) (h : r.addCollection c = .ok r') :
    ∃ c', (Change.addCollection c).Puts r c' ∧ r' = r.put c' := by
  obtain ⟨hnew, rfl⟩ | ⟨known, hknown, hfree, rfl⟩ := addCollection_cases h
  · refine ⟨c, ⟨hc, fun name => ?_, fun other name hne => if_neg hne, fun known hget => ?_⟩, rfl⟩
    · rw [Change.stored?, if_pos rfl, holds?, hnew, Option.bind_none, Option.or_none]
    · rw [hnew] at hget
      contradiction
  · obtain ⟨hsound, hname⟩ := hr.of_get? hknown
    have hnames : (Entries.names c.functions.entries).Nodup := c.functions.nodup
    refine ⟨_, ⟨hsound.merge hc hname, fun name => ?_, fun other name hne => ?_,
      fun other hget => ?_⟩, rfl⟩
    · show (known.functions.insertAll c.functions.entries).get? name
        = (Change.stored? known.name name (.addCollection c)).or (r.holds? known.name name)
      rw [Table.get?_insertAll hnames, Change.stored?, if_pos hname.symm, holds?, hname, hknown]
      rfl
    · exact if_neg (hname ▸ hne)
    · rw [show known.name = c.name from hname, hknown] at hget
      obtain rfl := Option.some.inj hget
      have hentries := Table.entries_insertAll hnames fun name hmem hthere => by
        have hcontains := (Table.contains_iff_mem_names known.functions name).2 hthere
        rw [hfree name hmem] at hcontains
        contradiction
      show Entries.names known.functions.entries
        <+: Entries.names (known.functions.insertAll c.functions.entries).entries
      rw [hentries, Entries.names, Entries.names, List.map_append]
      exact List.prefix_append _ _

namespace Change

variable {change : Change σ}

/-- **What an accepted change comes to.** -/
theorem puts_of_accepted (hr : r.Sound) (hchange : change.Admissible)
    (h : (change.apply r).1 = .ok ()) :
    ∃ c, change.Puts r c ∧ (change.apply r).2 = r.put c := by
  cases change with
  | register collection f replace => exact puts_of_register hr h
  | addCollection c =>
      unfold apply at h ⊢
      dsimp only at h ⊢
      cases hadd : r.addCollection c with
      | error e =>
          rw [hadd] at h
          contradiction
      | ok r' => exact puts_of_addCollection hr (Collection.sound_of_built hchange) hadd

/-- **What a refused change leaves**: what was there, and at most a new collection without
functions. -/
theorem cases_of_refused {error : EngineError} (h : (change.apply r).1 = .error error) :
    (change.apply r).2 = r ∨ ∃ collection, r.collections.get? collection = none ∧
      (change.apply r).2 = r.put { name := collection } := by
  cases change with
  | register collection f replace =>
      obtain ⟨-, hsame⟩ | ⟨hnew, -, -, -, hleft⟩ := register_refused_cases h
      · exact Or.inl hsame
      · exact Or.inr ⟨collection, hnew, hleft⟩
  | addCollection c =>
      unfold apply at h ⊢
      dsimp only at h ⊢
      cases hadd : r.addCollection c with
      | error e => exact Or.inl rfl
      | ok r' =>
          rw [hadd] at h
          contradiction

end Change

/-! ## §4. One change. -/

section Step

variable {change : Change σ}

/-- **What one change stores** is held under its pair of names; under every other pair, and if the
change is refused under every pair, stands what stood there. -/
theorem holds?_apply (hr : r.Sound) (hchange : change.Admissible) (collection name : String) :
    (change.apply r).2.holds? collection name =
      match (change.apply r).1 with
      | .ok _ => (change.stored? collection name).or (r.holds? collection name)
      | .error _ => r.holds? collection name := by
  cases houtcome : (change.apply r).1 with
  | ok _ =>
      obtain ⟨c, hputs, hput⟩ := Change.puts_of_accepted hr hchange houtcome
      rw [hput, holds?_put]
      by_cases hname : c.name = collection
      · subst hname
        rw [if_pos rfl, hputs.stored]
      · rw [if_neg hname, hputs.only collection name hname, Option.none_or]
  | error e =>
      obtain hsame | ⟨left, hnew, hput⟩ := Change.cases_of_refused houtcome
      · rw [hsame]
      · rw [hput, ← toOption_get, ← toOption_get, toOption_get_put_empty hnew]

theorem map_place_values (hc : c.Sound) :
    c.functions.values.map Function.place = c.functions.names.map fun name => (c.name, name) := by
  rw [← Table.map_values hc.key, List.map_map]
  refine List.map_congr_left fun f hf => ?_
  obtain ⟨entry, hentry, rfl⟩ := List.mem_map.1 hf
  exact Prod.ext (hc.collection entry hentry) rfl

/-- A collection that keeps the names that were there in front of new ones leaves all functions in
their order. -/
theorem places_put (hr : r.Sound) (hc : c.Sound)
    (hfront : ∀ known, r.collections.get? c.name = some known →
      known.functions.names <+: c.functions.names) : r.places.Sublist (r.put c).places := by
  rw [places_eq, places_eq]
  unfold functions put
  cases hget : r.collections.get? c.name with
  | none =>
      rw [Table.values_insert_of_get?_none hget, List.flatMap_append, List.map_append]
      exact List.sublist_append_left _ _
  | some known =>
      obtain ⟨front, back, hvalues, hinsert⟩ := Table.values_insert_of_get? hget
      obtain ⟨hknown, hname⟩ := hr.of_get? hget
      rw [hinsert, hvalues]
      simp only [List.flatMap_append, List.flatMap_cons, List.map_append]
      refine (List.Sublist.refl _).append (List.Sublist.append ?_ (List.Sublist.refl _))
      rw [map_place_values hknown, map_place_values hc, hname]
      exact (hfront known hget).sublist.map _

/-- **No change moves a function** that is listed. -/
theorem places_apply (hr : r.Sound) (hchange : change.Admissible) :
    r.places.Sublist (change.apply r).2.places := by
  cases houtcome : (change.apply r).1 with
  | ok _ =>
      obtain ⟨c, hputs, hput⟩ := Change.puts_of_accepted hr hchange houtcome
      rw [hput]
      exact places_put hr hputs.sound hputs.front
  | error e =>
      obtain hsame | ⟨left, hnew, hput⟩ := Change.cases_of_refused houtcome
      · rw [hsame]
      · rw [hput, places_eq, places_eq, functions_put_empty hnew]

/-- **A function that takes the place of another one** is listed where that one was. -/
theorem functions_replace {g : Function σ} (hr : r.Sound)
    (h : (r.register collection f true).1 = .ok ()) (hg : r.holds? collection f.name = some g) :
    ∃ front back, r.functions = front ++ g :: back ∧
      (r.register collection f true).2.functions = front ++ f.inCollection collection :: back := by
  obtain ⟨c, c', hentry, hadd, hput⟩ := register_eq_ok h
  obtain ⟨known, hknown, hheld⟩ := Option.bind_eq_some_iff.1 hg
  obtain rfl := (entry_functions hentry).2 known hknown
  obtain ⟨-, hname⟩ := hr.of_get? hknown
  obtain ⟨-, -, rfl⟩ := Collection.add_eq_ok hadd
  -- The collection keeps its place among the others, and the function its place in it.
  obtain ⟨before, behind, hvalues, hinsert⟩ := Table.values_insert_of_get? hknown
  obtain ⟨front, back, hfunctions, hreplace⟩ := Table.values_insert_of_get? hheld
  refine ⟨before.flatMap (·.functions.values) ++ front,
    back ++ behind.flatMap (·.functions.values), ?_, ?_⟩
  · unfold functions
    rw [hvalues, List.flatMap_append, List.flatMap_cons, hfunctions]
    simp
  · rw [hput]
    unfold functions
    rw [hinsert, List.flatMap_append, List.flatMap_cons, hreplace, hname]
    simp

end Step

/-! ## §5. All changes. -/

/-- What comes about by changes can be reached. -/
theorem reachable_after {changes : List (Change σ)}
    (h : ∀ change ∈ changes, change.Admissible) : (after changes).Reachable := by
  induction changes with
  | nil => exact .empty
  | cons change earlier ih =>
      obtain ⟨hchange, hearlier⟩ := List.forall_mem_cons.1 h
      have hreachable := ih hearlier
      cases change with
      | register collection f replace => exact .register hreachable collection f replace
      | addCollection c =>
          show ((Change.addCollection c).apply (after earlier)).2.Reachable
          unfold Change.apply
          dsimp only
          cases hadd : (after earlier).addCollection c with
          | error e => exact hreachable
          | ok r' => exact .addCollection hreachable hchange hadd

theorem sound_after {changes : List (Change σ)} (h : ∀ change ∈ changes, change.Admissible) :
    (after changes).Sound :=
  sound_of_reachable (reachable_after h)

/-- **A registry holds what was stored last.** -/
theorem holds?_after {changes : List (Change σ)} (h : ∀ change ∈ changes, change.Admissible)
    (collection name : String) :
    (after changes).holds? collection name = lastStored? collection name changes := by
  induction changes with
  | nil => rfl
  | cons change earlier ih =>
      obtain ⟨hchange, hearlier⟩ := List.forall_mem_cons.1 h
      rw [after, holds?_apply (sound_after hearlier) hchange, ih hearlier, lastStored?]

/-- **A registry is a map to what was stored last, in a stable order.**  After any changes, refused
ones included, a look-up in a collection finds the function that the latest change which was not
refused has stored under that pair of names, and fails if there is none.  Each pair that was stored
is listed once, with that function, and no other pair is.  A name alone means the first function of
that name in the list, and is unknown exactly if the list has none.  One more change leaves every
pair that it does not store, or all of them if it is refused, with what they meant, and the pairs
that are listed in their order; and a function that takes the place of another one is listed where
that one was, between the same functions. -/
theorem after_lastStored (changes : List (Change σ))
    (h : ∀ change ∈ changes, change.Admissible) :
    (∀ collection name,
      ((after changes).get collection name).toOption = lastStored? collection name changes) ∧
    (∀ collection name, (after changes).places.count (collection, name)
      = if (lastStored? collection name changes).isSome then 1 else 0) ∧
    (∀ collection name f, lastStored? collection name changes = some f →
      f ∈ (after changes).functions ∧ f.place = (collection, name)) ∧
    (∀ name, ((after changes).find name).toOption
      = (after changes).functions.find? (·.name = name)) ∧
    (∀ name, (∃ error, (after changes).find name = .error error) ↔
      ∀ d ∈ (after changes).descriptors, d.name ≠ name) ∧
    ∀ change : Change σ, change.Admissible →
      (∀ collection name,
        change.stored? collection name = none ∨
          (∃ error, (change.apply (after changes)).1 = .error error) →
        ((after (change :: changes)).get collection name).toOption
          = ((after changes).get collection name).toOption) ∧
      (after changes).places.Sublist (after (change :: changes)).places ∧
      ∀ collection f g, change = .register collection f true →
        (change.apply (after changes)).1 = .ok () →
        (after changes).get collection f.name = .ok g →
        ∃ front back, (after changes).functions = front ++ g :: back ∧
          (after (change :: changes)).functions
            = front ++ f.inCollection collection :: back := by
  have hsound := sound_after h
  refine ⟨fun collection name => ?_, fun collection name => ?_, fun collection name f hlast => ?_,
    hsound.toOption_find, fun name => ?_, fun change hchange => ⟨fun collection name hother => ?_,
      places_apply hsound hchange, ?_⟩⟩
  · rw [toOption_get, holds?_after h]
  · rw [hsound.nodup_places.count, ← holds?_after h]
    simp only [hsound.mem_places_iff]
  · exact hsound.place_of_holds? ((holds?_after h collection name).trans hlast)
  · have hfind := hsound.toOption_find name
    cases hfound : (after changes).find name with
    | error error =>
        rw [hfound] at hfind
        have hnone := List.find?_eq_none.1 hfind.symm
        refine iff_of_true ⟨error, rfl⟩ fun d hd => ?_
        obtain ⟨f, hf, rfl⟩ := List.mem_map.1 hd
        exact fun hname => hnone f hf (decide_eq_true hname)
    | ok f =>
        rw [hfound] at hfind
        refine iff_of_false (fun ⟨error, herror⟩ => nomatch herror) fun hall => ?_
        have hf := List.mem_of_find?_eq_some hfind.symm
        have hname := List.find?_some hfind.symm
        exact hall f.descriptor (List.mem_map_of_mem hf) (of_decide_eq_true hname)
  · rw [toOption_get, toOption_get, after, holds?_apply hsound hchange]
    rcases hother with hnone | ⟨error, herror⟩
    · rw [hnone, Option.none_or]
      cases (change.apply (after changes)).1 <;> rfl
    · rw [herror]
  · rintro collection f g rfl hok hg
    exact functions_replace hsound hok (get_eq_ok_iff.1 hg)

/-- A function of the same name as another one. -/
def salute : Function Unit :=
  .ofPure { name := "hello" } fun _ => .ok (.string "good day")

/-- Changes of every kind, the latest first: a collection is refused for a name that is taken, a
function takes the place of another one, a collection is merged, and a function is refused for its
name after its collection was created. -/
def busyDay : List (Change Unit) :=
  [.addCollection evening, .register "early" salute true, .register "late" greeting,
    .addCollection evening, .register "late" unnamable, .register "early" greeting]

theorem after_lastStored_busyDay :
    (∀ change ∈ busyDay, change.Admissible) ∧
      lastStored? "early" "hello" busyDay = some (salute.inCollection "early") ∧
      (after busyDay).get "early" "hello" = .ok (salute.inCollection "early") ∧
      (after busyDay).places = [("early", "hello"), ("early", "bye"), ("late", "hello")] ∧
      (after busyDay).places.count ("early", "hello") = 1 ∧
      ((after busyDay).find "hello").toOption
        = (after busyDay).functions.find? (·.name = "hello") := by
  have hevening : evening.Built := by
    have hcreate : Collection.create "early" = .ok ({ name := "early" } : Collection Unit) := rfl
    have hadd : ({ name := "early" } : Collection Unit).add farewell = .ok evening := rfl
    exact .add (.create hcreate) hadd
  have h : ∀ change ∈ busyDay, change.Admissible := by
    simp only [busyDay, List.forall_mem_cons]
    exact ⟨hevening, trivial, trivial, hevening, trivial, trivial, fun _ hmem => nomatch hmem⟩
  have hlast : lastStored? "early" "hello" busyDay = some (salute.inCollection "early") := rfl
  obtain ⟨hget, hcount, -, hfind, -⟩ := after_lastStored busyDay h
  refine ⟨h, hlast, ?_, rfl, ?_, hfind "hello"⟩
  · rw [get_eq_ok_iff, ← toOption_get, hget, hlast]
  · rw [hcount, hlast]
    rfl

end Registry

end PromptEngine
