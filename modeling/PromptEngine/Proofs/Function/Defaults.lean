/-
  PromptEngine.Proofs.Function.Defaults — required arguments are asked for twice.

  A call has to give the required arguments of a function that have no default.  A request for a
  tool is looked through for them before the function is called (`Engine.missingNames`): one look at
  the table that the function would be called with.  The call itself fills in the defaults one
  parameter after the other and fails at the first argument that is still missing
  (`Descriptor.bindDefaults`): the table grows on the way.

  The two agree where parameters have distinct names.  Where a name is repeated, a default of an
  earlier parameter can stand in for a later one, and only the second check sees that.  The steps:

    • `Lacks` — the argument is missing at its turn, with one rule for each step of the filling
      (`lacks_cons_of_contains`, `lacks_cons_of_default`, `lacks_cons_of_required`,
      `lacks_cons_of_optional`),
    • `fillDefaults_cases` — the filling fails where something lacks, and else it adds the defaults,
    • `fillDefaults_of_nodup` — with distinct names it fails at the first name of the list.

  Main result: `bindDefaults_missing`.
-/
import Mathlib
import PromptEngine.Engine.Conversation
import PromptEngine.Proofs.Table

namespace PromptEngine

/-! ## §1. Defaults and lacking arguments. -/

/-- The first default that a row of parameters has for a name. -/
def firstDefault? (parameters : List Parameter) (name : String) : Option Json :=
  parameters.findSome? fun p => if p.name = name then p.default? else none

/-- A required argument without a default that the table does not hold. -/
def Parameter.isMissing (arguments : Arguments) (p : Parameter) : Bool :=
  p.required && p.default?.isNone && !arguments.contains p.name

/-- The argument is missing when it is its turn: no parameter before it has filled in a default
under its name. -/
structure Parameter.Lacking (before : List Parameter) (arguments : Arguments) (p : Parameter) :
    Prop where
  missing : p.isMissing arguments = true
  unfilled : ∀ q ∈ before, q.name = p.name → q.default? = none

/-- Some argument of the row is missing when it is its turn. -/
def Lacks (parameters : List Parameter) (arguments : Arguments) : Prop :=
  ∃ front p back, parameters = front ++ p :: back ∧ p.Lacking front arguments

theorem Parameter.isMissing_iff {arguments : Arguments} {p : Parameter} :
    p.isMissing arguments = true ↔
      p.required = true ∧ p.default? = none ∧ arguments.contains p.name = false := by
  unfold isMissing
  simp [and_assoc]

/-- What it takes for a row to lack an argument, in full. -/
theorem lacks_iff {parameters : List Parameter} {arguments : Arguments} :
    Lacks parameters arguments ↔
      ∃ front p back, parameters = front ++ p :: back ∧ p.required = true ∧
        p.default? = none ∧ arguments.contains p.name = false ∧
        ∀ q ∈ front, q.name = p.name → q.default? = none := by
  unfold Lacks
  refine exists_congr fun front => exists_congr fun p => exists_congr fun back => ?_
  apply and_congr_right
  intro _
  constructor
  · intro h
    obtain ⟨hrequired, hdefault, habsent⟩ := Parameter.isMissing_iff.mp h.missing
    exact ⟨hrequired, hdefault, habsent, h.unfilled⟩
  · intro ⟨hrequired, hdefault, habsent, hunfilled⟩
    exact ⟨Parameter.isMissing_iff.mpr ⟨hrequired, hdefault, habsent⟩, hunfilled⟩

theorem Arguments.contains_insert (arguments : Arguments) (name other : String) (value : Json) :
    (arguments.insert name value).contains other
      = (decide (name = other) || arguments.contains other) := by
  show ((arguments.values.insert name value).get? other).isSome = _
  rw [Table.get?_insert]
  by_cases h : name = other
  · rw [if_pos h, decide_eq_true h]
    rfl
  · rw [if_neg h, decide_eq_false h]
    rfl

section Steps

variable {q : Parameter} {rest : List Parameter} {arguments : Arguments}

/-- What a row lacks, its first parameter lacks or the others do. -/
theorem lacks_cons_iff :
    Lacks (q :: rest) arguments ↔
      q.isMissing arguments = true ∨
        ∃ front p back, rest = front ++ p :: back ∧ p.Lacking front arguments ∧
          (q.name = p.name → q.default? = none) := by
  constructor
  -- What lacks a value is the first parameter, or one behind it.
  · intro ⟨front, p, back, hrow, hlacking⟩
    cases front with
    | nil =>
        obtain ⟨rfl, rfl⟩ := List.cons.inj hrow
        exact Or.inl hlacking.missing
    | cons first front =>
        obtain ⟨rfl, rfl⟩ := List.cons.inj hrow
        obtain ⟨hfirst, hfront⟩ := List.forall_mem_cons.mp hlacking.unfilled
        exact Or.inr ⟨front, p, back, rfl, ⟨hlacking.missing, hfront⟩, hfirst⟩
  · intro h
    rcases h with hmissing | ⟨front, p, back, hrow, hlacking, hfirst⟩
    · exact ⟨[], q, rest, rfl, hmissing, List.forall_mem_nil _⟩
    · subst hrow
      exact ⟨q :: front, p, back, rfl, hlacking.missing,
        List.forall_mem_cons.mpr ⟨hfirst, hlacking.unfilled⟩⟩

/-- An argument that the table holds is passed over. -/
theorem lacks_cons_of_contains (h : arguments.contains q.name = true) :
    Lacks (q :: rest) arguments ↔ Lacks rest arguments := by
  rw [lacks_cons_iff]
  constructor
  · intro hlacks
    rcases hlacks with hmissing | ⟨front, p, back, hrow, hlacking, _⟩
    · rw [(Parameter.isMissing_iff.mp hmissing).2.2] at h
      contradiction
    · exact ⟨front, p, back, hrow, hlacking⟩
  · intro ⟨front, p, back, hrow, hlacking⟩
    refine Or.inr ⟨front, p, back, hrow, hlacking, ?_⟩
    intro hname
    -- The table holds the first name, so what it lacks has another one.
    rw [hname, (Parameter.isMissing_iff.mp hlacking.missing).2.2] at h
    contradiction

/-- A default stands in for all later arguments of its name. -/
theorem lacks_cons_of_default {value : Json} (h : q.default? = some value) :
    Lacks (q :: rest) arguments ↔ Lacks rest (arguments.insert q.name value) := by
  have hother : ∀ p : Parameter, p.isMissing (arguments.insert q.name value) = true ↔
      p.isMissing arguments = true ∧ q.name ≠ p.name := by
    intro p
    rw [Parameter.isMissing_iff, Parameter.isMissing_iff, Arguments.contains_insert,
      Bool.or_eq_false_iff, decide_eq_false_iff_not]
    tauto
  rw [lacks_cons_iff]
  constructor
  · intro hlacks
    rcases hlacks with hmissing | ⟨front, p, back, hrow, hlacking, hfirst⟩
    · rw [(Parameter.isMissing_iff.mp hmissing).2.1] at h
      contradiction
    · refine ⟨front, p, back, hrow, (hother p).mpr ⟨hlacking.missing, ?_⟩, hlacking.unfilled⟩
      intro hname
      rw [hfirst hname] at h
      contradiction
  · intro ⟨front, p, back, hrow, hlacking⟩
    obtain ⟨hmissing, hname⟩ := (hother p).mp hlacking.missing
    exact Or.inr ⟨front, p, back, hrow, ⟨hmissing, hlacking.unfilled⟩, fun e => absurd e hname⟩

/-- An argument that is missing at its turn is lacking. -/
theorem lacks_cons_of_required (h : arguments.contains q.name = false)
    (hdefault : q.default? = none) (hrequired : q.required = true) :
    Lacks (q :: rest) arguments :=
  lacks_cons_iff.mpr (Or.inl (Parameter.isMissing_iff.mpr ⟨hrequired, hdefault, h⟩))

/-- An argument that need not be there is passed over. -/
theorem lacks_cons_of_optional (hdefault : q.default? = none) (hrequired : q.required = false) :
    Lacks (q :: rest) arguments ↔ Lacks rest arguments := by
  rw [lacks_cons_iff]
  constructor
  · intro hlacks
    rcases hlacks with hmissing | ⟨front, p, back, hrow, hlacking, _⟩
    · rw [(Parameter.isMissing_iff.mp hmissing).1] at hrequired
      contradiction
    · exact ⟨front, p, back, hrow, hlacking⟩
  · intro ⟨front, p, back, hrow, hlacking⟩
    exact Or.inr ⟨front, p, back, hrow, hlacking, fun _ => hdefault⟩

end Steps

/-! ## §2. The filling. -/

/-- A table with the defaults filled in: what was there stays in its place, and a name that was not
there holds its first default. -/
structure Filled (parameters : List Parameter) (arguments bound : Arguments) : Prop where
  kept : arguments.values.entries <+: bound.values.entries
  settings : bound.settings = arguments.settings
  holds : ∀ name, bound.get? name = (arguments.get? name).or (firstDefault? parameters name)

theorem firstDefault?_cons (q : Parameter) (rest : List Parameter) (name : String) :
    firstDefault? (q :: rest) name
      = (if q.name = name then q.default? else none).or (firstDefault? rest name) := by
  unfold firstDefault?
  rw [List.findSome?_cons]
  cases (if q.name = name then q.default? else none) <;> rfl

section Filling

variable {q : Parameter} {rest : List Parameter} {arguments bound : Arguments}

theorem Filled.nil : Filled [] arguments arguments where
  kept := List.prefix_refl _
  settings := rfl
  holds _ := Option.or_none.symm

/-- A parameter whose argument is there, or that has no default, adds nothing. -/
theorem Filled.pass (h : Filled rest arguments bound)
    (hpass : arguments.contains q.name = true ∨ q.default? = none) :
    Filled (q :: rest) arguments bound where
  kept := h.kept
  settings := h.settings
  holds name := by
    rw [h.holds, firstDefault?_cons]
    by_cases hname : q.name = name
    · subst hname
      rw [if_pos rfl]
      rcases hpass with hcontains | hnone
      · -- What the table holds goes before every default.
        obtain ⟨value, hvalue⟩ := Option.isSome_iff_exists.mp hcontains
        have hget : arguments.get? q.name = some value := hvalue
        rw [hget]
        rfl
      · rw [hnone, Option.none_or]
    · rw [if_neg hname, Option.none_or]

/-- A default that is missing is added at the end. -/
theorem Filled.add {value : Json} (h : Filled rest (arguments.insert q.name value) bound)
    (habsent : arguments.contains q.name = false) (hdefault : q.default? = some value) :
    Filled (q :: rest) arguments bound where
  kept := by
    have hnone : arguments.values.get? q.name = none := by
      rw [← Option.not_isSome_iff_eq_none]
      exact Bool.eq_false_iff.mp habsent
    have hentries : (arguments.insert q.name value).values.entries
        = arguments.values.entries ++ [(q.name, value)] :=
      Table.entries_insert_of_get?_none hnone
    apply List.IsPrefix.trans _ h.kept
    rw [hentries]
    exact List.prefix_append ..
  settings := h.settings
  holds name := by
    have hget : (arguments.insert q.name value).get? name
        = if q.name = name then some value else arguments.get? name :=
      Table.get?_insert ..
    rw [h.holds, hget, firstDefault?_cons, hdefault]
    by_cases hname : q.name = name
    · subst hname
      have hnone : arguments.get? q.name = none := by
        rw [← Option.not_isSome_iff_eq_none]
        exact Bool.eq_false_iff.mp habsent
      rw [if_pos rfl, if_pos rfl, hnone]
      rfl
    · rw [if_neg hname, if_neg hname, Option.none_or]

end Filling

namespace Descriptor

variable (function : String)

/-- **The filling fails where an argument lacks**, and else it fills the defaults in. -/
theorem fillDefaults_cases (parameters : List Parameter) (arguments : Arguments) :
    (Lacks parameters arguments ∧
      ∃ error, fillDefaults function parameters arguments = .error error) ∨
    (¬ Lacks parameters arguments ∧
      ∃ bound, fillDefaults function parameters arguments = .ok bound ∧
        Filled parameters arguments bound) := by
  fun_induction fillDefaults function parameters arguments with
  | case1 arguments =>
      refine Or.inr ⟨?_, arguments, rfl, Filled.nil⟩
      intro ⟨front, p, back, hrow, _⟩
      exact absurd hrow.symm (by simp)
  | case2 p rest arguments hcontains ih =>
      rw [lacks_cons_of_contains hcontains]
      apply ih.imp_right
      intro ⟨hlacks, bound, hbound, hfilled⟩
      exact ⟨hlacks, bound, hbound, hfilled.pass (Or.inl hcontains)⟩
  | case3 p rest arguments hcontains value hdefault ih =>
      rw [lacks_cons_of_default hdefault]
      apply ih.imp_right
      intro ⟨hlacks, bound, hbound, hfilled⟩
      exact ⟨hlacks, bound, hbound, hfilled.add (Bool.eq_false_iff.mpr hcontains) hdefault⟩
  | case4 p rest arguments hcontains hdefault hrequired =>
      exact Or.inl
        ⟨lacks_cons_of_required (Bool.eq_false_iff.mpr hcontains) hdefault hrequired, _, rfl⟩
  | case5 p rest arguments hcontains hdefault hrequired ih =>
      rw [lacks_cons_of_optional hdefault (Bool.eq_false_iff.mpr hrequired)]
      apply ih.imp_right
      intro ⟨hlacks, bound, hbound, hfilled⟩
      exact ⟨hlacks, bound, hbound, hfilled.pass (Or.inr hdefault)⟩

/-- A table in which all that can be asked for is there is left as it is. -/
theorem fillDefaults_eq_self {parameters : List Parameter} {arguments : Arguments}
    (h : ∀ p ∈ parameters, arguments.contains p.name = true ∨
      p.default? = none ∧ p.required = false) :
    fillDefaults function parameters arguments = .ok arguments := by
  induction parameters with
  | nil => rfl
  | cons p rest ih =>
      obtain ⟨hp, hrest⟩ := List.forall_mem_cons.mp h
      unfold fillDefaults
      by_cases hcontains : arguments.contains p.name = true
      · rw [if_pos hcontains]
        exact ih hrest
      · obtain ⟨hdefault, hrequired⟩ := hp.resolve_left hcontains
        rw [if_neg hcontains, hdefault, hrequired]
        exact ih hrest

/-- **Filling in again changes nothing.** -/
theorem fillDefaults_again {parameters : List Parameter} {arguments bound : Arguments}
    (hfilled : Filled parameters arguments bound) (hlacks : ¬ Lacks parameters arguments) :
    fillDefaults function parameters bound = .ok bound := by
  apply fillDefaults_eq_self
  intro p hp
  by_cases hcontains : bound.contains p.name = true
  · exact Or.inl hcontains
  -- What is not there now was not there before, and no parameter has a default for it.
  have hget : bound.get? p.name = none := by
    rw [← Option.not_isSome_iff_eq_none]
    exact hcontains
  rw [hfilled.holds] at hget
  obtain ⟨habsent, hfirst⟩ := Option.or_eq_none_iff.mp hget
  have hdefaults : ∀ q ∈ parameters, q.name = p.name → q.default? = none := by
    intro q hq hname
    have hq' := List.findSome?_eq_none_iff.mp hfirst q hq
    rwa [if_pos hname] at hq'
  refine Or.inr ⟨hdefaults p hp rfl, ?_⟩
  apply Bool.eq_false_iff.mpr
  intro hrequired
  obtain ⟨front, back, hrow⟩ := List.append_of_mem hp
  apply hlacks
  refine ⟨front, p, back, hrow, Parameter.isMissing_iff.mpr ⟨hrequired, hdefaults p hp rfl, ?_⟩, ?_⟩
  · show (arguments.get? p.name).isSome = false
    rw [habsent]
    rfl
  · intro q hq
    apply hdefaults
    rw [hrow]
    exact List.mem_append_left _ hq

/-! ## §3. The list of what is missing. -/

theorem missingNames_eq (d : Descriptor) (arguments : Arguments) :
    Engine.missingNames d arguments
      = (d.parameters.filter (·.isMissing arguments)).map (·.name) := rfl

/-- What lacks is missing from the table. -/
theorem exists_isMissing_of_lacks {parameters : List Parameter} {arguments : Arguments}
    (h : Lacks parameters arguments) : ∃ p ∈ parameters, p.isMissing arguments = true := by
  obtain ⟨front, p, back, hrow, hlacking⟩ := h
  refine ⟨p, ?_, hlacking.missing⟩
  rw [hrow]
  exact List.mem_append_right _ List.mem_cons_self

/-- **With distinct names the filling fails at the first argument that is missing**, and only if one
is missing. -/
theorem fillDefaults_of_nodup {parameters : List Parameter} (arguments : Arguments)
    (h : (parameters.map (·.name)).Nodup) :
    (∀ bound, fillDefaults function parameters arguments = .ok bound →
        parameters.filter (·.isMissing arguments) = []) ∧
      ∀ p more, parameters.filter (·.isMissing arguments) = p :: more →
        fillDefaults function parameters arguments = .error (.missingArgument function p.name) := by
  fun_induction fillDefaults function parameters arguments with
  | case1 arguments =>
      refine ⟨fun _ _ => rfl, ?_⟩
      intro p more hfilter
      contradiction
  | case2 p rest arguments hcontains ih =>
      have hp : p.isMissing arguments = false := by
        simp [Parameter.isMissing, hcontains]
      rw [List.filter_cons_of_neg (by simp [hp])]
      exact ih (List.nodup_cons.mp h).2
  | case3 p rest arguments hcontains value hdefault ih =>
      obtain ⟨hnew, hrest⟩ := List.nodup_cons.mp h
      have hp : p.isMissing arguments = false := by
        simp [Parameter.isMissing, hdefault]
      -- The default that is filled in stands for no other parameter.
      have hsame : rest.filter (·.isMissing (arguments.insert p.name value))
          = rest.filter (·.isMissing arguments) := by
        apply List.filter_congr
        intro q hq
        have hname : p.name ≠ q.name := by
          intro hname
          apply hnew
          show p.name ∈ rest.map (·.name)
          rw [hname]
          exact List.mem_map_of_mem hq
        unfold Parameter.isMissing
        rw [Arguments.contains_insert, decide_eq_false hname, Bool.false_or]
      rw [List.filter_cons_of_neg (by simp [hp]), ← hsame]
      exact ih hrest
  | case4 p rest arguments hcontains hdefault hrequired =>
      have hp : p.isMissing arguments = true :=
        Parameter.isMissing_iff.mpr ⟨hrequired, hdefault, Bool.eq_false_iff.mpr hcontains⟩
      rw [List.filter_cons_of_pos hp]
      refine ⟨?_, ?_⟩
      · intro bound hbound
        contradiction
      · intro q more hfilter
        rw [(List.cons.inj hfilter).1]
  | case5 p rest arguments hcontains hdefault hrequired ih =>
      have hp : p.isMissing arguments = false := by
        simp [Parameter.isMissing, hrequired]
      rw [List.filter_cons_of_neg (by simp [hp])]
      exact ih (List.nodup_cons.mp h).2

/-! ## §4. The two checks. -/

/-- **The two checks for required arguments agree.**  For every function and every table: if the
list of missing arguments is empty, the defaults can be filled in; if the names of the parameters
are distinct, they can be filled in only then, and else the error names the first argument of the
list.  In general filling in fails exactly if a required argument without a default is not in the
table and no parameter before it has a default under its name.  Where it does not fail, the entries
of the table stay as they are in their places, the names that were not there and have a default hold
their first default, no other name is added, and filling in once more changes nothing. -/
theorem bindDefaults_missing (d : Descriptor) (arguments : Arguments) :
    (Engine.missingNames d arguments = [] → ∃ bound, d.bindDefaults arguments = .ok bound) ∧
      ((d.parameters.map (·.name)).Nodup →
        (∀ bound, d.bindDefaults arguments = .ok bound → Engine.missingNames d arguments = []) ∧
        ∀ name more, Engine.missingNames d arguments = name :: more →
          d.bindDefaults arguments = .error (.missingArgument d.qualifiedName name)) ∧
      ((∃ error, d.bindDefaults arguments = .error error) ↔
        ∃ front p back, d.parameters = front ++ p :: back ∧ p.required = true ∧
          p.default? = none ∧ arguments.contains p.name = false ∧
          ∀ q ∈ front, q.name = p.name → q.default? = none) ∧
      ∀ bound, d.bindDefaults arguments = .ok bound →
        arguments.values.entries <+: bound.values.entries ∧
        bound.settings = arguments.settings ∧
        (∀ name, bound.get? name
          = (arguments.get? name).or (firstDefault? d.parameters name)) ∧
        d.bindDefaults bound = .ok bound := by
  have hcases := fillDefaults_cases d.qualifiedName d.parameters arguments
  refine ⟨?_, ?_, ?_, ?_⟩
  · intro hnone
    rcases hcases with ⟨hlacks, _⟩ | ⟨_, bound, hbound, _⟩
    · obtain ⟨p, hp, hmissing⟩ := exists_isMissing_of_lacks hlacks
      rw [missingNames_eq, List.map_eq_nil_iff, List.filter_eq_nil_iff] at hnone
      exact absurd hmissing (hnone p hp)
    · exact ⟨bound, hbound⟩
  · intro hnodup
    obtain ⟨hempty, hfirst⟩ := fillDefaults_of_nodup d.qualifiedName arguments hnodup
    rw [missingNames_eq]
    refine ⟨?_, ?_⟩
    · intro bound hbound
      rw [hempty bound hbound]
      rfl
    · intro name more hnames
      obtain ⟨p, rest, hfilter, rfl, _⟩ := List.map_eq_cons_iff.mp hnames
      exact hfirst p rest hfilter
  · rw [← lacks_iff]
    rcases hcases with ⟨hlacks, hfails⟩ | ⟨hlacks, bound, hbound, _⟩
    · exact ⟨fun _ => hlacks, fun _ => hfails⟩
    · constructor
      · intro ⟨error, herror⟩
        unfold bindDefaults at herror
        rw [hbound] at herror
        contradiction
      · intro h
        exact absurd h hlacks
  · intro bound hbound
    unfold bindDefaults at hbound ⊢
    rcases hcases with ⟨_, error, herror⟩ | ⟨hlacks, bound', hbound', hfilled⟩
    · rw [herror] at hbound
      contradiction
    · rw [hbound'] at hbound
      obtain rfl := Except.ok.inj hbound
      exact ⟨hfilled.kept, hfilled.settings, hfilled.holds,
        fillDefaults_again d.qualifiedName hfilled hlacks⟩

/-- A function with arguments of all kinds. -/
def ticket : Descriptor :=
  { collection := "train", name := "ticket"
    parameters :=
      [{ name := "class", required := true, default? := some (.string "2") }, { name := "note" },
       { name := "from", required := true }, { name := "to", required := true },
       { name := "seat", default? := some (.string "any") }] }

theorem bindDefaults_missing_ticket :
    (ticket.parameters.map (·.name)).Nodup ∧
      ticket.bindDefaults (.ofList [("seat", .string "12A")])
        = .error (.missingArgument "train.ticket" "from") ∧
      Engine.missingNames ticket (.ofList [("to", .null), ("from", .string "Bern")]) = [] ∧
      ∃ bound, ticket.bindDefaults (.ofList [("to", .null), ("from", .string "Bern")]) = .ok bound ∧
        bound.get? "class" = some (.string "2") ∧ bound.get? "note" = none ∧
        ticket.bindDefaults bound = .ok bound := by
  have hnodup : (ticket.parameters.map (·.name)).Nodup := by decide
  obtain ⟨-, hdistinct, -, -⟩ :=
    bindDefaults_missing ticket (.ofList [("seat", .string "12A")])
  obtain ⟨hbinds, -, -, hfilled⟩ :=
    bindDefaults_missing ticket (.ofList [("to", .null), ("from", .string "Bern")])
  have hnone : Engine.missingNames ticket (.ofList [("to", .null), ("from", .string "Bern")])
      = [] := by
    decide
  obtain ⟨bound, hbound⟩ := hbinds hnone
  obtain ⟨-, -, hholds, hagain⟩ := hfilled bound hbound
  refine ⟨hnodup, (hdistinct hnodup).2 "from" ["to"] (by decide), hnone, bound, hbound, ?_, ?_,
    hagain⟩
  · rw [hholds]
    rfl
  · rw [hholds]
    rfl

end Descriptor

end PromptEngine
