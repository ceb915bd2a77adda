/-
  PromptEngine.Proofs.Engine.Tools — tools can be called as they are offered.

  The schema of a function tells a model its name and the arguments that have to be given.  A model
  that keeps to it is understood: its call is no malformed one, lacks nothing, and is carried out by
  that function and no other, with the given arguments written over those of the conversation.
  What the schema requires is more than what a call has to give, since an argument with a default
  may be left out (`missingNames_eq_nil`).

  Main result: `Engine.resolveTool_offered`.
-/
import Mathlib
import PromptEngine.Proofs.Engine.Reachable
import PromptEngine.Proofs.Engine.ToolJobs
import PromptEngine.Proofs.Json.Objects

namespace PromptEngine

variable {σ : Type}

/-! ## §1. What a schema says. -/

namespace Descriptor

variable (d : Descriptor)

/-- The name that a model is told. -/
theorem toolSchema_name :
    d.toolSchema.at? ["function", "name"] = some (.string d.toolName) := by
  simp [toolSchema, Json.at?, Json.ofMembers, Json.member?, Json.lookup_insertMember]

/-- The arguments that a model is asked for. -/
theorem toolSchema_required :
    d.toolSchema.at? ["function", "parameters", "required"]
      = some (.array (d.requiredNames.map .string)) := by
  simp [toolSchema, Json.at?, Json.ofMembers, Json.member?, Json.lookup_insertMember]

end Descriptor

/-! ## §2. What a call gives. -/

/-- A text that says an object gives the members of that object. -/
theorem ToolCall.readArguments_object {call : ToolCall} {members : List (String × Json)}
    (h : Json.read? call.arguments = some (.object members)) :
    call.readArguments = .ok members := by
  unfold readArguments
  split
  · next hblank =>
      rw [Json.read?_blank hblank] at h
      contradiction
  · rw [h]

namespace Engine

/-- Nothing is missing where all required arguments are there, whether they have defaults or not. -/
theorem missingNames_eq_nil {d : Descriptor} {arguments : Arguments}
    (h : ∀ name ∈ d.requiredNames, arguments.contains name = true) :
    missingNames d arguments = [] := by
  unfold missingNames
  rw [List.map_eq_nil_iff, List.filter_eq_nil_iff]
  intro p hp hmissing
  obtain ⟨hneeded, habsent⟩ := Bool.and_eq_true_iff.1 hmissing
  have hrequired := (Bool.and_eq_true_iff.1 hneeded).1
  have hname : p.name ∈ d.requiredNames :=
    List.mem_map_of_mem (List.mem_filter.2 ⟨hp, hrequired⟩)
  rw [h p.name hname] at habsent
  contradiction

/-- **Tools can be called as they are offered.**  A call by the name in the schema of a function,
whose arguments are read as an object with all the members that the schema requires, is carried out
by that function.  In the table that it is given a name holds its member of the object, and any
other name what it held in the conversation. -/
theorem resolveTool_offered {e : Engine σ} (h : e.registry.Reachable) {f : Function σ}
    (hf : f ∈ e.registry.functions) (arguments : Arguments) :
    f.descriptor.toolSchema ∈ e.registry.toolSchemas ∧
    ∃ (name : String) (required : List String),
      f.descriptor.toolSchema.at? ["function", "name"] = some (.string name) ∧
      f.descriptor.toolSchema.at? ["function", "parameters", "required"]
        = some (.array (required.map .string)) ∧
      ∀ (request : ToolCall) (members : List (String × Json)), request.name = name →
        Json.read? request.arguments = some (.object members) →
        (∀ key ∈ required, ((Json.object members).member? key).isSome = true) →
        ∃ table, e.prepareTool arguments request = .ok (.call f table) ∧
          table.settings = arguments.settings ∧
          (∀ key, table.get? key = ((Json.object members).member? key).or (arguments.get? key)) ∧
          ∀ body, e.resolveTool (e.runFunction body) arguments request
            = Exec.orFail (e.runFunction body f table) fun outcome =>
                pure (.ok (.toolResult request.id f.descriptor.toolName outcome.text)) := by
  refine ⟨List.mem_map_of_mem (List.mem_map_of_mem hf), f.descriptor.toolName,
    f.descriptor.requiredNames, f.descriptor.toolSchema_name, f.descriptor.toolSchema_required,
    fun request members hname hread hgiven => ?_⟩
  have htable := arguments.get?_insertAll (Json.ascending_of_read? hread)
  have hfound : e.registry.resolveTool request.name = .ok f :=
    hname ▸ (Registry.sound_of_reachable h).resolveTool_toolName hf
  -- Whatever the schema requires is among the members, so nothing is missing.
  have hmissing : missingNames f.descriptor (arguments.insertAll members) = [] := by
    refine missingNames_eq_nil fun key hkey => ?_
    obtain ⟨value, hvalue⟩ := Option.isSome_iff_exists.1 (hgiven key hkey)
    show ((arguments.insertAll members).get? key).isSome = true
    rw [htable, hvalue]
    rfl
  have hcall : e.prepareTool arguments request = .ok (.call f (arguments.insertAll members)) :=
    prepareTool_eq_call_iff.mpr
      ⟨members, ToolCall.readArguments_object hread, hfound, hmissing, rfl⟩
  refine ⟨arguments.insertAll members, hcall, rfl, htable, fun body => ?_⟩
  rw [resolveTool_eq, hcall]

/-- A function with two required parameters, one of them with a default. -/
def forecast : Function Unit :=
  .ofPure
    { name := "forecast"
      parameters :=
        [{ name := "city", required := true },
         { name := "unit", required := true, default? := some (.string "C") }] }
    fun arguments => .ok ((arguments.get? "city").getD .null)

/-- An engine that offers it. -/
def station : Engine Unit :=
  { registry := (Registry.empty.register "sky" forecast).2 }

/-- A call of that tool with a name that occurs twice. -/
def forecastCall : ToolCall :=
  ⟨"call", "sky-forecast", " \x7b\"unit\":\"F\",\"city\":\"Rome\",\"city\":\"Oslo\"\x7d"⟩

theorem resolveTool_offered_station :
    station.registry.Reachable ∧
    Json.read? forecastCall.arguments
      = some (.object [("city", .string "Oslo"), ("unit", .string "F")]) ∧
    ∃ table, station.prepareTool (.ofList [("city", .string "Bern"), ("day", .string "Monday")])
        forecastCall = .ok (.call (forecast.inCollection "sky") table) ∧
      table.get? "city" = some (.string "Oslo") ∧ table.get? "unit" = some (.string "F") ∧
      table.get? "day" = some (.string "Monday") := by
  have hreachable : station.registry.Reachable := .register .empty "sky" forecast false
  have hread : Json.read? forecastCall.arguments
      = some (.object [("city", .string "Oslo"), ("unit", .string "F")]) := by
    cbv
  obtain ⟨-, name, required, hname, hrequired, hcalls⟩ :=
    resolveTool_offered hreachable (f := forecast.inCollection "sky") List.mem_cons_self
      (.ofList [("city", .string "Bern"), ("day", .string "Monday")])
  -- The schema says one name and one row of required arguments.
  obtain rfl : (forecast.inCollection "sky").descriptor.toolName = name :=
    Json.string.inj (Option.some.inj ((Descriptor.toolSchema_name _).symm.trans hname))
  obtain rfl : (forecast.inCollection "sky").descriptor.requiredNames = required := by
    have harray := (Descriptor.toolSchema_required _).symm.trans hrequired
    exact List.map_injective_iff.2 (fun _ _ => Json.string.inj)
      (Json.array.inj (Option.some.inj harray))
  obtain ⟨table, hcall, -, htable, -⟩ := hcalls forecastCall _ rfl hread (by decide)
  refine ⟨hreachable, hread, table, hcall, ?_, ?_, ?_⟩ <;> rw [htable] <;> rfl

end Engine

end PromptEngine
