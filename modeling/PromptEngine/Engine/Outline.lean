/-
  PromptEngine.Engine.Outline — an engine, shown to people who debug it.

  Functions, services and hooks are shown by their names or by their number.
-/
import PromptEngine.Engine.Basic
import PromptEngine.Text.Outline

namespace PromptEngine

open Outline

variable {σ : Type}

/-- The configuration of an engine. -/
def Config.outline (c : Config) : String :=
  record "KernelConfig"
    [("invocation", record "InvocationConfig" [("max_repeats", toString c.maxRepeats)]),
     ("tool_calls", record "ToolCallConfig"
       [("auto_invoke", bool c.autoInvoke),
        ("max_auto_invoke_attempts", toString c.maxAttempts)]),
     ("render", record "RenderConfig"
       [("allow_unsafe_content", bool c.trust.everything),
        ("trusted_variables", Quoted.list c.trust.trusted)]),
     ("logging", record "LoggingConfig" [("filter", Quoted.text c.logFilter)])]

/-- A collection. -/
def Collection.outline (c : Collection σ) : String :=
  record "FunctionCollection"
    [("name", Quoted.text c.name), ("functions", Quoted.list c.functions.names)]

/-- A registry. -/
def Registry.outline (r : Registry σ) : String :=
  record "FunctionRegistry"
    [("collections", map (r.collections.map Collection.outline).entries)]

/-- An engine. -/
def Engine.outline (e : Engine σ) : String :=
  record "Kernel"
    [("functions", e.registry.outline), ("services", Quoted.list e.services.names),
     ("hooks", toString e.hooks.length), ("config", e.config.outline)]

end PromptEngine
