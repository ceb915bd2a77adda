/-
  PromptEngine.Main — the program: reads what the command line names and tells the result.
-/
import PromptEngine.CommandLine.Basic
import Std.Time

namespace PromptEngine.CommandLine

/-- The contents of a file. -/
def readFile (path : String) : IO (Except FileFault String) := do
  try
    return .ok (← IO.FS.readFile path)
  catch error =>
    return .error <| match error with
      | .noFileOrDirectory .. => .notFound
      | .permissionDenied _ code _ => ⟨"Permission denied", some code.toNat⟩
      | error => ⟨toString error, none⟩

/-- The time of the system. -/
def readClock : IO Clock := do
  let now ← Std.Time.DateTime.now
  let today := now.format "uuuu-MM-dd"
  return ⟨today ++ "T" ++ now.format "HH:mm:ssxxx", today⟩

/-- The surroundings of a run, as far as its options need them. -/
def surroundings (options : Options) : IO Surroundings := do
  let paths := options.config.toList ++ (if options.tools then [] else options.input.toList)
  let files ← paths.mapM fun path => return (path, ← readFile path)
  let input ← if options.tools || options.input.isSome then pure "" else (← IO.getStdin).readToEnd
  return {
    file := fun path => (files.lookup path).getD (.error .notFound)
    input
    clock := ← readClock }

end PromptEngine.CommandLine

open PromptEngine CommandLine in
/-- Run the program. -/
def main (arguments : List String) : IO UInt32 := do
  let nothing : Surroundings := ⟨fun _ => .error .notFound, "", ⟨"", ""⟩⟩
  let s ← match Options.read arguments with
    | .ok options => surroundings options
    | .error _ => pure nothing
  let finish := run s arguments
  IO.print finish.output
  IO.eprint finish.complaint
  return UInt32.ofNat finish.status
