import MemoryKeeper.CommandLine.Arguments
import MemoryKeeper.Execution.Session

/-!
# Running the program

The program answers one expression with one printed response and tells by its
exit status whether the command succeeded. Without an expression it shows its
usage and fails. The layout of the response follows the user's settings, unless
they cannot be used or the compact layout is asked for.
-/

namespace MemoryKeeper.CommandLine

/-- The most that is logged: nothing, everything for debugging, or what the environment says, with
warnings if it says nothing. -/
def logDirective (debug quiet : Bool) (wanted : Option String) : String :=
  if quiet then "off"
  else if debug then "debug"
  else (wanted.filter (!Text.isBlankText ·)).getD "warn"

/-- What a run of the program leaves. -/
inductive Ending where
  /-- A response was printed. -/
  | answered (success : Bool) (printed : String)
  /-- The usage was shown. -/
  | usageShown
  deriving DecidableEq, Repr

namespace Ending

/-- The exit status. -/
def status : Ending → Nat
  | .answered true _ => 0
  | .answered false _ => 1
  | .usageShown => 1

def output : Ending → String
  | .answered _ printed => printed
  | .usageShown => ""

end Ending

/-- The layout that the user's settings ask for; settings that cannot be used ask for nothing. -/
def prefersPretty (view : View) : Bool :=
  match Config.load view none with
  | .ok config => config.pretty
  | .error _ => true

def run (request : Request) : Program Ending :=
  match request.expression? with
  | none => .done .usageShown
  | some expression =>
    .observe fun view =>
      (respond request.check (request.directory.getD ".") expression).bind fun response =>
        let layout := Json.Layout.ofPreferences request.compact (prefersPretty view)
        .done (.answered response.success (response.render layout ++ "\n"))

end MemoryKeeper.CommandLine
