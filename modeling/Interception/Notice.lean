/-
Notices: what is reported while interceptors are registered, objects wrapped and
calls routed. A logbook keeps the notices at or above its threshold, in order. A
computation that can report is one whose effects include `Log.emit`.
-/

import Interception.SetupError

namespace Interception

inductive Level where
  | warn
  | debug
  | trace
  deriving DecidableEq, Repr

def Level.rank : Level → Nat
  | .warn => 0
  | .debug => 1
  | .trace => 2

def Level.label : Level → String
  | .warn => "WARN"
  | .debug => "DEBUG"
  | .trace => "TRACE"

inductive Notice where
  | registryBuilt (capabilities methods : Nat)
  | registered (interceptor : String) (methods : Nat)
  | inapplicable (interceptor target : String)
  | wrapping (target interceptor : String) (capabilities : List String)
  | entered (method : Method) (interceptor : String)
  | forwarded (method : Method) (target : String)
  | misconfigured (interceptor : String) (error : SetupError)
  deriving DecidableEq, Repr

namespace Notice

def level : Notice → Level
  | .registryBuilt _ _ => .debug
  | .registered _ _ => .debug
  | .inapplicable _ _ => .debug
  | .wrapping _ _ _ => .debug
  | .entered _ _ => .trace
  | .forwarded _ _ => .trace
  | .misconfigured _ _ => .warn

def text : Notice → String
  | .registryBuilt capabilities methods =>
      "Built signature registry: " ++ toString capabilities ++ " capabilities, " ++
        toString methods ++ " methods"
  | .registered interceptor methods =>
      "Registered interceptor " ++ interceptor ++ " (" ++ toString methods ++
        " intercepted methods)"
  | .inapplicable interceptor target =>
      "Interceptor " ++ interceptor ++ " does not apply to " ++ target ++
        "; leaving it unwrapped"
  | .wrapping target interceptor capabilities =>
      "Wrapping " ++ target ++ " with interceptor " ++ interceptor ++ " for [" ++
        ", ".intercalate capabilities ++ "]"
  | .entered method interceptor => method.display ++ " -> interceptor " ++ interceptor
  | .forwarded method target => method.display ++ " -> " ++ target
  | .misconfigured interceptor error =>
      "Failed to configure interceptor " ++ interceptor ++ ": " ++ error.message

def line (notice : Notice) : String :=
  notice.level.label ++ " " ++ notice.text

end Notice

/-- Without a threshold nothing is kept. -/
structure Logbook where
  threshold : Option Level
  notices : List Notice

namespace Logbook

def empty (threshold : Option Level) : Logbook :=
  ⟨threshold, []⟩

def keeps (book : Logbook) (level : Level) : Bool :=
  book.threshold.any (fun threshold => level.rank ≤ threshold.rank)

def note (book : Logbook) (notice : Notice) : Logbook :=
  if book.keeps notice.level then { book with notices := book.notices ++ [notice] } else book

end Logbook

class Log (m : Type → Type) where
  emit : Notice → m Unit

end Interception
