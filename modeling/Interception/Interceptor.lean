/-
Interceptors: a handler together with a hook that decides how an object is wrapped
with it. The standard hook performs the standard wrap; others may leave an object
alone, wrap it more than once or put another object in its place. A draft is an
interceptor that still takes settings.
-/

import Interception.Object
import Interception.Settings
import Interception.Workshop

namespace Interception

abbrev Hook (m : Type → Type) : Type :=
  (Object m → Build (Object m)) → Object m → Build (Object m)

def Hook.standard {m : Type → Type} : Hook m :=
  fun wrap => wrap

structure Interceptor (m : Type → Type) extends Handler m where
  hook : Hook m

def Handler.interceptor {m : Type → Type} (handler : Handler m) : Interceptor m :=
  { handler with hook := Hook.standard }

/-- What applying settings leaves behind: the interceptor as it is now, and the
reason when the settings were refused. -/
structure Attempt (m : Type → Type) where
  interceptor : Interceptor m
  refusal : Option SetupError

structure Draft (m : Type → Type) where
  interceptor : Interceptor m
  configure : Settings → Attempt m

def Interceptor.draft {m : Type → Type} (interceptor : Interceptor m) : Draft m where
  interceptor := interceptor
  configure _ := ⟨interceptor, none⟩

end Interception
