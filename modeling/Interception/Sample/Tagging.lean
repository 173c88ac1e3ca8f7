/-
Sample interceptors. A tagging interceptor writes down each call it sees and puts
its tag in front of every text that comes back; with a short circuit it answers
without proceeding. A passive interceptor only proceeds.
-/

import Interception.Interceptor
import Interception.Journal

namespace Interception

/-- A tagging interceptor: its tag and, if it is to answer by itself, the answer. -/
structure Tagging where
  tag : String
  shortCircuit : Option Value

namespace Tagging

def entry (tagging : Tagging) (method : Method) : String :=
  tagging.tag ++ ":" ++ method.name

def mark (tagging : Tagging) : Value → Value
  | .string text => .string ("[" ++ tagging.tag ++ "] " ++ text)
  | other => other

def intercept {m : Type → Type} [Monad m] [Journal m] (tagging : Tagging)
    (invocation : Invocation m) : m Outcome := do
  Journal.record (tagging.entry invocation.method)
  match tagging.shortCircuit with
  | some value => return .ok value
  | none => return (← invocation.proceed).map tagging.mark

def interceptor {m : Type → Type} [Monad m] [Journal m] (tagging : Tagging) (name : String)
    (signatures : List Signature) : Interceptor m :=
  Handler.interceptor { name, signatures, intercept := tagging.intercept }

end Tagging

def passiveInterceptor {m : Type → Type} (name : String) (signatures : List Signature) :
    Interceptor m :=
  Handler.interceptor { name, signatures, intercept := Invocation.proceed }

end Interception
