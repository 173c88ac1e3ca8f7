/-
Setup errors: why an interceptor cannot be registered. They appear when signatures
are resolved or settings are read, never during a call.
-/

import Interception.Method

namespace Interception

open Interception.Text

inductive SetupError where
  | unresolved (capability : String) (selector : Selector)
  | malformed (capability : String) (reason : String)
  | invalidSetting (key : String) (reason : String)
  deriving DecidableEq, Repr

namespace SetupError

def blankName (capability : String) : SetupError :=
  .malformed capability "method name is empty"

def missingSetting (key : String) : SetupError :=
  .invalidSetting key "property is required"

def message : SetupError → String
  | .unresolved capability selector =>
      "Could not find method on " ++ capability ++ " named " ++ selector.display
  | .malformed capability reason => "Malformed signature on " ++ capability ++ ": " ++ reason
  | .invalidSetting key reason => "Invalid property '" ++ key ++ "': " ++ reason

def outline : SetupError → Outline
  | .unresolved capability selector =>
      .record "UnresolvedSignature"
        [("capability", .quotedWord capability),
         ("method", .quotedWord selector.name),
         ("args", .quotedList selector.params)]
  | .malformed capability reason =>
      .record "MalformedSignature"
        [("capability", .quotedWord capability), ("reason", .quotedWord reason)]
  | .invalidSetting key reason =>
      .record "InvalidProperty" [("key", .quotedWord key), ("reason", .quotedWord reason)]

end SetupError

end Interception
