/-
Methods. A selector is what a caller asks for: a name and a list of parameter
types, so one name can be overloaded. A method is a selector together with the
name of the capability that declares it; two methods are the same exactly when all
three parts agree.
-/

import Interception.Text.Outline

namespace Interception

open Interception.Text

structure Selector where
  name : String
  params : List String
  deriving DecidableEq, Repr

def Selector.display (selector : Selector) : String :=
  selector.name ++ "(" ++ ", ".intercalate selector.params ++ ")"

structure Method where
  declaring : String
  selector : Selector
  deriving DecidableEq, Repr

namespace Method

def name (method : Method) : String :=
  method.selector.name

def params (method : Method) : List String :=
  method.selector.params

def arity (method : Method) : Nat :=
  method.params.length

def display (method : Method) : String :=
  method.declaring ++ "::" ++ method.selector.display

def outline (method : Method) : Outline :=
  .record "Method"
    [("declaring", .quotedWord method.declaring),
     ("name", .quotedWord method.name),
     ("params", .quotedList method.params)]

end Method

end Interception
