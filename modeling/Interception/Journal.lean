/-
Two effects that the samples and scripts make use of: writing down what an
interceptor saw, and counting the calls of a target.
-/

namespace Interception

class Journal (m : Type → Type) where
  record : String → m Unit

class Tally (m : Type → Type) where
  /-- Counts one more call and gives the count, this call included. -/
  tick : Nat → m Nat

end Interception
