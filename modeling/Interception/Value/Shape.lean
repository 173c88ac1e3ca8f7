/-
Shapes: the types a caller may ask for by name. Accepting a value at a shape reads
it and writes the result back, so the answer is a value again: an integer asked for
as a floating-point number comes back as one.
-/

import Interception.Value.Reading

namespace Interception

inductive Shape where
  | text
  | truth
  | int8
  | int64
  | nat8
  | nat32
  | nat64
  | float
  | nothing
  | anything
  | textOrNothing
  | integers
  | namedIntegers
  | textAndInteger
  deriving DecidableEq, Repr

namespace Shape

def Carrier : Shape → Type
  | .text => String
  | .truth => Bool
  | .int8 => Int8
  | .int64 => Int64
  | .nat8 => UInt8
  | .nat32 => UInt32
  | .nat64 => UInt64
  | .float => Float
  | .nothing => Unit
  | .anything => Value
  | .textOrNothing => Option String
  | .integers => List Int64
  | .namedIntegers => Named Int64
  | .textAndInteger => String × Int64

instance : (shape : Shape) → Readable shape.Carrier
  | .text => inferInstanceAs (Readable String)
  | .truth => inferInstanceAs (Readable Bool)
  | .int8 => inferInstanceAs (Readable Int8)
  | .int64 => inferInstanceAs (Readable Int64)
  | .nat8 => inferInstanceAs (Readable UInt8)
  | .nat32 => inferInstanceAs (Readable UInt32)
  | .nat64 => inferInstanceAs (Readable UInt64)
  | .float => inferInstanceAs (Readable Float)
  | .nothing => inferInstanceAs (Readable Unit)
  | .anything => inferInstanceAs (Readable Value)
  | .textOrNothing => inferInstanceAs (Readable (Option String))
  | .integers => inferInstanceAs (Readable (List Int64))
  | .namedIntegers => inferInstanceAs (Readable (Named Int64))
  | .textAndInteger => inferInstanceAs (Readable (String × Int64))

instance : (shape : Shape) → Writable shape.Carrier
  | .text => inferInstanceAs (Writable String)
  | .truth => inferInstanceAs (Writable Bool)
  | .int8 => inferInstanceAs (Writable Int8)
  | .int64 => inferInstanceAs (Writable Int64)
  | .nat8 => inferInstanceAs (Writable UInt8)
  | .nat32 => inferInstanceAs (Writable UInt32)
  | .nat64 => inferInstanceAs (Writable UInt64)
  | .float => inferInstanceAs (Writable Float)
  | .nothing => inferInstanceAs (Writable Unit)
  | .anything => inferInstanceAs (Writable Value)
  | .textOrNothing => inferInstanceAs (Writable (Option String))
  | .integers => inferInstanceAs (Writable (List Int64))
  | .namedIntegers => inferInstanceAs (Writable (Named Int64))
  | .textAndInteger => inferInstanceAs (Writable (String × Int64))

def accept (shape : Shape) (value : Value) : Except Misfit Value :=
  (read value : Except Misfit shape.Carrier).map write

end Shape

end Interception
