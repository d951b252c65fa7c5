import Settle.Bucket
import Settle.Value.Number

/-!
# Taking a number of tokens of any kind

The tokens of a bucket are floats, but a take may ask for any number, and a whole number need
not be a float. So whether there are enough tokens is decided between the exact numbers, and
only what follows is reckoned in floats: the tokens left over, or the time to wait.

Main statement: `draw_null` says that what is no number is refused.
-/

namespace Settle.Bucket

/-- Take as many tokens as a value says at the instant `now`. -/
def draw (b : Bucket Float) (now : Float) (n : Value) :
    Except Misuse (Grant Float × Bucket Float) := do
  let b := b.refill now
  if ← (Value.float b.tokens).atLeast n then
    pure (.taken, { b with tokens := b.tokens - (← n.asFloat?) })
  else if b.rate ≤ Quantity.zero then pure (.never, b)
  else pure (b.prospect (← n.asFloat?), b)

/-- Null is no number of tokens. -/
theorem draw_null (b : Bucket Float) (now : Float) :
    b.draw now .null = .error (.unordered "float" "NoneType") := by
  simp [draw, Value.atLeast_null, bind, Except.bind, Value.kindName]

end Settle.Bucket
