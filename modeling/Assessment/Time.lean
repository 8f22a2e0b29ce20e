import Assessment.Json.Decoding

/-!
# Times

Callers say when each event happens, either in ticks of a logical clock or in milliseconds since
the epoch. Times of different clocks cannot be compared.
-/

namespace Assessment

/-- A moment on one of two clocks. Both count thousandths of a second. -/
inductive Timestamp where
  /-- Ticks of a logical clock. -/
  | logical (ticks : UInt64)
  /-- Milliseconds since the epoch. -/
  | unixMillis (millis : Int64)
  deriving DecidableEq

namespace Timestamp

/-- The thousandths from an earlier moment to a later one: none before it, and at most the greatest
signed word on the clock of the epoch. -/
def millisSince? : Timestamp → Timestamp → Option Nat
  | logical now, logical earlier => some (now.toNat - earlier.toNat)
  | unixMillis now, unixMillis earlier =>
    -- the distance of two words may be twice the greatest of them
    some (min (now.toInt - earlier.toInt).toNat 0x7FFFFFFFFFFFFFFF)
  | _, _ => none

/-- The seconds from an earlier moment to a later one, if both are on one clock. -/
def secondsSince? (now earlier : Timestamp) : Option Float :=
  (millisSince? now earlier).map fun millis => (UInt64.ofNat millis).toFloat / 1000.0

/-- A moment as JSON. -/
def toJson : Timestamp → Json
  | logical ticks => .obj [("kind", .str "logical"), ("value", .ofNat ticks.toNat)]
  | unixMillis millis => .obj [("kind", .str "unix_millis"), ("value", .int millis.toInt)]

/-- The moment that JSON writes. -/
def ofJson? (datum : Datum) : Option Timestamp := do
  let (name, content) ← datum.content? "kind" "value"
  match name, content with
  | "logical", some content => content.uint64?.map logical
  | "unix_millis", some content => content.word?.map unixMillis
  | _, _ => none

end Timestamp

end Assessment
