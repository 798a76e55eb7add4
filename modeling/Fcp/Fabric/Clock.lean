import Mathlib.Order.Basic
import Fcp.Fabric.FederationDelivery

/-!
# Clock readings

Points in time are ordered by their nanoseconds since the Unix epoch.  The
database keeps whole microseconds of them.
-/

namespace Fcp
namespace Fabric

/-- A signed span of time. -/
structure Duration where
  nanoseconds : Int
  deriving DecidableEq

namespace Duration

/-- A whole number of minutes. -/
def minutes (count : Int) : Duration :=
  ⟨count * 60000000000⟩

/-- A whole number of days. -/
def days (count : Int) : Duration :=
  ⟨count * 86400000000000⟩

/-- No time at all. -/
def zero : Duration :=
  ⟨0⟩

instance : LE Duration where
  le first second := first.nanoseconds ≤ second.nanoseconds

instance : LT Duration where
  lt first second := first.nanoseconds < second.nanoseconds

instance (first second : Duration) : Decidable (first ≤ second) :=
  inferInstanceAs (Decidable (first.nanoseconds ≤ second.nanoseconds))

instance (first second : Duration) : Decidable (first < second) :=
  inferInstanceAs (Decidable (first.nanoseconds < second.nanoseconds))

end Duration

namespace OffsetDateTime

/-- Nanoseconds since the Unix epoch. -/
def unixTimestampNanos (time : OffsetDateTime) : Int :=
  time.unixTimestamp * 1000000000 + time.nanosecond.val

instance : LE OffsetDateTime where
  le first second := first.unixTimestampNanos ≤ second.unixTimestampNanos

instance : LT OffsetDateTime where
  lt first second := first.unixTimestampNanos < second.unixTimestampNanos

instance (first second : OffsetDateTime) : Decidable (first ≤ second) :=
  inferInstanceAs
    (Decidable (first.unixTimestampNanos ≤ second.unixTimestampNanos))

instance (first second : OffsetDateTime) : Decidable (first < second) :=
  inferInstanceAs
    (Decidable (first.unixTimestampNanos < second.unixTimestampNanos))

theorem not_le {first second : OffsetDateTime} :
    ¬first ≤ second ↔ second < first :=
  Int.not_le

/-- The point in time a span later, which panics out of range. -/
def checkedAdd (time : OffsetDateTime) (span : Duration) :
    Option OffsetDateTime :=
  let nanos := time.unixTimestampNanos + span.nanoseconds
  if bounds : -(2 ^ 62) ≤ nanos / 1000000000 ∧ nanos / 1000000000 < 2 ^ 62 then
    some
      { unixTimestamp := nanos / 1000000000
        nanosecond := ⟨(nanos % 1000000000).toNat, by omega⟩
        lower := bounds.1
        upper := bounds.2 }
  else
    none

/-- The whole microsecond that a `TIMESTAMPTZ` column keeps. -/
def timestamptz (time : OffsetDateTime) : OffsetDateTime :=
  { time with
    nanosecond :=
      ⟨time.nanosecond.val / 1000 * 1000, by
        have bounded := time.nanosecond.isLt
        omega⟩ }

/-- Columns are ordered only if the values they were written from are. -/
theorem lt_of_timestamptz_lt
    {first second : OffsetDateTime}
    (earlier : first.timestamptz < second.timestamptz) :
    first < second := by
  change first.unixTimestamp * 1000000000 +
      ((first.nanosecond.val / 1000 * 1000 : Nat) : Int) <
    second.unixTimestamp * 1000000000 +
      ((second.nanosecond.val / 1000 * 1000 : Nat) : Int) at earlier
  change first.unixTimestamp * 1000000000 + (first.nanosecond.val : Int) <
    second.unixTimestamp * 1000000000 + second.nanosecond.val
  have firstBounded := first.nanosecond.isLt
  have secondBounded := second.nanosecond.isLt
  omega

end OffsetDateTime

end Fabric
end Fcp
