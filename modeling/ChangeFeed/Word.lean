/-
# Numbers of 64 bits

The limits of the numbers that settings, positions and revisions are exchanged in.
-/

namespace ChangeFeed

/-- The largest number that 64 bits hold. -/
def maxUInt64 : Nat := 18446744073709551615

/-- The largest number that 64 bits hold beside a sign. -/
def maxInt64 : Int := 9223372036854775807

/-- The least number that 64 bits hold. -/
def minInt64 : Int := -9223372036854775808

end ChangeFeed
