/-!
# Counts

Counts, positions and distances are numbers of 64 bits.
-/
set_option autoImplicit false

namespace TextQuery

def maxCount : Nat := 0xFFFFFFFFFFFFFFFF

end TextQuery
