/-!
# Machine words

The bound below which numbers fit into 64 bits, which is how large a count in a setting, an
argument or a number of a JSON text may be.
-/

namespace PromqlEditor

/-- Numbers below this bound fit into 64 bits. -/
def wordBound : Nat := 0x10000000000000000

end PromqlEditor
