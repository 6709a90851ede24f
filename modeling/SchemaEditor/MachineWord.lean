/-!
# Machine words

The integers that fit into a word of 64 bits with a sign.  Positions in a list,
and integers that are read from numbers with a fraction, must be among them.
-/

namespace SchemaEditor

/-- The least integer beyond the words of 64 bits with a sign. -/
def wordBound : Int := 9223372036854775808

/-- An integer is a word of 64 bits with a sign. -/
def fitsWord (n : Int) : Bool := decide (-wordBound ≤ n ∧ n < wordBound)

end SchemaEditor
