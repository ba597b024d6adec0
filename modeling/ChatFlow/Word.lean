/-!
# Machine words

Some numbers are kept in words of thirty-two or of sixty-four bits.  This module says how many such
words there are and how a word is read as a signed number.
-/

namespace ChatFlow
namespace Word

/-- The number of words of thirty-two bits. -/
def shortCount : Nat := 0x100000000

/-- The number of words of sixty-four bits. -/
def count : Nat := 0x10000000000000000

/-- The number of words of sixty-four bits that are not negative when they are read as signed. -/
def signedCount : Nat := 0x8000000000000000

/-- A number of which sixty-four bits are kept and read as a signed one. -/
def signed (n : Nat) : Int :=
  let word := n % count
  if word < signedCount then word else (word : Int) - count

/-- A number, or the largest word when it does not fit into one. -/
def saturate (n : Nat) : Nat :=
  min n (count - 1)

end Word

/-- A number below half the count of words is its own signed reading. -/
theorem Word.signed_of_lt (n : Nat) (small : n < signedCount) : signed n = n := by
  have bound : n < count := Nat.lt_trans small (by decide)
  simp [signed, Nat.mod_eq_of_lt bound, small]

end ChatFlow
