/-!
A plugin's own version: three numbers, compared in order.
-/

namespace LiveSwap

structure Release where
  major : UInt32
  minor : UInt32
  patch : UInt32
  deriving DecidableEq, Repr

namespace Release

def display (r : Release) : String :=
  toString r.major.toNat ++ "." ++ toString r.minor.toNat ++ "." ++ toString r.patch.toNat

/-- Major before minor before patch. -/
def compare (a b : Release) : Ordering :=
  (Ord.compare a.major b.major).then
    ((Ord.compare a.minor b.minor).then (Ord.compare a.patch b.patch))

end Release

end LiveSwap
