/-!
# Pairs of names

The order of pairs of names: by the first name, then by the second.
-/

namespace AdMonitor

def compareNames (a b : String × String) : Ordering :=
  (lexOrd : Ord (String × String)).compare a b

instance : Std.TransCmp compareNames :=
  inferInstanceAs (Std.TransCmp (lexOrd : Ord (String × String)).compare)

instance : Std.LawfulEqCmp compareNames :=
  inferInstanceAs (Std.LawfulEqCmp (lexOrd : Ord (String × String)).compare)

end AdMonitor
