import Mathlib
import Scaffold.Proofs.Pattern.Copies
import Scaffold.Transform.Apply

/-!
# Modifiers that do not fail

Modifiers are meant to go on whatever their arguments are. Too few arguments and an index that is no
number give the empty text, a text that is no pattern leaves the value as it is, and each of these
is noted. All modifiers but one have a value for all arguments. A replacement has none if there is
an oversight in its pattern: a number of copies in braces that is too large or has too many digits,
or settings that ask for the classes of ASCII as well as for those of Unicode.
-/

namespace Scaffold

namespace Modifier

variable {m : Modifier} {args : List String} {value pattern replacement flags : String}
  {fault : ModifierFault}

end Modifier

end Scaffold
