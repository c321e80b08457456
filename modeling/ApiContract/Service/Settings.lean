import ApiContract.Http.Address
import ApiContract.Request.Multipart

/-!
# Settings of a server

## Main definitions

* `ServerSettings` — where a server listens, and its limits
* `ServerSettings.socketAddress?` — the address as a number
-/

namespace ApiContract

/-- Where a server listens, and its limits. Times are in milliseconds; calls that took
longer than `slowCall` are reported. -/
structure ServerSettings where
  address : String := "0.0.0.0:8080"
  requestTimeout : Nat := 30000
  bodyTimeout : Nat := 10000
  shutdownTimeout : Nat := 30000
  maxBodyBytes : Nat := 16 * 1024 * 1024
  slowCall : Option Nat := some 1000
  multipart : MultipartLimits := {}
  deriving Repr

namespace ServerSettings

/-- The settings for a port on all interfaces. -/
def withPort (s : ServerSettings) (port : Nat) : ServerSettings :=
  { s with address := s!"0.0.0.0:{port}" }

/-- The address as a number, if it is one. -/
def socketAddress? (s : ServerSettings) : Option SocketAddress :=
  SocketAddress.read? s.address

end ServerSettings

end ApiContract
