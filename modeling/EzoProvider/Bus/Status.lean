/-!
# Operation statuses

The provider's own status vocabulary (`i2c/status.hpp`), used by the bus
executor, the EZO bridge and every device adapter.
-/

namespace EzoProvider

/-- `i2c::StatusCode`. -/
inductive StatusCode where
  | ok
  | invalidArgument
  | notFound
  | unavailable
  | deadlineExceeded
  | cancelled
  | internal
deriving DecidableEq, Repr

/-- `i2c::Status`: a code and its message. -/
structure Status where
  code : StatusCode := .ok
  message : String := "ok"
deriving DecidableEq, Repr

namespace Status

/-- The canonical success status. -/
def success : Status := {}

/-- `Status::is_ok`. -/
def isOk (status : Status) : Bool := status.code = .ok

@[simp] theorem isOk_success : success.isOk = true := rfl

end Status

/-- `make_status`. -/
def makeStatus (code : StatusCode) (message : String) : Status := ⟨code, message⟩

@[simp] theorem isOk_makeStatus (code : StatusCode) (message : String) :
    (makeStatus code message).isOk = decide (code = .ok) := rfl

end EzoProvider
