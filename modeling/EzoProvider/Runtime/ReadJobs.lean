import EzoProvider.Devices.Adapters
import EzoProvider.Runtime.Config
import EzoProvider.Runtime.State

/-!
# The other bus jobs

The jobs of the startup probe, of the sample and level reads and of the
compensation check. What a job leaves for its caller it stores.
-/

namespace EzoProvider.Runtime

open Interaction Program Devices

variable [EzoDriver]

/-- The job of `probe_identity_real`. The wait is taken in `uint32_t`. -/
def probeIdentityJob (address : Address) (expectedProduct : EzoProduct) : Job :=
  concludes do
    let device ← bindEzoI2cDevice address
    let hint ← attempt "send info query" (JobOp.issue (.send device (.infoQuery expectedProduct)))
    JobOp.issue (.delay (hint * 1000 % 2 ^ 32))
    let info ← attempt "read info response" (JobOp.issue (.readInfo device))
    JobOp.issue (.store (.info info))

/-- The job of `refresh_device_sample`. -/
def sampleJob (spec : DeviceSpec) : Job :=
  concludes do
    let device ← bindEzoI2cDevice spec.address
    let signals ← (adapterFor spec.type).readSample device
    JobOp.issue (.store (.signals signals))

/-- The job of `refresh_calibration_level`. -/
def calibrationLevelJob (address : Address) (reader : Address → JobM ℚ) : Job :=
  concludes do
    let device ← bindEzoI2cDevice address
    let level ← reader device
    JobOp.issue (.store (.level level))

/-- Send the set values again. -/
def sendAgain (writer : Address → Compensation → JobM Unit) (device : Address)
    (set : Compensation) : JobM Unit :=
  ExceptT.mk do
    match ← (writer device set).run with
    | .ok () => return .ok ()
    | .error written =>
        return .error (makeStatus written.code
          ("probe lost its compensation and sending it again failed: " ++ written.message))

/-- The job of `check_compensation`: read, and if a set value is gone send the set
values and read again. -/
def compensationJob (address : Address) (set : Compensation)
    (reader : Address → JobM CompensationReading)
    (writer : Address → Compensation → JobM Unit) : Job :=
  concludes do
    let device ← bindEzoI2cDevice address
    let reading ← reader device
    JobOp.issue (.store (.reading reading))
    if holdsAll set reading.values then return
    sendAgain writer device set
    JobOp.issue (.store .reapplied)
    let again ← reader device
    JobOp.issue (.store (.reading again))

end EzoProvider.Runtime
