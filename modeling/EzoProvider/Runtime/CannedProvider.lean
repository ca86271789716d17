import EzoProvider.Devices.CannedBus
import EzoProvider.Runtime.Provider

/-!
# The provider on a canned bus

A deterministic caller's world to run operations in: every job finishes in time
on the canned bus, the clocks stand still and the host meets its requirements.
-/

namespace EzoProvider.Runtime

open Interaction Program Devices CannedBus

namespace CannedProvider

scoped instance sdk : ProviderSdk where
  exitCode _ := 0
  hostUnmet _ := none
  qualityFrom available hasValue lastReadOk ageMs staleMs :=
    if !available || !hasValue then .unknown
    else if lastReadOk && ageMs ≤ staleMs then .ok
    else .stale

/-- The bus once the job left on the line has come to its end. -/
def cleared (setup : Setup) (line : Line) : Bus :=
  match line.orphan with
  | none => line.bus
  | some job => (CannedBus.run setup job line.bus).final

/-- The canned answers. -/
def respond (setup : Setup) (world : World) : (op : CallerOp) → op.Result × World
  | .locked change => (world.state, { world with state := change world.state })
  | .submit _ _ job =>
      if world.line.running then
        let play := CannedBus.run setup job (cleared setup world.line)
        ({ status := play.value, outputs := outputsOf play.trace },
          { world with line := { world.line with orphan := none, bus := play.final } })
      else ({ status := makeStatus .unavailable "i2c executor is not running" }, world)
  | .systemNow => (0, world)
  | .steadyNow => (world.clock, world)
  | .warn _ => ((), world)
  | .checkHost _ => ([], world)
  | .startExecutor _ => (.success, { world with line := { world.line with running := true } })
  | .stopExecutor => ((), { world with line := { bus := cleared setup world.line } })

/-- The canned answers as a responder. -/
def responder (setup : Setup) : Responder CallerOp CallerOp.Result World where
  respond := respond setup

theorem cleared_cleared (setup : Setup) (line : Line) : line.Cleared (cleared setup line) := by
  obtain ⟨running, orphan, bus⟩ := line
  cases orphan with
  | none => rfl
  | some job => exact ⟨_, _, runs_run setup job bus, path_run setup job bus⟩

/-- The canned answers are answers of the world, if those to submissions are. -/
theorem answers_respond {submits : Submits} (setup : Setup) (world : World) {op : CallerOp}
    (submitted : ∀ name timeoutMs job, op = .submit name timeoutMs job →
      (World.environment submits).Answers world op ((responder setup).respond world op).1
        ((responder setup).respond world op).2) :
    (World.environment submits).Answers world op ((responder setup).respond world op).1
      ((responder setup).respond world op).2 := by
  cases op with
  | submit name timeoutMs job => exact submitted name timeoutMs job rfl
  | locked change => exact ⟨rfl, rfl⟩
  | steadyNow => exact ⟨le_refl _, rfl⟩
  | stopExecutor => exact ⟨_, cleared_cleared setup _, rfl⟩
  | systemNow | warn _ | checkHost _ | startExecutor _ => rfl

theorem faithful (setup : Setup) (world : World) (op : CallerOp) :
    (World.environment Line.Submitted).Answers world op ((responder setup).respond world op).1
      ((responder setup).respond world op).2 := by
  refine answers_respond setup world ?_
  rintro name timeoutMs job rfl
  by_cases running : world.line.running = true
  · simp only [responder, respond, if_pos running]
    exact ⟨_, .finished running (cleared_cleared setup _) (runs_run setup job _)
      (path_run setup job _) .refl, rfl⟩
  · simp only [responder, respond, if_neg running]
    exact ⟨_, .refused (by simpa using running), rfl⟩

/-- Whether an operation goes through with no failure. -/
def delivers (setup : Setup) (world : World) : CallerOp → Bool
  | .submit _ _ job =>
      world.line.running &&
        decide (Succeeds 0 (CannedBus.run setup job (cleared setup world.line)).trace)
  | _ => true

theorem faithful_delivers (setup : Setup) (world : World) (op : CallerOp)
    (delivered : delivers setup world op = true) :
    (World.environment Line.Delivered).Answers world op ((responder setup).respond world op).1
      ((responder setup).respond world op).2 := by
  refine answers_respond setup world ?_
  rintro name timeoutMs job rfl
  obtain ⟨running, succeeds⟩ := Bool.and_eq_true_iff.mp delivered
  simp only [responder, respond, if_pos running]
  exact ⟨_, ⟨_, _, _, _, running, cleared_cleared setup _, runs_run setup job _,
    of_decide_eq_true succeeds, rfl, path_run setup job _, .refl, rfl⟩, rfl⟩

/-- An operation on the canned world. -/
def play {α : Type} (setup : Setup) (operation : Caller α) (world : World) :
    Play CallerOp CallerOp.Result World α :=
  operation.play (responder setup) world

theorem completes_play {α : Type} (setup : Setup) (operation : Caller α) (world : World) :
    Completes (World.environment Line.Submitted) operation world (play setup operation world).value
      (play setup operation world).final :=
  play_completes (faithful setup) operation world

theorem delivered_play {α : Type} {setup : Setup} {operation : Caller α} {world : World}
    (delivered : operation.PlaysWithin (responder setup) (delivers setup) world = true) :
    Completes (World.environment Line.Delivered) operation world (play setup operation world).value
      (play setup operation world).final :=
  play_completes_of (faithful_delivers setup) delivered

/-- The canned world as `initialize` leaves it, of probes which hold their defaults. -/
def started (setup : Setup) (config : ProviderConfig) (probe : Probe) : World :=
  (play setup (initializeRuntime config) { line := { bus := fun _ => probe } }).final

theorem initialized_started (setup : Setup) {config : ProviderConfig} (valid : config.Valid)
    (probe : Probe) :
    Initialized Line.Submitted config (started setup config probe) :=
  ⟨valid, _, completes_play setup (initializeRuntime config) _⟩

/-! Operations of a run, played. -/

theorem called_play (setup : Setup) (deviceId : String) (functionId : Nat) (args : ValueMap)
    (world : World) :
    (provider Line.Submitted).Step world
      (.call deviceId functionId args (play setup (call deviceId functionId args) world).value)
      (play setup (call deviceId functionId args) world).final :=
  .call (completes_play setup _ world)

theorem refreshed_play (setup : Setup) (deviceId : String) (world : World) :
    (provider Line.Submitted).Step world
      (.refresh deviceId (play setup (refreshDeviceSample deviceId) world).value)
      (play setup (refreshDeviceSample deviceId) world).final :=
  .refresh (completes_play setup _ world)

theorem read_play (setup : Setup) (deviceId : String) (signalIds : List String) (world : World) :
    (provider Line.Submitted).Step world
      (.read deviceId signalIds (play setup (read deviceId signalIds) world).value)
      (play setup (read deviceId signalIds) world).final :=
  .read (completes_play setup _ world)

/-- So many refreshes of a device, and whether all their operations went through. -/
def refreshes (setup : Setup) (deviceId : String) : Nat → World → Bool × List Operation × World
  | 0, world => (true, [], world)
  | count + 1, world =>
      let refreshed := play setup (refreshDeviceSample deviceId) world
      let later := refreshes setup deviceId count refreshed.final
      ((refreshDeviceSample deviceId).PlaysWithin (responder setup) (delivers setup) world && later.1,
        .refresh deviceId refreshed.value :: later.2.1, later.2.2)

def respondLate (setup : Setup) (world : World) : (op : CallerOp) → op.Result × World
  | .submit name _ job =>
      (deadlineReply name {},
        { world with line := { world.line with orphan := some (world.line.orphan.getD job) } })
  | op => respond setup world op

def lateResponder (setup : Setup) : Responder CallerOp CallerOp.Result World where
  respond := respondLate setup

/-- Whether a submission can time out. -/
def timesOut (world : World) : CallerOp → Bool
  | .submit _ timeoutMs _ => world.line.running && 0 < timeoutMs
  | _ => true

theorem faithful_late (setup : Setup) (world : World) (op : CallerOp)
    (times : timesOut world op = true) :
    (World.environment Line.Submitted).Answers world op ((lateResponder setup).respond world op).1
      ((lateResponder setup).respond world op).2 := by
  cases op with
  | submit name timeoutMs job =>
      obtain ⟨running, timed⟩ := Bool.and_eq_true_iff.mp times
      obtain ⟨state, ⟨_, orphan, bus⟩, clock⟩ := world
      cases orphan with
      | none =>
          exact ⟨_, .expired running (of_decide_eq_true timed) rfl .refl .nil .refl, rfl⟩
      | some left =>
          exact ⟨_, .skipped running (of_decide_eq_true timed)
            (.advanced rfl .refl .nil .refl), rfl⟩
  | _ => exact faithful setup world _

/-- An operation whose submissions time out. -/
def playLate {α : Type} (setup : Setup) (operation : Caller α) (world : World) :
    Play CallerOp CallerOp.Result World α :=
  operation.play (lateResponder setup) world

theorem completes_playLate {α : Type} {setup : Setup} {operation : Caller α} {world : World}
    (times : operation.PlaysWithin (lateResponder setup) timesOut world = true) :
    Completes (World.environment Line.Submitted) operation world
      (playLate setup operation world).value (playLate setup operation world).final :=
  play_completes_of (faithful_late setup) times

/-- A configuration of one device, behind a mock bus. -/
def oneDevice (type : EzoDeviceType) : ProviderConfig where
  busPath := "mock://canned"
  devices := [{ id := "probe", type, address := 97 }]

theorem valid_oneDevice (type : EzoDeviceType) : (oneDevice type).Valid := by
  refine ⟨?_, ?_, ?_⟩ <;> simp [oneDevice]

/-- The device of such a configuration, once it is active. -/
def probeDevice (world : World) : ActiveDevice :=
  (world.state.find "probe").getD { spec := { id := "" } }

theorem found_probeDevice {world : World} (active : (world.state.find "probe").isSome = true) :
    world.state.find "probe" = some (probeDevice world) := by
  obtain ⟨device, found⟩ := Option.isSome_iff_exists.mp active
  simp [probeDevice, found]

theorem reachable_started (setup : Setup) (type : EzoDeviceType) (probe : Probe) :
    (provider Line.Submitted).Reachable (started setup (oneDevice type) probe) :=
  .initial ⟨_, initialized_started setup (valid_oneDevice type) probe⟩

/-- A call without arguments. -/
def noArgs : ValueMap := ⟨[], .nil⟩

/-- The argument `temperature_c`. -/
def temperatureArgs (celsius : ℚ) : ValueMap where
  entries := [("temperature_c", { type := .double, payload := some (.double (.finite celsius)) })]
  distinct := by simp

/-- The argument `point` of a DO calibration. -/
def pointArgs : ValueMap where
  entries := [("point", { type := .string, payload := some (.string "atmospheric") })]
  distinct := by simp

/-- The canned bus with the product of one family at every address. -/
def products (type : EzoDeviceType) (fails : JobOp → Bool) : Setup where
  product _ := (adapterFor type).expectedProduct
  fails

/-- What a DO probe holds when it is powered up. -/
def defaults : Holding where
  temperatureC := 20
  salinity := 0
  salinityUnit := .microsiemens
  pressureKpa := 1013 / 10

end CannedProvider

end EzoProvider.Runtime
