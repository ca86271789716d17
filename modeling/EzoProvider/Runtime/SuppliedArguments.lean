import EzoProvider.Runtime.CompensationWrites

/-!
# Values sent and payloads supplied

The values a call sends are the ones its arguments were given as payloads,
unless an argument lacks the payload its tag names: then the call goes ahead and
sends the default.
-/

namespace EzoProvider.Runtime

open Interaction Program Devices

/-- A payload given under a name. -/
def ValueMap.Supplies (args : ValueMap) (name : String) (payload : Payload) : Prop :=
  ∃ value, args.find name = some value ∧ value.payload = some payload

/-- A calibration point given by its name. -/
def ValueMap.SuppliesPoint (args : ValueMap) (type : EzoDeviceType) (point : Nat) : Prop :=
  ∃ text, (calibrationPoints type)[point]? = some text ∧ args.Supplies "point" (.string text)

/-- The values of a command were given as payloads. -/
def SuppliedBy (type : EzoDeviceType) (args : ValueMap) : Command → Prop
  | .ledSet _ enabled => args.Supplies "enabled" (.bool enabled)
  | .phCalibration point reference _ =>
      args.SuppliesPoint type point ∧ args.Supplies "reference_ph" (.double (.finite reference))
  | .doCalibration point => args.SuppliesPoint type point
  | .temperatureSet celsius _ => args.Supplies "temperature_c" (.double (.finite celsius))
  | .salinitySet value _ _ => args.Supplies "salinity_us_cm" (.double (.finite value))
  | .pressureSet kilopascals _ => args.Supplies "pressure_kpa" (.double (.finite kilopascals))
  | _ => True

/-- The commands whose values are those of the call: a calibration sets compensation of its
own accord. -/
def FromArguments (functionId : Nat) (command : Command) : Prop :=
  functionId = kFunctionSetCompensation ∨ command.setsCompensation = false

/-! ## Payloads and tags -/

section Payloads

variable {args : ValueMap} {name : String} {value : Value}

theorem ValueMap.Supplies.tagged {payload : Payload} (supplies : args.Supplies name payload)
    (found : args.find name = some value) (type : payload.type = value.type) : value.Tagged := by
  obtain ⟨other, found', given⟩ := supplies
  obtain rfl := Option.some.inj (found.symm.trans found')
  simpa [Value.Tagged, given] using type

/-- A text which is not empty was given. -/
theorem tagged_of_stringValue (type : value.type = .string) (given : value.stringValue ≠ "") :
    value.Tagged := by
  obtain ⟨tag, _ | payload⟩ := value
  · exact absurd rfl given
  · cases payload with
    | string text => exact type.symm
    | _ => exact absurd rfl given

theorem point_tagged {type : EzoDeviceType} (kind : value.type = .string)
    (listed : value.stringValue ∈ calibrationPoints type) : value.Tagged := by
  apply tagged_of_stringValue kind
  intro empty
  rw [empty] at listed
  cases type <;> simp [calibrationPoints] at listed

theorem suppliesPoint_of_tagged {type : EzoDeviceType} (tagged : args.Tagged)
    (found : args.find "point" = some value) (kind : value.type = .string)
    (listed : value.stringValue ∈ calibrationPoints type) :
    args.SuppliesPoint type ((calibrationPoints type).idxOf value.stringValue) := by
  obtain ⟨text, rfl⟩ := Value.string_of_tagged (tagged.of_find found) kind
  exact ⟨text, List.getElem?_idxOf listed, _, found, rfl⟩

theorem supplies_of_givenNumber {number : ℚ}
    (given : givenNumber args.entries name = some number) :
    args.Supplies name (.double (.finite number)) := by
  obtain ⟨entry, found, payload⟩ := Option.bind_eq_some_iff.mp given
  refine ⟨entry.2, by simp [ValueMap.find, found], ?_⟩
  split at payload
  · next number' given' =>
      obtain rfl := Option.some.inj payload
      exact given'
  · cases payload

/-- A map whose values are all under some names. -/
theorem tagged_of_named {names : List String}
    (named : ∀ entry ∈ args.entries, entry.1 ∈ names)
    (tagged : ∀ name ∈ names, ∀ value, args.find name = some value → value.Tagged) :
    args.Tagged := by
  intro entry member
  exact tagged entry.1 (named entry member) entry.2 (ValueMap.find_eq_some_iff.mpr member)

theorem filled_of_tagged (tagged : args.Tagged) : args.filled.entries = args.entries := by
  have same : ∀ entry ∈ args.entries, (entry.1, entry.2.filled) = entry := by
    intro entry member
    rw [Value.filled_of_tagged (tagged entry member)]
  exact (List.map_congr_left same).trans (List.map_id' _)

end Payloads

section Accepted

variable {type : EzoDeviceType} {callArgs : ValueMap} {checked : ControlArgs} {address : Address}

/-- A calibration is accepted at a point of the family only. -/
theorem point_of_calibration
    (accepted : validateCallArgs kFunctionCalibrate type callArgs = .ok checked) :
    ∃ point, callArgs.find "point" = some point ∧ point.type = .string ∧
      point.stringValue ∈ calibrationPoints type := by
  have passed : validateCalibrateArgs type callArgs {} = .ok checked := accepted
  simp only [validateCalibrateArgs] at passed
  cases found : callArgs.find "point" with
  | none =>
      rw [found] at passed
      cases passed
  | some point =>
      simp only [found, passes_unless_iff, ne_eq, not_not] at passed
      exact ⟨point, rfl, passed.1, passed.2.1⟩

/-- The values set are supplied as numbers, when every argument has its payload. -/
theorem supplied_of_fieldCommands {command : Command} (tagged : callArgs.Tagged)
    (accepted : validateCallArgs kFunctionSetCompensation type callArgs = .ok checked)
    (sent : (address, command) ∈ fieldCommands address type checked.compensation) :
    SuppliedBy type callArgs command := by
  obtain ⟨_, rfl⟩ := compensation_of_accepted accepted
  rw [filled_of_tagged tagged] at sent
  obtain ⟨other, member, same⟩ := List.mem_map.mp sent
  obtain rfl := (Prod.mk.inj same).2
  have temperature : other ∈ (givenCompensation callArgs.entries).temperatureC.toList.map
      (.temperatureSet · 2) → SuppliedBy type callArgs other := by
    intro listed
    obtain ⟨number, given, rfl⟩ := List.mem_map.mp listed
    exact supplies_of_givenNumber (Option.mem_toList.mp given)
  cases type with
  | ph => exact temperature member
  | dox =>
      rcases List.mem_append.mp member with earlier | listed
      · rcases List.mem_append.mp earlier with listed | listed
        · exact temperature listed
        · obtain ⟨number, given, rfl⟩ := List.mem_map.mp listed
          exact supplies_of_givenNumber (Option.mem_toList.mp given)
      · obtain ⟨number, given, rfl⟩ := List.mem_map.mp listed
        exact supplies_of_givenNumber (Option.mem_toList.mp given)
  | orp | ec | rtd | hum => cases member

/-- What a call's own command carries is supplied, when every argument has its payload. -/
theorem supplied_of_controlCommand {functionId : Nat} {product : EzoProduct} {restore : Compensation}
    {command : Command} (tagged : callArgs.Tagged)
    (accepted : validateCallArgs functionId type callArgs = .ok checked)
    (chosen : controlCommand functionId type product { checked with restore } = some command) :
    SuppliedBy type callArgs command := by
  simp only [controlCommand] at chosen
  split at chosen
  · cases chosen
    trivial
  split at chosen
  · next led =>
      cases chosen
      subst led
      obtain ⟨value, found, _, kind, rfl⟩ := passes_setLed_iff.mp accepted
      obtain ⟨flag, rfl⟩ := Value.bool_of_tagged (tagged.of_find found) kind
      exact ⟨_, found, rfl⟩
  split at chosen
  · cases chosen
    trivial
  split at chosen
  · next calibrate =>
      subst calibrate
      split at chosen
      · next ph =>
          cases chosen
          subst ph
          obtain ⟨point, found, kind, listed, reference, foundNumber, _, kindNumber, number, finite,
            _, _, rfl⟩ := passes_phCalibration_iff.mp accepted
          obtain ⟨_, rfl⟩ := Value.double_of_tagged (tagged.of_find foundNumber) kindNumber
          cases finite
          exact ⟨suppliesPoint_of_tagged tagged found kind listed, _, foundNumber, rfl⟩
      · next other =>
          cases chosen
          cases type with
          | ph => exact absurd rfl other
          | dox =>
              obtain ⟨point, found, kind, listed, _, rfl⟩ := passes_doCalibration_iff.mp accepted
              exact suppliesPoint_of_tagged tagged found kind listed
          | orp | ec | rtd | hum =>
              obtain ⟨_, _, _, listed⟩ := point_of_calibration accepted
              cases listed
  split at chosen
  · cases chosen
    trivial
  · cases chosen

/-- A function without arguments is accepted with none. -/
theorem size_of_noArgs {functionId : Nat}
    (takes : functionId = kFunctionFind ∨ functionId = kFunctionSleep ∨
      functionId = kFunctionClearCalibration)
    (accepted : validateCallArgs functionId type callArgs = .ok checked) : callArgs.size = 0 := by
  rw [validateCallArgs, if_pos takes] at accepted
  split at accepted
  · cases accepted
  · next empty => exact not_not.mp empty

theorem named_of_single {name : String} {value : Value} (found : callArgs.find name = some value)
    (size : callArgs.size = 1) : ∀ entry ∈ callArgs.entries, entry.1 ∈ [name] := by
  refine (ValueMap.size_eq_iff (List.nodup_singleton _) fun other member => ?_).mp size
  obtain rfl := List.mem_singleton.mp member
  rw [found]
  rfl

theorem named_of_phCalibration {point reference : Value}
    (found : callArgs.find "point" = some point)
    (foundNumber : callArgs.find "reference_ph" = some reference) (size : callArgs.size = 2) :
    ∀ entry ∈ callArgs.entries, entry.1 ∈ ["point", "reference_ph"] := by
  refine (ValueMap.size_eq_iff (by simp) fun name member => ?_).mp size
  simp only [List.mem_cons, List.not_mem_nil, or_false] at member
  rcases member with rfl | rfl
  · rw [found]
    rfl
  · rw [foundNumber]
    rfl

theorem tagged_of_doCalibration
    (accepted : validateCallArgs kFunctionCalibrate .dox callArgs = .ok checked) :
    callArgs.Tagged := by
  obtain ⟨point, found, kind, listed, size, rfl⟩ := passes_doCalibration_iff.mp accepted
  refine tagged_of_named (named_of_single found size) fun name member other found' => ?_
  obtain rfl := List.mem_singleton.mp member
  obtain rfl := Option.some.inj (found.symm.trans found')
  exact point_tagged kind listed

/-- The command of a number given for a field. -/
theorem command_of_field {field : CompensationField} {number : ℚ}
    {entries : List (String × Value)} (member : field ∈ compensationFields type)
    (family : type = .ph ∨ type = .dox)
    (given : givenNumber entries field.name = some number) :
    ∃ command, (address, command) ∈ fieldCommands address type (givenCompensation entries) ∧
      ∀ args, SuppliedBy type args command →
        args.Supplies field.name (.double (.finite number)) := by
  rcases family with rfl | rfl
  · obtain rfl := List.mem_singleton.mp member
    refine ⟨.temperatureSet number 2, ?_, fun args supplied => supplied⟩
    simp [fieldCommands, givenCompensation, given]
  · simp only [compensationFields, if_true, List.mem_cons, List.not_mem_nil, or_false] at member
    rcases member with rfl | rfl | rfl
    · refine ⟨.temperatureSet number 2, ?_, fun args supplied => supplied⟩
      simp [fieldCommands, givenCompensation, given]
    · refine ⟨.salinitySet number .microsiemens 1, ?_, fun args supplied => supplied⟩
      simp [fieldCommands, givenCompensation, given]
    · refine ⟨.pressureSet number 2, ?_, fun args supplied => supplied⟩
      simp [fieldCommands, givenCompensation, given]

end Accepted

theorem jobArgs_eq (device : ActiveDevice) (functionId : Nat) (checked : ControlArgs) :
    jobArgs device functionId checked =
      { checked with restore := (jobArgs device functionId checked).restore } := by
  rw [jobArgs]
  split <;> rfl

/-! ## Runs which send everything -/

/-- A device which answers every command with SUCCESS. -/
def obliging : Responder JobOp JobOp.Result Unit where
  respond _ op :=
    match op with
    | .bind _ => (.ok (), ())
    | .send .. => (.ok 0, ())
    | .readResponse _ => (.ok .success, ())
    | .delay _ | .store _ => ((), ())
    | .readInfo _ | .readOutputConfig _ | .readValue _ | .readOutputs ..
    | .readCalibrationStatus _ | .readTemperature _ | .readSalinity _ | .readPressure _ =>
        (.error .transport, ())

section Jobs

variable [EzoDriver] {address : Address} {type : EzoDeviceType} {args : ControlArgs}

/-- The families with a `set_compensation` can have all its commands sent. -/
theorem sends_setCompensation (family : type = .ph ∨ type = .dox) :
    ∃ trace, (callJob address kFunctionSetCompensation type args).Runs trace .success ∧
      ∀ sent ∈ fieldCommands address type args.compensation, sent ∈ transmitted trace := by
  have obliged := play_runs obliging (callJob address kFunctionSetCompensation type args) ()
  have succeeds : ((callJob address kFunctionSetCompensation type args).play obliging ()).value =
      .success := by
    obtain ⟨_, _, _, ⟨temperature, salinity, pressure⟩, _⟩ := args
    rcases family with rfl | rfl <;> cases temperature <;> cases salinity <;> cases pressure <;> rfl
  rw [succeeds] at obliged
  refine ⟨_, obliged, fun sent member => ?_⟩
  have answered : answeredSuccess none
      ((callJob address kFunctionSetCompensation type args).play obliging ()).trace =
        fieldCommands address type args.compensation := by
    rcases family with rfl | rfl
    · exact answered_of_setCompensation rfl obliged rfl
    · exact answered_of_setCompensation rfl obliged rfl
  rcases (inOrder_of_setCompensation obliged).stops with all | ⟨last, all⟩
  · rwa [all, answered]
  · rw [all, answered]
    exact List.mem_append_left _ member

theorem sends_setLed :
    ∃ trace, (callJob address kFunctionSetLed type args).Runs trace .success ∧
      (address, .ledSet (adapterFor type).expectedProduct args.ledEnabled) ∈ transmitted trace :=
  ⟨_, play_runs obliging _ (), List.mem_singleton_self _⟩

theorem sends_phCalibration :
    ∃ trace, (callJob address kFunctionCalibrate .ph args).Runs trace .success ∧
      (address, .phCalibration args.calibrationPoint args.referencePh kReferencePhDecimals) ∈
        transmitted trace :=
  ⟨_, play_runs obliging _ (), List.mem_singleton_self _⟩

/-! ## The argument of the proof -/

/-- The commands of a call, those it sets compensation with of its own accord aside. -/
theorem command_of_transmitted {functionId : Nat} {trace : JobTrace} {rest : Job}
    {command : Command}
    (advance : (callJob address functionId type args).Advances trace rest)
    (sent : (address, command) ∈ transmitted trace) :
    CallCommands functionId type args command := by
  obtain ⟨⟨op, answer⟩, member, same⟩ := List.mem_filterMap.mp sent
  have serves := ((only_callJob_commands address functionId type args).advances advance).1 _ member
  cases op with
  | send device other =>
      cases same
      rcases serves with ⟨_, called⟩ | ⟨_, impossible⟩
      · exact called
      · cases impossible
  | _ => cases same

section Calls

variable {callArgs : ValueMap} {checked : ControlArgs} {restore : Compensation}

/-- The commands of a job which carry arguments carry supplied values. -/
def CarriesSupplied (address : Address) (type : EzoDeviceType) (functionId : Nat)
    (callArgs : ValueMap) (job : Job) : Prop :=
  ∀ trace rest, job.Advances trace rest → ∀ command, (address, command) ∈ transmitted trace →
    FromArguments functionId command → SuppliedBy type callArgs command

theorem tagged_of_setLed
    (accepted : validateCallArgs kFunctionSetLed type callArgs = .ok checked)
    (supplied : CarriesSupplied address type kFunctionSetLed callArgs
      (callJob address kFunctionSetLed type { checked with restore })) : callArgs.Tagged := by
  obtain ⟨value, found, size, kind, rfl⟩ := passes_setLed_iff.mp accepted
  obtain ⟨trace, run, sent⟩ := @sends_setLed _ address type
    { ledEnabled := value.boolValue, restore := restore }
  have given := supplied trace _ run _ sent (.inr rfl)
  refine tagged_of_named (named_of_single found size) fun name member other found' => ?_
  obtain rfl := List.mem_singleton.mp member
  obtain rfl := Option.some.inj (found.symm.trans found')
  exact given.tagged found kind.symm

theorem tagged_of_phCalibration
    (accepted : validateCallArgs kFunctionCalibrate .ph callArgs = .ok checked)
    (supplied : CarriesSupplied address .ph kFunctionCalibrate callArgs
      (callJob address kFunctionCalibrate .ph { checked with restore })) : callArgs.Tagged := by
  obtain ⟨point, found, kind, listed, reference, foundNumber, size, kindNumber, number, finite, _,
    _, rfl⟩ := passes_phCalibration_iff.mp accepted
  obtain ⟨trace, run, sent⟩ := @sends_phCalibration _ address
    { calibrationPoint := (calibrationPoints .ph).idxOf point.stringValue
      referencePh := number, restore := restore }
  have given := supplied trace _ run _ sent (.inr rfl)
  refine tagged_of_named (named_of_phCalibration found foundNumber size)
    fun name member other found' => ?_
  simp only [List.mem_cons, List.not_mem_nil, or_false] at member
  rcases member with rfl | rfl
  · obtain rfl := Option.some.inj (found.symm.trans found')
    exact point_tagged kind listed
  · obtain rfl := Option.some.inj (foundNumber.symm.trans found')
    exact given.2.tagged foundNumber kindNumber.symm

theorem tagged_of_setCompensation (family : type = .ph ∨ type = .dox)
    (accepted : validateCallArgs kFunctionSetCompensation type callArgs = .ok checked)
    (supplied : CarriesSupplied address type kFunctionSetCompensation callArgs
      (callJob address kFunctionSetCompensation type { checked with restore })) :
    callArgs.Tagged := by
  obtain ⟨fit, rfl⟩ := compensation_of_accepted accepted
  rintro ⟨name, value⟩ member
  have there : (name, value.filled) ∈ callArgs.filled.entries := List.mem_map_of_mem member
  obtain ⟨field, number, named, payload, _⟩ := fit _ there
  obtain rfl : field.name = name := by simpa using List.find?_some named
  have given : givenNumber callArgs.filled.entries field.name = some number := by
    apply ValueMap.givenNumber_of_find
    rw [ValueMap.find_eq_some_iff, ← payload]
    exact there
  obtain ⟨trace, run, sends⟩ := @sends_setCompensation _ address type
    { compensation := givenCompensation callArgs.filled.entries, restore := restore } family
  obtain ⟨command, sent, supplies⟩ :=
    @command_of_field _ address _ _ _ (List.mem_of_find?_eq_some named) family given
  have carried := supplied trace _ run command (sends _ sent) (.inl rfl)
  have double : value.type = .double := by
    rw [← value.type_filled]
    exact congrArg Value.type payload
  exact (supplies _ carried).tagged (ValueMap.find_eq_some_iff.mpr member) double.symm

/-- A call all of whose commands carry supplied values has a payload for every argument. -/
theorem tagged_of_supplied {function : FunctionSpec}
    (declared : function ∈ (buildCapabilities type).functions)
    (accepted : validateCallArgs function.functionId type callArgs = .ok checked)
    (supplied : CarriesSupplied address type function.functionId callArgs
      (callJob address function.functionId type { checked with restore })) : callArgs.Tagged := by
  have noArgs : (function.functionId = kFunctionFind ∨ function.functionId = kFunctionSleep ∨
      function.functionId = kFunctionClearCalibration) → callArgs.Tagged := by
    intro takes entry member
    rw [List.length_eq_zero_iff.mp (size_of_noArgs takes accepted)] at member
    cases member
  rw [buildCapabilities, List.append_assoc, List.mem_append, List.mem_append] at declared
  rcases declared with safe | calibration | compensation
  · simp only [safeFunctionSpecs, List.mem_cons, List.not_mem_nil, or_false] at safe
    rcases safe with rfl | rfl | rfl
    · exact noArgs (.inl rfl)
    · exact tagged_of_setLed accepted supplied
    · exact noArgs (.inr (.inl rfl))
  · cases type with
    | ph =>
        simp only [calibrationFunctionSpecs, List.mem_cons, List.not_mem_nil, or_false]
          at calibration
        rcases calibration with rfl | rfl
        · exact tagged_of_phCalibration accepted supplied
        · exact noArgs (.inr (.inr rfl))
    | dox =>
        simp only [calibrationFunctionSpecs, List.mem_cons, List.not_mem_nil, or_false]
          at calibration
        rcases calibration with rfl | rfl
        · exact tagged_of_doCalibration accepted
        · exact noArgs (.inr (.inr rfl))
    | orp | ec | rtd | hum => cases calibration
  · cases type with
    | ph =>
        obtain rfl := List.mem_singleton.mp compensation
        exact tagged_of_setCompensation (.inl rfl) accepted supplied
    | dox =>
        obtain rfl := List.mem_singleton.mp compensation
        exact tagged_of_setCompensation (.inr rfl) accepted supplied
    | orp | ec | rtd | hum => cases compensation

/-- A call with a payload for every argument sends supplied values only. -/
theorem supplied_of_tagged {functionId : Nat} (tagged : callArgs.Tagged)
    (accepted : validateCallArgs functionId type callArgs = .ok checked) :
    CarriesSupplied address type functionId callArgs
      (callJob address functionId type { checked with restore }) := by
  intro trace rest advance command sent carries
  by_cases sets : functionId = kFunctionSetCompensation
  · subst sets
    have whole := (inOrder_of_setCompensation advance).transmitted
    exact supplied_of_fieldCommands tagged accepted (whole.subset sent)
  · rcases command_of_transmitted advance sent with ⟨setting, _⟩ | chosen
    · rcases carries with set | other
      · exact absurd set sets
      · rw [setting] at other
        cases other
    · exact supplied_of_controlCommand tagged accepted chosen

end Calls

end Jobs

/-! ## Calls of a running provider -/

section Provider

variable [EzoDriver] [DecimalText] [ProviderSdk] {submits : Submits} {world : World} {deviceId : String}
  {device : ActiveDevice}

/-- A call with accepted arguments, of any function a device declares: whatever the device
answers, the values its job sends for the arguments are payloads the caller supplied exactly
when the payload of every argument is of the kind its tag names. -/
theorem sent_supplied_iff (reachable : (provider submits).Reachable world)
    (found : world.state.find deviceId = some device) {function : FunctionSpec}
    (declared : function ∈ device.capabilities.functions) {args : ValueMap} {checked : ControlArgs}
    (accepted : validateCallArgs function.functionId device.spec.type args = .ok checked) :
    CarriesSupplied device.spec.address device.spec.type function.functionId args
        (callJob device.spec.address function.functionId device.spec.type
          (jobArgs device function.functionId checked)) ↔ args.Tagged := by
  rw [(declared_of_reachable reachable found).1] at declared
  rw [jobArgs_eq]
  constructor
  · exact tagged_of_supplied declared accepted
  · exact fun tagged => supplied_of_tagged tagged accepted

end Provider

section Canned

open CannedBus CannedProvider

/-- A value of a type, without a payload. -/
def unset (name : String) (type : ValueType) : String × Value := (name, { type })

theorem sent_supplied_iff_canned :
    let world := started (products .dox fun _ => false) (oneDevice .dox)
      { holding := defaults, powerUp := defaults }
    let device := probeDevice world
    CarriesSupplied device.spec.address device.spec.type kFunctionSetCompensation
      (temperatureArgs 25)
      (callJob device.spec.address kFunctionSetCompensation device.spec.type
        (jobArgs device kFunctionSetCompensation { compensation := { temperatureC := some 25 } })) := by
  intro world device
  have found := @found_probeDevice world (by decide +kernel)
  have type : device.spec.type = .dox := by decide +kernel
  let function : FunctionSpec :=
    { functionId := kFunctionSetCompensation, name := "set_compensation"
      args := (compensationFields .dox).map CompensationField.spec }
  have declared : function ∈ device.capabilities.functions := by decide +kernel
  have accepted : validateCallArgs function.functionId device.spec.type (temperatureArgs 25) =
      .ok { compensation := { temperatureC := some 25 } } := by
    rw [type]
    decide +kernel
  refine (sent_supplied_iff (reachable_started (products .dox fun _ => false) .dox _) found declared
    accepted).mpr ?_
  intro entry member
  obtain rfl := List.mem_singleton.mp member
  rfl

/-- Arguments whose payloads are not set: a pH probe is calibrated at 0, an LED turned off, and
a DO probe compensated for 0 degrees. -/
theorem missing_payload_sent_as_default :
    let calibration : ValueMap :=
      ⟨[("point", ⟨.string, some (.string "mid")⟩), unset "reference_ph" .double], by decide⟩
    let led : ValueMap := ⟨[unset "enabled" .bool], by decide⟩
    let temperature : ValueMap := ⟨[unset "temperature_c" .double], by decide⟩
    let world := started (products .dox fun _ => false) (oneDevice .dox)
      { holding := defaults, powerUp := defaults }
    let called := play (products .dox fun _ => false)
      (call "probe" kFunctionSetCompensation temperature) world
    (∃ checked trace, validateCallArgs kFunctionCalibrate .ph calibration = .ok checked ∧
      (callJob 97 kFunctionCalibrate .ph checked).Runs trace .success ∧
      (97, .phCalibration 0 0 2) ∈ transmitted trace) ∧
    (∃ checked trace, validateCallArgs kFunctionSetLed .ph led = .ok checked ∧
      (callJob 97 kFunctionSetLed .ph checked).Runs trace .success ∧
      (97, .ledSet .ph false) ∈ transmitted trace) ∧
    (provider Line.Submitted).Reachable world ∧
      (provider Line.Submitted).Step world
        (.call "probe" kFunctionSetCompensation temperature called.value) called.final ∧
      called.value.ok = true ∧ (called.final.line.bus 97).holding.temperatureC = 0 ∧
      ∀ payload, ¬ temperature.Supplies "temperature_c" payload := by
  intro calibration led temperature world called
  refine ⟨⟨{ calibrationPoint := 0, referencePh := 0 }, ?_⟩, ⟨{ ledEnabled := false }, ?_⟩,
    reachable_started _ _ _, called_play _ _ _ _ _, ?_, ?_, ?_⟩
  · obtain ⟨trace, run, sent⟩ :=
      @sends_phCalibration _ 97 { calibrationPoint := 0, referencePh := 0 }
    exact ⟨trace, by decide +kernel, run, sent⟩
  · obtain ⟨trace, run, sent⟩ := @sends_setLed _ 97 .ph { ledEnabled := false }
    exact ⟨trace, by decide +kernel, run, sent⟩
  · decide +kernel
  · decide +kernel
  · rintro payload ⟨value, found, given⟩
    cases found
    cases given

end Canned

end EzoProvider.Runtime
