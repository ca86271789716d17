import EzoProvider.Runtime.CannedProvider
import EzoProvider.Runtime.Routine
import EzoProvider.Runtime.Soundness

/-!
# Arguments and their declarations

The functions of a family are declared in its capabilities and their arguments
checked by hand-written code. `accepted_iff` is the agreement of the two, and
`arguments_checked` what a call of a running provider makes of it.
-/

namespace EzoProvider.Runtime

open Devices

/-! ## What a declaration admits -/

/-- The tag a payload goes with. -/
def Payload.type : Payload → ValueType
  | .double _ => .double
  | .int64 _ => .int64
  | .uint64 _ => .uint64
  | .bool _ => .bool
  | .string _ => .string
  | .bytes _ => .bytes

/-- The payload of a value is of the kind its tag names. -/
def Value.Tagged (value : Value) : Prop :=
  match value.payload with
  | some payload => payload.type = value.type
  | none => value.type = .unspecified

/-- Every value of the map is. -/
def ValueMap.Tagged (args : ValueMap) : Prop := ∀ entry ∈ args.entries, entry.2.Tagged

/-- A value as an argument is declared: of its type, a number finite and in its range, a
text one of the allowed ones. -/
structure ArgSpec.Admits (spec : ArgSpec) (value : Value) : Prop where
  type : value.type = spec.type
  number : ∀ double, value.payload = some (.double double) →
    ∃ number, double = .finite number ∧
      ∀ low high, spec.range = some (low, high) → low ≤ number ∧ number ≤ high
  text : ∀ text, value.payload = some (.string text) → text ∈ spec.allowedValues

/-- Arguments as a function is declared: the required ones are there, and every one is
declared and admitted. -/
structure Conforms (function : FunctionSpec) (args : ValueMap) : Prop where
  required : ∀ spec ∈ function.args, spec.required = true → (args.find spec.name).isSome = true
  declared : ∀ entry ∈ args.entries,
    ∃ spec ∈ function.args, spec.name = entry.1 ∧ spec.Admits entry.2

/-- A number given. -/
def givenNumber (entries : List (String × Value)) (name : String) : Option ℚ :=
  (entries.find? (·.1 = name)).bind fun entry =>
    match entry.2.payload with
    | some (.double (.finite number)) => some number
    | _ => none

/-- The compensation given. -/
def givenCompensation (entries : List (String × Value)) : Compensation where
  temperatureC := givenNumber entries "temperature_c"
  salinityUsCm := givenNumber entries "salinity_us_cm"
  pressureKpa := givenNumber entries "pressure_kpa"

/-- The position of the point given among the ones declared. -/
def givenPoint (function : FunctionSpec) (args : ValueMap) : Nat :=
  match function.args.find? (·.name = "point"), args.find "point" with
  | some spec, some value => spec.allowedValues.idxOf value.stringValue
  | _, _ => 0

/-- The arguments given, as the job takes them. -/
def givenArgs (function : FunctionSpec) (args : ValueMap) : ControlArgs where
  ledEnabled := ((args.find "enabled").map Value.boolValue).getD false
  calibrationPoint := givenPoint function args
  referencePh := (givenNumber args.entries "reference_ph").getD 0
  compensation := givenCompensation args.entries
  restore := {}

/-! ## Values of one kind -/

namespace Value

theorem double_of_tagged {value : Value} (tagged : value.Tagged) (type : value.type = .double) :
    ∃ double, value = ⟨.double, some (.double double)⟩ := by
  obtain ⟨tag, _ | payload⟩ := value
  · cases tagged.symm.trans type
  · cases payload <;> cases tagged.trans type
    cases type
    exact ⟨_, rfl⟩

theorem string_of_tagged {value : Value} (tagged : value.Tagged) (type : value.type = .string) :
    ∃ text, value = ⟨.string, some (.string text)⟩ := by
  obtain ⟨tag, _ | payload⟩ := value
  · cases tagged.symm.trans type
  · cases payload <;> cases tagged.trans type
    cases type
    exact ⟨_, rfl⟩

theorem bool_of_tagged {value : Value} (tagged : value.Tagged) (type : value.type = .bool) :
    ∃ flag, value = ⟨.bool, some (.bool flag)⟩ := by
  obtain ⟨tag, _ | payload⟩ := value
  · cases tagged.symm.trans type
  · cases payload <;> cases tagged.trans type
    cases type
    exact ⟨_, rfl⟩

end Value

namespace ArgSpec

variable {spec : ArgSpec} {value : Value}

/-- A number admitted by an argument with a range. -/
theorem admits_double_iff {low high : ℚ} (type : spec.type = .double)
    (range : spec.range = some (low, high)) (tagged : value.Tagged) :
    spec.Admits value ↔
      ∃ number, value = ⟨.double, some (.double (.finite number))⟩ ∧ low ≤ number ∧
        number ≤ high := by
  constructor
  · intro admits
    obtain ⟨double, rfl⟩ := Value.double_of_tagged tagged (admits.type.trans type)
    obtain ⟨number, rfl, within⟩ := admits.number double rfl
    exact ⟨number, rfl, within low high range⟩
  · rintro ⟨number, rfl, within⟩
    constructor
    · exact type.symm
    · rintro _ ⟨⟩
      refine ⟨number, rfl, fun low' high' range' => ?_⟩
      cases range.symm.trans range'
      exact within
    · rintro _ ⟨⟩

theorem admits_string_iff (type : spec.type = .string) (tagged : value.Tagged) :
    spec.Admits value ↔
      ∃ text ∈ spec.allowedValues, value = ⟨.string, some (.string text)⟩ := by
  constructor
  · intro admits
    obtain ⟨text, rfl⟩ := Value.string_of_tagged tagged (admits.type.trans type)
    exact ⟨text, admits.text text rfl, rfl⟩
  · rintro ⟨text, allowed, rfl⟩
    constructor
    · exact type.symm
    · rintro _ ⟨⟩
    · rintro _ ⟨⟩
      exact allowed

theorem admits_bool_iff (type : spec.type = .bool) (tagged : value.Tagged) :
    spec.Admits value ↔ ∃ flag, value = ⟨.bool, some (.bool flag)⟩ := by
  constructor
  · intro admits
    exact Value.bool_of_tagged tagged (admits.type.trans type)
  · rintro ⟨flag, rfl⟩
    constructor
    · exact type.symm
    · rintro _ ⟨⟩
    · rintro _ ⟨⟩

end ArgSpec

/-! ## The map -/

namespace ValueMap

variable {args : ValueMap} {name : String} {value : Value}

/-- A name stands for one value. -/
theorem find_eq_some_iff : args.find name = some value ↔ (name, value) ∈ args.entries := by
  have unique : ∀ entries : List (String × Value), (entries.map Prod.fst).Nodup →
      ((entries.find? (·.1 = name)).map Prod.snd = some value ↔ (name, value) ∈ entries) := by
    intro entries distinct
    induction entries with
    | nil => simp
    | cons entry entries ih =>
        obtain ⟨other, first⟩ := entry
        rw [List.map_cons, List.nodup_cons] at distinct
        by_cases same : other = name
        · subst same
          have absent : (other, value) ∉ entries := fun member =>
            distinct.1 (List.mem_map.mpr ⟨_, member, rfl⟩)
          simp [absent, eq_comm]
        · have different : name ≠ other := fun eq => same eq.symm
          simpa [same, different] using ih distinct.2
  exact unique args.entries args.distinct

theorem isSome_find_iff : (args.find name).isSome = true ↔ name ∈ args.entries.map Prod.fst := by
  rw [Option.isSome_iff_exists, List.mem_map]
  constructor
  · rintro ⟨value, found⟩
    exact ⟨_, find_eq_some_iff.mp found, rfl⟩
  · rintro ⟨⟨name', value⟩, member, rfl⟩
    exact ⟨value, find_eq_some_iff.mpr member⟩

/-- A map with all of some names is of their number when it has no other. -/
theorem size_eq_iff {names : List String} (distinct : names.Nodup)
    (present : ∀ name ∈ names, (args.find name).isSome = true) :
    args.size = names.length ↔ ∀ entry ∈ args.entries, entry.1 ∈ names := by
  have within : names.Subperm (args.entries.map Prod.fst) :=
    distinct.subperm fun name member => isSome_find_iff.mp (present name member)
  constructor
  · intro same entry member
    have perm := within.perm_of_length_le (by simp [← same, size])
    exact perm.mem_iff.mpr (List.mem_map_of_mem member)
  · intro only
    have back : (args.entries.map Prod.fst).Subperm names :=
      args.distinct.subperm fun name member => by
        obtain ⟨entry, there, rfl⟩ := List.mem_map.mp member
        exact only entry there
    have lengths := (within.antisymm back).length_eq
    rw [List.length_map] at lengths
    exact lengths.symm

theorem givenNumber_of_find {number : ℚ}
    (found : args.find name = some ⟨.double, some (.double (.finite number))⟩) :
    givenNumber args.entries name = some number := by
  obtain ⟨entry, there, same⟩ := Option.map_eq_some_iff.mp found
  simp [givenNumber, there, same]

theorem givenNumber_of_absent {entries : List (String × Value)}
    (absent : name ∉ entries.map Prod.fst) : givenNumber entries name = none := by
  have missing : entries.find? (·.1 = name) = none := by
    refine List.find?_eq_none.mpr fun entry member => ?_
    simpa using fun same => absent (List.mem_map.mpr ⟨entry, member, same⟩)
  rw [givenNumber, missing, Option.bind_none]

end ValueMap

/-! ## The checks -/

section Checks

/-- A check goes on past a test exactly when the test does not refuse. -/
theorem passes_unless_iff {α : Type} {condition : Prop} [Decidable condition]
    {refused : AdapterCallResult} {rest : PUnit → Except AdapterCallResult α}
    {second : Except AdapterCallResult α} {value : α} :
    (if condition then throw refused >>= rest else second) = .ok value ↔
      ¬ condition ∧ second = .ok value := by
  by_cases refuses : condition
  · simp only [refuses, not_true, false_and, iff_false]
    rintro ⟨⟩
  · simp [refuses]

theorem passes_pure_iff {α : Type} {given value : α} :
    (pure given : Except AdapterCallResult α) = .ok value ↔ value = given := by
  constructor
  · rintro ⟨⟩
    rfl
  · rintro rfl
    rfl

variable {type : EzoDeviceType} {args : ValueMap} {checked : ControlArgs}

theorem passes_setLed_iff :
    validateCallArgs kFunctionSetLed type args = .ok checked ↔
      ∃ value, args.find "enabled" = some value ∧ args.size = 1 ∧ value.type = .bool ∧
        checked = { ledEnabled := value.boolValue } := by
  rw [validateCallArgs, if_neg (by decide), if_pos rfl]
  cases found : args.find "enabled" with
  | none =>
      constructor
      · rintro ⟨⟩
      · rintro ⟨_, ⟨⟩, _⟩
  | some value =>
      simp only [passes_unless_iff, passes_pure_iff, ne_eq, not_not, Option.some.injEq,
        exists_eq_left']

theorem passes_doCalibration_iff :
    validateCalibrateArgs .dox args {} = .ok checked ↔
      ∃ point, args.find "point" = some point ∧ point.type = .string ∧
        point.stringValue ∈ calibrationPoints .dox ∧ args.size = 1 ∧
          checked = { calibrationPoint := (calibrationPoints .dox).idxOf point.stringValue } := by
  simp only [validateCalibrateArgs]
  cases found : args.find "point" with
  | none =>
      constructor
      · rintro ⟨⟩
      · rintro ⟨_, ⟨⟩, _⟩
  | some point =>
      simp only [passes_unless_iff, passes_pure_iff, ne_eq, not_not, Option.some.injEq,
        exists_eq_left', reduceCtorEq, not_false_eq_true, if_true]

theorem passes_phCalibration_iff :
    validateCalibrateArgs .ph args {} = .ok checked ↔
      ∃ point, args.find "point" = some point ∧ point.type = .string ∧
        point.stringValue ∈ calibrationPoints .ph ∧ ∃ reference,
          args.find "reference_ph" = some reference ∧ args.size = 2 ∧ reference.type = .double ∧
            ∃ number, reference.doubleValue = .finite number ∧ 0 ≤ number ∧ number ≤ 14 ∧
              checked = { calibrationPoint := (calibrationPoints .ph).idxOf point.stringValue
                          referencePh := number } := by
  simp only [validateCalibrateArgs]
  cases found : args.find "point" with
  | none =>
      constructor
      · rintro ⟨⟩
      · rintro ⟨_, ⟨⟩, _⟩
  | some point =>
      simp only [passes_unless_iff, ne_eq, not_not, Option.some.injEq, exists_eq_left',
        not_true_eq_false, if_false]
      refine and_congr_right fun _ => and_congr_right fun _ => ?_
      cases given : args.find "reference_ph" with
      | none =>
          constructor
          · rintro ⟨⟩
          · rintro ⟨_, ⟨⟩, _⟩
      | some reference =>
          simp only [passes_unless_iff, not_not, Option.some.injEq, exists_eq_left']
          refine and_congr_right fun _ => and_congr_right fun _ => ?_
          cases reference.doubleValue with
          | finite number =>
              simp only [passes_unless_iff, passes_pure_iff, not_or, Rat.not_lt,
                Double.finite.injEq, exists_eq_left', and_assoc]
          | _ =>
              constructor
              · rintro ⟨⟩
              · rintro ⟨_, ⟨⟩, _⟩

end Checks

/-! ## Functions -/

section Functions

variable {function : FunctionSpec} {args : ValueMap} {name : String}

theorem Conforms.find_undeclared (conforms : Conforms function args)
    (undeclared : name ∉ function.args.map ArgSpec.name) : args.find name = none := by
  by_contra present
  obtain ⟨value, found⟩ := Option.ne_none_iff_exists'.mp present
  obtain ⟨spec, member, same, _⟩ := conforms.declared _ (ValueMap.find_eq_some_iff.mp found)
  exact undeclared (List.mem_map.mpr ⟨spec, member, same⟩)

theorem Conforms.givenNumber_undeclared (conforms : Conforms function args)
    (undeclared : name ∉ function.args.map ArgSpec.name) :
    givenNumber args.entries name = none := by
  have absent := conforms.find_undeclared undeclared
  apply ValueMap.givenNumber_of_absent
  rw [← ValueMap.isSome_find_iff, absent]
  exact Bool.false_ne_true

/-- Arguments which are all required are there, each of its kind, and nothing else is. -/
theorem conforms_iff_of_required (distinct : (function.args.map ArgSpec.name).Nodup)
    (required : ∀ spec ∈ function.args, spec.required = true) :
    Conforms function args ↔
      (∀ spec ∈ function.args, ∃ value, args.find spec.name = some value ∧ spec.Admits value) ∧
        args.size = function.args.length := by
  have sizes : (∀ spec ∈ function.args, (args.find spec.name).isSome = true) →
      (args.size = function.args.length ↔
        ∀ entry ∈ args.entries, entry.1 ∈ function.args.map ArgSpec.name) := by
    intro present
    rw [← List.length_map (f := ArgSpec.name)]
    refine ValueMap.size_eq_iff distinct fun name member => ?_
    obtain ⟨spec, there, rfl⟩ := List.mem_map.mp member
    exact present spec there
  constructor
  · intro conforms
    have present := fun spec member => conforms.required spec member (required spec member)
    constructor
    · intro spec member
      obtain ⟨value, found⟩ := Option.isSome_iff_exists.mp (present spec member)
      obtain ⟨other, there, same, admits⟩ :=
        conforms.declared _ (ValueMap.find_eq_some_iff.mp found)
      obtain rfl := List.inj_on_of_nodup_map distinct there member same
      exact ⟨value, found, admits⟩
    · refine (sizes present).mpr fun entry member => ?_
      obtain ⟨spec, there, same, _⟩ := conforms.declared entry member
      exact List.mem_map.mpr ⟨spec, there, same⟩
  · rintro ⟨given, size⟩
    have present : ∀ spec ∈ function.args, (args.find spec.name).isSome = true := by
      intro spec member
      obtain ⟨value, found, _⟩ := given spec member
      exact Option.isSome_iff_exists.mpr ⟨value, found⟩
    constructor
    · exact fun spec member _ => present spec member
    · rintro ⟨name, value⟩ member
      obtain ⟨spec, there, rfl⟩ := List.mem_map.mp ((sizes present).mp size _ member)
      obtain ⟨other, found, admits⟩ := given spec there
      obtain rfl := Option.some.inj (found.symm.trans (ValueMap.find_eq_some_iff.mpr member))
      exact ⟨spec, there, rfl, admits⟩

variable {type : EzoDeviceType} {checked : ControlArgs}

theorem accepted_noArgs_iff (none : function.args = [])
    (takes : function.functionId = kFunctionFind ∨ function.functionId = kFunctionSleep ∨
      function.functionId = kFunctionClearCalibration) :
    validateCallArgs function.functionId type args = .ok checked ↔
      Conforms function args ∧ checked = givenArgs function args := by
  have empty : Conforms function args ↔ args.size = 0 := by
    rw [conforms_iff_of_required] <;> simp [none]
  rw [validateCallArgs, if_pos takes, empty]
  by_cases size : args.size = 0
  · have given : givenArgs function args = {} := by
      have conforms := empty.mpr size
      simp [givenArgs, givenCompensation, givenPoint, none, conforms.find_undeclared,
        conforms.givenNumber_undeclared]
    simp [size, given, eq_comm]
  · simp [size]

/-- The value found for an argument, whose tag is its payload's. -/
theorem ValueMap.Tagged.of_find {value : Value} (tagged : args.Tagged)
    (found : args.find name = some value) : value.Tagged :=
  tagged _ (ValueMap.find_eq_some_iff.mp found)

theorem accepted_setLed_iff (tagged : args.Tagged) (id : function.functionId = kFunctionSetLed)
    (declares : function.args = [⟨"enabled", .bool, true, none, []⟩]) :
    validateCallArgs function.functionId type args = .ok checked ↔
      Conforms function args ∧ checked = givenArgs function args := by
  have conforms_iff : Conforms function args ↔
      (∃ flag, args.find "enabled" = some ⟨.bool, some (.bool flag)⟩) ∧ args.size = 1 := by
    rw [conforms_iff_of_required (by simp [declares]) (by simp [declares])]
    simp only [declares, List.mem_singleton, forall_eq, List.length_singleton]
    refine and_congr_left fun _ => ⟨?_, ?_⟩
    · rintro ⟨value, found, admits⟩
      obtain ⟨flag, rfl⟩ := (ArgSpec.admits_bool_iff rfl (tagged.of_find found)).mp admits
      exact ⟨flag, found⟩
    · rintro ⟨flag, found⟩
      exact ⟨_, found, (ArgSpec.admits_bool_iff rfl (tagged.of_find found)).mpr ⟨flag, rfl⟩⟩
  have given : Conforms function args → ∀ flag,
      args.find "enabled" = some ⟨.bool, some (.bool flag)⟩ →
        givenArgs function args = { ledEnabled := flag } := by
    intro conforms flag found
    simp [givenArgs, givenCompensation, givenPoint, declares, found, Value.boolValue,
      conforms.givenNumber_undeclared]
  rw [id, passes_setLed_iff]
  constructor
  · rintro ⟨value, found, size, kind, rfl⟩
    obtain ⟨flag, rfl⟩ := Value.bool_of_tagged (tagged.of_find found) kind
    have conforms := conforms_iff.mpr ⟨⟨flag, found⟩, size⟩
    exact ⟨conforms, (given conforms flag found).symm⟩
  · rintro ⟨conforms, rfl⟩
    obtain ⟨⟨flag, found⟩, size⟩ := conforms_iff.mp conforms
    exact ⟨_, found, size, rfl, given conforms flag found⟩

theorem accepted_doCalibration_iff (tagged : args.Tagged)
    (id : function.functionId = kFunctionCalibrate)
    (declares : function.args = [⟨"point", .string, true, none, calibrationPoints .dox⟩]) :
    validateCallArgs function.functionId .dox args = .ok checked ↔
      Conforms function args ∧ checked = givenArgs function args := by
  have conforms_iff : Conforms function args ↔
      (∃ text ∈ calibrationPoints .dox,
        args.find "point" = some ⟨.string, some (.string text)⟩) ∧ args.size = 1 := by
    rw [conforms_iff_of_required (by simp [declares]) (by simp [declares])]
    simp only [declares, List.mem_singleton, forall_eq, List.length_singleton]
    refine and_congr_left fun _ => ⟨?_, ?_⟩
    · rintro ⟨value, found, admits⟩
      obtain ⟨text, allowed, rfl⟩ :=
        (ArgSpec.admits_string_iff rfl (tagged.of_find found)).mp admits
      exact ⟨text, allowed, found⟩
    · rintro ⟨text, allowed, found⟩
      exact ⟨_, found,
        (ArgSpec.admits_string_iff rfl (tagged.of_find found)).mpr ⟨text, allowed, rfl⟩⟩
  have given : Conforms function args → ∀ text,
      args.find "point" = some ⟨.string, some (.string text)⟩ →
        givenArgs function args =
          { calibrationPoint := (calibrationPoints .dox).idxOf text } := by
    intro conforms text found
    simp [givenArgs, givenCompensation, givenPoint, declares, found, Value.stringValue,
      conforms.givenNumber_undeclared, conforms.find_undeclared]
  rw [id]
  refine Iff.trans passes_doCalibration_iff ?_
  constructor
  · rintro ⟨point, found, kind, allowed, size, rfl⟩
    obtain ⟨text, rfl⟩ := Value.string_of_tagged (tagged.of_find found) kind
    have conforms := conforms_iff.mpr ⟨⟨text, allowed, found⟩, size⟩
    exact ⟨conforms, (given conforms text found).symm⟩
  · rintro ⟨conforms, rfl⟩
    obtain ⟨⟨text, allowed, found⟩, size⟩ := conforms_iff.mp conforms
    exact ⟨_, found, rfl, allowed, size, given conforms text found⟩

theorem accepted_phCalibration_iff (tagged : args.Tagged)
    (id : function.functionId = kFunctionCalibrate)
    (declares : function.args =
      [⟨"point", .string, true, none, calibrationPoints .ph⟩,
        ⟨"reference_ph", .double, true, some (0, 14), []⟩]) :
    validateCallArgs function.functionId .ph args = .ok checked ↔
      Conforms function args ∧ checked = givenArgs function args := by
  have conforms_iff : Conforms function args ↔
      (∃ text ∈ calibrationPoints .ph,
        args.find "point" = some ⟨.string, some (.string text)⟩) ∧
      (∃ number, args.find "reference_ph" = some ⟨.double, some (.double (.finite number))⟩ ∧
        0 ≤ number ∧ number ≤ 14) ∧ args.size = 2 := by
    rw [conforms_iff_of_required (by simp [declares]) (by simp [declares])]
    simp only [declares, List.mem_cons, List.not_mem_nil, or_false, forall_eq_or_imp, forall_eq,
      List.length_cons, List.length_nil, and_assoc]
    refine and_congr ⟨?_, ?_⟩ (and_congr_left fun _ => ⟨?_, ?_⟩)
    · rintro ⟨value, found, admits⟩
      obtain ⟨text, allowed, rfl⟩ :=
        (ArgSpec.admits_string_iff rfl (tagged.of_find found)).mp admits
      exact ⟨text, allowed, found⟩
    · rintro ⟨text, allowed, found⟩
      exact ⟨_, found,
        (ArgSpec.admits_string_iff rfl (tagged.of_find found)).mpr ⟨text, allowed, rfl⟩⟩
    · rintro ⟨value, found, admits⟩
      obtain ⟨number, rfl, within⟩ :=
        (ArgSpec.admits_double_iff rfl rfl (tagged.of_find found)).mp admits
      exact ⟨number, found, within⟩
    · rintro ⟨number, found, within⟩
      exact ⟨_, found,
        (ArgSpec.admits_double_iff rfl rfl (tagged.of_find found)).mpr ⟨number, rfl, within⟩⟩
  have given : Conforms function args → ∀ text number,
      args.find "point" = some ⟨.string, some (.string text)⟩ →
      args.find "reference_ph" = some ⟨.double, some (.double (.finite number))⟩ →
        givenArgs function args =
          { calibrationPoint := (calibrationPoints .ph).idxOf text, referencePh := number } := by
    intro conforms text number point reference
    simp [givenArgs, givenCompensation, givenPoint, declares, point, Value.stringValue,
      conforms.givenNumber_undeclared, conforms.find_undeclared,
      ValueMap.givenNumber_of_find reference]
  rw [id]
  refine Iff.trans passes_phCalibration_iff ?_
  constructor
  · rintro ⟨point, found, kind, allowed, reference, foundNumber, size, kindNumber, number, finite,
      low, high, rfl⟩
    obtain ⟨text, rfl⟩ := Value.string_of_tagged (tagged.of_find found) kind
    obtain ⟨_, rfl⟩ := Value.double_of_tagged (tagged.of_find foundNumber) kindNumber
    cases finite
    have conforms := conforms_iff.mpr
      ⟨⟨text, allowed, found⟩, ⟨number, foundNumber, low, high⟩, size⟩
    exact ⟨conforms, (given conforms text number found foundNumber).symm⟩
  · rintro ⟨conforms, rfl⟩
    obtain ⟨⟨text, allowed, found⟩, ⟨number, foundNumber, low, high⟩, size⟩ :=
      conforms_iff.mp conforms
    exact ⟨_, found, rfl, allowed, _, foundNumber, size, rfl, number, rfl, low, high,
      given conforms text number found foundNumber⟩

/-! The loop over the arguments of `set_compensation`. -/

/-- An argument the loop passes. -/
def Fits (fields : List CompensationField) (entry : String × Value) : Prop :=
  ∃ field number, fields.find? (·.name = entry.1) = some field ∧
    entry.2 = ⟨.double, some (.double (.finite number))⟩ ∧ field.min ≤ number ∧
      number ≤ field.max

theorem passes_compensationArg_iff {fields : List CompensationField}
    {values next : Compensation} {entry : String × Value} (tagged : entry.2.Tagged) :
    validateCompensationArg fields values entry = .ok next ↔
      ∃ field number, fields.find? (·.name = entry.1) = some field ∧
        entry.2 = ⟨.double, some (.double (.finite number))⟩ ∧ field.min ≤ number ∧
          number ≤ field.max ∧ next = field.set values number := by
  obtain ⟨name, value⟩ := entry
  simp only [validateCompensationArg]
  cases fields.find? (·.name = name) with
  | none =>
      constructor
      · rintro ⟨⟩
      · rintro ⟨_, _, ⟨⟩, _⟩
  | some field =>
      simp only [passes_unless_iff, ne_eq, not_not, Option.some.injEq, exists_and_left,
        exists_eq_left']
      constructor
      · rintro ⟨kind, passed⟩
        obtain ⟨double, rfl⟩ := Value.double_of_tagged tagged kind
        cases double with
        | finite number =>
            simp only [Value.doubleValue, passes_unless_iff, passes_pure_iff, not_or,
              Rat.not_lt] at passed
            exact ⟨number, rfl, passed.1.1, passed.1.2, passed.2⟩
        | _ => cases passed
      · rintro ⟨number, rfl, low, high, rfl⟩
        refine ⟨rfl, passes_unless_iff.mpr ⟨?_, rfl⟩⟩
        rw [not_or, Rat.not_lt, Rat.not_lt]
        exact ⟨low, high⟩

theorem givenNumber_cons (entry : String × Value) (entries : List (String × Value))
    (name : String) {number : ℚ}
    (payload : entry.2 = ⟨.double, some (.double (.finite number))⟩) :
    givenNumber (entry :: entries) name =
      if entry.1 = name then some number else givenNumber entries name := by
  by_cases same : entry.1 = name <;> simp [givenNumber, same, payload]

/-- An argument the loop has put in its field is the one given for it. -/
theorem over_set {field : CompensationField} {number : ℚ} {entry : String × Value}
    {entries : List (String × Value)} (values : Compensation)
    (found : (compensationFields type).find? (·.name = entry.1) = some field)
    (payload : entry.2 = ⟨.double, some (.double (.finite number))⟩)
    (absent : entry.1 ∉ entries.map Prod.fst) :
    restoreValues (givenCompensation entries) (field.set values number) =
      restoreValues (givenCompensation (entry :: entries)) values := by
  obtain ⟨name, value⟩ := entry
  obtain rfl : field.name = name := by simpa using List.find?_some found
  have none := ValueMap.givenNumber_of_absent absent
  have member := List.mem_of_find?_eq_some found
  simp only [givenCompensation, restoreValues, givenNumber_cons _ entries _ payload]
  by_cases dox : type = .dox
  · rw [compensationFields, if_pos dox] at member
    simp only [List.mem_cons, List.not_mem_nil, or_false] at member
    rcases member with rfl | rfl | rfl <;> dsimp only at none ⊢ <;> simp [none]
  · rw [compensationFields, if_neg dox] at member
    obtain rfl := List.mem_singleton.mp member
    dsimp only at none ⊢
    simp [none]

/-- The loop passes entries which all fit, and leaves the values given. -/
theorem passes_compensationArgs_iff {entries : List (String × Value)} {values next : Compensation}
    (distinct : (entries.map Prod.fst).Nodup) (tagged : ∀ entry ∈ entries, entry.2.Tagged) :
    entries.foldlM (validateCompensationArg (compensationFields type)) values = .ok next ↔
      (∀ entry ∈ entries, Fits (compensationFields type) entry) ∧
        next = restoreValues (givenCompensation entries) values := by
  induction entries generalizing values with
  | nil => simp [passes_pure_iff, givenCompensation, givenNumber, restoreValues]
  | cons entry entries ih =>
      rw [List.map_cons, List.nodup_cons] at distinct
      have ih' := fun values => @ih values distinct.2 fun entry member =>
        tagged entry (List.mem_cons_of_mem _ member)
      have first := @passes_compensationArg_iff (compensationFields type) values
      rw [List.foldlM_cons]
      constructor
      · intro passed
        cases here : validateCompensationArg (compensationFields type) values entry with
        | error refusal =>
            rw [here] at passed
            cases passed
        | ok middle =>
            rw [here] at passed
            obtain ⟨field, number, found, payload, low, high, rfl⟩ :=
              (first (tagged _ List.mem_cons_self)).mp here
            obtain ⟨fit, rfl⟩ := (ih' _).mp passed
            refine ⟨?_, over_set values found payload distinct.1⟩
            intro other member
            rcases List.mem_cons.mp member with rfl | later
            · exact ⟨field, number, found, payload, low, high⟩
            · exact fit other later
      · rintro ⟨fit, rfl⟩
        obtain ⟨field, number, found, payload, low, high⟩ := fit entry List.mem_cons_self
        rw [(first (tagged _ List.mem_cons_self)).mpr
          ⟨field, number, found, payload, low, high, rfl⟩]
        refine (ih' _).mpr ⟨fun other member => fit other (List.mem_cons_of_mem _ member), ?_⟩
        exact (over_set values found payload distinct.1).symm

/-- The declaration of a field of `set_compensation`. -/
def CompensationField.spec (field : CompensationField) : ArgSpec :=
  ⟨field.name, .double, field.name = "temperature_c", some (field.min, field.max), []⟩

@[simp] theorem name_spec (field : CompensationField) : field.spec.name = field.name := rfl

@[simp] theorem required_spec (field : CompensationField) :
    field.spec.required = decide (field.name = "temperature_c") := rfl

/-- The fields of a family have names of their own. -/
theorem nodup_compensationFields (type : EzoDeviceType) :
    ((compensationFields type).map CompensationField.name).Nodup := by
  rw [compensationFields]
  split <;> simp

/-- What fits a field is what its declaration admits. -/
theorem fits_iff_admits {entry : String × Value} (tagged : entry.2.Tagged) :
    Fits (compensationFields type) entry ↔
      ∃ spec ∈ (compensationFields type).map CompensationField.spec,
        spec.name = entry.1 ∧ spec.Admits entry.2 := by
  constructor
  · rintro ⟨field, number, found, payload, within⟩
    refine ⟨_, List.mem_map_of_mem (List.mem_of_find?_eq_some found), ?_, ?_⟩
    · simpa using List.find?_some found
    · exact (ArgSpec.admits_double_iff rfl rfl tagged).mpr ⟨number, payload, within⟩
  · rintro ⟨_, member, named, admits⟩
    obtain ⟨field, there, rfl⟩ := List.mem_map.mp member
    obtain ⟨number, payload, within⟩ := (ArgSpec.admits_double_iff rfl rfl tagged).mp admits
    cases found : (compensationFields type).find? (·.name = entry.1) with
    | none =>
        have unnamed := List.find?_eq_none.mp found field there
        exact absurd named (by simpa using unnamed)
    | some other =>
        have same : other.name = field.name := by
          have first : other.name = entry.1 := by simpa using List.find?_some found
          exact first.trans named.symm
        obtain rfl := List.inj_on_of_nodup_map (nodup_compensationFields type)
          (List.mem_of_find?_eq_some found) there same
        exact ⟨other, number, found, payload, within⟩

/-- Every family with a `set_compensation` has a field for the temperature. -/
theorem temperature_mem_compensationFields (type : EzoDeviceType) :
    ∃ field ∈ compensationFields type, field.name = "temperature_c" := by
  refine ⟨⟨"temperature_c", kMinTemperatureC, kMaxTemperatureC, "0 and 100",
    fun values number => { values with temperatureC := some number }⟩, ?_, rfl⟩
  rw [compensationFields]
  split <;> exact List.mem_cons_self

/-- Among arguments which fit, a number is given where anything is. -/
theorem isSome_givenNumber_iff (fit : ∀ entry ∈ args.entries, Fits (compensationFields type) entry) :
    (givenNumber args.entries name).isSome = true ↔ (args.find name).isSome = true := by
  cases found : args.entries.find? (·.1 = name) with
  | none => simp [givenNumber, ValueMap.find, found]
  | some entry =>
      obtain ⟨_, number, _, payload, _⟩ := fit entry (List.mem_of_find?_eq_some found)
      simp [givenNumber, ValueMap.find, found, payload]

theorem passes_setCompensation_iff (tagged : args.Tagged) :
    validateCompensationArgs type args {} = .ok checked ↔
      (∀ entry ∈ args.entries, Fits (compensationFields type) entry) ∧
        (args.find "temperature_c").isSome = true ∧
          checked = { compensation := givenCompensation args.entries } := by
  have loop := @passes_compensationArgs_iff type args.entries {}
  rw [validateCompensationArgs]
  cases folded : args.entries.foldlM (validateCompensationArg (compensationFields type)) {} with
  | error refusal =>
      constructor
      · rintro ⟨⟩
      · rintro ⟨fit, _⟩
        have passed := (loop args.distinct tagged).mpr ⟨fit, rfl⟩
        cases folded.symm.trans passed
  | ok compensation =>
      obtain ⟨fit, rfl⟩ := (loop args.distinct tagged).mp folded
      have given : restoreValues (givenCompensation args.entries) {} =
          givenCompensation args.entries := by
        simp [restoreValues]
      have present : ¬ (givenCompensation args.entries).temperatureC.isNone = true ↔
          (args.find "temperature_c").isSome = true := by
        rw [← isSome_givenNumber_iff fit, givenCompensation, Option.isSome_iff_ne_none]
        simp
      refine passes_unless_iff.trans ?_
      rw [passes_pure_iff, given, present]
      exact ⟨fun passed => ⟨fit, passed⟩, fun passed => passed.2⟩

theorem accepted_setCompensation_iff (tagged : args.Tagged)
    (id : function.functionId = kFunctionSetCompensation)
    (declares : function.args = (compensationFields type).map CompensationField.spec) :
    validateCallArgs function.functionId type args = .ok checked ↔
      Conforms function args ∧ checked = givenArgs function args := by
  have conforms_iff : Conforms function args ↔
      (∀ entry ∈ args.entries, Fits (compensationFields type) entry) ∧
        (args.find "temperature_c").isSome = true := by
    have admitted : (∀ entry ∈ args.entries, Fits (compensationFields type) entry) ↔
        ∀ entry ∈ args.entries, ∃ spec ∈ function.args,
          spec.name = entry.1 ∧ spec.Admits entry.2 := by
      rw [declares]
      exact forall₂_congr fun entry member => fits_iff_admits (tagged entry member)
    rw [admitted]
    constructor
    · intro conforms
      refine ⟨conforms.declared, ?_⟩
      obtain ⟨field, member, named⟩ := temperature_mem_compensationFields type
      rw [← named]
      apply conforms.required field.spec
      · rw [declares]
        exact List.mem_map_of_mem member
      · simpa using named
    · rintro ⟨declared, temperature⟩
      refine ⟨fun spec member required => ?_, declared⟩
      rw [declares] at member
      obtain ⟨field, _, rfl⟩ := List.mem_map.mp member
      rw [required_spec, decide_eq_true_eq] at required
      rwa [name_spec, required]
  have given : Conforms function args →
      givenArgs function args = { compensation := givenCompensation args.entries } := by
    intro conforms
    have undeclared : ∀ name ∉ ["temperature_c", "salinity_us_cm", "pressure_kpa"],
        name ∉ function.args.map ArgSpec.name := by
      intro name absent
      simp only [List.mem_cons, List.not_mem_nil, or_false, not_or] at absent
      rw [declares, compensationFields]
      split <;> simp [absent]
    have enabled := conforms.find_undeclared (undeclared "enabled" (by simp))
    have point := conforms.find_undeclared (undeclared "point" (by simp))
    have reference := conforms.givenNumber_undeclared (undeclared "reference_ph" (by simp))
    simp [givenArgs, givenPoint, enabled, point, reference]
  rw [id]
  refine Iff.trans (passes_setCompensation_iff tagged) ?_
  rw [conforms_iff, and_assoc]
  refine and_congr_right fun fit => and_congr_right fun temperature => ?_
  rw [given (conforms_iff.mpr ⟨fit, temperature⟩)]

/-- The agreement of the checks with the declarations of every family: the arguments a
function takes are those it declares, and the job gets them as they are given. -/
theorem accepted_iff [EzoDriver] (declared : function ∈ (buildCapabilities type).functions)
    (tagged : args.Tagged) :
    validateCallArgs function.functionId type args = .ok checked ↔
      Conforms function args ∧ checked = givenArgs function args := by
  rw [buildCapabilities, List.append_assoc, List.mem_append, List.mem_append] at declared
  rcases declared with safe | calibration | compensation
  · simp only [safeFunctionSpecs, List.mem_cons, List.not_mem_nil, or_false] at safe
    rcases safe with rfl | rfl | rfl
    · exact accepted_noArgs_iff rfl (.inl rfl)
    · exact accepted_setLed_iff tagged rfl rfl
    · exact accepted_noArgs_iff rfl (.inr (.inl rfl))
  · cases type with
    | ph =>
        simp only [calibrationFunctionSpecs, List.mem_cons, List.not_mem_nil, or_false]
          at calibration
        rcases calibration with rfl | rfl
        · exact accepted_phCalibration_iff tagged rfl rfl
        · exact accepted_noArgs_iff rfl (.inr (.inr rfl))
    | dox =>
        simp only [calibrationFunctionSpecs, List.mem_cons, List.not_mem_nil, or_false]
          at calibration
        rcases calibration with rfl | rfl
        · exact accepted_doCalibration_iff tagged rfl rfl
        · exact accepted_noArgs_iff rfl (.inr (.inr rfl))
    | orp | ec | rtd | hum => cases calibration
  · cases type with
    | ph | dox =>
        obtain rfl := List.mem_singleton.mp compensation
        exact accepted_setCompensation_iff tagged rfl (by decide +kernel)
    | orp | ec | rtd | hum => cases compensation

end Functions

/-! ## Calls of a running provider -/

section Provider

open Interaction Program TransitionSystem

variable [EzoDriver]

/-- What a device declares is not changed. -/
theorem Effect.declared {deviceId : String} {device device' : ActiveDevice} {round : Round}
    (effect : Effect deviceId device round device') :
    device'.capabilities = device.capabilities ∧
      device'.defaultSignalIds = device.defaultSignalIds := by
  cases effect with
  | @sampled config status signals now nowSteady =>
      obtain ⟨_, same, _⟩ := recordSample_frame device config deviceId status signals now nowSteady
      rw [same]
      exact ⟨rfl, rfl⟩
  | @levelRead status level =>
      obtain ⟨_, _, same⟩ := recordCalibrationLevel_frame device status level
      rw [same]
      exact ⟨rfl, rfl⟩
  | @checked status reading reapplied =>
      obtain ⟨_, _, same⟩ := recordCompensation_frame device status reading reapplied
      rw [same]
      exact ⟨rfl, rfl⟩
  | @recorded functionName message ok now =>
      obtain ⟨_, _, _, same⟩ := recordCall_frame device functionName ok message now
      rw [same]
      exact ⟨rfl, rfl⟩
  | controlled | remembered | elsewhere => exact ⟨rfl, rfl⟩

/-- The functions a device declares have ids of their own. -/
theorem nodup_functionIds (type : EzoDeviceType) :
    ((buildCapabilities type).functions.map FunctionSpec.functionId).Nodup := by
  cases type <;>
    simp [buildCapabilities, safeFunctionSpecs, calibrationFunctionSpecs,
      compensationFunctionSpecs, kFunctionFind, kFunctionSetLed, kFunctionSleep,
      kFunctionCalibrate, kFunctionClearCalibration, kFunctionSetCompensation]

theorem findFunctionById_of_mem {device : ActiveDevice} {function : FunctionSpec}
    (built : device.capabilities = buildCapabilities device.spec.type)
    (declared : function ∈ device.capabilities.functions) :
    findFunctionById device function.functionId = some function := by
  rw [findFunctionById]
  cases found : device.capabilities.functions.find? (·.functionId = function.functionId) with
  | none =>
      have other := List.find?_eq_none.mp found function declared
      simp at other
  | some first =>
      have same : first.functionId = function.functionId := by
        simpa using List.find?_some found
      have member := List.mem_of_find?_eq_some found
      rw [built] at member declared
      rw [List.inj_on_of_nodup_map (nodup_functionIds _) member declared same]

variable [DecimalText] {submits : Submits} {world : World} {deviceId : String}
  {device : ActiveDevice}

/-- A call whose arguments are refused reads the state and the clock, and records the failure. -/
theorem runs_refusedCall {functionId : Nat} {args : ValueMap} {function : FunctionSpec}
    {refusal result : AdapterCallResult} {trace : CallerTrace} {world' : World}
    (found : world.state.find deviceId = some device)
    (declared : findFunctionById device functionId = some function)
    (refused : validateCallArgs functionId device.spec.type args = .error refusal)
    (named : deviceId ≠ "") (run : (call deviceId functionId args).Runs trace result)
    (path : (World.environment submits).Path world trace world') :
    result = refusal ∧ (∀ exchange ∈ trace, ¬ exchange.1.Submits) ∧
      ∃ now, world' = { world with
        state := world.state.update deviceId
          (recordCall function.name false refusal.errorMessage now) } := by
  obtain ⟨_, state, _, rfl, looked, rest⟩ := runs_bind_iff.mp run
  obtain rfl := runs_ask_iff.mp looked
  obtain ⟨_, ⟨rfl, rfl⟩, later⟩ := Environment.path_cons_iff.mp path
  simp only [found, declared, refused, recordCallResult, if_neg named] at rest
  obtain ⟨_, _, _, rfl, recorded, final⟩ := runs_bind_iff.mp rest
  obtain ⟨rfl, rfl⟩ := runs_done_iff.mp final
  obtain ⟨_, now, _, rfl, clock, change⟩ := runs_bind_iff.mp recorded
  obtain rfl := runs_ask_iff.mp clock
  obtain ⟨_, _, _, rfl, changed, ended⟩ := runs_bind_iff.mp change
  obtain rfl := runs_ask_iff.mp changed
  obtain ⟨rfl, _⟩ := runs_done_iff.mp ended
  obtain ⟨_, rfl, later⟩ := Environment.path_cons_iff.mp later
  obtain ⟨_, ⟨_, rfl⟩, nothing⟩ := Environment.path_cons_iff.mp later
  obtain rfl := Environment.path_nil_iff.mp nothing
  refine ⟨rfl, ?_, now, rfl⟩
  simp [CallerOp.Submits]

variable [ProviderSdk]

/-- A device declares what its family does as long as the provider runs. -/
theorem declared_of_reachable (reachable : (provider submits).Reachable world)
    (found : world.state.find deviceId = some device) :
    device.capabilities = buildCapabilities device.spec.type ∧
      device.defaultSignalIds = defaultSignalIdsForType device.spec.type := by
  let property : ActiveDevice → Prop := fun device =>
    device.capabilities = buildCapabilities device.spec.type ∧
      device.defaultSignalIds = defaultSignalIdsForType device.spec.type
  refine @recorded_of_reachable _ _ _ _ _ _ property (fun _ _ _ _ => ⟨rfl, rfl⟩) ?_ reachable _
    found
  rintro deviceId before round after effect ⟨built, defaults⟩
  obtain ⟨capabilities, signalIds⟩ := effect.declared
  constructor
  · exact (capabilities.trans built).trans (by rw [effect.kept.spec])
  · exact (signalIds.trans defaults).trans (by rw [effect.kept.spec])

theorem named_of_reachable (reachable : (provider submits).Reachable world)
    (found : world.state.find deviceId = some device) : deviceId ≠ "" := by
  rw [← RuntimeState.find_id found]
  let property : ActiveDevice → Prop := fun device => device.spec.id ≠ ""
  refine @recorded_of_reachable _ _ _ _ _ _ property ?_ ?_ reachable _ found
  · exact fun valid spec member _ => valid.named spec member
  · intro deviceId before round after effect named
    show after.spec.id ≠ ""
    rwa [effect.kept.spec]

/-- For every function an active device declares: the arguments taken are those which conform
to the declaration, the job gets them as they are given, and a call with others submits
nothing and changes nothing but the record of its failure. -/
theorem arguments_checked (reachable : (provider submits).Reachable world)
    (found : world.state.find deviceId = some device) {function : FunctionSpec}
    (declared : function ∈ device.capabilities.functions) {args : ValueMap}
    (tagged : args.Tagged) :
    ((∃ checked, validateCallArgs function.functionId device.spec.type args = .ok checked) ↔
        Conforms function args) ∧
      (∀ checked, validateCallArgs function.functionId device.spec.type args = .ok checked →
        checked = givenArgs function args) ∧
      (¬ Conforms function args → ∀ trace result world',
        (call deviceId function.functionId args).Runs trace result →
        (World.environment submits).Path world trace world' →
          result.ok = false ∧ (∀ exchange ∈ trace, ¬ exchange.1.Submits) ∧
            ∃ now, world' = { world with
              state := world.state.update deviceId
                (recordCall function.name false result.errorMessage now) }) := by
  have built := (declared_of_reachable reachable found).1
  have listed := declared
  rw [built] at listed
  have accepted := fun checked => @accepted_iff function args device.spec.type checked _ listed tagged
  refine ⟨⟨?_, fun conforms => ⟨_, (accepted _).mpr ⟨conforms, rfl⟩⟩⟩, ?_, ?_⟩
  · rintro ⟨checked, passed⟩
    exact ((accepted checked).mp passed).1
  · intro checked passed
    exact ((accepted checked).mp passed).2
  · intro other trace result world' run path
    cases outcome : validateCallArgs function.functionId device.spec.type args with
    | ok checked => exact absurd ((accepted checked).mp outcome).1 other
    | error refusal =>
        have named := named_of_reachable reachable found
        obtain ⟨rfl, silent, recorded⟩ :=
          runs_refusedCall found (findFunctionById_of_mem built declared) outcome named run path
        exact ⟨refuses_validateCallArgs _ _ _ _ outcome, silent, recorded⟩

end Provider

section Canned

open CannedBus CannedProvider

theorem arguments_checked_canned :
    let world := started (products .dox fun _ => false) (oneDevice .dox)
      { holding := defaults, powerUp := defaults }
    let function : FunctionSpec :=
      { functionId := kFunctionSetCompensation, name := "set_compensation"
        args := (compensationFields .dox).map CompensationField.spec }
    function ∈ (probeDevice world).capabilities.functions ∧
      Conforms function (temperatureArgs 25) ∧
      givenArgs function (temperatureArgs 25) = { compensation := { temperatureC := some 25 } } ∧
      ¬ Conforms function (temperatureArgs 101) := by
  intro world function
  have found := @found_probeDevice world (by decide +kernel)
  have declared : function ∈ (probeDevice world).capabilities.functions := by decide +kernel
  have type : (probeDevice world).spec.type = .dox := by decide +kernel
  have tagged : ∀ celsius, (temperatureArgs celsius).Tagged := by
    intro celsius entry member
    obtain rfl := List.mem_singleton.mp member
    rfl
  have reachable : (provider Line.Submitted).Reachable world :=
    .initial ⟨_, initialized_started (products .dox fun _ => false) (valid_oneDevice .dox) _⟩
  have taken := fun celsius => arguments_checked reachable found declared (tagged celsius)
  rw [type] at taken
  have passes : validateCallArgs function.functionId .dox (temperatureArgs 25) =
      .ok { compensation := { temperatureC := some 25 } } := by decide +kernel
  have fails : validateCallArgs function.functionId .dox (temperatureArgs 101) =
      .error (callOutOfRange "arg 'temperature_c' must be between 0 and 100") := by decide +kernel
  refine ⟨declared, (taken 25).1.mp ⟨_, passes⟩, ((taken 25).2.1 _ passes).symm, ?_⟩
  intro conforms
  obtain ⟨checked, passed⟩ := (taken 101).1.mpr conforms
  cases fails.symm.trans passed

end Canned

end EzoProvider.Runtime
