import Loopback.Config.Validate
import Loopback.Proofs.Sample.Order
import Mathlib.Data.List.TakeWhile

/-! # What is wrong with a configuration

    The checks that need no files look at the numbers first and then at the devices, and report the
    first fault.  There is none exactly if the numbers are within their bounds and the choice of
    devices is possible.

    * `NumbersSound` and `DevicesSound` state this without the checks.
    * `numberFault?_eq_none_iff` and `deviceFault?_eq_none_iff` are both directions of each check.
-/

namespace Loopback

/-- There is no fault if the first check passes and the others find none. -/
theorem fault_or_eq_none {ε : Type} {p : Bool} {err : ε} {others : Option ε} :
    (if p then some err else others) = none ↔ p = false ∧ others = none := by
  cases p <;> simp

/-! ### Names of devices -/

namespace Text

/-- Trimming a text leaves nothing exactly if all of it is blank. -/
theorem trim_eq_empty_iff (text : String) : trim text = "" ↔ isAllBlank text = true := by
  have hchars : trim text = ""
      ↔ (text.toList.dropWhile isBlank).reverse.dropWhile isBlank = [] := by
    rw [trim, String.ofList_eq_empty_iff, List.reverse_eq_nil_iff]
  rw [hchars, List.dropWhile_eq_nil_iff, isAllBlank, List.all_eq_true]
  constructor
  · intro hrest
    -- what is left at the front would begin with a character that is not blank
    have hfront : text.toList.dropWhile isBlank = [] := by
      by_contra hne
      have hhead := List.head_dropWhile_not isBlank hne
      rw [hrest _ (List.mem_reverse.mpr (List.head_mem hne))] at hhead
      cases hhead
    exact List.dropWhile_eq_nil_iff.mp hfront
  · intro hall c hc
    exact hall c ((List.dropWhile_sublist isBlank).mem (List.mem_reverse.mp hc))

end Text

namespace Config

/-- A name that a device can have. -/
structure DeviceName (name : String) : Prop where
  visible : Text.trim name ≠ ""
  short : name.utf8ByteSize ≤ 256
  no_control : ∀ c ∈ name.toList, Text.isControl c = false

theorem deviceNameFault?_eq_none_iff (direction : Direction) (name : Option String) :
    deviceNameFault? direction name = none ↔ ∀ chosen, name = some chosen → DeviceName chosen := by
  cases name with
  | none => simp [deviceNameFault?]
  | some name =>
    have hvisible : Text.isAllBlank name = false ↔ Text.trim name ≠ "" := by
      rw [ne_eq, Text.trim_eq_empty_iff, Bool.not_eq_true]
    have hfit : (decide (maxDeviceNameBytes < name.utf8ByteSize)
          || name.toList.any Text.isControl) = false
        ↔ name.utf8ByteSize ≤ 256 ∧ ∀ c ∈ name.toList, Text.isControl c = false := by
      rw [Bool.or_eq_false_iff, decide_eq_false_iff_not, Nat.not_lt, List.any_eq_false]
      simp only [Bool.not_eq_true]
      rfl
    rw [deviceNameFault?, fault_or_eq_none, fault_or_eq_none, hvisible, hfit]
    constructor
    · rintro ⟨hname, ⟨hshort, hcontrol⟩, -⟩ chosen hchosen
      obtain rfl := Option.some.inj hchosen
      exact ⟨hname, hshort, hcontrol⟩
    · intro h
      obtain ⟨hname, hshort, hcontrol⟩ := h name rfl
      exact ⟨hname, ⟨hshort, hcontrol⟩, rfl⟩

/-- The names of the devices are possible, and no device is named for a simulated run. -/
structure DevicesSound (c : Config) : Prop where
  input : ∀ name, c.inputDevice = some name → DeviceName name
  output : ∀ name, c.outputDevice = some name → DeviceName name
  offline : c.offline = true → c.inputDevice = none ∧ c.outputDevice = none

theorem deviceFault?_eq_none_iff (c : Config) : c.deviceFault? = none ↔ c.DevicesSound := by
  have hoffline : (c.offline && (c.inputDevice.isSome || c.outputDevice.isSome)) = false
      ↔ (c.offline = true → c.inputDevice = none ∧ c.outputDevice = none) := by
    cases c.offline <;> cases c.inputDevice <;> cases c.outputDevice <;> simp
  simp only [deviceFault?, Option.orElse_eq_orElse, Option.orElse_eq_or, Option.or_eq_none_iff,
    deviceNameFault?_eq_none_iff, fault_or_eq_none, hoffline, and_true]
  constructor
  · rintro ⟨hinput, houtput, hnone⟩
    exact ⟨hinput, houtput, hnone⟩
  · rintro ⟨hinput, houtput, hnone⟩
    exact ⟨hinput, houtput, hnone⟩

/-! ### Numbers -/

/-- The decay of the meters is acceptable exactly if it is a number between zero and one. -/
theorem decays_iff (decay : Sample) :
    decays decay = true ↔ decay.isFinite = true ∧ 0 < decay.toRat ∧ decay.toRat < 1 := by
  rw [decays, Bool.and_eq_true, Bool.and_eq_true, and_assoc]
  apply and_congr_right
  intro hfinite
  have hzero : Sample.zero.isFinite = true := by decide
  have hone : Sample.one.isFinite = true := by decide
  rw [Sample.below_iff_toRat_lt hzero hfinite, Sample.below_iff_toRat_lt hfinite hone,
    Sample.toRat_zero, Sample.toRat_one]

/-- The numbers are within their bounds. -/
structure NumbersSound (c : Config) : Prop where
  recordings : 1 ≤ c.maxRecordSeconds ∧ c.maxRecordSeconds ≤ 3600
  duration : 1 ≤ c.durationSecs ∧ c.durationSecs ≤ c.maxRecordSeconds
  interval : 50 ≤ c.statusIntervalMs ∧ c.statusIntervalMs ≤ 10000
  decay : c.peakDecay.isFinite = true ∧ 0 < c.peakDecay.toRat ∧ c.peakDecay.toRat < 1

/-- The two comparisons of a check fail exactly if the number is within its bounds. -/
theorem within_bounds {low high n : Nat} :
    (decide (n < low) || decide (high < n)) = false ↔ low ≤ n ∧ n ≤ high := by
  rw [Bool.or_eq_false_iff, decide_eq_false_iff_not, decide_eq_false_iff_not, Nat.not_lt,
    Nat.not_lt]

theorem numberFault?_eq_none_iff (c : Config) : c.numberFault? = none ↔ c.NumbersSound := by
  rw [numberFault?, fault_or_eq_none, fault_or_eq_none, fault_or_eq_none, fault_or_eq_none,
    within_bounds, within_bounds, within_bounds, Bool.not_eq_false', decays_iff]
  constructor
  · rintro ⟨hrecordings, hduration, hinterval, hdecay, -⟩
    exact ⟨hrecordings, hduration, hinterval, hdecay⟩
  · rintro ⟨hrecordings, hduration, hinterval, hdecay⟩
    exact ⟨hrecordings, hduration, hinterval, hdecay, rfl⟩

end Config

end Loopback
