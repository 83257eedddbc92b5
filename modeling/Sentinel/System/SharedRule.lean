import Mathlib.Data.List.Dedup
import Sentinel.Gateway.ProcessScrapeRequest
import Sentinel.Recovery.Gate
import Sentinel.Shared.ExtractionValidator

/-!
# One rule for both services

The gateway has the required fields of a job judged as the client wrote them, the recovery engine
as the keys of a dictionary made of them. What the verdict says, and why the two agree on it.

* `Verdict` — what a verdict says about the requirements and the data
* `validate_verdict` — the validator gives such a verdict, for any list and any data
-/

namespace Sentinel

open Lib ExtractionValidator RecoveryQueueConsumer

/-- The field is absent, or there is nothing but space in it. -/
def Offending (data : Dict String String) (f : String) : Prop :=
  ∀ v, data.get? f = some v → strip v = ""

/-- The verdict `outcome` on `data` with these requirements. -/
structure Verdict (requiredFields : List String) (data : Dict String String)
    (outcome : ExtractionOutcome) : Prop where
  success : outcome.isSuccess = true ↔
    ∀ f ∈ requiredFields, ∃ v, data.get? f = some v ∧ strip v ≠ ""
  /-- The offending fields, in order and as often as they are required. -/
  missing : outcome.missingFields.Sublist requiredFields ∧
    (∀ f, Offending data f → outcome.missingFields.count f = requiredFields.count f) ∧
    ∀ f ∈ outcome.missingFields, Offending data f
  reason : outcome.failureReason = none ↔ outcome.isSuccess = true
  first : ∀ f rest, outcome.missingFields = f :: rest → outcome.failureReason =
    some (if f ∈ data.keys then .emptyRequiredField else .missingRequiredField)
  permuted : ∀ fields : List String, fields.Perm requiredFields →
    (validate fields data).isSuccess = outcome.isSuccess
  deduplicated : (validate requiredFields.dedup data).isSuccess = outcome.isSuccess
  /-- The recovery engine judges the keys of `dict.fromkeys(required_fields, str)`. -/
  engine : (validate (expectedSchema requiredFields).keys data).isSuccess = outcome.isSuccess
  moreData : ∀ data' : Dict String String, (∀ k v, data.get? k = some v → data'.get? k = some v) →
    outcome.isSuccess = true → (validate requiredFields data').isSuccess = true
  fewerFields : ∀ fields : List String, (∀ f ∈ fields, f ∈ requiredFields) →
    outcome.isSuccess = true → (validate fields data).isSuccess = true
  recoverable : outcome.isSuccess = false →
    RecoveryDecisionPolicy.shouldTriggerRecovery outcome.failureReason = true

section Validate

variable {requiredFields : List String} {data : Dict String String} {f : String}

theorem isBlank_eq_true {v : String} : isBlank v = true ↔ strip v = "" := by
  unfold isBlank
  exact String.isEmpty_iff

theorem isBlank_eq_false {v : String} : isBlank v = false ↔ strip v ≠ "" := by
  rw [← Bool.not_eq_true, isBlank_eq_true]

/-- The test of the validator finds the offending fields. -/
theorem isMissingOrEmpty_iff : isMissingOrEmpty data f = true ↔ Offending data f := by
  unfold isMissingOrEmpty Offending
  cases data.get? f with
  | none => simp
  | some v => simp [isBlank_eq_true]

theorem determineFailureReason_eq : determineFailureReason data f =
    if f ∈ data.keys then .emptyRequiredField else .missingRequiredField := by
  unfold determineFailureReason
  split
  · next h => rw [if_neg (Dict.get?_eq_none_iff.mp h)]
  · next v h => rw [if_pos (Dict.mem_keys_iff_get?.mpr ⟨v, h⟩)]

theorem validate_count (hoff : Offending data f) :
    (validate requiredFields data).missingFields.count f = requiredFields.count f := by
  rw [validate_missingFields]
  exact List.count_filter (isMissingOrEmpty_iff.mpr hoff)

/-- **The validator is exact**, and insensitive to how the requirement is written. -/
theorem validate_verdict (requiredFields : List String) (data : Dict String String) :
    Verdict requiredFields data (validate requiredFields data) where
  success := by
    rw [validate_isSuccess]
    simp only [isBlank_eq_false]
  missing := by
    refine ⟨?_, fun f hoff => validate_count hoff, fun f hf => ?_⟩
    · rw [validate_missingFields]
      exact List.filter_sublist
    · rw [validate_missingFields] at hf
      exact isMissingOrEmpty_iff.mp (List.mem_filter.mp hf).2
  reason := validate_failureReason
  first := by
    intro f rest h
    rw [validate_missingFields] at h
    rw [validate_failureReason_eq, ← List.head?_filter, h, ← determineFailureReason_eq]
    rfl
  permuted := fun _ hperm => validate_isSuccess_congr data fun _ => hperm.mem_iff
  deduplicated := validate_isSuccess_congr data fun _ => List.mem_dedup
  engine := validate_isSuccess_congr data fun _ => mem_expectedSchema_keys
  moreData := fun _ hdata => validate_isSuccess_mono (fun _ hf => hf) hdata
  fewerFields := fun _ hfields => validate_isSuccess_mono hfields fun _ _ h => h
  recoverable := by
    intro h
    rcases validate_failure h with h | h
    · rw [h]; rfl
    · rw [h]; rfl

end Validate

end Sentinel
