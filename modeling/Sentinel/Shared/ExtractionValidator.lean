import Sentinel.Shared.Job

/-!
# The extraction validator

The rule both services apply to extracted data: every required field is there and not blank.
-/

namespace Sentinel

open Lib

structure ExtractionOutcome where
  isSuccess : Bool
  failureReason : Option FailureReason
  missingFields : List String := []
deriving DecidableEq, Repr

namespace ExtractionValidator

def isMissingOrEmpty (extractedData : Dict String String) (fieldName : String) : Bool :=
  match extractedData.get? fieldName with
  | none => true
  | some value => isBlank value

def determineFailureReason (extractedData : Dict String String) (firstMissing : String) :
    FailureReason :=
  match extractedData.get? firstMissing with
  | none => .missingRequiredField
  | some _ => .emptyRequiredField

def validate (requiredFields : List String) (extractedData : Dict String String) :
    ExtractionOutcome :=
  match requiredFields.filter (isMissingOrEmpty extractedData) with
  | [] => { isSuccess := true, failureReason := none, missingFields := [] }
  | firstMissing :: rest =>
    { isSuccess := false
      failureReason := some (determineFailureReason extractedData firstMissing)
      missingFields := firstMissing :: rest }

theorem isMissingOrEmpty_eq_false {d : Dict String String} {f : String} :
    isMissingOrEmpty d f = false ↔ ∃ v, d.get? f = some v ∧ isBlank v = false := by
  unfold isMissingOrEmpty
  cases d.get? f with
  | none => simp
  | some v => simp

/-- **The verdict is exact**: success means that each required field is there and not blank. -/
theorem validate_isSuccess {fields : List String} {d : Dict String String} :
    (validate fields d).isSuccess = true ↔
      ∀ f ∈ fields, ∃ v, d.get? f = some v ∧ isBlank v = false := by
  have hfilter : (validate fields d).isSuccess = true ↔
      fields.filter (isMissingOrEmpty d) = [] := by
    unfold validate
    split
    · next h => simp [h]
    · next h => simp [h]
  rw [hfilter, List.filter_eq_nil_iff]
  exact forall₂_congr fun f _ => by rw [Bool.not_eq_true, isMissingOrEmpty_eq_false]

/-- A verdict carries a reason if and only if it is negative. -/
theorem validate_failureReason {fields : List String} {d : Dict String String} :
    (validate fields d).failureReason = none ↔ (validate fields d).isSuccess = true := by
  unfold validate
  split <;> simp

/-- A negative verdict blames a field that is missing or empty. -/
theorem validate_failure {fields : List String} {d : Dict String String}
    (h : (validate fields d).isSuccess = false) :
    (validate fields d).failureReason = some .missingRequiredField ∨
      (validate fields d).failureReason = some .emptyRequiredField := by
  unfold validate at h ⊢
  split at h
  · cases h
  · next firstMissing rest hfilter =>
    unfold determineFailureReason
    split
    · exact Or.inl rfl
    · exact Or.inr rfl

/-- What is reported missing are the fields that fail the test, in order and with repetitions. -/
theorem validate_missingFields (fields : List String) (d : Dict String String) :
    (validate fields d).missingFields = fields.filter (isMissingOrEmpty d) := by
  unfold validate
  split
  · next h => exact h.symm
  · next h => exact h.symm

/-- The reason is that of the first field that fails the test. -/
theorem validate_failureReason_eq (fields : List String) (d : Dict String String) :
    (validate fields d).failureReason =
      (fields.find? (isMissingOrEmpty d)).map (determineFailureReason d) := by
  rw [← List.head?_filter]
  unfold validate
  split
  · next h => rw [h]; rfl
  · next h => rw [h]; rfl

/-- What succeeds goes on succeeding with fewer requirements, and with more data. -/
theorem validate_isSuccess_mono {fields fields' : List String} {d d' : Dict String String}
    (hfields : ∀ f ∈ fields', f ∈ fields)
    (hd : ∀ k v, d.get? k = some v → d'.get? k = some v)
    (h : (validate fields d).isSuccess = true) : (validate fields' d').isSuccess = true := by
  rw [validate_isSuccess] at h ⊢
  intro f hf
  obtain ⟨v, hv, hblank⟩ := h f (hfields f hf)
  exact ⟨v, hd f v hv, hblank⟩

/-- Success depends on which fields are required, not on how the list is written. -/
theorem validate_isSuccess_congr {fields fields' : List String} (d : Dict String String)
    (hfields : ∀ f, f ∈ fields' ↔ f ∈ fields) :
    (validate fields' d).isSuccess = (validate fields d).isSuccess := by
  rw [Bool.eq_iff_iff]
  exact ⟨validate_isSuccess_mono (fun f => (hfields f).mpr) fun _ _ h => h,
    validate_isSuccess_mono (fun f => (hfields f).mp) fun _ _ h => h⟩

end ExtractionValidator

end Sentinel
