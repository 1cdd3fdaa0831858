import AvisoServer.Lib.Rejections
import AvisoServer.Requests
import AvisoServer.Validators.CanonicalGeometry
import AvisoServer.Validators.TimeGrammar

/-!
# Errors that name their field

A rejected value is reported with the name of its field at the start of a text. Two handlers have
rejections that start otherwise: dates in a format that cannot be written, and times whose digits
are not ASCII.
-/

namespace AvisoServer

open Rejections

/-! ## 1. Texts -/

/-- Apart from the case of its letters, the text starts with `field '`. -/
def StartsField (message : String) : Prop :=
  "field '".toList <+: (toAsciiLowercase message).toList

@[simp] theorem startsField_append {start : String} (h : StartsField start) (rest : String) :
    StartsField (start ++ rest) := by
  unfold StartsField
  rw [toAsciiLowercase_append, String.toList_append]
  exact h.trans (List.prefix_append _ _)

@[simp] theorem startsField_capital : StartsField "Field '" := by
  unfold StartsField
  decide +kernel

@[simp] theorem startsField_lower : StartsField "field '" := by
  unfold StartsField
  decide +kernel

/-- A text of the error or of one of its causes names a field at its start. -/
def NamesField (e : Error) : Prop := ∃ message ∈ e.chain, StartsField message

theorem rejects_bail {α : Type} {text : String} (h : StartsField text) :
    Rejects NamesField (bail text : Result α) :=
  Rejects.error ⟨text, by simp [Error.chain, ErrorSource.text], h⟩

theorem rejects_check {α : Type} {condition : Prop} [Decidable condition] {text : String}
    (h : StartsField text) {r : Result α} (hr : Rejects NamesField r) :
    Rejects NamesField (if condition then bail text else r) :=
  Rejects.ite (fun _ => rejects_bail h) fun _ => hr

theorem rejects_withContext {α : Type} {text : String} (h : StartsField text) (r : Result α) :
    Rejects NamesField (withContext text r) :=
  Rejects.mapError fun _ _ => ⟨text, by simp [Error.chain], h⟩

/-- A context leaves the texts below it in the chain. -/
theorem Rejects.withContext {α : Type} (text : String) {r : Result α} (h : Rejects NamesField r) :
    Rejects NamesField (AvisoServer.withContext text r) := by
  apply Rejects.mapError
  intro e he
  obtain ⟨message, hmem, hstarts⟩ := h e he
  exact ⟨message, List.mem_cons_of_mem text hmem, hstarts⟩

theorem rejects_prefixError {α : Type} {text : String} (h : StartsField text) (r : Result α) :
    Rejects NamesField (prefixError text r) := by
  apply Rejects.mapError
  intro e _
  exact ⟨text ++ e.toString, by simp [Error.chain, ErrorSource.text], by simp [h]⟩

/-! ## 2. Scalars -/

theorem scalarIdentifierValueAsString_names (lib : Libraries) (fieldName : String) (value : Json) :
    Rejects NamesField
      (NotificationRequest.scalarIdentifierValueAsString lib fieldName value) := by
  cases value with
  | string v => exact Rejects.ok v
  | number v => exact Rejects.ok _
  | bool v => exact Rejects.ok _
  | null => exact rejects_bail (by simp [String.append_assoc])
  | array items => exact rejects_bail (by simp [String.append_assoc])
  | object entries => exact rejects_bail (by simp [String.append_assoc])

theorem StringHandler.names (value : String) (maxLength : Option Nat) (fieldName : String) :
    Rejects NamesField (StringHandler.validateAndCanonicalize value maxLength fieldName) := by
  unfold StringHandler.validateAndCanonicalize
  apply rejects_check (by simp [String.append_assoc])
  cases maxLength with
  | none => exact Rejects.ok value
  | some maxLen => exact rejects_check (by simp [String.append_assoc]) (Rejects.ok value)

theorem EnumHandler.names (toLowercase : String → String) (value : String)
    (allowedValues : List String) (fieldName : String) :
    Rejects NamesField
      (EnumHandler.validateAndCanonicalize toLowercase value allowedValues fieldName) := by
  unfold EnumHandler.validateAndCanonicalize
  exact Rejects.ite (fun _ => Rejects.ok _) fun _ => rejects_bail (by simp [String.append_assoc])

theorem ExpverHandler.names (toLowercase : String → String) (value : String)
    (default : Option String) (fieldName : String) :
    Rejects NamesField
      (ExpverHandler.validateAndCanonicalize toLowercase value default fieldName) := by
  unfold ExpverHandler.validateAndCanonicalize
  apply Rejects.ite
  · intro _
    cases default with
    | none => exact rejects_bail (by simp [String.append_assoc])
    | some defaultVal => exact Rejects.ok _
  · exact fun _ => Rejects.ok _

/-- The text that cannot be read is named by the context, and the number out of range by the
message. -/
theorem IntHandler.names (value : String) (range : Option (Int × Int)) (fieldName : String) :
    Rejects NamesField (IntHandler.validateAndCanonicalize value range fieldName) := by
  unfold IntHandler.validateAndCanonicalize
  apply Rejects.bind
  · exact rejects_withContext (by simp [String.append_assoc]) _
  · intro parsedValue _
    cases range with
    | none => exact Rejects.ok _
    | some bounds => exact rejects_check (by simp [String.append_assoc]) (Rejects.ok _)

theorem FloatHandler.names (value : String) (range : Option (F64 × F64)) (fieldName : String) :
    Rejects NamesField (FloatHandler.validateAndCanonicalize value range fieldName) := by
  unfold FloatHandler.validateAndCanonicalize
  apply Rejects.bind
  · exact rejects_withContext (by simp [String.append_assoc]) _
  · intro parsedValue _
    apply rejects_check (by simp [String.append_assoc])
    cases range with
    | none => exact Rejects.ok _
    | some bounds => exact rejects_check (by simp [String.append_assoc]) (Rejects.ok _)

/-! ## 3. Dates -/

namespace DateHandler

/-- The formats that a date can be written in. -/
def writableFormats : List String := ["%Y%m%d", "%Y-%m-%d"]

theorem parseDate_names (lib : Libraries) (value fieldName : String) :
    Rejects NamesField (parseDate lib value fieldName) := by
  unfold parseDate
  split
  · exact Rejects.ok _
  · exact rejects_bail (by simp [String.append_assoc])

/-- A date that is read is rejected for its format alone. -/
theorem validateAndCanonicalize_read {lib : Libraries} {value fieldName : String} {date : NaiveDate}
    (hread : parseDate lib value fieldName = .ok date) (canonicalFormat : String) :
    validateAndCanonicalize lib value canonicalFormat fieldName =
      if canonicalFormat ∈ writableFormats then .ok (lib.formatDate date canonicalFormat)
      else bail ("Unsupported date format '" ++ canonicalFormat ++ "' for field '" ++ fieldName ++
        "'") := by
  unfold validateAndCanonicalize
  rw [hread]
  show (if canonicalFormat = "%Y%m%d" then Except.ok (lib.formatDate date "%Y%m%d")
    else if canonicalFormat = "%Y-%m-%d" then Except.ok (lib.formatDate date "%Y-%m-%d")
    else bail _) = _
  by_cases hcompact : canonicalFormat = "%Y%m%d"
  · subst hcompact
    rfl
  · by_cases hdashed : canonicalFormat = "%Y-%m-%d"
    · subst hdashed
      rfl
    · rw [if_neg hcompact, if_neg hdashed, if_neg]
      simp [writableFormats, hcompact, hdashed]

/-- A text that is no date is named below the context. -/
theorem names_unread {lib : Libraries} {value fieldName : String}
    (hunread : (parseDate lib value fieldName).isOk = false) (canonicalFormat : String) :
    Rejects NamesField (validateAndCanonicalize lib value canonicalFormat fieldName) := by
  unfold validateAndCanonicalize
  apply Rejects.bind
  · exact Rejects.withContext _ (parseDate_names lib value fieldName)
  · intro date hdate
    rw [(withContext_eq_ok _ _ _).mp hdate] at hunread
    cases hunread

end DateHandler

/-! ## 4. Times -/

namespace TimeHandler

/-- The hours and the minutes that the pattern of the format captures. -/
def captures (lib : Libraries) (value : String) : Option (String × String) :=
  if ':' ∈ value.toList then captureColon lib.isDecimalDigit value.toList
  else if byteLength value = 4 then captureCompact lib.isDecimalDigit value.toList
  else none

/-- Both captures are read as numbers. -/
def readable (captured : String × String) : Bool :=
  (parseInt u32 captured.1).isOk && (parseInt u32 captured.2).isOk

theorem validateHours_names (hours : Int) (fieldName : String) :
    Rejects NamesField (validateHours hours fieldName) := by
  unfold validateHours
  exact rejects_check (by simp [String.append_assoc]) (Rejects.ok ())

theorem validateMinutes_names (minutes : Int) (fieldName : String) :
    Rejects NamesField (validateMinutes minutes fieldName) := by
  unfold validateMinutes
  exact rejects_check (by simp [String.append_assoc]) (Rejects.ok ())

/-- One or two ASCII digits can always be read. -/
theorem handleHourOnlyFormat_names (value fieldName : String) :
    Rejects NamesField (handleHourOnlyFormat value fieldName) := by
  by_cases hword : (∀ c ∈ value.toList, c.isDigit = true) ∧
      (value.toList.length = 1 ∨ value.toList.length = 2)
  · rw [handleHourOnlyFormat_digits fieldName hword.1 hword.2]
    exact Rejects.bind (validateHours_names _ fieldName) fun _ _ => Rejects.ok _
  · rw [handleHourOnlyFormat_none fieldName hword]
    exact Rejects.ok none

theorem parseCaptures_names {captured : String × String} (h : readable captured = true)
    (fieldName : String) :
    Rejects NamesField (parseCaptures captured.1 captured.2 fieldName) := by
  obtain ⟨hhours, hminutes⟩ := Bool.and_eq_true_iff.mp h
  obtain ⟨hours, hhours⟩ := exists_of_isOk hhours
  obtain ⟨minutes, hminutes⟩ := exists_of_isOk hminutes
  unfold parseCaptures
  rw [hhours, hminutes]
  show Rejects NamesField (validateHours hours fieldName >>= fun _ =>
    validateMinutes minutes fieldName >>= fun _ => .ok (hours, minutes))
  apply Rejects.bind (validateHours_names hours fieldName)
  intro _ _
  exact Rejects.bind (validateMinutes_names minutes fieldName) fun _ _ => Rejects.ok _

/-- A captured text is read by its captures, and both captures are short. -/
theorem captures_eq_some {lib : Libraries} {value : String} {captured : String × String}
    (h : captures lib value = some captured) :
    captured.1.toList.length ≤ 2 ∧ captured.2.toList.length ≤ 2 ∧
      ∀ fieldName, ∃ write : Int × Int → String,
        validateAndCanonicalize lib value fieldName =
          write <$> parseCaptures captured.1 captured.2 fieldName := by
  unfold captures at h
  by_cases hcolon : ':' ∈ value.toList
  · rw [if_pos hcolon] at h
    obtain ⟨hours, minutes, -, hwidth, hpair, -, rfl⟩ := captureColon_iff.mp h
    refine ⟨?_, ?_, ?_⟩
    · rw [String.toList_ofList]
      omega
    · rw [String.toList_ofList]
      omega
    intro fieldName
    refine ⟨fun time => zeroPadded 2 time.1.toNat ++ zeroPadded 2 time.2.toNat, ?_⟩
    rw [validateAndCanonicalize_colon lib hcolon]
    unfold handleColonFormat
    rw [h]
    rfl
  · rw [if_neg hcolon] at h
    by_cases hbytes : byteLength value = 4
    · rw [if_pos hbytes] at h
      obtain ⟨hours, minutes, -, hwidth, hpair, -, rfl⟩ := captureCompact_iff.mp h
      refine ⟨?_, ?_, ?_⟩
      · rw [String.toList_ofList]
        omega
      · rw [String.toList_ofList]
        omega
      intro fieldName
      refine ⟨fun _ => value, ?_⟩
      rw [validateAndCanonicalize_compact lib hcolon hbytes]
      unfold handleCompactFormat
      rw [h]
      rfl
    · rw [if_neg hbytes] at h
      cases h

/-- The rejection of a time names its field, unless the pattern captures what is no number. -/
theorem names {lib : Libraries} {value : String}
    (hreadable : ∀ captured, captures lib value = some captured → readable captured = true)
    (fieldName : String) :
    Rejects NamesField (validateAndCanonicalize lib value fieldName) := by
  cases hcaptures : captures lib value with
  | some captured =>
    obtain ⟨write, hwrite⟩ := (captures_eq_some hcaptures).2.2 fieldName
    rw [hwrite]
    exact Rejects.map write (parseCaptures_names (hreadable captured hcaptures) fieldName)
  | none =>
    unfold captures at hcaptures
    unfold validateAndCanonicalize
    apply Rejects.bind (handleHourOnlyFormat_names value fieldName)
    intro hour _
    cases hour with
    | some canonicalTime => exact Rejects.ok canonicalTime
    | none =>
      apply Rejects.ite
      · intro hcolon
        rw [if_pos hcolon] at hcaptures
        unfold handleColonFormat
        rw [hcaptures]
        exact rejects_bail (by simp [String.append_assoc])
      · intro hcolon
        rw [if_neg hcolon] at hcaptures
        apply Rejects.ite
        · intro hbytes
          rw [if_pos hbytes] at hcaptures
          unfold handleCompactFormat
          rw [hcaptures]
          exact rejects_bail (by simp [String.append_assoc])
        · exact fun _ => rejects_bail (by simp [String.append_assoc])

/-- Captures that are no numbers are reported in a text that names the field at its end. -/
theorem unreadable_error {lib : Libraries} {value : String} {captured : String × String}
    (hcaptures : captures lib value = some captured) (hunreadable : readable captured = false)
    (fieldName : String) :
    ∃ part text cause, part ∈ ["Invalid hours ", "Invalid minutes "] ∧
      text.toList.length ≤ 2 ∧ parseInt u32 text = .error cause ∧
      validateAndCanonicalize lib value fieldName =
        .error ⟨[part ++ "'" ++ text ++ "' in field '" ++ fieldName ++ "'"], .message cause⟩ := by
  obtain ⟨hours, minutes, htext⟩ := captures_eq_some hcaptures
  obtain ⟨write, hwrite⟩ := htext fieldName
  unfold parseCaptures at hwrite
  cases hfirst : parseInt u32 captured.1 with
  | error cause =>
    rw [hfirst] at hwrite
    exact ⟨"Invalid hours ", captured.1, cause, by simp, hours, hfirst, hwrite⟩
  | ok hour =>
    cases hsecond : parseInt u32 captured.2 with
    | error cause =>
      rw [hfirst, hsecond] at hwrite
      exact ⟨"Invalid minutes ", captured.2, cause, by simp, minutes, hsecond, hwrite⟩
    | ok minute =>
      unfold readable at hunreadable
      rw [hfirst, hsecond] at hunreadable
      cases hunreadable

end TimeHandler

/-! ## 5. Geometries -/

/-- Coordinates that were read can be printed, so that only the reading is rejected. -/
theorem PolygonHandler.names (lib : Libraries) (value : Json) (fieldName : String) :
    Rejects NamesField (PolygonHandler.validateJsonAndCanonicalize lib value fieldName) := by
  unfold PolygonHandler.validateJsonAndCanonicalize
  apply Rejects.bind
  · exact rejects_prefixError (by simp [String.append_assoc]) _
  · intro coordinates hparse
    apply Rejects.bind
    · exact rejects_prefixError (by simp [String.append_assoc]) _
    · intro _ _
      have hvalid := parsePolygonValue_valid (prefixError_eq_ok.mp hparse)
      rw [coordinatesToJson_valid hvalid]
      exact Rejects.ok _

namespace PointCloudHandler

theorem parsePoints_names (fieldName : String) (index : Nat) (points : List Json) :
    Rejects NamesField (parsePoints fieldName index points) := by
  induction points generalizing index with
  | nil => exact Rejects.ok []
  | cons point points ih =>
    unfold parsePoints
    cases parseCoordinate point with
    | error e =>
      apply Rejects.error
      exact ⟨_, List.mem_cons_self, by simp [String.append_assoc]⟩
    | ok coordinate => exact Rejects.map _ (ih (index + 1))

theorem names (lib : Libraries) (value : Json) (maxPoints : Nat) (fieldName : String) :
    Rejects NamesField (validate lib value maxPoints fieldName) := by
  unfold validate
  apply Rejects.bind
  · unfold parseCoordinates
    apply rejects_check (by simp [String.append_assoc])
    cases value.asArray with
    | none => exact rejects_bail (by simp [String.append_assoc])
    | some points =>
      apply rejects_check (by simp [String.append_assoc])
      exact rejects_check (by simp [String.append_assoc]) (parsePoints_names fieldName 0 points)
  · intro coordinates _
    apply Rejects.bind
    · apply Rejects.mapError
      intro e _
      exact ⟨_, List.mem_cons_self, by simp [String.append_assoc]⟩
    · intro canonical _
      apply Rejects.bind
      · unfold validateSerializedSize
        exact rejects_check (by simp [String.append_assoc]) (Rejects.ok ())
      · exact fun _ _ => Rejects.ok _

end PointCloudHandler

end AvisoServer
