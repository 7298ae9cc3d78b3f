import OpenDTP.Protocol.Formats
import OpenDTP.Protocol.Text

/-! NUL bytes in texts. A location report carries its sentence up to the first one, an identity its
description without the last ones. -/

namespace OpenDTP.Protocol
open Common

/-! ### Up to the first NUL -/

theorem untilNul_front (text : Bytes) : untilNul text <+: text := List.takeWhile_prefix _

theorem not_mem_untilNul (text : Bytes) : 0 ∉ untilNul text := by
  intro member
  have nonzero := List.mem_takeWhile_imp (member : 0 ∈ List.takeWhile (· ≠ 0) text)
  exact of_decide_eq_true nonzero rfl

/-- A prefix without NUL goes no further. -/
theorem prefix_untilNul {front text : Bytes} (here : front <+: text) (free : 0 ∉ front) :
    front <+: untilNul text := by
  obtain ⟨rest, rfl⟩ := here
  unfold untilNul
  rw [List.takeWhile_append_of_pos]
  · exact List.prefix_append _ _
  · exact fun _ member => decide_eq_true fun zero => free (zero ▸ member)

theorem untilNul_eq_iff {text : Bytes} : untilNul text = text ↔ 0 ∉ text := by
  constructor
  · intro same
    rw [← same]
    exact not_mem_untilNul text
  · exact untilNul_free

section

variable (native : Endian)

/-- A location report of any sentence that fits its length field arrives with the longest NUL-free
prefix of the sentence, and so unchanged exactly if there is no NUL in it. -/
theorem locationReport_upToNul (data : LocationReport) (fits : data.nmea.length ≤ 65534) :
    ∃ sentence, deserializeLocationReport native (serializeLocationReport native data) =
        some { data with nmea := sentence } ∧
      (sentence <+: data.nmea ∧ 0 ∉ sentence) ∧
      (∀ front, front <+: data.nmea → 0 ∉ front → front <+: sentence) ∧
      (deserializeLocationReport native (serializeLocationReport native data) = some data ↔
        0 ∉ data.nmea) := by
  have arrived := deserializeLocationReport_untilNul native data (by omega) []
  rw [List.append_nil] at arrived
  refine ⟨untilNul data.nmea, arrived, ⟨untilNul_front _, not_mem_untilNul _⟩,
    fun front here free => prefix_untilNul here free, ?_⟩
  rw [arrived, ← untilNul_eq_iff, Option.some.injEq]
  constructor
  · exact congrArg LocationReport.nmea
  · intro same
    rw [same]

end

/-- A sentence with a NUL inside and one at its end. -/
def cut : Bytes := [0x24, 0x47, 0, 0x50, 0]

theorem locationReport_upToNul_cut : ∃ sentence,
    deserializeLocationReport .big (serializeLocationReport .big ⟨7, cut⟩) =
        some ⟨7, sentence⟩ ∧
      (sentence <+: cut ∧ 0 ∉ sentence) ∧
      (∀ front, front <+: cut → 0 ∉ front → front <+: sentence) ∧
      (deserializeLocationReport .big (serializeLocationReport .big ⟨7, cut⟩) = some ⟨7, cut⟩ ↔
        0 ∉ cut) :=
  locationReport_upToNul .big ⟨7, cut⟩ (by decide)

/-! ### Without the last NULs -/

/-- The text without the NUL bytes at its end. -/
def trimmed (text : Bytes) : Bytes := text.rdropWhile (· == 0)

theorem trimmed_trimmed (text : Bytes) : trimmed (trimmed text) = trimmed text :=
  List.rdropWhile_idempotent _ _

/-- Only NUL bytes are missing, and the last byte that is left is none. -/
theorem trimmed_split (text : Bytes) :
    (∃ count, text = trimmed text ++ List.replicate count 0) ∧
      ∀ front byte, trimmed text = front ++ [byte] → byte ≠ 0 := by
  constructor
  · refine ⟨(text.rtakeWhile (· == 0)).length, ?_⟩
    have zeros : text.rtakeWhile (· == 0) =
        List.replicate (text.rtakeWhile (· == 0)).length 0 := by
      rw [List.eq_replicate_iff]
      refine ⟨rfl, fun byte member => ?_⟩
      have zero := List.mem_rtakeWhile_imp (p := (· == 0)) member
      exact eq_of_beq zero
    calc text = trimmed text ++ text.rtakeWhile (· == 0) :=
          List.rdropWhile_append_rtakeWhile.symm
      _ = _ := by rw [← zeros]
  · rintro front byte ends rfl
    have again := trimmed_trimmed text
    rw [ends, trimmed, List.rdropWhile_concat_pos _ _ _ (by rfl)] at again
    have shorter := (List.rdropWhile_prefix (p := (· == 0)) front).length_le
    rw [again, List.length_append] at shorter
    exact Nat.not_succ_le_self _ shorter

section

variable (native : Endian)

theorem serializeVersionData_eq (data : VersionData) :
    serializeVersionData native data =
      wire native data.dmrId ++ (wire native data.service.raw ++ data.description) := by
  unfold serializeVersionData writeBytes
  simp only [writeLE_eq, List.nil_append, List.append_assoc]

theorem deserializeVersionData_serializeVersionData (data : VersionData) :
    deserializeVersionData native (serializeVersionData native data) =
      some { data with description := trimmed data.description } := by
  have layout : (serializeVersionData native data).drop 0 =
      wire native data.dmrId ++ (wire native data.service.raw ++ data.description) := by
    rw [List.drop_zero, serializeVersionData_eq]
  have total : (serializeVersionData native data).length = 5 + data.description.length := by
    rw [serializeVersionData_eq]
    simp only [List.length_append, length_wire]
    change 4 + (1 + _) = _
    omega
  obtain ⟨dmrId, layout⟩ := readLE_front native 4 layout rfl
  obtain ⟨service, layout⟩ := readLE_front native 5 layout rfl
  unfold deserializeVersionData
  rw [if_neg (by rw [total]; omega)]
  simp only [dmrId, service, Option.bind_eq_bind, Option.bind_some]
  by_cases empty : data.description = []
  · rw [if_neg (by rw [total, empty]; decide), empty]
    rfl
  · have some_ := List.length_pos_iff.mpr empty
    rw [if_pos (by rw [total]; omega), layout]
    rfl

/-- What is accepted is written back without the NUL bytes at the end of its description. -/
theorem serializeVersionData_deserializeVersionData {bytes : Bytes} {data : VersionData}
    (accepted : deserializeVersionData native bytes = some data) :
    data.description = trimmed (bytes.drop 5) ∧
      serializeVersionData native data = bytes.take 5 ++ trimmed (bytes.drop 5) := by
  have described := ((decodes_versionData native).describes bytes data accepted).2.2
  refine ⟨described, ?_⟩
  rw [serializeVersionData_eq, described]
  unfold deserializeVersionData at accepted
  split at accepted
  · cases accepted
  · simp only [Option.bind_eq_bind, Option.bind_eq_some_iff, Prod.exists,
      Option.some.injEq] at accepted
    obtain ⟨dmrId, _, readDmrId, service, _, readService, rfl⟩ := accepted
    obtain ⟨dmrId, rfl, _⟩ := wire_readLE readDmrId
    obtain ⟨service, _, _⟩ := wire_readLE readService
    rw [dmrId, service, List.drop_zero, ← List.append_assoc, Nat.zero_add, ← List.take_add]
    rfl

/-- Decoding takes the NUL bytes off the end of a description and changes nothing else, once and for
all. -/
theorem versionData_normalized :
    (∀ data, deserializeVersionData native (serializeVersionData native data) =
      some { data with description := trimmed data.description }) ∧
    (∀ bytes data, deserializeVersionData native bytes = some data →
      deserializeVersionData native (serializeVersionData native data) = some data ∧
        serializeVersionData native data = bytes.take 5 ++ trimmed (bytes.drop 5)) ∧
    ∀ text, (∃ count, text = trimmed text ++ List.replicate count 0) ∧
      ∀ front byte, trimmed text = front ++ [byte] → byte ≠ 0 := by
  refine ⟨deserializeVersionData_serializeVersionData native, ?_, trimmed_split⟩
  intro bytes data accepted
  obtain ⟨described, written⟩ := serializeVersionData_deserializeVersionData native accepted
  refine ⟨?_, written⟩
  rw [deserializeVersionData_serializeVersionData, described, trimmed_trimmed, ← described]

end

end OpenDTP.Protocol
