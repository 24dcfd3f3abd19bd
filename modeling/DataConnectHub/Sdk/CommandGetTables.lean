import DataConnectHub.Octets.Wire
import DataConnectHub.PyStd.Str

/-! The command that asks the Flight service for its tables. The client writes the
message by hand; it is read here by the rules of the wire format. -/
namespace DataConnectHub.Sdk

open Octets PyStd

/-- `_encode_varint`. -/
def encodeVarint (value : Nat) : List UInt8 :=
  if 0x7F < value then .ofNat (value &&& 0x7F ||| 0x80) :: encodeVarint (value >>> 7)
  else [.ofNat (value &&& 0x7F)]
termination_by value
decreasing_by
  rw [Nat.shiftRight_eq_div_pow]
  exact Nat.div_lt_self (by omega) (by decide)

def cgtFieldTableNameFilter : Nat := 3
def cgtFieldIncludeSchema : Nat := 5

/-- The message of `_build_command_get_tables`, which is then put into an `Any`. A
filter that has no encoding raises. -/
def buildCommandGetTables (tableNameFilterPattern : Option PyStr) (includeSchema : Bool) : Option (List UInt8) := do
  let filter ← tableNameFilterPattern.elim (some []) fun pattern => (encode pattern).map fun encoded =>
    encodeVarint (cgtFieldTableNameFilter <<< 3 ||| 2) ++ encodeVarint encoded.length ++ encoded
  return filter ++ if includeSchema then encodeVarint (cgtFieldIncludeSchema <<< 3 ||| 0) ++ encodeVarint 1 else []

/-- `CommandGetTables` as far as the client sets it. -/
structure CommandGetTables where
  tableNameFilterPattern : Option (List Char)
  includeSchema : Bool

/-- The fields over the ones read before; no other field is let through. -/
def CommandGetTables.merge (command : CommandGetTables) : List (Nat × WireValue) → Option CommandGetTables
  | [] => some command
  | (3, .bytes bytes) :: fields => bytes.toByteArray.utf8Decode?.bind fun chars =>
      merge { command with tableNameFilterPattern := some chars.toList } fields
  | (5, .varint value) :: fields => merge { command with includeSchema := value != 0 } fields
  | _ => none

section Varint

variable (value : Nat)

theorem encodeVarint_of_lt {value : Nat} (h : value < 128) : encodeVarint value = [UInt8.ofNat value] := by
  rw [encodeVarint, if_neg (by omega), Nat.and_two_pow_sub_one_eq_mod value 7, Nat.mod_eq_of_lt h]

/-- The first byte of a number that takes more than one. -/
theorem encodeVarint_of_le {value : Nat} (h : 128 ≤ value) :
    encodeVarint value = UInt8.ofNat (128 + value % 128) :: encodeVarint (value / 128) := by
  have hLow : value % 128 < 2 ^ 7 := Nat.mod_lt value (by decide)
  rw [encodeVarint, if_pos (by omega), Nat.and_two_pow_sub_one_eq_mod value 7, Nat.or_comm,
    ← Nat.two_pow_add_eq_or_of_lt hLow 1, Nat.shiftRight_eq_div_pow]

theorem readVarint_encodeVarint (rest : List UInt8) : readVarint (encodeVarint value ++ rest) = some (value, rest) := by
  induction value using Nat.strongRecOn with
  | ind value ih =>
    by_cases hSmall : value < 128
    · have hByte : (UInt8.ofNat value).toNat = value := by
        rw [UInt8.toNat_ofNat']
        omega
      rw [encodeVarint_of_lt hSmall, List.singleton_append, readVarint, hByte, if_pos hSmall]
    · have hByte : (UInt8.ofNat (128 + value % 128)).toNat = 128 + value % 128 := by
        rw [UInt8.toNat_ofNat']
        omega
      rw [encodeVarint_of_le (by omega), List.cons_append, readVarint, hByte, if_neg (by omega),
        ih (value / 128) (by omega)]
      have hValue : (128 + value % 128) % 128 + 128 * (value / 128) = value := by omega
      simp only [Option.map_some, hValue]

/-- What is read as the number takes as many bytes at least. -/
theorem length_encodeVarint_le {bytes rest : List UInt8} (h : readVarint bytes = some (value, rest)) :
    (encodeVarint value).length ≤ bytes.length := by
  induction bytes generalizing value with
  | nil => cases h
  | cons byte bytes ih =>
    by_cases hSmall : value < 128
    · rw [encodeVarint_of_lt hSmall]
      exact Nat.succ_le_succ (Nat.zero_le _)
    · rw [readVarint] at h
      split at h
      next hByte =>
        cases h
        omega
      next hByte =>
        obtain ⟨⟨high, left⟩, hRead, hValue⟩ := Option.map_eq_some_iff.mp h
        obtain ⟨rfl, rfl⟩ := Prod.mk.inj hValue
        have hHigh : (byte.toNat % 128 + 128 * high) / 128 = high := by omega
        rw [encodeVarint_of_le (by omega), hHigh]
        exact Nat.succ_le_succ (ih high hRead)

end Varint

section Message

theorem readFields_schema {fuel : Nat} (includeSchema : Bool) (hFuel : 0 < fuel) :
    readFields fuel (if includeSchema then encodeVarint (cgtFieldIncludeSchema <<< 3 ||| 0) ++ encodeVarint 1
      else []) = some (if includeSchema then [(5, .varint 1)] else []) := by
  obtain ⟨fuel, rfl⟩ := Nat.exists_eq_add_one.mpr hFuel
  cases includeSchema with
  | false => rfl
  | true =>
    refine readFields_cons (readVarint_encodeVarint ..) (by decide) ?_ (by rw [readFields])
    have hOne := readVarint_encodeVarint 1 []
    rw [List.append_nil] at hOne
    exact congrArg (Option.map _) hOne

theorem buildCommandGetTables_some {pattern : PyStr} {encoded : List UInt8} (includeSchema : Bool)
    (h : encode pattern = some encoded) :
    buildCommandGetTables (some pattern) includeSchema =
      some (encodeVarint (cgtFieldTableNameFilter <<< 3 ||| 2) ++ (encodeVarint encoded.length ++ (encoded ++
        if includeSchema then encodeVarint (cgtFieldIncludeSchema <<< 3 ||| 0) ++ encodeVarint 1 else []))) := by
  simp [buildCommandGetTables, h]

/-- Numbers come back from their bytes, which are the shortest, and a command comes
back from its message, which has no field but those of the command. -/
theorem command_get_tables_encoded : (∀ value, readVarint (encodeVarint value) = some (value, []) ∧
      ∀ bytes, readVarint bytes = some (value, []) → (encodeVarint value).length ≤ bytes.length) ∧
    ∀ (filter : Option (List Char)) (includeSchema : Bool), ∃ message fields,
      buildCommandGetTables (filter.map (List.map .scalar)) includeSchema = some message ∧
        readMessage message = some fields ∧
        fields.map Prod.fst = (filter.toList.map fun _ => 3) ++ (if includeSchema then [5] else []) ∧
        CommandGetTables.merge ⟨none, false⟩ fields = some ⟨filter, includeSchema⟩ := by
  refine ⟨fun value => ⟨?_, fun bytes => length_encodeVarint_le value⟩, fun filter includeSchema => ?_⟩
  · have hRead := readVarint_encodeVarint value []
    rwa [List.append_nil] at hRead
  · cases filter with
    | none =>
      refine ⟨_, _, rfl, readFields_schema includeSchema (Nat.succ_pos _), ?_⟩
      cases includeSchema with
      | false | true => exact ⟨rfl, rfl⟩
    | some chars =>
      have hEncoded : encode (chars.map .scalar) = some (chars.flatMap String.utf8EncodeChar) := by
        rw [encode, scalars?_eq_some.mpr rfl, Option.map_some]
      have hDecoded : (chars.flatMap String.utf8EncodeChar).toByteArray.utf8Decode? = some chars.toArray :=
        List.utf8Decode?_utf8Encode
      generalize chars.flatMap String.utf8EncodeChar = encoded at hEncoded hDecoded
      have hFilter (rest : List UInt8) : readValue (encodeVarint encoded.length ++ (encoded ++ rest)) 2 =
          some (.bytes encoded, rest) := by
        rw [readValue, readVarint_encodeVarint, Option.bind_some, readBytes_append]
        rfl
      refine ⟨_, (3, .bytes encoded) :: if includeSchema then [(5, .varint 1)] else [],
        buildCommandGetTables_some includeSchema hEncoded, ?_, ?_⟩
      · refine readFields_cons (readVarint_encodeVarint ..) (by decide) (hFilter _) (readFields_schema includeSchema ?_)
        rw [encodeVarint_of_lt (by decide)]
        exact Nat.succ_pos _
      · cases includeSchema with
        | false | true => exact ⟨rfl, by rw [CommandGetTables.merge, hDecoded]; rfl⟩

end Message

end DataConnectHub.Sdk
