import KubeHcl.Proofs.RewriteEffect

/-!
# The end of a name

Whatever text the kind and the name of a resource are, the name it is declared under ends with the
fingerprint of its origin, which making a name valid does not touch. That sets it apart from the
fixed names.
-/

namespace KubeHcl

namespace Sha512

/-- The lower case hexadecimal digits. -/
def hexDigits : List Char := "0123456789abcdef".toList

/-- A number below sixteen is written by a lower case hexadecimal digit. -/
theorem digitChar_mem_hexDigits {n : Nat} (hn : n < 16) : Nat.digitChar n ∈ hexDigits := by
  decide +revert

/-- A byte is written by two digits. -/
theorem mem_hexDigits_of_mem_hexByte {byte : UInt8} {d : Char} (hd : d ∈ hexByte byte) :
    d ∈ hexDigits := by
  have hbyte := byte.toNat_lt
  simp only [hexByte, List.mem_cons, List.not_mem_nil, or_false] at hd
  rcases hd with rfl | rfl
  · exact digitChar_mem_hexDigits (by omega)
  · exact digitChar_mem_hexDigits (by omega)

/-- A digest is written in hexadecimal digits. -/
theorem mem_hexDigits_of_mem_hexDigest {text : String} {d : Char} (hd : d ∈ hexDigest text) :
    d ∈ hexDigits := by
  obtain ⟨byte, -, hbyte⟩ := List.mem_flatMap.mp hd
  exact mem_hexDigits_of_mem_hexByte hbyte

/-- Eight words of eight bytes. -/
theorem length_toBytes (s : State) : s.toBytes.length = 64 := by
  simp [State.toBytes, bigEndian]

/-- Every byte takes two digits. -/
theorem length_flatMap_hexByte (bytes : List UInt8) :
    (bytes.flatMap hexByte).length = 2 * bytes.length := by
  induction bytes with
  | nil => rfl
  | cons byte rest ih =>
    rw [List.flatMap_cons, List.length_append, ih, List.length_cons]
    simp only [hexByte, List.length_cons, List.length_nil]
    omega

/-- A digest takes 128 digits. -/
theorem length_hexDigest (text : String) : (hexDigest text).length = 128 := by
  rw [hexDigest, length_flatMap_hexByte, digest, length_toBytes]

end Sha512

namespace Naming

open Sha512 (hexDigits)

/-- A fingerprint has its full length. -/
theorem length_fingerprint (id : Identity) : (fingerprint id).length = fingerprintLength := by
  rw [fingerprint, List.length_take, Sha512.length_hexDigest]
  rfl

/-- A fingerprint is written in hexadecimal digits. -/
theorem mem_hexDigits_of_mem_fingerprint {id : Identity} {d : Char} (hd : d ∈ fingerprint id) :
    d ∈ hexDigits :=
  Sha512.mem_hexDigits_of_mem_hexDigest (List.mem_of_mem_take hd)

/-- Hexadecimal digits may stand in a name. -/
theorem sanitizeChar_of_mem_hexDigits {d : Char} (hd : d ∈ hexDigits) : sanitizeChar d = d := by
  have hall : hexDigits.all (fun d => sanitizeChar d == d) = true := by decide +kernel
  exact eq_of_beq (List.all_eq_true.mp hall d hd)

/-- Making a name valid changes its characters one by one, and may put an underscore in front. -/
theorem sanitize_eq_append (cs : List Char) :
    ∃ front, sanitize cs = front ++ cs.map sanitizeChar := by
  cases cs with
  | nil => exact ⟨[], rfl⟩
  | cons c cs =>
    by_cases hstart : isNameStart c = true
    · exact ⟨[], by simp only [sanitize, if_pos hstart, List.nil_append]⟩
    · exact ⟨['_'], by simp only [sanitize, if_neg hstart, List.cons_append, List.nil_append]⟩

/-- Making a name valid goes on behind its first character without looking back. -/
theorem sanitize_append {cs : List Char} (hne : cs ≠ []) (ds : List Char) :
    sanitize (cs ++ ds) = sanitize cs ++ ds.map sanitizeChar := by
  obtain ⟨c, cs, rfl⟩ := List.exists_cons_of_ne_nil hne
  rw [List.cons_append, sanitize, sanitize]
  split <;> simp

/-- A fingerprint stands in a name as it is. -/
theorem map_sanitizeChar_fingerprint (id : Identity) :
    (fingerprint id).map sanitizeChar = fingerprint id := by
  have hkept : ∀ d ∈ fingerprint id, sanitizeChar d = d := by
    intro d hd
    exact sanitizeChar_of_mem_hexDigits (mem_hexDigits_of_mem_fingerprint hd)
  calc (fingerprint id).map sanitizeChar
      = (fingerprint id).map fun d => d := List.map_congr_left hkept
    _ = fingerprint id := List.map_id' _

/-- A name ends with the fingerprint of the origin. -/
theorem identifier_ends_with_fingerprint (r : Resource) :
    ∃ front, (identifier r).toList = front ++ fingerprint r.origin := by
  obtain ⟨front, hfront⟩ := sanitize_eq_append (rawName r)
  refine ⟨front ++ (r.kind.toList ++ '_' :: r.originalName.toList ++ ['_']).map sanitizeChar, ?_⟩
  rw [identifier, String.toList_ofList, hfront, rawName]
  simp [map_sanitizeChar_fingerprint]

/-- A text that does not end with a hexadecimal digit is no resource's name. -/
theorem identifier_ne {text : String} (hlast : text.toList.getLast? ∉ hexDigits.map some)
    (r : Resource) : identifier r ≠ text := by
  rintro rfl
  obtain ⟨front, hfront⟩ := identifier_ends_with_fingerprint r
  have hne : fingerprint r.origin ≠ [] := by
    rw [← List.length_pos_iff, length_fingerprint]
    decide
  have hdigit := mem_hexDigits_of_mem_fingerprint (List.getLast_mem hne)
  refine hlast (List.mem_map.mpr ⟨_, hdigit, ?_⟩)
  rw [hfront, List.getLast?_append, List.getLast?_eq_some_getLast hne]
  rfl

end Naming

end KubeHcl
