import Flagpost.Access.Credential
import Flagpost.Access.Token
import Flagpost.Proofs.Text.Bytes

/-!
# Flagpost — who is authorised

Tokens are compared by gathering the bits in which their digests differ. Since
digests all have the same length, no bit is gathered if and only if the digests
are equal (`Token.authorises_iff`).

A token that is read from a request is never empty (`Credential.trigger?_ne`),
wherever in the request it was, and neither is one that is generated.
-/

namespace Flagpost

-- ---------------------------------------------------------------------------
-- Digests
-- ---------------------------------------------------------------------------

namespace Sha256

theorem length_bigEndian (count n : Nat) : (bigEndian count n).length = count := by
  induction count generalizing n with
  | zero => rfl
  | succ count ih => rw [bigEndian, List.length_append, ih, List.length_singleton]

/-- A digest is thirty-two bytes long. -/
theorem length_digest (message : Bytes) : (digest message).length = 32 := by
  rw [digest, State.toBytes]
  simp [length_bigEndian]

end Sha256

namespace Token

theorem foldl_differing (pairs : List (UInt8 × UInt8)) (found : UInt8) :
    pairs.foldl (fun found pair => found ||| (pair.1 ^^^ pair.2)) found = 0 ↔
      found = 0 ∧ ∀ pair ∈ pairs, pair.1 = pair.2 := by
  induction pairs generalizing found with
  | nil => simp
  | cons pair pairs ih =>
    rw [List.foldl_cons, ih, UInt8.or_eq_zero_iff, UInt8.xor_eq_zero_iff, and_assoc,
      List.forall_mem_cons]

/-- Sequences of the same length differ in no bit if and only if they are
equal. -/
theorem differingBits_eq_zero_iff {a b : Bytes} (h : a.length = b.length) :
    differingBits a b = 0 ↔ a = b := by
  rw [differingBits, foldl_differing]
  constructor
  · -- no pair has bits that differ, so each pair is of equal bytes
    rintro ⟨-, hpairs⟩
    induction a generalizing b with
    | nil => exact (List.length_eq_zero_iff.1 h.symm).symm
    | cons x a ih =>
      cases b with
      | nil => cases h
      | cons y b =>
        rw [List.zip_cons_cons, List.forall_mem_cons] at hpairs
        rw [List.length_cons, List.length_cons, Nat.add_right_cancel_iff] at h
        rw [ih h hpairs.2, show x = y from hpairs.1]
  · rintro rfl
    refine ⟨rfl, fun pair hp => ?_⟩
    rw [List.zip_eq_zipWith, List.zipWith_self] at hp
    obtain ⟨x, _, rfl⟩ := List.mem_map.1 hp
    rfl

theorem sameDigest_iff (a b : String) :
    sameDigest a b = true ↔ Sha256.ofText a = Sha256.ofText b := by
  have hlength : (Sha256.ofText a).length = (Sha256.ofText b).length := by
    rw [Sha256.ofText, Sha256.ofText, Sha256.length_digest, Sha256.length_digest]
  rw [sameDigest, beq_iff_eq, differingBits_eq_zero_iff hlength]

/-- A token authorises if neither it nor the token that is kept is empty and
both have the same digest. -/
theorem authorises_iff (offered kept : String) : authorises offered kept = true ↔
    offered ≠ "" ∧ kept ≠ "" ∧ Sha256.ofText offered = Sha256.ofText kept := by
  rw [authorises, Bool.and_eq_true, Bool.and_eq_true, sameDigest_iff]
  simp [and_assoc]

theorem generate_ne (nanos : Nat) (random : Option Bytes) : generate nanos random ≠ "" := by
  intro h
  have hchars := String.ofList_inj.1 (h.trans String.ofList_nil.symm)
  simp at hchars

/-- What is reported of a fresh token tells whether there were random bytes, and no
more. -/
theorem generationEvents_eq {random random' : Option Bytes} (h : random.isSome = random'.isSome) :
    generationEvents random = generationEvents random' := by
  cases random <;> cases random' <;> first | rfl | cases h

end Token

-- ---------------------------------------------------------------------------
-- Tokens of a request
-- ---------------------------------------------------------------------------

theorem Percent.decode_ne_nil {bytes : Bytes} (h : bytes ≠ []) : Percent.decode bytes ≠ [] := by
  fun_cases Percent.decode bytes with
  | case1 => exact List.cons_ne_nil _ _
  | case2 => exact List.cons_ne_nil _ _
  | case3 => exact List.cons_ne_nil _ _
  | case4 => exact h

theorem Utf8.lossy_ne_nil {bytes : Bytes} (h : bytes ≠ []) : Utf8.lossy bytes ≠ [] := by
  obtain ⟨lead, rest, rfl⟩ := List.exists_cons_of_ne_nil h
  rw [Utf8.lossy]
  exact List.cons_ne_nil _ _

/-- Decoding a value that is not empty gives a text that is not. -/
theorem Percent.decodeFormValue_ne {value : String} (h : value ≠ "") :
    Percent.decodeFormValue value ≠ "" := by
  have hchars : value.toList ≠ [] := fun hnil => h (String.toList_inj.1 hnil)
  have hbytes : Utf8.encode (String.ofList (value.toList.map fun c => if c = '+' then ' ' else c)) ≠
      [] := by
    obtain ⟨c, chars, hcons⟩ := List.exists_cons_of_ne_nil hchars
    intro hnil
    have hlength := Utf8.length_le_ofChars
      (value.toList.map fun c => if c = '+' then ' ' else c)
    rw [← Utf8.encode_ofList, hnil, hcons] at hlength
    simp at hlength
  rw [Percent.decodeFormValue, Utf8.lossyText]
  intro he
  exact Utf8.lossy_ne_nil (Percent.decode_ne_nil hbytes) (String.ofList_inj.1 he)

namespace Credential

variable {header : Header} {target : Target} {token : String}

theorem nonEmpty?_ne {text : List Char} (h : nonEmpty? text = some token) : token ≠ "" := by
  rw [nonEmpty?] at h
  split at h
  · cases h
  · rename_i hne
    cases h
    exact fun he => hne (List.isEmpty_iff.2 (String.ofList_inj.1 he))

theorem bearer?_ne (h : bearer? header = some token) : token ≠ "" := by
  obtain ⟨value, _, hvalue⟩ := Option.bind_eq_some_iff.1 h
  simp only [bearerOfValue?] at hvalue
  split at hvalue
  · cases hvalue
  · split at hvalue
    · exact nonEmpty?_ne hvalue
    · cases hvalue

theorem ofQuery?_ne {query : String} (h : ofQuery? query = some token) : token ≠ "" := by
  obtain ⟨parameter, _, hparameter⟩ := List.exists_of_findSome?_eq_some h
  split at hparameter
  · obtain ⟨value, hvalue, rfl⟩ := Option.map_eq_some_iff.1 hparameter
    exact Percent.decodeFormValue_ne (nonEmpty?_ne hvalue)
  · cases hparameter

/-- A token that is read from a request is never empty. -/
theorem trigger?_ne (h : trigger? header target = some token) : token ≠ "" := by
  rw [trigger?, Option.or_eq_some_iff, Option.or_eq_some_iff] at h
  rcases h with hbearer | ⟨-, hfield | ⟨-, hquery⟩⟩
  · exact bearer?_ne hbearer
  · obtain ⟨value, _, hvalue⟩ := Option.bind_eq_some_iff.1 hfield
    exact nonEmpty?_ne hvalue
  · obtain ⟨query, _, hquery⟩ := Option.bind_eq_some_iff.1 hquery
    exact ofQuery?_ne hquery

end Credential

end Flagpost
