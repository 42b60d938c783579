import Flagpost.Proofs.Access.Credential
import Flagpost.Proofs.Text.Lossy

/-!
# Flagpost — tokens in the query of a request

A text can be written as the value of a parameter in many ways: a byte as `%` and
two hexadecimal digits of either case, as it is if a query may hold it and it means
nothing there, and a space also as `+` (`Percent.Encodes`). All of them are read as
the text. The order of the steps does it: a `+` that stands for itself is only ever
written with digits, so it is not there yet when the plus signs become spaces.

The parameters of a query are parted by `&`, and the first one that gives the token
a value counts (`Credential.IsFirstValue`).

* `Percent.decode_of_encodes`          — the bytes are those that were written;
* `Percent.decodeFormValue_of_encodes` — the text is the one that was written;
* `Credential.query_carries_token`     — the token of a request with such a query.
-/

namespace Flagpost

namespace Percent

-- ---------------------------------------------------------------------------
-- Written values
-- ---------------------------------------------------------------------------

/-- The byte `+`. -/
def plus : UInt8 := 0x2B

/-- The byte `&`. -/
def ampersand : UInt8 := 0x26

/-- The byte of a space. -/
def blank : UInt8 := 0x20

/-- The ways to write a byte in the value of a parameter. -/
inductive Writes : UInt8 → Bytes → Prop
  | digits {high low : UInt8} {h l : Nat} (hhigh : Hex.byteValue? high = some h)
      (hlow : Hex.byteValue? low = some l) :
      Writes (UInt8.ofNat (h * 16 + l)) [sign, high, low]
  | asIs {b : UInt8} (hallowed : Target.isQueryByte b = true) (hsign : b ≠ sign)
      (hampersand : b ≠ ampersand) (hplus : b ≠ plus) : Writes b [b]
  | space : Writes blank [plus]

/-- Bytes, and a way to write them one after the other. -/
inductive Encodes : Bytes → Bytes → Prop
  | nil : Encodes [] []
  | cons {b : UInt8} {bytes written code : Bytes} (hb : Writes b written)
      (hbytes : Encodes bytes code) : Encodes (b :: bytes) (written ++ code)

variable {b high low : UInt8} {bytes written code rest : Bytes} {h l : Nat}

/-- A query may hold hexadecimal digits, and they mean nothing there. -/
theorem of_byteValue?_eq_some (hvalue : Hex.byteValue? b = some h) :
    Target.isQueryByte b = true ∧ b ≠ ampersand ∧ b ≠ plus := by
  have hall : ∀ n < 256, (Hex.byteValue? (UInt8.ofNat n)).isSome →
      Target.isQueryByte (UInt8.ofNat n) = true ∧ UInt8.ofNat n ≠ ampersand ∧
        UInt8.ofNat n ≠ plus := by
    decide +kernel
  have hb := hall b.toNat b.toNat_lt
  rw [UInt8.ofNat_toNat, hvalue] at hb
  exact hb rfl

/-- What a byte is written with can stand in a query and does not end the parameter. -/
theorem Writes.of_mem (hw : Writes b written) {c : UInt8} (hc : c ∈ written) :
    Target.isQueryByte c = true ∧ c ≠ ampersand := by
  cases hw with
  | digits hhigh hlow =>
    -- the percent sign and two digits
    obtain ⟨hhigh, hhigh', -⟩ := of_byteValue?_eq_some hhigh
    obtain ⟨hlow, hlow', -⟩ := of_byteValue?_eq_some hlow
    simp only [List.mem_cons, List.not_mem_nil, or_false] at hc
    rcases hc with rfl | rfl | rfl
    · exact ⟨by decide, by decide⟩
    · exact ⟨hhigh, hhigh'⟩
    · exact ⟨hlow, hlow'⟩
  | asIs hallowed _ hampersand =>
    rw [List.mem_singleton.1 hc]
    exact ⟨hallowed, hampersand⟩
  | space =>
    rw [List.mem_singleton.1 hc]
    exact ⟨by decide, by decide⟩

theorem Encodes.of_mem (he : Encodes bytes code) {c : UInt8} (hc : c ∈ code) :
    Target.isQueryByte c = true ∧ c ≠ ampersand := by
  induction he with
  | nil => cases hc
  | cons hb _ ih =>
    rcases List.mem_append.1 hc with hc | hc
    · exact hb.of_mem hc
    · exact ih hc

theorem byteValue?_digit {n : Nat} (hn : n < 16) :
    ∃ digit, String.utf8EncodeChar (Hex.digit n) = [digit] ∧ Hex.byteValue? digit = some n := by
  have hall : ∀ n < 16, String.utf8EncodeChar (Hex.digit n) = [UInt8.ofNat (Hex.digit n).toNat] ∧
      Hex.byteValue? (UInt8.ofNat (Hex.digit n).toNat) = some n := by
    decide
  exact ⟨_, hall n hn⟩

/-- Every byte can be written with its two small digits. -/
theorem writes_ofByte (b : UInt8) : Writes b (Utf8.ofChars ('%' :: Hex.ofByte b)) := by
  have hb : b.toNat < 256 := b.toNat_lt
  obtain ⟨high, hhigh, hhigh'⟩ := byteValue?_digit (n := b.toNat / 16) (by omega)
  obtain ⟨low, hlow, hlow'⟩ := byteValue?_digit (n := b.toNat % 16) (by omega)
  have hvalue : UInt8.ofNat (b.toNat / 16 * 16 + b.toNat % 16) = b := by
    rw [Nat.div_add_mod', UInt8.ofNat_toNat]
  have hdigits := Writes.digits hhigh' hlow'
  rw [hvalue] at hdigits
  rw [Hex.ofByte, Utf8.ofChars_cons, Utf8.ofChars_cons, Utf8.ofChars_cons, hhigh, hlow]
  exact hdigits

/-- Every text can be written as a value. -/
theorem exists_encodes (text : String) :
    ∃ value : String, Encodes (Utf8.encode text) (Utf8.encode value) := by
  suffices hbytes : ∀ bytes, ∃ chars, Encodes bytes (Utf8.ofChars chars) by
    obtain ⟨chars, hchars⟩ := hbytes (Utf8.encode text)
    exact ⟨String.ofList chars, by rwa [Utf8.encode_ofList]⟩
  intro bytes
  induction bytes with
  | nil => exact ⟨[], .nil⟩
  | cons b bytes ih =>
    obtain ⟨chars, hchars⟩ := ih
    refine ⟨('%' :: Hex.ofByte b) ++ chars, ?_⟩
    rw [Utf8.ofChars_append]
    exact .cons (writes_ofByte b) hchars

-- ---------------------------------------------------------------------------
-- Reading what was written
-- ---------------------------------------------------------------------------

theorem decode_of_ne (hne : b ≠ sign) (rest : Bytes) : decode (b :: rest) = b :: decode rest := by
  rcases rest with _ | ⟨second, _ | ⟨third, rest⟩⟩
  · rfl
  · rfl
  · rw [decode, if_neg hne]

theorem decode_of_digits (hhigh : Hex.byteValue? high = some h) (hlow : Hex.byteValue? low = some l)
    (rest : Bytes) :
    decode (sign :: high :: low :: rest) = UInt8.ofNat (h * 16 + l) :: decode rest := by
  rw [decode, if_pos rfl, hhigh, hlow]

/-- A plus sign becomes a space. -/
def spaced (b : UInt8) : UInt8 := if b = plus then blank else b

theorem spaced_of_ne (hne : b ≠ plus) : spaced b = b := if_neg hne

/-- With the plus signs made spaces, a written value is read as the bytes it was
written for. -/
theorem decode_of_encodes (he : Encodes bytes code) : decode (code.map spaced) = bytes := by
  induction he with
  | nil => rfl
  | cons hb _ ih =>
    rw [List.map_append]
    -- each way in which a byte can be written reads back, and the rest by induction
    cases hb with
    | digits hhigh hlow =>
      have hsign : spaced sign = sign := rfl
      simp only [List.map_cons, List.map_nil, List.cons_append, List.nil_append, hsign,
        spaced_of_ne (of_byteValue?_eq_some hhigh).2.2,
        spaced_of_ne (of_byteValue?_eq_some hlow).2.2]
      rw [decode_of_digits hhigh hlow, ih]
    | asIs _ hsign _ hplus =>
      rw [List.map_singleton, List.singleton_append, spaced_of_ne hplus, decode_of_ne hsign, ih]
    | space =>
      have hblank : spaced plus = blank := rfl
      rw [List.map_singleton, List.singleton_append, hblank, decode_of_ne (by decide), ih]

/-- The byte `+` is always a character of its own, so plus signs may be made spaces in the
bytes of a text. -/
theorem ofChars_spaced (chars : List Char) :
    Utf8.ofChars (chars.map fun c => if c = '+' then ' ' else c) =
      (Utf8.ofChars chars).map spaced := by
  induction chars with
  | nil => rfl
  | cons c chars ih =>
    rw [List.map_cons, Utf8.ofChars_cons, Utf8.ofChars_cons, List.map_append, ih,
      List.append_cancel_right_eq]
    split
    · rename_i hc
      subst hc
      decide
    · rename_i hc
      -- the byte of a plus sign is in the encoding of no other character
      have hsame : ∀ b ∈ String.utf8EncodeChar c, spaced b = id b := fun b hb =>
        spaced_of_ne fun hplus =>
          hc (Char.toNat_inj.1 (Utf8.toNat_of_mem_utf8EncodeChar (by decide) (hplus ▸ hb)))
      rw [List.map_congr_left hsame, List.map_id]

/-- The value of a form parameter is the text it was written for. -/
theorem decodeFormValue_of_encodes {token value : String}
    (he : Encodes (Utf8.encode token) (Utf8.encode value)) : decodeFormValue value = token := by
  have hvalue : Utf8.encode value = Utf8.ofChars value.toList := by
    rw [← Utf8.encode_ofList, String.ofList_toList]
  rw [decodeFormValue, Utf8.encode_ofList, ofChars_spaced, ← hvalue, decode_of_encodes he,
    Utf8.lossyText_encode]

end Percent

namespace Credential

-- ---------------------------------------------------------------------------
-- The parameter that counts
-- ---------------------------------------------------------------------------

/-- What a parameter begins with that gives the token a value. -/
def parameter : List Char := "token=".toList

/-- The query is made of parameters parted by `&`, and `value` is the first value that
is given to the token. -/
def IsFirstValue (query : String) (value : List Char) : Prop :=
  ∃ before after : List (List Char),
    query.toList = ['&'].intercalate (before ++ (parameter ++ value) :: after) ∧
    (∀ p ∈ before ++ (parameter ++ value) :: after, '&' ∉ p) ∧ value ≠ [] ∧
    ∀ p ∈ before, ∀ other, other ≠ [] → p ≠ parameter ++ other

/-- The token that a parameter gives a value to. -/
def ofParameter? (text : List Char) : Option String :=
  if parameter.isPrefixOf text then (nonEmpty? (text.drop 6)).map Percent.decodeFormValue else none

theorem ofQuery?_eq (query : String) :
    ofQuery? query = (query.toList.splitOn '&').findSome? ofParameter? := rfl

theorem ofParameter?_append (value : List Char) : ofParameter? (parameter ++ value) =
    (nonEmpty? value).map Percent.decodeFormValue := by
  have hbegins : parameter.isPrefixOf (parameter ++ value) = true :=
    List.isPrefixOf_iff_prefix.2 (List.prefix_append _ _)
  have hdrop : (parameter ++ value).drop 6 = value := rfl
  rw [ofParameter?, if_pos hbegins, hdrop]

theorem ofParameter?_eq_none {text : List Char}
    (h : ∀ value, value ≠ [] → text ≠ parameter ++ value) : ofParameter? text = none := by
  by_cases hbegins : parameter.isPrefixOf text = true
  · obtain ⟨value, rfl⟩ := List.isPrefixOf_iff_prefix.1 hbegins
    rw [ofParameter?_append]
    cases value with
    | nil => rfl
    | cons c value => exact absurd rfl (h (c :: value) (List.cons_ne_nil c value))
  · rw [ofParameter?, if_neg hbegins]

theorem ofQuery?_of_isFirstValue {query : String} {value : List Char}
    (h : IsFirstValue query value) :
    ofQuery? query = some (Percent.decodeFormValue (String.ofList value)) := by
  obtain ⟨before, after, hquery, hparts, hvalue, hfirst⟩ := h
  have hbefore : before.findSome? ofParameter? = none :=
    List.findSome?_eq_none_iff.2 fun p hp => ofParameter?_eq_none (hfirst p hp)
  rw [ofQuery?_eq, hquery, List.splitOn_intercalate '&' hparts (by simp), List.findSome?_append,
    hbefore, Option.none_or, List.findSome?_cons, ofParameter?_append, nonEmpty?,
    if_neg (by simpa using hvalue), Option.map_some]

/-- **A query can carry every token.**

* A token that is read from a request is never empty.
* Every text can be written as the value of a parameter, in characters that a query may
  hold and that do not end the parameter.
* However a text is written there: if that is the first value the query gives to the
  token, and no field of the header has a token, the token of the request is the text. -/
theorem query_carries_token :
    (∀ header target, trigger? header target ≠ some "") ∧
    (∀ token, ∃ value, Percent.Encodes (Utf8.encode token) (Utf8.encode value) ∧
      ∀ b ∈ Utf8.encode value, Target.isQueryByte b = true ∧ b ≠ Percent.ampersand) ∧
    (∀ header path query token value,
      Percent.Encodes (Utf8.encode token) (Utf8.encode value) →
      IsFirstValue query value.toList →
      bearer? header = none →
      ((header.firstText? webhookToken).bind fun text => nonEmpty? (Blank.trim text)) = none →
      trigger? header ⟨path, some query⟩ = some token) := by
  refine ⟨fun header target h => trigger?_ne h rfl, fun token => ?_, ?_⟩
  · obtain ⟨value, hvalue⟩ := Percent.exists_encodes token
    exact ⟨value, hvalue, fun b hb => hvalue.of_mem hb⟩
  · intro header path query token value hvalue hfirst hbearer hfield
    have hquery := ofQuery?_of_isFirstValue hfirst
    rw [String.ofList_toList, Percent.decodeFormValue_of_encodes hvalue] at hquery
    -- no header has a token, so the query is asked
    rw [trigger?, hbearer, hfield, Option.none_or, Option.none_or, Option.bind_some, hquery]

/-- A token with a space, a plus sign, an ampersand and a character outside ASCII, behind
an empty value and before another one. -/
theorem query_carries_token_first :
    let query := "x=1&token=&token=%61+%2b\u00E9%26&token=late"
    let header : Header := [⟨authorization, Utf8.encode "Basic abc"⟩]
    Percent.Encodes (Utf8.encode "a +\u00E9&") (Utf8.encode "%61+%2b\u00E9%26") ∧
      IsFirstValue query "%61+%2b\u00E9%26".toList ∧ bearer? header = none ∧
      trigger? header ⟨"/webhook/ci", some query⟩ = some "a +\u00E9&" := by
  intro query header
  have hdigits : Percent.Writes 0x61 [Percent.sign, 0x36, 0x31] := .digits (h := 6) (l := 1) rfl rfl
  have hplus : Percent.Writes 0x2B [Percent.sign, 0x32, 0x62] := .digits (h := 2) (l := 11) rfl rfl
  have hampersand : Percent.Writes 0x26 [Percent.sign, 0x32, 0x36] :=
    .digits (h := 2) (l := 6) rfl rfl
  have hlead : Percent.Writes 0xC3 [0xC3] :=
    .asIs (by decide) (by decide) (by decide) (by decide)
  have htrail : Percent.Writes 0xA9 [0xA9] :=
    .asIs (by decide) (by decide) (by decide) (by decide)
  have hencodes : Percent.Encodes (Utf8.encode "a +\u00E9&") (Utf8.encode "%61+%2b\u00E9%26") :=
    .cons hdigits (.cons .space (.cons hplus (.cons hlead (.cons htrail
      (.cons hampersand .nil)))))
  -- the empty value in front of it is not taken for the token
  have hfirst : IsFirstValue query "%61+%2b\u00E9%26".toList := by
    refine ⟨["x=1".toList, "token=".toList], ["token=late".toList], by decide, by decide,
      by decide, fun p hp other hother heq => ?_⟩
    rcases List.mem_cons.1 hp with rfl | hp
    · cases heq
    · rw [List.mem_singleton.1 hp] at heq
      exact hother (List.self_eq_append_right.1 heq)
  have hbearer : bearer? header = none := by decide
  exact ⟨hencodes, hfirst, hbearer,
    query_carries_token.2.2 header "/webhook/ci" query _ _ hencodes hfirst hbearer rfl⟩

end Credential

end Flagpost
