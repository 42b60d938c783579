import Flagpost.Proofs.Access.Credential
import Flagpost.Proofs.Log.Passes

/-!
# Flagpost — which bearer tokens are masked

Two readers know what a bearer credential is. The service reads one from the
field `Authorization`: after the scheme and its space it leaves aside any more
white space, and the token may be of any visible characters. The masking of what
is logged knows one space and a run of credential characters. So the service
accepts credentials that are not masked, or not to their end.

* `Credential.leadsUp_of_bearerOfValue?` — the parts of a value that is accepted;
* `Redaction.redact_eq_mask_iff`         — when all of a credential is masked;
* `Credential.masked_iff`                — both, for two credentials after the same text.
-/

namespace Flagpost

-- ---------------------------------------------------------------------------
-- What is accepted
-- ---------------------------------------------------------------------------

namespace Credential

variable {before token lead word gap : List Char}

/-- A text that leads up to a token: white space, the scheme in any case, a
space, and more white space. -/
structure LeadsUp (before lead word gap : List Char) : Prop where
  eq : before = lead ++ (word ++ ' ' :: gap)
  lead_blank : ∀ c ∈ lead, isBlank c = true
  scheme : word.map Char.toLower = "bearer".toList
  gap_blank : ∀ c ∈ gap, isBlank c = true

/-- Before the first space is the scheme, and behind it the token. -/
theorem bearerOfValue?_eq_some {value : List Char}
    (h : bearerOfValue? value = some (String.ofList token)) : ∃ word rest,
      Blank.trim value = word ++ ' ' :: rest ∧ word.map Char.toLower = "bearer".toList ∧
        Blank.trim rest = token ∧ token ≠ [] := by
  simp only [bearerOfValue?] at h
  obtain ⟨word, hword⟩ : ∃ word, word = (Blank.trim value).takeWhile (· != ' ') := ⟨_, rfl⟩
  obtain ⟨behind, hbehind⟩ : ∃ behind, behind = (Blank.trim value).dropWhile (· != ' ') := ⟨_, rfl⟩
  have hsplit : Blank.trim value = word ++ behind := by
    rw [hword, hbehind, List.takeWhile_append_dropWhile]
  rw [← hword, hsplit, List.drop_left] at h
  -- a value without a space has no token
  cases behind with
  | nil => cases h
  | cons c rest =>
    -- the word ends because of the space
    have hspace : c = ' ' := by
      have hhead := List.head_dropWhile_not (· != ' ') (hbehind ▸ List.cons_ne_nil c rest)
      simpa [← hbehind] using hhead
    dsimp only at h
    split at h
    · rename_i hscheme
      rw [nonEmpty?] at h
      split at h
      · cases h
      · rename_i hne
        have htoken : Blank.trim rest = token := String.ofList_inj.1 (Option.some.inj h)
        refine ⟨word, rest, hspace ▸ hsplit, beq_iff_eq.1 hscheme, htoken, ?_⟩
        rw [← htoken]
        exact fun hnil => hne (List.isEmpty_iff.2 hnil)
    · cases h

/-- What stands before an accepted token leads up to it. -/
theorem leadsUp_of_bearerOfValue?
    (h : bearerOfValue? (before ++ token) = some (String.ofList token)) :
    token ≠ [] ∧ ∃ lead word gap, LeadsUp before lead word gap := by
  obtain ⟨word, rest, htrim, hword, hrest, hne⟩ := bearerOfValue?_eq_some h
  obtain ⟨lead, behind, hvalue, hlead, hbehind⟩ := Blank.trim_split (before ++ token)
  obtain ⟨gap, trail, hgap, hgapBlank, htrail⟩ := Blank.trim_split rest
  rw [hrest] at hgap
  rw [htrim, hgap] at hvalue
  have hparts : before ++ token = (lead ++ (word ++ ' ' :: gap) ++ token) ++ (trail ++ behind) := by
    simpa using hvalue
  -- the value ends in the token, so no white space was left aside behind it
  have hlast : isBlank (token.getLast hne) = false := by
    subst hrest
    exact Blank.getLast_trim hne
  have hblank : ∀ c ∈ trail ++ behind, isBlank c = true := by
    intro c hc
    rcases List.mem_append.1 hc with htrailing | hbehinding
    · exact htrail c htrailing
    · exact hbehind c hbehinding
  have hnil : trail ++ behind = [] := Blank.eq_nil_of_append hne hlast hparts hblank
  rw [hnil, List.append_nil] at hparts
  exact ⟨hne, lead, word, gap, List.append_cancel_right hparts, hlead, hword, hgapBlank⟩

/-- A character of the scheme is one of its letters, in either case. -/
theorem toLower_mem_scheme {c : Char} (h : word.map Char.toLower = "bearer".toList)
    (hc : c ∈ word) : c.toLower ∈ "bearer".toList :=
  h ▸ List.mem_map_of_mem hc

theorem isBlank_of_mem_scheme {c : Char} (h : word.map Char.toLower = "bearer".toList)
    (hc : c ∈ word) : isBlank c = false := by
  by_contra hb
  have hblank : isBlank c = true := by simpa using hb
  have hmem := toLower_mem_scheme h hc
  rw [toLower_of_isBlank hblank] at hmem
  have hall : "bearer".toList.all (!isBlank ·) = true := by decide
  exact hb (by simpa using List.all_eq_true.1 hall c hmem)

theorem LeadsUp.takeWhile_isBlank (h : LeadsUp before lead word gap) :
    before.takeWhile isBlank = lead := by
  obtain ⟨first, others, rfl, -, -⟩ := List.map_eq_cons_iff.1 h.scheme
  have hfirst : isBlank first = false := isBlank_of_mem_scheme h.scheme List.mem_cons_self
  rw [h.eq, List.takeWhile_append_of_pos h.lead_blank, List.cons_append,
    List.takeWhile_cons_of_neg (by simp [hfirst]), List.append_nil]

theorem LeadsUp.trimEnd (h : LeadsUp before lead word gap) :
    Blank.trimEnd before = lead ++ word := by
  have hne : word.reverse ≠ [] := by
    intro hnil
    have hscheme := h.scheme
    rw [List.reverse_eq_nil_iff.1 hnil] at hscheme
    cases hscheme
  obtain ⟨last, others, hlast⟩ := List.exists_cons_of_ne_nil hne
  -- the last letter of the scheme is no blank, so trimming ends there
  have hkept : isBlank last = false :=
    isBlank_of_mem_scheme h.scheme (List.mem_reverse.1 (hlast ▸ List.mem_cons_self))
  have hbehind : ∀ c ∈ (' ' :: gap).reverse, isBlank c = true := by
    intro c hc
    rcases List.mem_cons.1 (List.mem_reverse.1 hc) with rfl | hgap
    · decide
    · exact h.gap_blank c hgap
  have hreverse : before.reverse = (' ' :: gap).reverse ++ (last :: others ++ lead.reverse) := by
    rw [h.eq, ← hlast]
    simp
  rw [Blank.trimEnd, Blank.dropEndWhile, hreverse, List.dropWhile_append_of_pos hbehind,
    List.cons_append, List.dropWhile_cons_of_neg (by simp [hkept]), ← List.cons_append, ← hlast]
  simp

/-- There is no more white space behind the space, if trimming takes off a space
and nothing else. -/
theorem LeadsUp.gap_eq_nil_iff (h : LeadsUp before lead word gap) :
    gap = [] ↔ before = Blank.trimEnd before ++ [' '] := by
  rw [h.trimEnd, h.eq, List.append_assoc, List.append_cancel_left_eq,
    List.append_cancel_left_eq, List.cons_eq_cons, and_iff_right rfl]

end Credential

-- ---------------------------------------------------------------------------
-- What is masked
-- ---------------------------------------------------------------------------

namespace Redaction

open Credential

variable {before token lead word gap text rest : List Char} {c : Char}

/-- Behind the scheme and its space, the credential is the longest run of
credential characters, if there is one. -/
theorem afterCredential?_scheme (h : word.map Char.toLower = "bearer".toList) (c : Char)
    (rest : List Char) : afterCredential? (word ++ ' ' :: c :: rest) =
      if isCredentialChar c then some (rest.dropWhile isCredentialChar) else none := by
  have hword : (word ++ [' ']).map Char.toLower = scheme := by
    rw [List.map_append, h]
    rfl
  have hscheme : afterIgnoringCase? scheme (word ++ ' ' :: c :: rest) = some (c :: rest) :=
    afterIgnoringCase?_eq_some_iff.2 ⟨word ++ [' '], List.append_cons _ _ _, hword⟩
  rw [afterCredential?, hscheme]

/-- Where no credential follows, the scheme stays as it is. -/
theorem maskCredentials_scheme (h : word.map Char.toLower = "bearer".toList)
    (hnone : afterCredential? (word ++ text) = none) :
    maskCredentials (word ++ text) = word ++ maskCredentials text := by
  obtain ⟨first, others, rfl, -, hothers⟩ := List.map_eq_cons_iff.1 h
  have hlater : ∀ c ∈ others, c.toLower ≠ 'b' := by
    intro c hc hb
    have hmem := List.mem_map_of_mem (f := Char.toLower) hc
    rw [hothers, hb] at hmem
    revert hmem
    decide
  rw [List.cons_append] at hnone ⊢
  rw [maskCredentials_of_none hnone, maskCredentials_append hlater, List.cons_append]

theorem not_mem_scheme (h : word.map Char.toLower = "bearer".toList) : 't' ∉ word := by
  intro hm
  have hmem := toLower_mem_scheme h hm
  revert hmem
  decide

/-- The scheme begins with what could be digits of a generated token, but with
no more than three. -/
theorem maskTokens_scheme (h : word.map Char.toLower = "bearer".toList) (inWord : Bool)
    (text : List Char) :
    ∃ first more, maskTokens inWord (word ++ text) = first :: more ∧ first.toLower = 'b' := by
  have hword : word.map Char.toLower = "bea".toList ++ "rer".toList := h
  obtain ⟨front, back, rfl, hfront, hback⟩ := List.map_eq_append_iff.1 hword
  obtain ⟨first, others, rfl, hfirst, -⟩ := List.map_eq_cons_iff.1 hfront
  obtain ⟨c, back, rfl, hc, -⟩ := List.map_eq_cons_iff.1 hback
  -- the third letter of the scheme is no digit
  have hdigit : Hex.isSmallDigit c = false := by
    by_contra hdigit
    have hsmall : Hex.isSmallDigit c = true := by simpa using hdigit
    rw [Hex.toLower_of_isSmallDigit hsmall] at hc
    subst hc
    revert hsmall
    decide
  -- and eight digits would have to stand before the hyphen
  have hshort : (first :: others).length < 8 := by
    have hlength := congrArg List.length hfront
    rw [List.length_map] at hlength
    rw [hlength]
    decide
  have hnone : afterToken? (first :: (others ++ c :: (back ++ text))) = none :=
    afterToken?_eq_none hdigit (first :: others) (back ++ text) hshort
  refine ⟨first, maskTokens (Unicode.isWord first) (others ++ c :: (back ++ text)), ?_, hfirst⟩
  rw [← maskTokens_of_none hnone inWord]
  simp

/-- No pass begins in the white space before the scheme, and the last two do not
begin in the mask either. -/
theorem blank_lead (h : ∀ c ∈ lead, isBlank c = true) :
    (∀ c ∈ lead, c.toLower ≠ 'b') ∧ 't' ∉ lead ++ mask ∧
      ∀ c ∈ lead ++ mask, Hex.isSmallDigit c = false := by
  refine ⟨fun c hc hb => ?_, fun hm => ?_, fun c hc => ?_⟩
  · have hblank := h c hc
    rw [toLower_of_isBlank hblank] at hb
    subst hb
    revert hblank
    decide
  · rcases List.mem_append.1 hm with hlead | hmask
    · exact absurd (h 't' hlead) (by decide)
    · revert hmask
      decide
  · rcases List.mem_append.1 hc with hlead | hmask
    · exact Hex.isSmallDigit_of_isBlank (h c hlead)
    · have hall : mask.all (!Hex.isSmallDigit ·) = true := by decide
      simpa using List.all_eq_true.1 hall c hmask

/-- When a run of credential characters follows the one space, it is masked, and
the passes go on behind it. -/
theorem redact_run (h : LeadsUp before lead word []) (hc : isCredentialChar c = true)
    (rest : List Char) : ∃ inWord, redact (before ++ c :: rest) = (lead ++ mask) ++
      maskTokens inWord (maskParameters (maskCredentials (rest.dropWhile isCredentialChar))) := by
  obtain ⟨hlead, hparameters, htokens⟩ := blank_lead h.lead_blank
  have hafter := afterCredential?_scheme h.scheme c rest
  rw [if_pos hc] at hafter
  have htext : before ++ c :: rest = lead ++ (word ++ ' ' :: c :: rest) := by
    rw [h.eq]
    simp
  have hcredentials : maskCredentials (before ++ c :: rest) =
      (lead ++ mask) ++ maskCredentials (rest.dropWhile isCredentialChar) := by
    rw [htext, maskCredentials_append hlead, maskCredentials_of_some hafter, List.append_assoc]
  rw [redact, hcredentials, maskParameters_append hparameters]
  exact maskTokens_append htokens false _

/-- When anything else follows the space, the scheme stays where the mask would
be. -/
theorem redact_kept (h : LeadsUp before lead word gap) {rest : List Char}
    (hnext : gap ++ token = c :: rest) (hc : isCredentialChar c = false) :
    ∃ first more, redact (before ++ token) = lead ++ first :: more ∧ first.toLower = 'b' := by
  obtain ⟨hlead, hparameters, htokens⟩ := blank_lead h.lead_blank
  have hafter := afterCredential?_scheme h.scheme c rest
  rw [hc, if_neg (by decide)] at hafter
  have htext : before ++ token = lead ++ (word ++ ' ' :: c :: rest) := by
    rw [h.eq, ← hnext]
    simp
  -- no parameter begins before the rest, and no token either
  have hnot : 't' ∉ lead ++ word := by
    rw [List.mem_append, not_or]
    exact ⟨fun hm => hparameters (List.mem_append_left _ hm), not_mem_scheme h.scheme⟩
  have hparts : maskParameters (maskCredentials (before ++ token)) =
      lead ++ (word ++ maskParameters (maskCredentials (' ' :: c :: rest))) := by
    rw [htext, maskCredentials_append hlead, maskCredentials_scheme h.scheme hafter,
      ← List.append_assoc, maskParameters_append hnot, List.append_assoc]
  -- the scheme stays as it is, for the third pass takes no letter off its front
  obtain ⟨inWord, hbehind⟩ := maskTokens_append
    (fun c hc => htokens c (List.mem_append_left _ hc)) false
    (word ++ maskParameters (maskCredentials (' ' :: c :: rest)))
  obtain ⟨first, more, hscheme, hfirst⟩ := maskTokens_scheme h.scheme inWord
    (maskParameters (maskCredentials (' ' :: c :: rest)))
  exact ⟨first, more, by rw [redact, hparts, hbehind, hscheme], hfirst⟩

/-- All of a credential is masked if and only if one space separates it from the
scheme and it has no other characters than those of a credential. -/
theorem redact_eq_mask_iff (h : LeadsUp before lead word gap) (hne : token ≠ []) :
    redact (before ++ token) = lead ++ mask ↔
      gap = [] ∧ ∀ c ∈ token, isCredentialChar c = true := by
  constructor
  · intro hmasked
    obtain ⟨c, rest, hnext⟩ :=
      List.exists_cons_of_ne_nil (List.append_ne_nil_of_right_ne_nil gap hne)
    -- otherwise the line keeps a letter of the scheme where the mask would begin
    have hc : isCredentialChar c = true := by
      by_contra hc
      obtain ⟨first, more, hkept, hfirst⟩ := redact_kept h hnext (by simpa using hc)
      rw [hkept, List.append_cancel_left_eq] at hmasked
      have hsame := (List.cons.inj hmasked).1
      rw [hsame] at hfirst
      revert hfirst
      decide
    -- nor is the next character a blank, so no blank is left between
    have hgap : gap = [] := by
      cases gap with
      | nil => rfl
      | cons d gap =>
        rw [List.cons_append] at hnext
        have hblank := isBlank_of_isCredentialChar hc
        rw [← (List.cons.inj hnext).1, h.gap_blank d List.mem_cons_self] at hblank
        cases hblank
    subst hgap
    rw [List.nil_append] at hnext
    subst hnext
    obtain ⟨inWord, hrun⟩ := redact_run h hc rest
    rw [hrun, List.append_right_eq_self] at hmasked
    refine ⟨rfl, List.forall_mem_cons.2 ⟨hc, List.dropWhile_eq_nil_iff.1 ?_⟩⟩
    -- what the mask has left over no later pass takes away
    by_contra hleft
    exact maskTokens_ne_nil inWord (maskParameters_ne_nil (maskCredentials_ne_nil hleft)) hmasked
  · -- the whole token is the run that the mask takes
    rintro ⟨rfl, hall⟩
    obtain ⟨c, rest, rfl⟩ := List.exists_cons_of_ne_nil hne
    rw [List.forall_mem_cons] at hall
    obtain ⟨inWord, hrun⟩ := redact_run h hall.1 rest
    rw [hrun, List.dropWhile_eq_nil_iff.2 hall.2, maskCredentials_nil, maskParameters_nil,
      maskTokens_nil, List.append_nil]

end Redaction

-- ---------------------------------------------------------------------------
-- Accepted and masked
-- ---------------------------------------------------------------------------

namespace Credential

open Redaction

variable {header header' : Header} {before token token' : String}

theorem bearerOfValue?_of_bearer?
    (hvalue : header.firstText? authorization = some (before ++ token).toList)
    (htoken : bearer? header = some token) :
    bearerOfValue? (before.toList ++ token.toList) = some (String.ofList token.toList) := by
  rw [bearer?, hvalue, Option.bind_some, String.toList_append] at htoken
  rw [htoken, String.ofList_toList]

/-- The text ends in white space that is one space. -/
def EndsInOneSpace (before : String) : Prop :=
  before.toList = Blank.trimEnd before.toList ++ [' ']

instance (before : String) : Decidable (EndsInOneSpace before) :=
  inferInstanceAs (Decidable (_ = _))

/-- What an accepted credential is masked as, when all of it is masked. -/
theorem redactText_eq_mask_iff
    (hvalue : header.firstText? authorization = some (before ++ token).toList)
    (htoken : bearer? header = some token) :
    redactText (before ++ token) =
        String.ofList (before.toList.takeWhile isBlank) ++ "[REDACTED]" ↔
      EndsInOneSpace before ∧ ∀ c ∈ token.toList, isCredentialChar c = true := by
  obtain ⟨hne, lead, word, gap, h⟩ :=
    leadsUp_of_bearerOfValue? (bearerOfValue?_of_bearer? hvalue htoken)
  have hmask : String.ofList lead ++ "[REDACTED]" = String.ofList (lead ++ mask) :=
    String.ofList_append.symm
  rw [EndsInOneSpace, ← h.gap_eq_nil_iff, h.takeWhile_isBlank,
    ← redact_eq_mask_iff h hne, redactText, String.toList_append, hmask, String.ofList_inj]

/-- **Which bearer tokens are masked.** Let two tokens be read from values that
begin with the same text and end in the token.

* All of the credential is masked if and only if the text before the token ends
  in one space and the token consists of credential characters.
* If this is so of both, the two values are the same text once they are masked:
  nothing of the tokens is kept. -/
theorem masked_iff (hvalue : header.firstText? authorization = some (before ++ token).toList)
    (htoken : bearer? header = some token)
    (hvalue' : header'.firstText? authorization = some (before ++ token').toList)
    (htoken' : bearer? header' = some token') :
    (redactText (before ++ token) =
        String.ofList (before.toList.takeWhile isBlank) ++ "[REDACTED]" ↔
      EndsInOneSpace before ∧ ∀ c ∈ token.toList, isCredentialChar c = true) ∧
    (EndsInOneSpace before → (∀ c ∈ token.toList, isCredentialChar c = true) →
      (∀ c ∈ token'.toList, isCredentialChar c = true) →
        redactText (before ++ token) = redactText (before ++ token')) := by
  have hmasked := redactText_eq_mask_iff hvalue htoken
  have hmasked' := redactText_eq_mask_iff hvalue' htoken'
  -- both are masked as a whole, and the mask does not tell them apart
  refine ⟨hmasked, fun hspace hall hall' => ?_⟩
  rw [hmasked.2 ⟨hspace, hall⟩, hmasked'.2 ⟨hspace, hall'⟩]

/-- Two tokens are masked behind a scheme in small letters. -/
theorem masked_iff_alike :
    let header : Header := [⟨"authorization", Utf8.encode "\tbearer first.token"⟩]
    let header' : Header := [⟨"authorization", Utf8.encode "\tbearer 2nd~token=="⟩]
    bearer? header = some "first.token" ∧ bearer? header' = some "2nd~token==" ∧
      redactText "\tbearer first.token" = redactText "\tbearer 2nd~token==" := by
  intro header header'
  have htoken : bearer? header = some "first.token" := by decide
  have htoken' : bearer? header' = some "2nd~token==" := by decide
  have hvalue : header.firstText? authorization = some ("\tbearer " ++ "first.token").toList := by
    decide
  have hvalue' : header'.firstText? authorization = some ("\tbearer " ++ "2nd~token==").toList := by
    decide
  have hchars : "first.token".toList.all isCredentialChar = true := by decide
  have hchars' : "2nd~token==".toList.all isCredentialChar = true := by decide
  have halike := (masked_iff hvalue htoken hvalue' htoken').2 (by decide)
    (List.all_eq_true.1 hchars) (List.all_eq_true.1 hchars')
  exact ⟨htoken, htoken', halike⟩

/-- Behind two spaces, and behind a character that is not one of a credential,
two tokens are accepted and can still be told apart once they are masked. -/
theorem accepted_and_kept :
    let accepted (value token : String) : Prop :=
      bearer? [⟨"authorization", Utf8.encode value⟩] = some token
    (accepted "Bearer  first" "first" ∧ accepted "Bearer  second" "second" ∧
      redactText "Bearer  first" ≠ redactText "Bearer  second") ∧
    (accepted "Bearer abc!first" "abc!first" ∧ accepted "Bearer abc!second" "abc!second" ∧
      redactText "Bearer abc!first" ≠ redactText "Bearer abc!second") := by
  intro accepted
  decide +kernel

end Credential

end Flagpost
