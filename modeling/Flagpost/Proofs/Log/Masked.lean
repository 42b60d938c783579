import Flagpost.Proofs.Log.Passes

/-!
# Flagpost — masked texts

A text that has been masked is masked to its end: no credential and no generated
token is left in it, the value of a token parameter is the mask, and masking it
again changes nothing (`Redaction.redactText_settled`).

A pass could leave its own shape behind where what it puts in meets what it keeps,
and a later pass could bring back the shape of an earlier one. Neither happens,
because what stands in a masked text and has one of the shapes stood in the text
before: none of the shapes begins in the middle of what is put in, and where one
goes on into it, it could have gone on into what stood there.

* `Redaction.exists_scheme_of_apply` — a credential in what a pass puts out.
* `Redaction.valuesMasked_parameters`, `Redaction.valuesMasked_tokens` — the values.
* `Redaction.freeOfTokens_tokens`    — the tokens, and the words around them.
-/

namespace Flagpost

namespace Redaction

variable {text rest lead head : List Char} {c : Char} {inWord : Bool} {P : Pass}

-- ---------------------------------------------------------------------------
-- What is left of the shapes
-- ---------------------------------------------------------------------------

/-- A bearer credential: the scheme in any case, and credential characters. -/
def IsCredential (found : List Char) : Prop :=
  ∃ head run, found = head ++ run ∧ head.map Char.toLower = scheme ∧ run ≠ [] ∧
    ∀ c ∈ run, isCredentialChar c = true

/-- There is no bearer credential in a text. -/
def FreeOfCredentials (text : List Char) : Prop :=
  ∀ lead found rest, text = lead ++ (found ++ rest) → ¬ IsCredential found

/-- No generated token stands in a text as a word of its own. -/
def FreeOfTokens (text : List Char) : Prop :=
  ∀ lead time random rest, text = lead ++ (time ++ '-' :: (random ++ rest)) →
    TokenDigits time random → endsInWord false lead = true ∨ beginsWithWord rest = true

/-- The names of a token parameter, with the equals sign. -/
def parameterNames : List (List Char) := [parameter, "admin_token=".toList]

/-- The value of every token parameter of a text is the mask. -/
def ValuesMasked (text : List Char) : Prop :=
  ∀ name ∈ parameterNames, ∀ lead value rest, text = lead ++ (name ++ (value ++ rest)) →
    value ≠ [] → (∀ c ∈ value, isValueChar c = true) → rest.takeWhile isValueChar = [] →
      value = mask

theorem freeOfCredentials_iff : FreeOfCredentials text ↔ ∀ lead head c rest,
    text = lead ++ (head ++ c :: rest) → head.map Char.toLower = scheme →
      isCredentialChar c = false := by
  constructor
  · intro h lead head c rest htext hhead
    by_contra hc
    refine h lead (head ++ [c]) rest (by simpa using htext) ⟨head, [c], rfl, hhead, by simp, ?_⟩
    exact List.forall_mem_singleton.2 (by simpa using hc)
  · rintro h lead found rest htext ⟨head, run, rfl, hhead, hne, hrun⟩
    obtain ⟨c, run, rfl⟩ := List.exists_cons_of_ne_nil hne
    have hc := h lead head c (run ++ rest) (by simpa using htext) hhead
    rw [hrun c List.mem_cons_self] at hc
    cases hc

/-- The longer name ends in the shorter one, so this is enough. -/
theorem valuesMasked_iff : ValuesMasked text ↔ ∀ lead behind, text = lead ++ (parameter ++ behind) →
    behind.takeWhile isValueChar = [] ∨ behind.takeWhile isValueChar = mask := by
  have hsplit : ∀ behind : List Char,
      behind = behind.takeWhile isValueChar ++ behind.dropWhile isValueChar :=
    fun behind => List.takeWhile_append_dropWhile.symm
  constructor
  · intro h lead behind htext
    -- the value is the whole run of value characters
    by_cases hnil : behind.takeWhile isValueChar = []
    · exact .inl hnil
    · exact .inr (h parameter List.mem_cons_self lead _ _ (hsplit behind ▸ htext) hnil
        (fun c hc => List.mem_takeWhile_imp hc) (takeWhile_dropWhile _ behind))
  · intro h name hname lead value rest htext hne hvalue hrest
    -- each name ends in the shorter one
    obtain ⟨longer, rfl⟩ : ∃ longer, name = longer ++ parameter := by
      rcases List.mem_cons.1 hname with rfl | hname
      · exact ⟨[], rfl⟩
      · exact ⟨"admin_".toList, List.mem_singleton.1 hname⟩
    have hrun : (value ++ rest).takeWhile isValueChar = value := by
      rw [List.takeWhile_append_of_pos hvalue, hrest, List.append_nil]
    have hmasked := h (lead ++ longer) (value ++ rest) (by simpa using htext)
    rw [hrun] at hmasked
    exact hmasked.resolve_left hne

-- ---------------------------------------------------------------------------
-- Credentials
-- ---------------------------------------------------------------------------

theorem exists_cons_of_scheme (h : head.map Char.toLower = scheme) :
    ∃ first others, head = first :: others ∧ first.toLower = 'b' := by
  obtain ⟨first, others, rfl, hfirst, -⟩ := List.map_eq_cons_iff.1 h
  exact ⟨first, others, rfl, hfirst⟩

theorem afterCredential?_isSome (hhead : head.map Char.toLower = scheme)
    (hc : isCredentialChar c = true) : afterCredential? (head ++ c :: rest) ≠ none := by
  have hsome := afterCredential?_eq_some_iff.2 ⟨head, c, rest, rfl, hhead, hc, rfl⟩
  exact Option.ne_none_iff_exists'.2 ⟨_, hsome⟩

/-- What looks like a credential in what a pass puts out stood in the text
already, up to its first character behind the scheme, if the pass does not put
in anything that could belong to one. -/
theorem exists_scheme_of_apply (hothers : 'b' ∉ P.others.map Char.toLower)
    (hopening : P.opening.toLower ∉ scheme)
    (hbegin : ∀ {inWord text c rest}, isCredentialChar c = true → P.apply inWord text = c :: rest →
      ∃ tail, text = c :: tail)
    (hhead : head.map Char.toLower = scheme) (hc : isCredentialChar c = true)
    (h : P.apply inWord text = lead ++ (head ++ c :: rest)) :
    ∃ inWord' lead' tail, text = lead' ++ (head ++ c :: tail) ∧
      P.after? inWord' (head ++ c :: tail) = none := by
  obtain ⟨first, others, rfl, hfirst⟩ := exists_cons_of_scheme hhead
  have hkept : P.opening ∉ first :: others :=
    fun hmem => hopening (hhead ▸ List.mem_map_of_mem hmem)
  obtain ⟨inWord', behind, hreaches, hnone, hbehind⟩ :=
    Pass.exists_place (fun hmem => hothers (hfirst ▸ List.mem_map_of_mem hmem)) hkept h
  obtain ⟨tail, rfl⟩ := hbegin hc hbehind.symm
  obtain ⟨lead', rfl⟩ := hreaches.suffix
  exact ⟨inWord', lead', tail, rfl, hnone⟩

theorem begins_of_apply (hopening : isCredentialChar P.opening = false)
    (hc : isCredentialChar c = true) (h : P.apply inWord text = c :: rest) :
    ∃ tail, text = c :: tail := by
  have hne : P.opening ∉ [c] := by
    rw [List.mem_singleton]
    rintro rfl
    rw [hc] at hopening
    cases hopening
  obtain ⟨behind, htext, -⟩ := Pass.exists_behind hne h
  exact ⟨behind, htext⟩

/-- What is put in for a parameter begins like the parameter. -/
theorem begins_of_maskParameters (h : maskParameters text = c :: rest) :
    ∃ tail, text = c :: tail := by
  cases hafter : afterParameter? text with
  | some behind =>
    obtain ⟨_, _, _, rfl, rfl, -⟩ := afterParameter?_eq_some_iff.1 hafter
    rw [maskParameters_of_some hafter] at h
    exact ⟨_, congrArg (· :: _) (List.cons.inj h).1⟩
  | none =>
    cases text with
    | nil =>
      rw [maskParameters_nil] at h
      cases h
    | cons d text =>
      rw [maskParameters_of_none hafter] at h
      exact ⟨text, congrArg (· :: text) (List.cons.inj h).1⟩

theorem freeOfCredentials_credentials (text : List Char) :
    FreeOfCredentials (maskCredentials text) := by
  rw [freeOfCredentials_iff]
  intro lead head c rest htext hhead
  by_contra hc
  have hchar : isCredentialChar c = true := by simpa using hc
  have hmasked : credentials.apply false text = lead ++ (head ++ c :: rest) := htext
  obtain ⟨_, _, tail, _, hnone⟩ := exists_scheme_of_apply (by decide) (by decide)
    (begins_of_apply (by decide)) hhead hchar hmasked
  exact afterCredential?_isSome hhead hchar hnone

theorem FreeOfCredentials.parameters (h : FreeOfCredentials text) :
    FreeOfCredentials (maskParameters text) := by
  rw [freeOfCredentials_iff] at h ⊢
  intro lead head c rest htext hhead
  by_contra hc
  have hchar : isCredentialChar c = true := by simpa using hc
  have hmasked : Redaction.parameters.apply false text = lead ++ (head ++ c :: rest) := htext
  obtain ⟨_, lead', tail, rfl, _⟩ := exists_scheme_of_apply (by decide) (by decide)
    (fun _ => begins_of_maskParameters) hhead hchar hmasked
  exact hc (h lead' head c tail rfl hhead)

theorem FreeOfCredentials.tokens (h : FreeOfCredentials text) :
    FreeOfCredentials (maskTokens inWord text) := by
  rw [freeOfCredentials_iff] at h ⊢
  intro lead head c rest htext hhead
  by_contra hc
  have hchar : isCredentialChar c = true := by simpa using hc
  obtain ⟨_, lead', tail, rfl, _⟩ := exists_scheme_of_apply (P := Redaction.tokens)
    (by decide) (by decide) (begins_of_apply (by decide)) hhead hchar htext
  exact hc (h lead' head c tail rfl hhead)

theorem FreeOfCredentials.maskCredentials_eq_self (h : FreeOfCredentials text) :
    maskCredentials text = text := by
  show credentials.apply false text = text
  refine credentials.apply_eq_self fun lead text' htext => ?_
  cases hafter : afterCredential? text' with
  | none => exact hafter
  | some behind =>
    obtain ⟨head, run, rfl, hhead, hne, hrun, -⟩ :=
      exists_run_iff.1 (afterCredential?_eq_some_iff.1 hafter)
    rw [← List.append_assoc head] at htext
    exact absurd ⟨head, run, rfl, hhead, hne, hrun⟩ (h lead (head ++ run) behind htext)

-- ---------------------------------------------------------------------------
-- Parameters
-- ---------------------------------------------------------------------------

theorem takeWhile_mask_append (h : rest.takeWhile isValueChar = []) :
    (mask ++ rest).takeWhile isValueChar = mask := by
  have hmask : ∀ c ∈ mask, isValueChar c = true := List.all_eq_true.1 (by decide)
  rw [List.takeWhile_append_of_pos hmask, h, List.append_nil]

/-- A parameter begins with a value character, so where a value ends, it ends once
the parameters behind it are masked. -/
theorem takeWhile_maskParameters (h : text.takeWhile isValueChar = []) :
    (maskParameters text).takeWhile isValueChar = [] := by
  show (parameters.apply false text).takeWhile isValueChar = []
  refine parameters.takeWhile_apply (fun {_ c rest} hc => ?_) h
  have hname : after? parameter (c :: rest) = none := by
    refine if_neg ?_
    rintro rfl
    revert hc
    decide
  have hnone : afterParameter? (c :: rest) = none := by
    rw [afterParameter?, hname]
  exact hnone

/-- So does a generated token. -/
theorem takeWhile_maskTokens (h : text.takeWhile isValueChar = []) :
    (maskTokens inWord text).takeWhile isValueChar = [] := by
  refine tokens.takeWhile_apply (fun {inWord c rest} hc => ?_) h
  have hdigit : Hex.isSmallDigit c = false := by
    by_contra hdigit
    have hsmall : Hex.isSmallDigit c = true := by simpa using hdigit
    rw [isValueChar_of_isCredentialChar (isCredentialChar_of_isSmallDigit hsmall)] at hc
    cases hc
  have hnone : afterToken? (c :: rest) = none := afterToken?_eq_none hdigit [] rest (by decide)
  cases inWord with
  | true => rfl
  | false => exact hnone

theorem parameter_eq : parameter = 't' :: "oken=".toList := by
  decide

theorem takeWhile_of_afterParameter? (h : afterParameter? (parameter ++ rest) = none) :
    rest.takeWhile isValueChar = [] := by
  rw [List.takeWhile_eq_nil_iff]
  intro hpos hvalue
  obtain ⟨c, tail, rfl⟩ := List.exists_cons_of_length_pos hpos
  have hsome := afterParameter?_eq_some_iff.2 ⟨parameter, c, tail, rfl, rfl, hvalue, rfl⟩
  rw [h] at hsome
  cases hsome

theorem valuesMasked_parameters (text : List Char) : ValuesMasked (maskParameters text) := by
  rw [valuesMasked_iff]
  intro lead behind htext
  have hplace : parameters.apply false text = lead ++ 't' :: ("oken=".toList ++ behind) := by
    rwa [parameter_eq] at htext
  obtain ⟨inWord', text', -, happly⟩ := Pass.exists_reaches (by decide) hplace
  cases hafter : afterParameter? text' with
  | some behind' =>
    -- the parameter is one that was put in, and its value was masked with it
    obtain ⟨-, -, -, -, -, -, hrest⟩ :=
      exists_run_iff.1 (afterParameter?_eq_some_iff.1 hafter)
    have hbehind : parameter ++ (mask ++ maskParameters behind') = parameter ++ behind := by
      rw [← List.append_assoc, ← maskParameters_of_some hafter, parameter_eq]
      exact happly
    rw [← List.append_cancel_left hbehind]
    exact .inr (takeWhile_mask_append (takeWhile_maskParameters hrest))
  | none =>
    -- the parameter was kept, so it has no value
    cases text' with
    | nil =>
      rw [parameters.apply_nil] at happly
      cases happly
    | cons c text' =>
      rw [parameters.apply_of_none hafter, List.cons_eq_cons] at happly
      obtain ⟨behind', rfl, rfl⟩ := Pass.exists_behind (by decide) happly.2
      rw [happly.1, ← List.cons_append, ← parameter_eq] at hafter
      exact .inl (takeWhile_maskParameters (takeWhile_of_afterParameter? hafter))

theorem ValuesMasked.tokens (h : ValuesMasked text) : ValuesMasked (maskTokens inWord text) := by
  rw [valuesMasked_iff] at h ⊢
  intro lead behind htext
  -- a place with the parameter in the outcome was one in the text
  have hplace : Redaction.tokens.apply inWord text =
      lead ++ ('t' :: "oken=".toList ++ behind) := by
    rwa [parameter_eq] at htext
  obtain ⟨inWord', behind', hreaches, -, rfl⟩ :=
    Pass.exists_place (by decide) (by decide) hplace
  obtain ⟨lead', rfl⟩ := hreaches.suffix
  rw [← parameter_eq] at h
  rcases h lead' behind' rfl with hnil | hmask
  · -- its value was empty, and where no value begins no token does
    exact .inl (takeWhile_maskTokens hnil)
  · -- its value was the mask, which holds no digit and is kept
    have hnone : mask.any Hex.isSmallDigit = false := by decide
    have hdigits : ∀ c ∈ mask, Hex.isSmallDigit c = false := fun c hc => by
      simpa using List.any_eq_false.1 hnone c hc
    have hsplit := List.takeWhile_append_dropWhile (p := isValueChar) (l := behind')
    rw [hmask] at hsplit
    obtain ⟨inWord'', hkept⟩ := maskTokens_append hdigits
      (endsInWord inWord' ('t' :: "oken=".toList)) (behind'.dropWhile isValueChar)
    rw [hsplit] at hkept
    refine .inr ?_
    rw [show Redaction.tokens.apply = maskTokens from rfl, hkept]
    exact takeWhile_mask_append (takeWhile_maskTokens (takeWhile_dropWhile _ behind'))

/-- Where the values are masked already, they stay as they are. -/
theorem ValuesMasked.maskParameters_eq_self (h : ValuesMasked text) :
    maskParameters text = text := by
  rw [valuesMasked_iff] at h
  induction hn : text.length using Nat.strong_induction_on generalizing text with
  | h n ih =>
    cases hafter : afterParameter? text with
    | some behind =>
      -- the first match is the parameter with a value, and the value is the mask already
      obtain ⟨_, run, htext, rfl, hne, hrun, hrest⟩ :=
        exists_run_iff.1 (afterParameter?_eq_some_iff.1 hafter)
      have hvalue : (run ++ behind).takeWhile isValueChar = run := by
        rw [List.takeWhile_append_of_pos hrun, hrest, List.append_nil]
      have hmask : run = mask := by
        have hcases := h [] (run ++ behind) htext
        rw [hvalue] at hcases
        exact hcases.resolve_left hne
      subst hmask
      have hlater : maskParameters behind = behind := by
        refine ih _ (hn ▸ afterParameter?_length hafter) (fun lead more hmore => ?_) rfl
        exact h (parameter ++ (mask ++ lead)) more (by rw [htext, hmore]; simp)
      rw [maskParameters_of_some hafter, hlater, htext, List.append_assoc]
    | none =>
      -- nothing is matched here, so the first character stays
      cases text with
      | nil => exact maskParameters_nil
      | cons c text =>
        have hlater : maskParameters text = text := by
          refine ih _ (by rw [← hn, List.length_cons]; omega) (fun lead more hmore => ?_) rfl
          exact h (c :: lead) more (by rw [hmore, List.cons_append])
        rw [maskParameters_of_none hafter, hlater]

-- ---------------------------------------------------------------------------
-- Tokens
-- ---------------------------------------------------------------------------

/-- Behind a word a walk keeps what is there, whatever was put in before it. -/
theorem endsInWord_of_reaches {inWord' : Bool} {text' : List Char}
    (h : tokens.Reaches inWord text lead inWord' text') (hword : beginsWithWord text' = true) :
    inWord' = endsInWord inWord lead := by
  induction h with
  | here => rfl
  | keep _ _ ih => rw [endsInWord_cons, ih hword]
  | @replace inWord _ text rest lead text' hsome hreaches ih =>
    cases inWord with
    | true => cases hsome
    | false =>
      cases lead with
      | nil =>
        -- what follows a token does not begin with a word
        rw [hreaches.of_nil.2] at hword
        obtain ⟨-, -, -, -, hrest⟩ := afterToken?_eq_some_iff.1 hsome
        rw [hword] at hrest
        cases hrest
      | cons d lead =>
        rw [ih hword]
        exact (endsInWord_append _ _ _ (List.cons_ne_nil d lead)).symm

theorem beginsWithWord_maskTokens (text : List Char) :
    beginsWithWord (maskTokens true text) = beginsWithWord text := by
  cases text with
  | nil => rw [maskTokens_nil]
  | cons c text =>
    rw [maskTokens_inWord]
    rfl

theorem freeOfTokens_tokens (text : List Char) : FreeOfTokens (maskTokens false text) := by
  intro lead time random rest htext htoken
  by_contra hwords
  rw [not_or, Bool.not_eq_true, Bool.not_eq_true] at hwords
  obtain ⟨c, time, rfl⟩ :=
    List.exists_cons_of_length_pos (Nat.lt_of_lt_of_le (by decide) htoken.long)
  have hdigit : Hex.isSmallDigit c = true := htoken.time_digits c List.mem_cons_self
  have hfirst : c ∉ tokens.others := by
    have hnone : tokens.others.any Hex.isSmallDigit = false := by decide
    exact fun hmem => List.any_eq_false.1 hnone c hmem hdigit
  have hkept : tokens.opening ∉ c :: (time ++ '-' :: random) := by
    intro hmem
    have hopening : isTokenChar tokens.opening = true := htoken.isTokenChar hmem
    revert hopening
    decide
  have hplace : tokens.apply false text = lead ++ (c :: (time ++ '-' :: random) ++ rest) :=
    htext.trans (by simp)
  obtain ⟨inWord', behind, hreaches, hnone, rfl⟩ := Pass.exists_place hfirst hkept hplace
  -- the token stood there as a word of its own, so it was not kept
  have hbefore : inWord' = false := by
    rw [endsInWord_of_reaches hreaches (isWord_of_isSmallDigit hdigit)]
    exact hwords.1
  have hbehind : beginsWithWord behind = false := by
    have hlast : endsInWord inWord' (c :: (time ++ '-' :: random)) = true :=
      htoken.endsInWord inWord'
    rw [← beginsWithWord_maskTokens, ← hlast]
    exact hwords.2
  have hsome : afterToken? (c :: (time ++ '-' :: random) ++ behind) = some behind :=
    afterToken?_eq_some_iff.2 ⟨c :: time, random, by simp, htoken, hbehind⟩
  subst hbefore
  rw [show tokens.after? false = afterToken? from rfl, hsome] at hnone
  cases hnone

theorem FreeOfTokens.maskTokens_eq_self (h : FreeOfTokens text) : maskTokens false text = text := by
  refine tokens.apply_eq_self fun lead text' htext => ?_
  cases hword : endsInWord false lead with
  | true => rfl
  | false =>
    show afterToken? text' = none
    by_contra hsome
    obtain ⟨behind, hafter⟩ := Option.ne_none_iff_exists'.1 hsome
    obtain ⟨time, random, rfl, htoken, hbehind⟩ := afterToken?_eq_some_iff.1 hafter
    rcases h lead time random behind htext htoken with hlead | hrest
    · rw [hword] at hlead
      cases hlead
    · rw [hbehind] at hrest
      cases hrest

-- ---------------------------------------------------------------------------
-- Masked texts
-- ---------------------------------------------------------------------------

/-- Masking takes all secrets out of a text, and leaves a text without secrets as
it is. -/
theorem redact_settled (text : List Char) : FreeOfCredentials (redact text) ∧
    ValuesMasked (redact text) ∧ FreeOfTokens (redact text) := by
  rw [redact]
  exact ⟨(freeOfCredentials_credentials text).parameters.tokens,
    (valuesMasked_parameters (maskCredentials text)).tokens, freeOfTokens_tokens _⟩

theorem redact_eq_self (hcredentials : FreeOfCredentials text) (hvalues : ValuesMasked text)
    (htokens : FreeOfTokens text) : redact text = text := by
  rw [redact, hcredentials.maskCredentials_eq_self, hvalues.maskParameters_eq_self,
    htokens.maskTokens_eq_self]

/-- **A masked text is masked to its end.** Masking a second time changes nothing,
and in a masked text

* there is no bearer credential;
* there is no generated token that is a word of its own;
* the value of every token parameter is the mask. -/
theorem redactText_settled (text : String) :
    redactText (redactText text) = redactText text ∧
    FreeOfCredentials (redactText text).toList ∧
    FreeOfTokens (redactText text).toList ∧
    ValuesMasked (redactText text).toList := by
  obtain ⟨hcredentials, hvalues, htokens⟩ := redact_settled text.toList
  have hmasked : (redactText text).toList = redact text.toList := String.toList_ofList
  -- where nothing is left to mask, no pass changes anything
  rw [redactText, hmasked, redact_eq_self hcredentials hvalues htokens]
  exact ⟨rfl, hcredentials, htokens, hvalues⟩

end Redaction

end Flagpost
