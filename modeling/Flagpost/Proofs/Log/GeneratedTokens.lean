import Flagpost.Access.Token
import Flagpost.Proofs.Log.Passes
import Flagpost.Proofs.Text.Bytes
import Flagpost.Proofs.Text.Digits

/-!
# Flagpost — generated tokens in what is logged

A generated token that stands in a text as a word of its own is masked so that
the masked text does not tell which token it was (`Redaction.redactText_drawn`),
wherever in the text it stands and whatever stands around it.

Two texts that only differ in such a token are followed through the passes
(`Redaction.Alike`). The first two passes do not tell tokens apart: their shapes
do not begin in a token, and where one goes on into it, it takes all of it. The
third masks it: a token that began before would have to go on over the hyphen.

* `Token.Drawn.isGenerated`         — what a drawn token consists of.
* `Redaction.Alike.apply`           — what the first two passes keep alike.
* `Redaction.Alike.maskTokens_eq`   — what the last one makes the same.
-/

namespace Flagpost

variable {before after token token' text rest head : List Char} {c : Char} {inWord : Bool}

namespace Redaction

-- ---------------------------------------------------------------------------
-- Drawn tokens
-- ---------------------------------------------------------------------------

/-- A text that the third pass knows as a generated token. There are at most
sixteen digits before the hyphen, so they are not mistaken for those behind it. -/
def IsGenerated (token : List Char) : Prop :=
  ∃ time random, token = time ++ '-' :: random ∧ TokenDigits time random ∧ time.length ≤ 16

theorem IsGenerated.ne_nil (h : IsGenerated token) : token ≠ [] := by
  obtain ⟨time, random, rfl, -, -⟩ := h
  simp

theorem IsGenerated.isTokenChar (h : IsGenerated token) :
    ∀ c ∈ token, isTokenChar c = true := by
  obtain ⟨time, random, rfl, htoken, -⟩ := h
  exact fun c hc => htoken.isTokenChar hc

end Redaction

namespace Token

open Redaction

/-- A token that was drawn while the clock could be read in eight to sixteen
digits, whether there were random bytes or not. -/
def Drawn (token : String) : Prop :=
  ∃ nanos random, 2 ^ 28 ≤ nanos ∧ nanos < 2 ^ 64 ∧
    (∀ bytes, random = some bytes → bytes.length = randomBytes) ∧ token = generate nanos random

/-- The bytes behind the hyphen are sixteen, also those that stand in. -/
theorem length_bytes {nanos : Nat} {random : Option Bytes} (hnanos : nanos < 2 ^ 64)
    (hrandom : ∀ bytes, random = some bytes → bytes.length = randomBytes) :
    (random.getD (Utf8.encode (String.ofList (Hex.padded 16 nanos)))).length = 16 := by
  cases random with
  | some bytes => exact hrandom bytes rfl
  | none =>
    have hascii : ∀ c ∈ Hex.padded 16 nanos, c.toNat < 0x80 :=
      fun c hc => toNat_lt_of_isSmallDigit (Hex.isSmallDigit_of_mem_padded hc)
    rw [Option.getD_none, Utf8.encode_ofList, Utf8.length_ofChars_of_lt hascii,
      Hex.length_padded (by decide) (Nat.lt_of_lt_of_le hnanos (by decide))]

theorem Drawn.isGenerated {drawn : String} (h : Drawn drawn) : IsGenerated drawn.toList := by
  obtain ⟨nanos, random, hlow, hhigh, hrandom, rfl⟩ := h
  have hlong : ¬ (Hex.ofNat nanos).length ≤ 7 := by
    rw [Hex.ofNat, Nat.length_toDigits_le_iff (by decide) (by decide)]
    exact Nat.not_lt.2 (Nat.le_trans (by decide) hlow)
  have hshort : (Hex.ofNat nanos).length ≤ 16 :=
    (Nat.length_toDigits_le_iff (by decide) (by decide)).2 (Nat.lt_of_lt_of_le hhigh (by decide))
  refine ⟨Hex.ofNat nanos, _, String.toList_ofList, ⟨Nat.lt_of_not_le hlong, ?_, ?_, ?_⟩, hshort⟩
  · rw [Hex.length_ofBytes, length_bytes hhigh hrandom]
  · exact fun c hc => Hex.isSmallDigit_of_mem_ofNat hc
  · exact fun c hc => Hex.isSmallDigit_of_mem_ofBytes hc

end Token

namespace Redaction

-- ---------------------------------------------------------------------------
-- Passes that do not tell tokens apart
-- ---------------------------------------------------------------------------

/-- The shape of a pass is a head and the longest run of characters behind it.
All of the head but its last character is a word, in which there is a character
that no token has; all characters of a token belong to a run. -/
structure Pass.HeadAndRun (P : Pass) (isHead : List Char → Prop) (inRun : Char → Bool) : Prop where
  after?_iff : ∀ {inWord text rest}, P.after? inWord text = some rest ↔
    ∃ head c tail, text = head ++ c :: tail ∧ isHead head ∧ inRun c = true ∧
      tail.dropWhile inRun = rest
  isWord : ∀ {head}, isHead head → ∀ c ∈ head.dropLast, Unicode.isWord c = true
  exists_other : ∀ {head}, isHead head → ∃ c ∈ head.dropLast, isTokenChar c = false
  inRun : ∀ {c}, isTokenChar c = true → inRun c = true

theorem isWord_of_toLower (h : Unicode.isWord c.toLower = true) : Unicode.isWord c = true := by
  by_cases hupper : c.isUpper = true
  · have halnum : c.isAlphanum = true := by
      delta Char.isAlphanum Char.isAlpha
      rw [hupper, Bool.true_or, Bool.true_or]
    have hascii : c.toNat < 0x80 := by
      have hrange : 'A'.val ≤ c.val ∧ c.val ≤ 'Z'.val := of_decide_eq_true hupper
      simp [UInt32.le_iff_toNat_le] at hrange
      omega
    rw [Unicode.isWord, if_pos hascii, halnum, Bool.true_or]
  · rwa [toLower_of_not_isUpper (by simpa using hupper)] at h

theorem toLower_of_isTokenChar (h : isTokenChar c = true) : c.toLower = c := by
  rcases Bool.or_eq_true _ _ ▸ h with hdigit | hhyphen
  · exact Hex.toLower_of_isSmallDigit hdigit
  · rw [beq_iff_eq.1 hhyphen]
    rfl

theorem isCredentialChar_of_isTokenChar (h : isTokenChar c = true) :
    isCredentialChar c = true := by
  rcases Bool.or_eq_true _ _ ▸ h with hdigit | hhyphen
  · exact isCredentialChar_of_isSmallDigit hdigit
  · rw [beq_iff_eq.1 hhyphen]
    decide

theorem map_dropLast_of_scheme (h : head.map Char.toLower = scheme) :
    head.dropLast.map Char.toLower = "bearer".toList := by
  rw [List.map_dropLast, h]
  decide

/-- The `r` of the scheme is no character of a token. -/
theorem credentials_headAndRun :
    credentials.HeadAndRun (·.map Char.toLower = scheme) isCredentialChar where
  after?_iff := afterCredential?_eq_some_iff
  isWord := by
    intro head hhead c hc
    -- the letters of the scheme are letters of a word
    have hword : ∀ c ∈ "bearer".toList, Unicode.isWord c = true :=
      List.all_eq_true.1 (by decide)
    refine isWord_of_toLower (hword _ ?_)
    rw [← map_dropLast_of_scheme hhead]
    exact List.mem_map_of_mem hc
  exists_other := by
    intro head hhead
    -- one of them is no character of a token
    have hmem : 'r' ∈ head.dropLast.map Char.toLower := by
      rw [map_dropLast_of_scheme hhead]
      decide
    obtain ⟨c, hc, hlower⟩ := List.mem_map.1 hmem
    refine ⟨c, hc, Bool.not_eq_true _ ▸ fun htoken => ?_⟩
    rw [toLower_of_isTokenChar htoken] at hlower
    subst hlower
    revert htoken
    decide
  inRun := isCredentialChar_of_isTokenChar

/-- Neither is the `t` of the parameter. -/
theorem parameters_headAndRun : parameters.HeadAndRun (· = parameter) isValueChar where
  after?_iff := afterParameter?_eq_some_iff
  isWord := by
    rintro head rfl
    exact List.all_eq_true.1 (by decide)
  exists_other := by
    rintro head rfl
    exact ⟨'t', by decide, by decide⟩
  inRun h := isValueChar_of_isCredentialChar (isCredentialChar_of_isTokenChar h)

-- ---------------------------------------------------------------------------
-- Walks to a token
-- ---------------------------------------------------------------------------

namespace Pass

variable {P : Pass}

/-- Where the shape of a pass begins before a token, it does so before every other
token as well, and it either ends before the token or leaves nothing of it. -/
structure Indifferent (P : Pass) : Prop where
  alike : ∀ {inWord before after token token' rest}, before ≠ [] →
    endsInWord inWord before = false →
    IsGenerated token → IsGenerated token' →
    P.after? inWord (before ++ (token ++ after)) = some rest →
      P.after? inWord (before ++ (token' ++ after)) = some rest ∨
      ∃ behind, behind.length < before.length ∧ endsInWord true behind = false ∧
        rest = behind ++ (token ++ after) ∧
        P.after? inWord (before ++ (token' ++ after)) = some (behind ++ (token' ++ after))

/-- Where no shape begins before a token, none begins there before another one. -/
theorem Indifferent.after?_eq_none (hP : P.Indifferent) (hne : before ≠ [])
    (hbefore : endsInWord inWord before = false) (hgen : IsGenerated token)
    (hgen' : IsGenerated token') (h : P.after? inWord (before ++ (token ++ after)) = none) :
    P.after? inWord (before ++ (token' ++ after)) = none := by
  by_contra hsome
  obtain ⟨rest, hrest⟩ := Option.ne_none_iff_exists'.1 hsome
  rcases hP.alike hne hbefore hgen' hgen hrest with hback | ⟨_, _, _, _, hback⟩
  · rw [h] at hback
    cases hback
  · rw [h] at hback
    cases hback

/-- A walk to a token puts out the same before it whatever the token, if it comes
to the token at all. -/
theorem Indifferent.apply (hP : P.Indifferent) (hgen : IsGenerated token)
    (hgen' : IsGenerated token') (after : List Char)
    (hbefore : endsInWord inWord before = false) :
    P.apply inWord (before ++ (token ++ after)) = P.apply inWord (before ++ (token' ++ after)) ∨
    ∃ lead, endsInWord inWord lead = false ∧
      P.apply inWord (before ++ (token ++ after)) = lead ++ P.apply false (token ++ after) ∧
      P.apply inWord (before ++ (token' ++ after)) = lead ++ P.apply false (token' ++ after) := by
  induction hn : before.length using Nat.strong_induction_on generalizing inWord before with
  | h n ih =>
    cases before with
    | nil =>
      -- the walk has come to the token
      obtain rfl : inWord = false := hbefore
      exact .inr ⟨[], rfl, rfl, rfl⟩
    | cons c before =>
      cases hsome : P.after? inWord (c :: before ++ (token ++ after)) with
      | some rest =>
        -- a match begins before the token: it takes the token in, or it ends before it
        rcases hP.alike (List.cons_ne_nil c before) hbefore hgen hgen' hsome with
          -- the rest of the text is the same whichever token was taken in
          hsome' | ⟨behind, hlength, hbehind, rfl, hsome'⟩
        · left
          rw [P.apply_of_some hsome, P.apply_of_some hsome']
        · -- the walk goes on behind the match, and closer to the token
          rw [P.apply_of_some hsome, P.apply_of_some hsome']
          rcases ih _ (hn ▸ hlength) hbehind rfl with heq | ⟨lead, hlead, heq, heq'⟩
          · left
            rw [heq]
          · right
            have hne : lead ≠ [] := by
              rintro rfl
              cases hlead
            refine ⟨P.opening :: P.others ++ lead, ?_, ?_, ?_⟩
            · rw [endsInWord_append inWord true _ hne, hlead]
            · rw [heq, List.append_assoc]
            · rw [heq', List.append_assoc]
      | none =>
        -- nothing matches here, so a character is put out and the walk goes on
        have hnone' := hP.after?_eq_none (List.cons_ne_nil c before) hbefore hgen hgen' hsome
        rw [endsInWord_cons] at hbefore
        have hlength : before.length < n := by
          rw [← hn, List.length_cons]
          omega
        rw [List.cons_append] at hsome hnone'
        rw [List.cons_append, List.cons_append, P.apply_of_none hsome, P.apply_of_none hnone']
        rcases ih _ hlength hbefore rfl with heq | ⟨lead, hlead, heq, heq'⟩
        · left
          rw [heq]
        · refine .inr ⟨c :: lead, ?_, ?_, ?_⟩
          · rw [endsInWord_cons, hlead]
          · rw [heq, List.cons_append]
          · rw [heq', List.cons_append]

end Pass

-- ---------------------------------------------------------------------------
-- The first two passes
-- ---------------------------------------------------------------------------

/-- Two texts that are the same, or that only a generated token tells apart,
which stands in both as a word of its own. -/
inductive Alike : List Char → List Char → Prop
  | same (text : List Char) : Alike text text
  | apart {before after token token' : List Char} :
      endsInWord false before = false → beginsWithWord after = false →
      IsGenerated token → IsGenerated token' →
      Alike (before ++ (token ++ after)) (before ++ (token' ++ after))

namespace Pass.HeadAndRun

variable {P : Pass} {isHead : List Char → Prop} {inRun : Char → Bool}

theorem beginsWithWord_append {word more : List Char}
    (h : ∀ e ∈ word ++ [c], Unicode.isWord e = true) :
    beginsWithWord (word ++ c :: more) = true := by
  cases word with
  | nil => exact h c (by simp)
  | cons d word => exact h d (by simp)

/-- No head begins in a token: it would have to end in the token or right behind
it, and the character that no token has comes before its end. -/
theorem after?_token (hP : P.HeadAndRun isHead inRun)
    (htoken : ∀ c ∈ token, isTokenChar c = true) (hafter : beginsWithWord after = false)
    (inWord : Bool) : P.after? inWord (token ++ after) = none := by
  by_contra hsome
  obtain ⟨rest, hrest⟩ := Option.ne_none_iff_exists'.1 hsome
  obtain ⟨head, c, tail, htext, hhead, -, -⟩ := hP.after?_iff.1 hrest
  obtain ⟨d, hd, hother⟩ := hP.exists_other hhead
  obtain ⟨front, middle, hsplit⟩ := List.append_of_mem hd
  obtain ⟨back, hback⟩ := head.dropLast_prefix
  have hword : ∀ e ∈ front ++ [d], Unicode.isWord e = true := by
    intro e he
    refine hP.isWord hhead e ?_
    rw [hsplit, List.append_cons]
    exact List.mem_append_left _ he
  have hnot : d ∉ token := by
    intro hmem
    rw [htoken d hmem] at hother
    cases hother
  -- so the text behind the token begins in the middle of the head
  obtain ⟨word, more, hmore, hfront⟩ : ∃ word more, after = word ++ d :: more ∧
      ∀ e ∈ word ++ [d], Unicode.isWord e = true := by
    rw [← hback, hsplit, List.append_assoc, List.append_assoc, List.cons_append] at htext
    rcases List.append_eq_append_iff.1 htext with ⟨word, hlead, hmore⟩ | ⟨more, hlead, hmore⟩
    · refine ⟨word, _, hmore, fun e he => hword e ?_⟩
      rw [hlead, List.append_assoc]
      exact List.mem_append_right _ he
    · cases more with
      | nil =>
        refine ⟨[], _, hmore.symm, fun e he => hword e ?_⟩
        exact List.mem_append_right _ he
      | cons e more =>
        rw [(List.cons.inj hmore).1, hlead] at hnot
        exact absurd (List.mem_append_right _ List.mem_cons_self) hnot
  rw [hmore, beginsWithWord_append hfront] at hafter
  cases hafter

/-- A token stays as it is. -/
theorem apply_token (hP : P.HeadAndRun isHead inRun)
    (htoken : ∀ c ∈ token, isTokenChar c = true) (hafter : beginsWithWord after = false)
    (inWord : Bool) :
    P.apply inWord (token ++ after) = token ++ P.apply (endsInWord inWord token) after := by
  induction token generalizing inWord with
  | nil => rfl
  | cons c token ih =>
    have hnone : P.after? inWord (c :: (token ++ after)) = none :=
      hP.after?_token htoken hafter inWord
    rw [List.cons_append, P.apply_of_none hnone, ih (List.forall_mem_cons.1 htoken).2,
      endsInWord_cons, List.cons_append]

/-- What begins with a word, the shapes among it, does not come to stand behind
the token. -/
theorem beginsWithWord_apply (hP : P.HeadAndRun isHead inRun)
    (hafter : beginsWithWord after = false) (inWord : Bool) :
    beginsWithWord (P.apply inWord after) = false := by
  cases after with
  | nil => rw [P.apply_nil, beginsWithWord]
  | cons c after =>
    have hnone : P.after? inWord ([] ++ c :: after) = none :=
      hP.after?_token (List.forall_mem_nil _) hafter inWord
    rw [List.nil_append] at hnone
    rw [P.apply_of_none hnone]
    exact hafter

/-- All of a head is a word but its last character, so a head that begins in a text
that does not end in a word ends in it. -/
theorem exists_behind_head (hP : P.HeadAndRun isHead inRun) {head tail : List Char}
    (hhead : isHead head) (hne : before ≠ []) (hbefore : endsInWord inWord before = false)
    (htext : before ++ text = head ++ tail) :
    ∃ more, before = head ++ more ∧ tail = more ++ text := by
  rcases List.append_eq_append_iff.1 htext with ⟨last, hlast, hmore⟩ | hends
  · cases last with
    | nil =>
      rw [List.append_nil] at hlast
      -- the head would go on behind a part that is all word
      exact ⟨[], by rw [hlast, List.append_nil], hmore.symm⟩
    | cons d last =>
      have hword : ∀ e ∈ before, Unicode.isWord e = true := by
        intro e he
        refine hP.isWord hhead e ?_
        rw [hlast, List.dropLast_append_of_ne_nil (List.cons_ne_nil d last)]
        exact List.mem_append_left _ he
      rw [endsInWord_of_forall hword hne] at hbefore
      cases hbefore
  · exact hends

/-- A run goes on behind a token. -/
theorem dropWhile_token (hP : P.HeadAndRun isHead inRun) (hgen : IsGenerated token)
    (after : List Char) : (token ++ after).dropWhile inRun = after.dropWhile inRun :=
  List.dropWhile_append_of_pos fun d hd => hP.inRun (hgen.isTokenChar d hd)

/-- A head that begins before the token ends before it; the run behind it ends there
too, or takes the token. -/
theorem indifferent (hP : P.HeadAndRun isHead inRun) : P.Indifferent := by
  refine ⟨fun {inWord before after token token' rest} hne hbefore hgen hgen' hsome => ?_⟩
  obtain ⟨head, c, tail, htext, hhead, hc, hrest⟩ := hP.after?_iff.1 hsome
  obtain ⟨more, rfl, hmore⟩ := hP.exists_behind_head hhead hne hbefore htext
  cases more with
  | nil =>
    -- the run begins with the token
    left
    obtain ⟨d, others, rfl⟩ := List.exists_cons_of_ne_nil hgen'.ne_nil
    have hd : inRun d = true := hP.inRun (hgen'.isTokenChar d List.mem_cons_self)
    have hrest' : after.dropWhile inRun = rest := by
      rw [← hP.dropWhile_token hgen, ← List.nil_append (token ++ after), ← hmore,
        List.dropWhile_cons_of_pos hc, hrest]
    have hothers := hP.dropWhile_token hgen' after
    rw [List.cons_append, List.dropWhile_cons_of_pos hd, hrest'] at hothers
    exact hP.after?_iff.2 ⟨head, d, others ++ after, by simp, hhead, hd, hothers⟩
  | cons d more =>
    obtain ⟨rfl, rfl⟩ := List.cons.inj hmore
    have hcut : ∀ token, IsGenerated token → (more ++ (token ++ after)).dropWhile inRun =
        if (more.dropWhile inRun).isEmpty then after.dropWhile inRun
        else more.dropWhile inRun ++ (token ++ after) := by
      intro token hgen
      rw [List.dropWhile_append, hP.dropWhile_token hgen]
    have hsome' : P.after? inWord (head ++ c :: more ++ (token' ++ after)) =
        some ((more ++ (token' ++ after)).dropWhile inRun) :=
      hP.after?_iff.2 ⟨head, c, more ++ (token' ++ after), by simp, hhead, hc, rfl⟩
    have hrest' := hrest.symm.trans (hcut token hgen)
    rw [hcut token' hgen'] at hsome'
    by_cases hends : (more.dropWhile inRun).isEmpty = true
    · rw [if_pos hends] at hrest' hsome'
      exact .inl (hrest' ▸ hsome')
    · rw [if_neg hends] at hrest' hsome'
      have hbehind : more.dropWhile inRun ≠ [] := fun hnil => hends (List.isEmpty_iff.2 hnil)
      have hsplit : head ++ c :: more =
          (head ++ c :: more.takeWhile inRun) ++ more.dropWhile inRun := by
        rw [List.append_assoc, List.cons_append, List.takeWhile_append_dropWhile]
      rw [hsplit, endsInWord_append inWord true _ hbehind] at hbefore
      refine .inr ⟨more.dropWhile inRun, ?_, hbefore, hrest', hsome'⟩
      have hle := (more.dropWhile_suffix inRun).length_le
      rw [List.length_append, List.length_cons]
      omega

end Pass.HeadAndRun

theorem IsGenerated.endsInWord (h : IsGenerated token) (inWord : Bool) :
    endsInWord inWord token = true := by
  obtain ⟨time, random, rfl, htoken, -⟩ := h
  exact htoken.endsInWord inWord

theorem Alike.apply {P : Pass} {isHead : List Char → Prop} {inRun : Char → Bool}
    (hP : P.HeadAndRun isHead inRun) {text text' : List Char} (h : Alike text text') :
    Alike (P.apply false text) (P.apply false text') := by
  cases h with
  | same => exact .same _
  | @apart _ after _ _ hbefore hafter hgen hgen' =>
    rcases hP.indifferent.apply hgen hgen' after hbefore with heq | ⟨lead, hlead, heq, heq'⟩
    · rw [heq]
      exact .same _
    · rw [heq, heq', hP.apply_token hgen.isTokenChar hafter, hP.apply_token hgen'.isTokenChar hafter,
        hgen.endsInWord, hgen'.endsInWord]
      exact .apart hlead (hP.beginsWithWord_apply hafter true) hgen hgen'

-- ---------------------------------------------------------------------------
-- The third pass
-- ---------------------------------------------------------------------------

/-- A generated token is a word, a hyphen and a word, so what is left behind a part
of it that does not end in a word is the second one. -/
theorem eq_random_of_append {time random more : List Char} (h : TokenDigits time random)
    (heq : before ++ more = time ++ '-' :: random) (hne : before ≠ [])
    (hbefore : endsInWord false before = false) : more = random := by
  -- digits alone would be a word
  have hnot : ¬ ∀ c ∈ before, Hex.isSmallDigit c = true := by
    intro hdigits
    rw [endsInWord_of_forall (fun c hc => isWord_of_isSmallDigit (hdigits c hc)) hne] at hbefore
    cases hbefore
  rcases List.append_eq_append_iff.1 heq with ⟨others, hothers, -⟩ | ⟨others, rfl, hothers⟩
  · -- no hyphen in it: digits of the time alone
    exact absurd (fun c hc => h.time_digits c (hothers ▸ List.mem_append_left _ hc)) hnot
  · -- it ends in the hyphen, or in the other word
    cases others with
    | nil =>
      rw [List.append_nil] at hnot
      exact absurd h.time_digits hnot
    | cons c others =>
      obtain ⟨rfl, rfl⟩ := List.cons.inj hothers
      cases others with
      | nil => rfl
      | cons d others =>
        have hword : ∀ e ∈ d :: others, Unicode.isWord e = true := fun e he =>
          isWord_of_isSmallDigit (h.random_digits e (List.mem_append_left _ he))
        rw [List.append_cons, endsInWord_append false true _ (List.cons_ne_nil d others),
          endsInWord_of_forall hword (List.cons_ne_nil d others)] at hbefore
        cases hbefore

/-- The hyphen of a drawn token comes too early for its digits to be those behind
the hyphen of another one. -/
theorem IsGenerated.not_random {time random : List Char} (h : IsGenerated token)
    (hdigits : TokenDigits time random) : token ++ after ≠ random ++ rest := by
  obtain ⟨time', random', rfl, -, hshort⟩ := h
  intro heq
  rw [List.append_assoc, List.cons_append] at heq
  have hlength := hdigits.length_eq
  -- the hyphen would stand among those digits, or too late for the digits of a time
  rcases List.append_eq_append_iff.1 heq with ⟨others, rfl, hothers⟩ | ⟨others, rfl, -⟩
  · cases others with
    | nil =>
      rw [List.append_nil] at hlength
      omega
    | cons c others =>
      have hhyphen : Hex.isSmallDigit '-' = true := by
        rw [(List.cons.inj hothers).1]
        exact hdigits.random_digits c (List.mem_append_right _ List.mem_cons_self)
      revert hhyphen
      decide
  · rw [List.length_append] at hshort
    omega

/-- A token that begins before another one ends before it: it does not end in the
hyphen, and has more digits behind its own hyphen than the other before its own. -/
theorem tokens_indifferent : tokens.Indifferent := by
  refine ⟨fun {inWord before after token token' rest} hne hbefore hgen hgen' hsome => ?_⟩
  cases inWord with
  | true => cases hsome
  | false =>
    -- a match before the token is another token with its hyphen
    obtain ⟨time, random, htext, htoken, hrest⟩ := afterToken?_eq_some_iff.1 hsome
    have hparts : before ++ (token ++ after) = time ++ '-' :: random ++ rest := by
      rw [htext, List.append_assoc, List.cons_append]
    obtain ⟨behind, rfl, rfl⟩ : ∃ behind, before = time ++ '-' :: random ++ behind ∧
        rest = behind ++ (token ++ after) := by
      -- that token does not reach into this one, for then this one would begin with the digits
      -- behind its hyphen
      rcases List.append_eq_append_iff.1 hparts with ⟨more, hmore, htail⟩ | hends
      · rw [eq_random_of_append htoken hmore.symm hne hbefore] at htail
        exact absurd htail (hgen.not_random htoken)
      · exact hends
    -- something is in between, for a token ends in a word
    obtain ⟨c, behind, rfl⟩ : ∃ c more, behind = c :: more := by
      refine List.exists_cons_of_ne_nil ?_
      rintro rfl
      rw [List.append_nil, htoken.endsInWord] at hbefore
      cases hbefore
    refine .inr ⟨c :: behind, ?_, ?_, rfl, ?_⟩
    · simp only [List.length_append, List.length_cons]
      omega
    · rwa [endsInWord_append false true _ (List.cons_ne_nil c behind)] at hbefore
    · exact afterToken?_eq_some_iff.2 ⟨time, random, by simp, htoken, hrest⟩

/-- What was alike is the same once the tokens are masked. -/
theorem Alike.maskTokens_eq {text text' : List Char} (h : Alike text text') :
    maskTokens false text = maskTokens false text' := by
  cases h with
  | same => rfl
  | @apart _ after _ _ hbefore hafter hgen hgen' =>
    have hmasked : ∀ {token}, IsGenerated token →
        tokens.apply false (token ++ after) = mask ++ tokens.apply true after := by
      rintro _ ⟨time, random, rfl, htoken, -⟩
      refine tokens.apply_of_some ?_
      exact afterToken?_eq_some_iff.2 ⟨time, random, by simp, htoken, hafter⟩
    rcases tokens_indifferent.apply hgen hgen' after hbefore with heq | ⟨lead, -, heq, heq'⟩
    · exact heq
    · rw [hmasked hgen] at heq
      rw [hmasked hgen'] at heq'
      exact heq.trans heq'.symm

-- ---------------------------------------------------------------------------
-- What is logged of a token
-- ---------------------------------------------------------------------------

theorem Alike.redact_eq {text text' : List Char} (h : Alike text text') :
    redact text = redact text' := by
  rw [redact_eq_apply, redact_eq_apply]
  exact ((h.apply credentials_headAndRun).apply parameters_headAndRun).maskTokens_eq

/-- The text is empty or does not end in a word. -/
def EndsApart (text : String) : Prop :=
  ∀ c, text.toList.getLast? = some c → Unicode.isWord c = false

/-- The text is empty or does not begin with a word. -/
def BeginsApart (text : String) : Prop :=
  ∀ c, text.toList.head? = some c → Unicode.isWord c = false

theorem EndsApart.endsInWord {text : String} (h : EndsApart text) :
    endsInWord false text.toList = false := by
  rw [Redaction.endsInWord]
  cases hlast : text.toList.getLast? with
  | none => rfl
  | some c => exact h c hlast

theorem BeginsApart.beginsWithWord {text : String} (h : BeginsApart text) :
    beginsWithWord text.toList = false := by
  cases htext : text.toList with
  | nil => rfl
  | cons c rest => exact h c (by rw [htext, List.head?_cons])

/-- **A generated token leaves no trace in what is logged.** Of two tokens that were
drawn, with random bytes or without, it cannot be told from a masked text which one
stands in it, whatever stands before and behind it, as long as the token stands
there as a word of its own. -/
theorem redactText_drawn {drawn drawn' before after : String} (h : Token.Drawn drawn)
    (h' : Token.Drawn drawn') (hbefore : EndsApart before) (hafter : BeginsApart after) :
    redactText (before ++ drawn ++ after) = redactText (before ++ drawn' ++ after) := by
  have halike : Alike (before ++ drawn ++ after).toList (before ++ drawn' ++ after).toList := by
    rw [String.toList_append, String.toList_append, String.toList_append, String.toList_append,
      List.append_assoc, List.append_assoc]
    exact .apart hbefore.endsInWord hafter.beginsWithWord h.isGenerated h'.isGenerated
  rw [redactText, redactText, halike.redact_eq]

/-- A token without random bytes behind what looks like the beginning of a token,
and one with random bytes in its place. -/
theorem redactText_drawn_behind_digits :
    let before := "bearer 1234567890-"
    let after := ", token=a"
    let zeros : Bytes := List.replicate 16 0
    redactText (before ++ Token.generate (2 ^ 28) none ++ after) =
      redactText (before ++ Token.generate (2 ^ 64 - 1) (some zeros) ++ after) := by
  intro before after zeros
  have hnone : Token.Drawn (Token.generate (2 ^ 28) none) :=
    ⟨2 ^ 28, none, by decide, by decide, (fun _ h => by cases h), rfl⟩
  have hsome : Token.Drawn (Token.generate (2 ^ 64 - 1) (some zeros)) :=
    ⟨2 ^ 64 - 1, some zeros, by decide, by decide, (fun _ h => by cases h; rfl), rfl⟩
  have hbefore : EndsApart before := by
    have hlast : before.toList.getLast? = some '-' := by decide
    intro c hc
    rw [hlast] at hc
    cases hc
    decide
  have hafter : BeginsApart after := by
    have hfirst : after.toList.head? = some ',' := by decide
    intro c hc
    rw [hfirst] at hc
    cases hc
    decide
  exact redactText_drawn hnone hsome hbefore hafter

end Redaction

end Flagpost
