import Flagpost.Proofs.Config.References
import Flagpost.Proofs.Json5.Settled

/-!
# Flagpost — references are replaced in one pass

A reference has its dollar signs in front and no other: a walk from the left that has
reached a dollar sign inside a text has passed every reference that began before it, but
for a dollar sign directly in front, which the reference takes as its own. So a text
that is cut before a dollar sign is replaced part by part (`expandChars_append`), if no
reference crosses the cut (`Uncrossed`), and none does

* where the part in front does not end in a dollar sign, or
* where two dollar signs follow.

What is put in for a reference is not looked at again, and the first reference that
cannot be replaced is the one that is reported (`expandChars_eq_error`). With one more
dollar sign in front of each variable in braces every text comes out as it was
(`expandChars_escaped`).
-/

namespace Flagpost

namespace Environment

variable {env : Environment} {c : Char} {text rest front back more name behind : List Char}
  {doubled : Bool} {e : ConfigError}

-- ---------------------------------------------------------------------------
-- References as text
-- ---------------------------------------------------------------------------

/-- The dollar signs of a reference. -/
def signs (doubled : Bool) : List Char := if doubled then ['$', '$'] else ['$']

/-- The name of a variable in braces. -/
def inBraces (name : List Char) : List Char := '\x7b' :: name ++ ['\x7d']

theorem dollar_not_mem_inBraces (h : IsName name) : '$' ∉ inBraces name := by
  obtain ⟨c, rest, rfl, hc, hrest⟩ := h
  -- a name has letters, digits and underscores only
  have hname : '$' ∉ c :: rest := by
    intro hmem
    rcases List.mem_cons.1 hmem with rfl | hmem
    · cases hc
    · cases hrest _ hmem
  intro hmem
  simp only [inBraces, List.cons_append, List.mem_cons, List.mem_append] at hmem hname
  rcases hmem with hbrace | hmem | hmem | hbrace | hnil
  · cases hbrace
  · exact hname (.inl hmem)
  · exact hname (.inr hmem)
  · cases hbrace
  · cases hnil

/-- A text begins with a reference if it begins with its dollar signs and the name in
braces. -/
theorem reference?_eq_some : reference? text = some (doubled, name, behind) ↔
    IsName name ∧ text = signs doubled ++ (inBraces name ++ behind) := by
  constructor
  · intro h
    unfold reference? at h
    split at h
    · obtain ⟨⟨n, b⟩, hbraced, heq⟩ := Option.map_eq_some_iff.1 h
      cases heq
      obtain ⟨hname, rfl⟩ := braced?_eq_some hbraced
      exact ⟨hname, by simp [signs, inBraces]⟩
    · obtain ⟨⟨n, b⟩, hbraced, heq⟩ := Option.map_eq_some_iff.1 h
      cases heq
      obtain ⟨hname, rfl⟩ := braced?_eq_some hbraced
      exact ⟨hname, by simp [signs, inBraces]⟩
    · cases h
  · rintro ⟨hname, rfl⟩
    have hsingle : reference? ('$' :: '\x7b' :: (name ++ '\x7d' :: behind)) =
        some (false, name, behind) := reference?_of_isName hname
    cases doubled with
    | false => simpa [signs, inBraces] using hsingle
    | true =>
      -- behind the first sign the braces are found by the same look as behind a single one
      have hbraced : (braced? ('\x7b' :: (name ++ '\x7d' :: behind))).map
          (fun found => (false, found.1, found.2)) = some (false, name, behind) := by
        rw [← hsingle, reference?]
        intro behind heq
        cases heq
      obtain ⟨found, hfound, heq⟩ := Option.map_eq_some_iff.1 hbraced
      obtain ⟨n, b⟩ := found
      cases heq
      simp [signs, inBraces, reference?, hfound]

theorem reference?_append (h : reference? text = some (doubled, name, behind)) :
    reference? (text ++ more) = some (doubled, name, behind ++ more) := by
  obtain ⟨hname, rfl⟩ := reference?_eq_some.1 h
  exact reference?_eq_some.2 ⟨hname, by simp⟩

-- ---------------------------------------------------------------------------
-- The steps of the walk
-- ---------------------------------------------------------------------------

/-- What a reference with one dollar sign stands for. -/
def valueOf (env : Environment) (name : List Char) : Except ConfigError (List Char) :=
  match env.text? (String.ofList name) with
  | none => .error (.missingVariable (String.ofList name))
  | some value => .ok value.toList

theorem expandChars_doubled (h : reference? text = some (true, name, behind)) :
    expandChars env text = (expandChars env behind).map fun rest =>
      '$' :: (inBraces name ++ rest) := by
  rw [expandChars]
  split
  · rename_i heq
    rw [h] at heq
    cases heq
    simp [inBraces]
  · rename_i heq
    rw [h] at heq
    cases heq
  · rename_i heq
    rw [h] at heq
    cases heq

theorem expandChars_single (h : reference? text = some (false, name, behind)) :
    expandChars env text = (valueOf env name).bind fun value =>
      (expandChars env behind).map (value ++ ·) := by
  rw [expandChars, valueOf]
  split
  · rename_i heq
    rw [h] at heq
    cases heq
  · rename_i heq
    rw [h] at heq
    cases heq
    cases env.text? (String.ofList name) <;> rfl
  · rename_i heq
    rw [h] at heq
    cases heq

theorem expandChars_nil : expandChars env [] = .ok [] := by
  rw [expandChars]
  rfl

-- ---------------------------------------------------------------------------
-- Cuts
-- ---------------------------------------------------------------------------

/-- No reference begins before a cut and ends behind it. -/
def Uncrossed (front back : List Char) : Prop :=
  ∀ text, text <:+ front → text ≠ [] → reference? text = none → reference? (text ++ back) = none

theorem Uncrossed.of_suffix (h : Uncrossed front back) (hsuffix : text <:+ front) :
    Uncrossed text back := fun s hs => h s (hs.trans hsuffix)

/-- What does not cross into a text does not cross into the beginning of it. -/
theorem Uncrossed.of_append (h : Uncrossed front (back ++ more)) : Uncrossed front back := by
  intro text hsuffix hne hnone
  refine Option.eq_none_iff_forall_ne_some.2 fun found hfound => ?_
  have hwhole := h text hsuffix hne hnone
  rw [← List.append_assoc, reference?_append hfound] at hwhole
  cases hwhole

/-- A reference that crosses a cut before a dollar sign has one dollar sign in front of
the cut and the other behind it. -/
theorem crossing (hne : text ≠ []) (hnone : reference? text = none)
    (h : reference? (text ++ '$' :: more) = some (doubled, name, behind)) :
    text = ['$'] ∧ more = inBraces name ++ behind := by
  obtain ⟨hname, hsplit⟩ := reference?_eq_some.1 h
  have hfree := dollar_not_mem_inBraces hname
  rw [← List.append_assoc, List.append_eq_append_iff] at hsplit
  rcases hsplit with ⟨inside, hinside, hbehind⟩ | ⟨inside, rfl, -⟩
  · obtain ⟨first, text, rfl⟩ := List.exists_cons_of_ne_nil hne
    cases inside with
    | nil =>
      -- the reference ends at the cut
      rw [List.append_nil] at hinside
      have hwhole : reference? (first :: text) = some (doubled, name, []) :=
        reference?_eq_some.2 ⟨hname, by rw [← hinside, List.append_nil]⟩
      rw [hnone] at hwhole
      cases hwhole
    | cons sign inside =>
      obtain ⟨rfl, rfl⟩ := List.cons.inj hbehind
      cases doubled with
      | false =>
        have htail : inBraces name = text ++ '$' :: inside := (List.cons.inj hinside).2
        refine absurd ?_ hfree
        rw [htail]
        exact List.mem_append_right _ List.mem_cons_self
      | true =>
        obtain ⟨rfl, hrest⟩ := List.cons.inj hinside
        cases text with
        | nil =>
          have hbraces : inBraces name = inside := (List.cons.inj hrest).2
          exact ⟨rfl, by rw [hbraces]; rfl⟩
        | cons second text =>
          refine absurd ?_ hfree
          have htail : inBraces name = text ++ '$' :: inside := (List.cons.inj hrest).2
          rw [htail]
          exact List.mem_append_right _ List.mem_cons_self
  · -- the reference is over before the cut
    have hwhole : reference? (signs doubled ++ inBraces name ++ inside) =
        some (doubled, name, inside) :=
      reference?_eq_some.2 ⟨hname, List.append_assoc _ _ _⟩
    rw [hnone] at hwhole
    cases hwhole

theorem getLast?_of_suffix (hsuffix : text <:+ front) (hne : text ≠ []) :
    front.getLast? = text.getLast? := by
  obtain ⟨before, rfl⟩ := hsuffix
  rw [List.getLast?_append, List.getLast?_eq_some_getLast hne]
  rfl

/-- No reference crosses a cut before a dollar sign and behind another character. -/
theorem uncrossed_of_getLast? (h : front.getLast? ≠ some '$') : Uncrossed front ('$' :: more) := by
  intro text hsuffix hne hnone
  refine Option.eq_none_iff_forall_ne_some.2 fun found hfound => h ?_
  obtain ⟨doubled, name, behind⟩ := found
  rw [getLast?_of_suffix hsuffix hne, (crossing hne hnone hfound).1]
  rfl

/-- No reference crosses a cut before two dollar signs. -/
theorem uncrossed_of_two : Uncrossed front ('$' :: '$' :: more) := by
  intro text _ hne hnone
  refine Option.eq_none_iff_forall_ne_some.2 fun found hfound => ?_
  obtain ⟨doubled, name, behind⟩ := found
  cases (crossing hne hnone hfound).2

/-- **Cuts.** A text is replaced part by part if no reference crosses the cut. -/
theorem expandChars_append (h : Uncrossed front back) : expandChars env (front ++ back) =
    (expandChars env front).bind fun x => (expandChars env back).map (x ++ ·) := by
  induction hlength : front.length using Nat.strongRecOn generalizing front with
  | ind length ih =>
    subst hlength
    cases href : reference? front with
    | some found =>
      obtain ⟨doubled, name, behind⟩ := found
      have hsuffix : behind <:+ front := by
        rw [(reference?_eq_some.1 href).2, ← List.append_assoc]
        exact List.suffix_append _ _
      have ih := ih behind.length (reference?_length href) (h.of_suffix hsuffix) rfl
      -- the front begins with a reference, and it is the same with the back behind it
      cases doubled with
      | true =>
        rw [expandChars_doubled (reference?_append href), expandChars_doubled href, ih]
        cases expandChars env behind with
        | error e => rfl
        | ok x => cases expandChars env back <;> simp [Except.bind, Except.map]
      | false =>
        rw [expandChars_single (reference?_append href), expandChars_single href, ih]
        cases valueOf env name with
        | error e => rfl
        | ok value =>
          cases expandChars env behind with
          | error e => rfl
          | ok x => cases expandChars env back <;> simp [Except.bind, Except.map]
    | none =>
      -- the front begins with none, and by what is assumed none arises at the cut
      cases front with
      | nil =>
        rw [expandChars_nil, List.nil_append]
        cases expandChars env back <;> rfl
      | cons c rest =>
        have hnone := h (c :: rest) List.suffix_rfl (List.cons_ne_nil _ _) href
        have ih := ih rest.length (Nat.lt_succ_self _) (h.of_suffix (List.suffix_cons _ _)) rfl
        rw [List.cons_append] at hnone ⊢
        rw [expandChars_cons hnone, expandChars_cons href, ih]
        cases expandChars env rest with
        | error e => rfl
        | ok x => cases expandChars env back <;> rfl

/-- A reference behind a character that is no dollar sign is replaced by what it stands
for. -/
theorem expandChars_append_single (hfront : front.getLast? ≠ some '$') (hname : IsName name) :
    expandChars env (front ++ '$' :: (inBraces name ++ back)) =
      (expandChars env front).bind fun x => (valueOf env name).bind fun value =>
        (expandChars env back).map fun y => x ++ (value ++ y) := by
  have href : reference? ('$' :: (inBraces name ++ back)) = some (false, name, back) :=
    reference?_eq_some.2 ⟨hname, rfl⟩
  rw [expandChars_append (uncrossed_of_getLast? hfront), expandChars_single href]
  cases expandChars env front with
  | error e => rfl
  | ok x =>
    cases valueOf env name with
    | error e => rfl
    | ok value => cases expandChars env back <;> rfl

/-- A reference with two dollar signs loses the first of them, wherever it is. -/
theorem expandChars_append_doubled (hname : IsName name) :
    expandChars env (front ++ '$' :: '$' :: (inBraces name ++ back)) =
      (expandChars env front).bind fun x =>
        (expandChars env back).map fun y => x ++ '$' :: (inBraces name ++ y) := by
  have href : reference? ('$' :: '$' :: (inBraces name ++ back)) = some (true, name, back) :=
    reference?_eq_some.2 ⟨hname, rfl⟩
  rw [expandChars_append uncrossed_of_two, expandChars_doubled href]
  cases expandChars env front with
  | error e => rfl
  | ok x => cases expandChars env back <;> rfl

-- ---------------------------------------------------------------------------
-- Failures
-- ---------------------------------------------------------------------------

/-- In front of the reference that is reported everything can be replaced. -/
structure FailsAt (env : Environment) (e : ConfigError) (front name : List Char) : Prop where
  isName : IsName name
  apart : front.getLast? ≠ some '$'
  replaced : ∃ x, expandChars env front = .ok x
  missing : env.text? (String.ofList name) = none
  reported : e = .missingVariable (String.ofList name)

/-- What can be replaced by itself can stand in front. -/
theorem FailsAt.prepend {piece out : List Char} (h : FailsAt env e front name)
    (hpiece : expandChars env piece = .ok out) (huncrossed : Uncrossed piece front)
    (hapart : front = [] → piece.getLast? ≠ some '$') : FailsAt env e (piece ++ front) name where
  isName := h.isName
  apart := by
    cases hlast : front.getLast? with
    | none =>
      rw [List.getLast?_eq_none_iff.1 hlast, List.append_nil]
      exact hapart (List.getLast?_eq_none_iff.1 hlast)
    | some last =>
      have hapart := h.apart
      rw [hlast] at hapart
      rw [List.getLast?_append, hlast]
      exact hapart
  replaced := by
    obtain ⟨x, hx⟩ := h.replaced
    rw [expandChars_append huncrossed, hpiece, hx]
    exact ⟨_, rfl⟩
  missing := h.missing
  reported := h.reported

/-- No reference that begins in a reference ends behind it. -/
theorem uncrossed_reference (hname : IsName name) :
    Uncrossed (signs doubled ++ inBraces name) back := by
  -- a reference begins with a dollar sign, and there is none in the braces
  have hbraces : Uncrossed (inBraces name) back := by
    intro text hsuffix hne _
    refine Option.eq_none_iff_forall_ne_some.2 fun found hfound => ?_
    obtain ⟨doubled, name', behind⟩ := found
    obtain ⟨first, text, rfl⟩ := List.exists_cons_of_ne_nil hne
    have hfirst : first = '$' := by
      have hsplit := (reference?_eq_some.1 hfound).2
      cases doubled <;> exact (List.cons.inj hsplit).1
    exact dollar_not_mem_inBraces hname (hfirst ▸ hsuffix.subset List.mem_cons_self)
  -- with one sign, what begins here is the reference itself
  have hsingle : Uncrossed ('$' :: inBraces name) back := by
    intro text hsuffix hne hnone
    rcases List.suffix_cons_iff.1 hsuffix with rfl | hsuffix
    · have hfound : reference? ('$' :: inBraces name) = some (false, name, []) :=
        reference?_eq_some.2 ⟨hname, by simp [signs]⟩
      rw [hnone] at hfound
      cases hfound
    · exact hbraces text hsuffix hne hnone
  cases doubled with
  | false => exact hsingle
  | true =>
    -- with two signs, the first of them begins the doubled reference, the second the single one
    intro text hsuffix hne hnone
    rcases List.suffix_cons_iff.1 hsuffix with rfl | hsuffix
    · have hfound : reference? ('$' :: ('$' :: inBraces name)) = some (true, name, []) :=
        reference?_eq_some.2 ⟨hname, by simp [signs]⟩
      exact absurd (hnone.symm.trans hfound) (by simp)
    · exact hsingle text hsuffix hne hnone

theorem error_of_append {piece out : List Char} (huncrossed : Uncrossed piece rest)
    (hpiece : expandChars env piece = .ok out) (h : expandChars env (piece ++ rest) = .error e) :
    expandChars env rest = .error e := by
  rw [expandChars_append huncrossed, hpiece] at h
  cases hrest : expandChars env rest with
  | error e' =>
    rw [hrest] at h
    exact h
  | ok x =>
    rw [hrest] at h
    cases h

/-- A reference by itself that can be replaced. -/
theorem exists_expandChars_reference (hname : IsName name)
    (h : doubled = false → ∃ value, env.text? (String.ofList name) = some value) :
    ∃ out, expandChars env (signs doubled ++ inBraces name) = .ok out := by
  have href : reference? (signs doubled ++ inBraces name) = some (doubled, name, []) :=
    reference?_eq_some.2 ⟨hname, by rw [List.append_nil]⟩
  cases doubled with
  | true =>
    rw [expandChars_doubled href, expandChars_nil]
    exact ⟨_, rfl⟩
  | false =>
    obtain ⟨value, hvalue⟩ := h rfl
    rw [expandChars_single href, valueOf, hvalue, expandChars_nil]
    exact ⟨_, rfl⟩

/-- **Failures.** A text cannot be replaced if there is a reference to a variable that has
no text, and the first such reference is the one that is reported. -/
theorem expandChars_eq_error : expandChars env text = .error e ↔
    ∃ front name back, FailsAt env e front name ∧
      text = front ++ '$' :: (inBraces name ++ back) := by
  constructor
  · intro h
    induction hlength : text.length using Nat.strongRecOn generalizing text with
    | ind length ih =>
      subst hlength
      cases href : reference? text with
      | some found =>
        obtain ⟨doubled, name, behind⟩ := found
        obtain ⟨hname, htext⟩ := reference?_eq_some.1 href
        by_cases hmissing : doubled = false ∧ env.text? (String.ofList name) = none
        · -- the walk stops here
          obtain ⟨rfl, hnone⟩ := hmissing
          rw [expandChars_single href, valueOf, hnone] at h
          exact ⟨[], name, behind, ⟨hname, by decide, ⟨[], expandChars_nil⟩, hnone,
            (Except.error.inj h).symm⟩, htext⟩
        · obtain ⟨out, hpiece⟩ : ∃ out, expandChars env (signs doubled ++ inBraces name) = .ok out :=
            exists_expandChars_reference hname fun hsingle =>
              Option.ne_none_iff_exists'.1 fun hnone => hmissing ⟨hsingle, hnone⟩
          rw [htext, ← List.append_assoc] at h
          obtain ⟨front, missing, back, hfails, rfl⟩ := ih behind.length (reference?_length href)
            (error_of_append (uncrossed_reference hname) hpiece h) rfl
          refine ⟨signs doubled ++ inBraces name ++ front, missing, back,
            hfails.prepend hpiece (uncrossed_reference hname) fun _ => ?_, ?_⟩
          · rw [inBraces, ← List.append_assoc, List.getLast?_concat]
            decide
          · simp only [htext, List.append_assoc]
      | none =>
        cases text with
        | nil =>
          rw [expandChars_nil] at h
          cases h
        | cons c rest =>
          -- a character by itself is no reference, and this one begins none
          have halone : reference? [c] = none :=
            Option.eq_none_iff_forall_ne_some.2 fun found hfound => by
              rw [show c :: rest = [c] ++ rest from rfl, reference?_append hfound] at href
              cases href
          have hpiece : expandChars env [c] = .ok [c] := by
            rw [expandChars_cons halone, expandChars_nil]
            rfl
          have huncrossed : Uncrossed [c] rest := by
            intro text hsuffix hne _
            rcases List.suffix_cons_iff.1 hsuffix with rfl | hsuffix
            · exact href
            · exact absurd (List.suffix_nil.1 hsuffix) hne
          obtain ⟨front, name, back, hfails, rfl⟩ := ih rest.length (Nat.lt_succ_self _)
            (error_of_append huncrossed hpiece h) rfl
          refine ⟨c :: front, name, back, hfails.prepend hpiece (huncrossed.of_append) ?_, rfl⟩
          rintro rfl hsign
          obtain rfl : c = '$' := Option.some.inj hsign
          have hfound : reference? ('$' :: ([] ++ '$' :: (inBraces name ++ back))) =
              some (true, name, back) := reference?_eq_some.2 ⟨hfails.isName, rfl⟩
          rw [href] at hfound
          cases hfound
  · rintro ⟨front, name, back, hfails, rfl⟩
    obtain ⟨x, hx⟩ := hfails.replaced
    rw [expandChars_append_single hfails.apart hfails.isName, hx, valueOf, hfails.missing,
      hfails.reported]
    rfl

-- ---------------------------------------------------------------------------
-- Texts that are kept
-- ---------------------------------------------------------------------------

/-- The text begins with a variable in braces behind a dollar sign. -/
def BeginsReference (text : List Char) : Prop :=
  ∃ name behind, IsName name ∧ text = '$' :: (inBraces name ++ behind)

theorem beginsReference_iff : BeginsReference text ↔
    text.head? = some '$' ∧ (braced? text.tail).isSome = true := by
  constructor
  · -- behind one more dollar sign the braces are read in the same way
    rintro ⟨name, behind, hname, rfl⟩
    have href : reference? ('$' :: '$' :: (inBraces name ++ behind)) = some (true, name, behind) :=
      reference?_eq_some.2 ⟨hname, rfl⟩
    obtain ⟨found, hfound, -⟩ := Option.map_eq_some_iff.1 href
    refine ⟨rfl, ?_⟩
    rw [List.tail_cons, hfound]
    rfl
  · rintro ⟨hhead, hbraced⟩
    obtain ⟨⟨name, behind⟩, hfound⟩ := Option.isSome_iff_exists.1 hbraced
    obtain ⟨hname, htail⟩ := braced?_eq_some hfound
    refine ⟨name, behind, hname, ?_⟩
    cases text with
    | nil => cases hhead
    | cons c rest =>
      rw [Option.some.inj hhead, show rest = _ from htail, inBraces, List.append_assoc]
      rfl

instance (text : List Char) : Decidable (BeginsReference text) :=
  decidable_of_iff _ beginsReference_iff.symm

/-- The text with one more dollar sign in front of each variable in braces behind a dollar
sign. -/
def escaped : List Char → List Char
  | [] => []
  | c :: rest =>
    if BeginsReference (c :: rest) then '$' :: c :: escaped rest else c :: escaped rest

theorem escaped_of_ne (hc : c ≠ '$') : escaped (c :: rest) = c :: escaped rest := by
  rw [escaped, if_neg]
  rintro ⟨name, behind, -, heq⟩
  exact hc (List.cons.inj heq).1

/-- Text without a dollar sign is left alone. -/
theorem escaped_append (h : '$' ∉ front) : escaped (front ++ back) = front ++ escaped back := by
  induction front with
  | nil => rfl
  | cons c front ih =>
    have hc : c ≠ '$' := fun heq => h (heq ▸ List.mem_cons_self)
    rw [List.cons_append, escaped_of_ne hc, ih fun hmem => h (List.mem_cons_of_mem c hmem)]
    rfl

/-- Text without a dollar sign was there before. -/
theorem exists_of_escaped_eq_append (hfree : '$' ∉ front) (h : escaped text = front ++ back) :
    ∃ rest, text = front ++ rest := by
  induction front generalizing text with
  | nil => exact ⟨text, rfl⟩
  | cons c front ih =>
    have hc : c ≠ '$' := fun heq => hfree (heq ▸ List.mem_cons_self)
    cases text with
    | nil => cases h
    | cons first text =>
      rw [escaped] at h
      split at h
      · exact absurd (List.cons.inj h).1.symm hc
      · obtain ⟨rfl, hrest⟩ := List.cons.inj h
        obtain ⟨rest, rfl⟩ := ih (fun hmem => hfree (List.mem_cons_of_mem _ hmem)) hrest
        exact ⟨rest, rfl⟩

/-- A character that is left alone begins no reference afterwards. -/
theorem reference?_cons_escaped (h : ¬ BeginsReference (c :: rest)) :
    reference? (c :: escaped rest) = none := by
  refine Option.eq_none_iff_forall_ne_some.2 fun found hfound => ?_
  obtain ⟨doubled, name, behind⟩ := found
  obtain ⟨hname, hsplit⟩ := reference?_eq_some.1 hfound
  have hfree := dollar_not_mem_inBraces hname
  cases doubled with
  | false =>
    -- braces behind the character were there before it was left alone
    obtain ⟨rfl, hbraces⟩ := List.cons.inj hsplit
    obtain ⟨later, rfl⟩ := exists_of_escaped_eq_append hfree hbraces
    exact h ⟨name, later, hname, rfl⟩
  | true =>
    -- a second sign is one that was doubled, or it was left alone as the first was
    obtain ⟨-, hsigned⟩ := List.cons.inj hsplit
    cases rest with
    | nil => cases hsigned
    | cons first rest =>
      rw [escaped] at hsigned
      split at hsigned
      · -- two dollar signs, and braces begin with neither
        rename_i hbegins
        obtain ⟨_, _, -, heq⟩ := hbegins
        rw [(List.cons.inj heq).1] at hsigned
        cases hsigned
      · rename_i hbegins
        obtain ⟨rfl, hbraces⟩ := List.cons.inj hsigned
        obtain ⟨later, rfl⟩ := exists_of_escaped_eq_append hfree hbraces
        exact hbegins ⟨name, later, hname, rfl⟩

/-- **Every text can be written.** A text with one more dollar sign in front of each
variable in braces is replaced by the text. -/
theorem expandChars_escaped (env : Environment) (text : List Char) :
    expandChars env (escaped text) = .ok text := by
  induction hlength : text.length using Nat.strongRecOn generalizing text with
  | ind length ih =>
    subst hlength
    cases text with
    | nil => exact expandChars_nil
    | cons c rest =>
      rw [escaped]
      split
      · -- a reference is doubled, and is read as one that stands for itself
        rename_i hbegins
        obtain ⟨name, behind, hname, heq⟩ := hbegins
        obtain ⟨rfl, rfl⟩ := List.cons.inj heq
        have hshort : behind.length < ('$' :: (inBraces name ++ behind)).length := by
          simp only [List.length_cons, List.length_append]
          omega
        have href : reference? ('$' :: '$' :: (inBraces name ++ escaped behind)) =
            some (true, name, escaped behind) := reference?_eq_some.2 ⟨hname, rfl⟩
        rw [escaped_append (dollar_not_mem_inBraces hname), expandChars_doubled href,
          ih behind.length hshort behind rfl]
        rfl
      · -- any other character is left alone, and begins no reference that was not there
        rename_i hbegins
        rw [expandChars_cons (reference?_cons_escaped hbegins),
          ih rest.length (Nat.lt_succ_self _) rest rfl]
        rfl

/-- A dollar sign that belongs to no reference is left alone. -/
example : escaped "$$\x7bA\x7d$".toList = "$$$\x7bA\x7d$".toList := by decide

-- ---------------------------------------------------------------------------
-- Texts of a configuration
-- ---------------------------------------------------------------------------

/-- A reference with one dollar sign. -/
def referenceText (name : String) : String := "$\x7b" ++ name ++ "\x7d"

theorem toList_referenceText (name : String) :
    (referenceText name).toList = '$' :: inBraces name.toList := by
  simp [referenceText, inBraces]

/-- What a reference stands for: the text of the variable as it is, if it has one. -/
def valueText (env : Environment) (name : String) : Except ConfigError String :=
  match env.text? name with
  | none => .error (.missingVariable name)
  | some value => .ok value

/-- A reference is replaced by what it stands for. -/
theorem expandText_append_single (env : Environment) {a name : String} (hname : IsName name.toList)
    (ha : a.toList.getLast? ≠ some '$') (b : String) :
    env.expandText (a ++ referenceText name ++ b) = (do
      let x ← env.expandText a
      let value ← env.valueText name
      let y ← env.expandText b
      pure (x ++ value ++ y)) := by
  have htext : (a ++ referenceText name ++ b).toList =
      a.toList ++ '$' :: (inBraces name.toList ++ b.toList) := by
    simp [toList_referenceText]
  rw [expandText, htext, expandChars_append_single ha hname, expandText, expandText, valueOf,
    valueText, String.ofList_toList]
  cases expandChars env a.toList with
  -- the first of the three texts that fails is what fails on both sides
  | error e => rfl
  | ok x =>
    cases env.text? name with
    | none => rfl
    | some value =>
      cases expandChars env b.toList with
      | error e => rfl
      | ok y =>
        refine congrArg Except.ok ?_
        rw [String.ofList_append, String.ofList_append, String.ofList_toList, String.append_assoc]

/-- A reference with one more dollar sign loses that sign. -/
theorem expandText_append_doubled (env : Environment) (a : String) {name : String}
    (hname : IsName name.toList) (b : String) :
    env.expandText (a ++ "$" ++ referenceText name ++ b) = (do
      let x ← env.expandText a
      let y ← env.expandText b
      pure (x ++ referenceText name ++ y)) := by
  have htext : (a ++ "$" ++ referenceText name ++ b).toList =
      a.toList ++ '$' :: '$' :: (inBraces name.toList ++ b.toList) := by
    simp [toList_referenceText]
  rw [expandText, htext, expandChars_append_doubled hname, expandText, expandText]
  -- the first of the two texts that fails is what fails on both sides
  cases expandChars env a.toList with
  | error e => rfl
  | ok x =>
    cases expandChars env b.toList with
    | error e => rfl
    | ok y =>
      have hreference : String.ofList ('$' :: inBraces name.toList) = referenceText name := by
        rw [← toList_referenceText, String.ofList_toList]
      refine congrArg Except.ok ?_
      rw [String.ofList_append, ← List.cons_append, String.ofList_append, hreference,
        String.append_assoc]

/-- What fails is the first reference to a variable without a text. -/
theorem expandText_eq_error (env : Environment) (s : String) (e : ConfigError) :
    env.expandText s = .error e ↔
      ∃ a name b x : String, s = a ++ referenceText name ++ b ∧ IsName name.toList ∧
        a.toList.getLast? ≠ some '$' ∧ env.expandText a = .ok x ∧ env.text? name = none ∧
        e = .missingVariable name := by
  have hchars : env.expandText s = .error e ↔ expandChars env s.toList = .error e := by
    rw [expandText]
    cases expandChars env s.toList <;> simp [Except.map]
  rw [hchars, expandChars_eq_error]
  constructor
  · -- the text before the reference that fails was replaced
    rintro ⟨front, name, back, hfails, htext⟩
    obtain ⟨x, hx⟩ := hfails.replaced
    refine ⟨String.ofList front, String.ofList name, String.ofList back, String.ofList x, ?_,
      by simpa using hfails.isName, by simpa using hfails.apart, ?_, hfails.missing,
      hfails.reported⟩
    · refine String.toList_injective ?_
      simp [htext, toList_referenceText]
    · rw [expandText, String.toList_ofList, hx]
      rfl
  · -- the text before the reference has an outcome, so nothing fails in it
    rintro ⟨a, name, b, x, rfl, hname, ha, hx, hmissing, rfl⟩
    obtain ⟨y, hy, -⟩ := ok_of_map hx
    refine ⟨a.toList, name.toList, b.toList, ⟨hname, ha, ⟨y, hy⟩, ?_, ?_⟩, ?_⟩
    · rw [String.ofList_toList, hmissing]
    · rw [String.ofList_toList]
    · simp [toList_referenceText]

theorem expandText_escaped (env : Environment) (s : String) :
    env.expandText (String.ofList (escaped s.toList)) = .ok s := by
  rw [expandText, String.toList_ofList, expandChars_escaped]
  exact congrArg Except.ok String.ofList_toList

/-- **One pass from the left.** A reference that is not directly behind a dollar sign is
replaced by the text of its variable, which is not looked at again, and what is in front
of it and behind it is replaced by itself; the first of the three that fails is what is
reported. A reference with one more dollar sign loses that sign, wherever it is. A text
without references stays. What fails is the first reference, among those that are to be
replaced, to a variable without a text. And every text can be written so that it is what
comes out, in every environment. -/
theorem expandText_in_one_pass (env : Environment) :
    (∀ a name b : String, IsName name.toList → a.toList.getLast? ≠ some '$' →
      env.expandText (a ++ referenceText name ++ b) = do
        let x ← env.expandText a
        let value ← env.valueText name
        let y ← env.expandText b
        pure (x ++ value ++ y)) ∧
    (∀ a name b : String, IsName name.toList →
      env.expandText (a ++ "$" ++ referenceText name ++ b) = do
        let x ← env.expandText a
        let y ← env.expandText b
        pure (x ++ referenceText name ++ y)) ∧
    (∀ s : String, ¬ Mentions s.toList → env.expandText s = .ok s) ∧
    (∀ (s : String) (e : ConfigError), env.expandText s = .error e ↔
      ∃ a name b x : String, s = a ++ referenceText name ++ b ∧ IsName name.toList ∧
        a.toList.getLast? ≠ some '$' ∧ env.expandText a = .ok x ∧ env.text? name = none ∧
        e = .missingVariable name) ∧
    ∀ s : String, env.expandText (String.ofList (escaped s.toList)) = .ok s := by
  refine ⟨?single, ?doubled, ?kept, ?fails, ?expressible⟩
  case single => exact fun _ _ b hname ha => expandText_append_single env hname ha b
  case doubled => exact fun a _ b hname => expandText_append_doubled env a hname b
  case kept => exact fun _ hs => expandText_of_not_mentions hs
  case fails => exact expandText_eq_error env
  case expressible => exact expandText_escaped env

end Environment

end Flagpost
