import Flagpost.Proofs.Text.Blank
import Flagpost.Web.BasePath
import Mathlib.Logic.Function.Iterate

/-!
# Flagpost — putting a base path into its form again

A base path loses the white space at its ends and then the slashes at its end. What
stands before these slashes may be white space once more, and it stays. So the form is
one that the next pass may change: it has its leading slash and none at its end, but it
can end in white space.

The passes after the first only take something off the end (`toList_normalize_of_rooted`),
so they come to rest, at the path without any slashes and white space at its end
(`settled`). The first pass is enough if no white space stands before the slashes at the
end (`endsInBlank_normalize`).

* `Canonical`              — the form that the next pass does not change;
* `exists_iterate_strip`   — the passes come to rest;
* `normalize_comes_to_rest` — what one pass, two passes and many passes do.
-/

namespace Flagpost.BasePath

variable {p : Char → Bool} {c : Char} {text rest : List Char}

-- ---------------------------------------------------------------------------
-- Taking characters off the end
-- ---------------------------------------------------------------------------

/-- A character that a base path may lose at its end. -/
def isLoose (c : Char) : Bool := c == '/' || isBlank c

/-- The text without slashes and white space at its end. -/
def bare (text : List Char) : List Char := Blank.dropEndWhile isLoose text

/-- The text without white space and then without slashes at its end. -/
def strip (text : List Char) : List Char := Blank.dropEndWhile (· == '/') (Blank.trimEnd text)

theorem dropEndWhile_isPrefix (p : Char → Bool) (text : List Char) :
    Blank.dropEndWhile p text <+: text := List.rdropWhile_prefix p text

theorem dropEndWhile_eq_self_iff : Blank.dropEndWhile p text = text ↔
    ∀ hne : text ≠ [], ¬ p (text.getLast hne) = true := List.rdropWhile_eq_self_iff

theorem dropEndWhile_cons (h : Blank.dropEndWhile p text ≠ []) :
    Blank.dropEndWhile p (c :: text) = c :: Blank.dropEndWhile p text := by
  have hne : (text.reverse.dropWhile p).isEmpty = false := by
    rw [List.isEmpty_eq_false_iff]
    intro hnil
    exact h (by rw [Blank.dropEndWhile, hnil, List.reverse_nil])
  rw [Blank.dropEndWhile, List.reverse_cons, List.dropWhile_append, hne,
    if_neg Bool.false_ne_true, List.reverse_append]
  rfl

/-- What has lost some of these characters at its end has the same to lose. -/
theorem bare_dropEndWhile (h : ∀ c, p c = true → isLoose c = true) (text : List Char) :
    bare (Blank.dropEndWhile p text) = bare text := by
  have hdrop : ∀ l : List Char, (l.dropWhile p).dropWhile isLoose = l.dropWhile isLoose := by
    intro l
    induction l with
    | nil => rfl
    | cons x l ih =>
      cases hp : p x with
      | false => rw [List.dropWhile_cons_of_neg (by simp [hp])]
      | true => rw [List.dropWhile_cons_of_pos hp, ih, List.dropWhile_cons_of_pos (h x hp)]
  rw [bare, bare, Blank.dropEndWhile, Blank.dropEndWhile, Blank.dropEndWhile, List.reverse_reverse,
    hdrop]

theorem bare_strip (text : List Char) : bare (strip text) = bare text := by
  rw [strip, bare_dropEndWhile (fun c hc => by simp_all [isLoose]), Blank.trimEnd,
    bare_dropEndWhile fun c hc => by simp [isLoose, hc]]

theorem strip_isPrefix (text : List Char) : strip text <+: text :=
  (dropEndWhile_isPrefix _ _).trans (dropEndWhile_isPrefix _ _)

/-- A pass changes nothing if there is nothing to take off the end. -/
theorem strip_eq_self_iff : strip text = text ↔ bare text = text := by
  constructor
  · intro h
    have hlong : (strip text).length ≤ (Blank.trimEnd text).length :=
      (dropEndWhile_isPrefix _ _).length_le
    rw [h] at hlong
    -- no white space is at the end, for what is left after it would be shorter
    have htrim : Blank.trimEnd text = text := (dropEndWhile_isPrefix _ _).eq_of_length_le hlong
    have hslash := h
    rw [strip, htrim] at hslash
    rw [bare, dropEndWhile_eq_self_iff]
    intro hne hloose
    rcases (Bool.or_eq_true_iff.1 hloose) with hlast | hlast
    · exact dropEndWhile_eq_self_iff.1 hslash hne hlast
    · exact dropEndWhile_eq_self_iff.1 htrim hne hlast
  · -- the bare text is what every pass leads to, so a pass cannot shorten one that is bare
    intro h
    have hlong : (bare (strip text)).length ≤ (strip text).length :=
      (dropEndWhile_isPrefix _ _).length_le
    rw [bare_strip, h] at hlong
    exact (strip_isPrefix text).eq_of_length_le hlong

/-- **The passes come to rest**, at the text without slashes and white space at its end. -/
theorem exists_iterate_strip (text : List Char) : ∃ n, ∀ k, n ≤ k → strip^[k] text = bare text := by
  induction hlength : text.length using Nat.strongRecOn generalizing text with
  | ind length ih =>
    subst hlength
    by_cases hrest : strip text = text
    · refine ⟨0, fun k _ => ?_⟩
      rw [Function.iterate_fixed hrest, strip_eq_self_iff.1 hrest]
    · have hshorter : (strip text).length < text.length :=
        Nat.lt_of_le_of_ne (strip_isPrefix text).length_le fun heq =>
          hrest ((strip_isPrefix text).eq_of_length heq)
      obtain ⟨n, hn⟩ := ih _ hshorter (strip text) rfl
      refine ⟨n + 1, fun k hk => ?_⟩
      obtain ⟨k, rfl⟩ : ∃ j, k = j + 1 := ⟨k - 1, by omega⟩
      rw [Function.iterate_succ_apply, hn k (by omega), bare_strip]

-- ---------------------------------------------------------------------------
-- The leading slash
-- ---------------------------------------------------------------------------

/-- The text with a leading slash, if it is not empty. -/
def rooted (text : List Char) : List Char :=
  if text.isEmpty then [] else if text.head? = some '/' then text else '/' :: text

/-- A text that is empty or has a leading slash. -/
def IsRooted (text : List Char) : Prop := text = [] ∨ text.head? = some '/'

theorem toList_normalize (path : String) :
    (normalize path).toList = rooted (core path.toList) := by
  simp only [normalize, rooted]
  split
  · rfl
  · split <;> exact String.toList_ofList

theorem isRooted_rooted (text : List Char) : IsRooted (rooted text) := by
  rw [rooted]
  split
  · exact .inl rfl
  · split
    · rename_i hslash
      exact .inr hslash
    · exact .inr rfl

theorem rooted_of_isRooted (h : IsRooted text) : rooted text = text := by
  rcases h with rfl | hslash
  · rfl
  · cases text with
    | nil => cases hslash
    | cons c text => rw [rooted, if_neg (by simp), if_pos hslash]

theorem IsRooted.of_isPrefix (h : IsRooted text) (hfront : rest <+: text) : IsRooted rest := by
  cases rest with
  | nil => exact .inl rfl
  | cons c rest =>
    obtain ⟨more, rfl⟩ := hfront
    exact .inr (h.resolve_left (List.cons_ne_nil _ _))

/-- Of a path with a leading slash, a pass takes something off the end. -/
theorem toList_normalize_of_rooted {path : String} (h : IsRooted path.toList) :
    (normalize path).toList = strip path.toList := by
  have htrim : Blank.trimStart path.toList = path.toList := by
    rcases h with hnil | hslash
    · rw [hnil]
      rfl
    · cases hpath : path.toList with
      | nil => rfl
      | cons c text =>
        rw [hpath] at hslash
        cases hslash
        exact List.dropWhile_cons_of_neg (by decide)
  rw [toList_normalize, core, Blank.trim, htrim]
  exact rooted_of_isRooted (h.of_isPrefix (strip_isPrefix _))

theorem toList_iterate_normalize (k : Nat) (path : String) :
    (normalize^[k + 1] path).toList = strip^[k] (rooted (core path.toList)) := by
  induction k with
  | zero => exact toList_normalize path
  | succ k ih =>
    have hfront : ∀ text : List Char, strip^[k] text <+: text := by
      clear ih
      induction k with
      | zero => exact fun text => List.prefix_rfl
      | succ k ih => exact fun text => (ih (strip text)).trans (strip_isPrefix text)
    have hroot : IsRooted (normalize^[k + 1] path).toList := by
      rw [ih]
      exact (isRooted_rooted _).of_isPrefix (hfront _)
    rw [Function.iterate_succ_apply', toList_normalize_of_rooted hroot, ih,
      Function.iterate_succ_apply']

/-- What stands at the front of a trimmed text is no white space. -/
theorem head_core {path : List Char} (h : core path = c :: rest) : isBlank c = false := by
  have hfront : c :: rest <+: Blank.trimStart path := by
    rw [← h]
    exact (dropEndWhile_isPrefix _ _).trans (dropEndWhile_isPrefix _ _)
  obtain ⟨more, hmore⟩ := hfront
  have hdrop : path.dropWhile isBlank = c :: (rest ++ more) := hmore.symm
  have hhead := List.head_dropWhile_not isBlank (hdrop ▸ List.cons_ne_nil _ _)
  simpa only [hdrop, List.head_cons] using hhead

/-- A base path without white space in front of it and without slashes and white space at
its end, with a leading slash if anything is left. -/
def settled (path : String) : String := String.ofList (rooted (bare (Blank.trimStart path.toList)))

theorem bare_rooted_core (path : List Char) :
    bare (rooted (core path)) = rooted (bare (Blank.trimStart path)) := by
  have hbare : bare (core path) = bare (Blank.trimStart path) := by
    rw [core, bare_dropEndWhile (fun c hc => by simp_all [isLoose]), Blank.trim, Blank.trimEnd,
      bare_dropEndWhile fun c hc => by simp [isLoose, hc]]
  rw [← hbare]
  cases hcore : core path with
  | nil => rfl
  | cons c rest =>
    -- a slash is there already, and what loses its end keeps it
    by_cases hslash : c = '/'
    · have hroot : IsRooted (c :: rest) := .inr (congrArg some hslash)
      have hfront : bare (c :: rest) <+: c :: rest := dropEndWhile_isPrefix _ _
      rw [rooted_of_isRooted hroot, rooted_of_isRooted (hroot.of_isPrefix hfront)]
    · -- a slash is put in front, and no end that is lost reaches the first character
      have hloose : isLoose c = false := by simp [isLoose, hslash, head_core hcore]
      have hne : bare (c :: rest) ≠ [] := by
        intro hnil
        have hall := List.rdropWhile_eq_nil_iff.1 hnil c List.mem_cons_self
        rw [hloose] at hall
        cases hall
      obtain ⟨first, more, hmore⟩ := List.exists_cons_of_ne_nil hne
      have hfirst : first = c := by
        obtain ⟨_, heq⟩ : bare (c :: rest) <+: c :: rest := dropEndWhile_isPrefix _ _
        rw [hmore] at heq
        exact (List.cons.inj heq).1
      rw [rooted, if_neg (by simp), if_neg (by simpa using hslash), bare, dropEndWhile_cons hne,
        ← bare, rooted, hmore, if_neg (by simp), if_neg (by simpa [hfirst] using hslash)]

-- ---------------------------------------------------------------------------
-- The form
-- ---------------------------------------------------------------------------

/-- The form that the next pass does not change: nothing, or a leading slash and neither a
slash nor white space at the end. -/
def Canonical (path : String) : Prop :=
  path = "" ∨ path.toList.head? = some '/' ∧
    ∃ last, path.toList.getLast? = some last ∧ last ≠ '/' ∧ isBlank last = false

/-- The path without the slashes at its end ends in white space. -/
def BlankBeforeSlashes (path : List Char) : Prop :=
  ∃ front c slashes, path = front ++ c :: slashes ∧ isBlank c = true ∧ ∀ s ∈ slashes, s = '/'

theorem getLast?_rooted (h : text ≠ []) : (rooted text).getLast? = text.getLast? := by
  rw [rooted, if_neg (by simpa using h)]
  split
  · rfl
  · rw [List.getLast?_cons, List.getLast?_eq_some_getLast h]
    rfl

/-- The slashes at the end are what a trimmed text loses. -/
theorem core_of_trim {path front slashes : List Char}
    (h : Blank.trim path = front ++ c :: slashes) (hc : c ≠ '/') (hslashes : ∀ s ∈ slashes, s = '/') :
    core path = front ++ [c] := by
  have hdrop : slashes.reverse.dropWhile (· == '/') = [] := by
    simpa using hslashes
  rw [core, h, Blank.dropEndWhile, List.reverse_append, List.reverse_cons, List.append_assoc,
    List.dropWhile_append, hdrop, if_pos List.isEmpty_nil, List.singleton_append,
    List.dropWhile_cons_of_neg (by simpa using hc)]
  simp

theorem getLast_core {path front : List Char} (h : core path = front ++ [c]) : c ≠ '/' := by
  have hsame : Blank.dropEndWhile (· == '/') (front ++ [c]) = front ++ [c] := by
    rw [← h]
    exact List.rdropWhile_idempotent _ _
  simpa using dropEndWhile_eq_self_iff.1 hsame (by simp)

theorem canonical_iff {path : String} (h : IsRooted path.toList) :
    Canonical path ↔ bare path.toList = path.toList := by
  have hempty : path = "" ↔ path.toList = [] := by
    rw [← String.toList_inj]
    rfl
  rw [bare, dropEndWhile_eq_self_iff, Canonical, hempty]
  constructor
  · rintro (hnil | ⟨-, last, hlast, hslash, hblank⟩) hne
    · exact absurd hnil hne
    · -- the last character is neither kind of what is taken off
      rw [List.getLast?_eq_some_getLast hne] at hlast
      rw [Option.some.inj hlast]
      simp [isLoose, hslash, hblank]
  · intro hend
    by_cases hnil : path.toList = []
    · exact .inl hnil
    · have hloose := hend hnil
      simp only [isLoose, Bool.or_eq_true, beq_iff_eq, not_or, Bool.not_eq_true] at hloose
      exact .inr ⟨h.resolve_left hnil, _, List.getLast?_eq_some_getLast hnil, hloose⟩

theorem normalize_eq_self_iff {path : String} (h : IsRooted path.toList) :
    normalize path = path ↔ Canonical path := by
  rw [← String.toList_inj, toList_normalize_of_rooted h, strip_eq_self_iff, canonical_iff h]

theorem isRooted_normalize (path : String) : IsRooted (normalize path).toList := by
  rw [toList_normalize]
  exact isRooted_rooted _

/-- One pass is enough if no white space stands before the slashes at the end. -/
theorem canonical_normalize_iff (path : String) :
    Canonical (normalize path) ↔ ¬ BlankBeforeSlashes (Blank.trim path.toList) := by
  -- either nothing is left of the path, or its last character is known
  rcases List.eq_nil_or_concat' (core path.toList) with hnil | ⟨front, last, hcore⟩
  · have hempty : normalize path = "" := by
      rw [← String.toList_inj, toList_normalize, hnil]
      rfl
    refine iff_of_true (.inl hempty) ?_
    -- a character before the slashes at the end would be left
    rintro ⟨front, c, slashes, htrim, hblank, hslashes⟩
    have hc : c ≠ '/' := by
      rintro rfl
      cases hblank
    have hcore := core_of_trim htrim hc hslashes
    rw [hnil] at hcore
    simp at hcore
  · have hne : core path.toList ≠ [] := by simp [hcore]
    have hlast : (normalize path).toList.getLast? = some last := by
      rw [toList_normalize, getLast?_rooted hne, hcore, List.getLast?_concat]
    have hslash := getLast_core hcore
    have hroot : (normalize path).toList.head? = some '/' :=
      (isRooted_normalize path).resolve_left fun hnil => by
        rw [hnil] at hlast
        cases hlast
    constructor
    · -- the character before the slashes would be the last one
      rintro (hempty | ⟨-, last', hlast', -, hblank'⟩) ⟨front', c, slashes, htrim, hblank, hslashes⟩
      · rw [hempty] at hlast
        cases hlast
      · have hc : c ≠ '/' := by
          rintro rfl
          cases hblank
        have hsame := core_of_trim htrim hc hslashes
        rw [hcore] at hsame
        have heq : last = c := (List.append_inj' hsame rfl).2 |> List.cons.inj |>.1
        rw [hlast] at hlast'
        cases hlast'
        rw [heq, hblank] at hblank'
        cases hblank'
    · -- a last character that is white space stands before the slashes that were taken away
      intro hnone
      refine .inr ⟨hroot, last, hlast, hslash, Bool.eq_false_iff.2 fun hblank => hnone ?_⟩
      have hsplit : core path.toList ++ (Blank.trim path.toList).rtakeWhile (· == '/') =
          Blank.trim path.toList := List.rdropWhile_append_rtakeWhile
      refine ⟨front, last, (Blank.trim path.toList).rtakeWhile (· == '/'), ?_, hblank,
        fun s hs => by simpa using List.mem_rtakeWhile_imp hs⟩
      rw [hcore, List.append_assoc] at hsplit
      exact hsplit.symm

/-- **Passes over a base path.** After one pass the path is empty, or it has a leading slash
and none at its end. A second pass changes nothing if and only if the form is canonical,
and that is so if and only if no white space stands before the slashes at the end of the
trimmed path. After some number of passes the path is what it is without any slashes and
white space at its end, which is canonical. -/
theorem normalize_comes_to_rest (path : String) :
    (normalize path = "" ∨ (normalize path).toList.head? = some '/' ∧
      (normalize path).toList.getLast? ≠ some '/') ∧
    (normalize (normalize path) = normalize path ↔ Canonical (normalize path)) ∧
    (Canonical (normalize path) ↔ ¬ BlankBeforeSlashes (Blank.trim path.toList)) ∧
    (∃ n, ∀ k, n ≤ k → normalize^[k] path = settled path) ∧ Canonical (settled path) := by
  refine ⟨?shape, normalize_eq_self_iff (isRooted_normalize path), canonical_normalize_iff path,
    ?rest, ?canonical⟩
  case shape =>
    rcases List.eq_nil_or_concat' (core path.toList) with hnil | ⟨front, last, hcore⟩
    · left
      rw [← String.toList_inj, toList_normalize, hnil]
      rfl
    · have hlast : (normalize path).toList.getLast? = some last := by
        rw [toList_normalize, getLast?_rooted (by simp [hcore]), hcore, List.getLast?_concat]
      refine .inr ⟨(isRooted_normalize path).resolve_left fun hnil => ?_, ?_⟩
      · rw [hnil] at hlast
        cases hlast
      · rw [hlast]
        exact fun heq => getLast_core hcore (Option.some.inj heq)
  -- a pass takes away some of the end, until nothing loose is left there
  case rest =>
    obtain ⟨n, hn⟩ := exists_iterate_strip (rooted (core path.toList))
    refine ⟨n + 1, fun k hk => ?_⟩
    obtain ⟨k, rfl⟩ : ∃ j, k = j + 1 := ⟨k - 1, by omega⟩
    rw [← String.toList_inj, toList_iterate_normalize, hn k (by omega), bare_rooted_core, settled,
      String.toList_ofList]
  case canonical =>
    have hroot : IsRooted (settled path).toList := by
      rw [settled, String.toList_ofList]
      exact isRooted_rooted _
    rw [canonical_iff hroot, settled, String.toList_ofList, ← bare_rooted_core]
    exact bare_dropEndWhile (fun _ hc => hc) _

/-- A path with a space before its last slash is changed by the second pass. -/
theorem normalize_not_canonical :
    normalize "/a /" = "/a " ∧ ¬ Canonical (normalize "/a /") ∧
      normalize (normalize "/a /") = "/a" := by
  have hfirst : normalize "/a /" = "/a " := by decide
  have hsecond : normalize "/a " = "/a" := by decide
  refine ⟨hfirst, fun hcanonical => ?_, hfirst.symm ▸ hsecond⟩
  have hsame := (normalize_eq_self_iff (isRooted_normalize "/a /")).2 hcanonical
  rw [hfirst, hsecond] at hsame
  exact absurd hsame (by decide)

end Flagpost.BasePath
