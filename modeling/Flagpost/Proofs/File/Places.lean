import Flagpost.File.System
import Flagpost.Proofs.Text.Split

/-!
# Flagpost — where a path leads, read off its text

The **steps** of a path are its segments without those that stay where they
are. Following them from the top gives the location the path leads to, if it
leads anywhere: a tree without links has no say in where that is.

* `Path.steps_join`        — a path inside a directory first makes the steps
  of the directory.
* `Path.steps_prefix`      — the paths above a path make the first of its steps.
* `Path.exists_ancestor`   — and every beginning of the steps is a path above.
-/

namespace Flagpost

namespace Path

/-- Does a segment lead anywhere else? -/
def isStep (segment : String) : Bool := segment != "" && segment != "."

/-- The steps of a path. -/
def steps (path : String) : List String :=
  ((path.toList.splitOn '/').map String.ofList).filter isStep

/-- Where a step leads. -/
def follow (here : Location) (step : String) : Location :=
  if step = ".." then here.dropLast else here ++ [step]

/-- Where steps lead from the top. -/
def reach (steps : List String) : Location := steps.foldl follow []

/-- Where a path leads. -/
def locate (path : String) : Location := reach (steps path)

-- ---------------------------------------------------------------------------
-- Steps
-- ---------------------------------------------------------------------------

theorem filter_isStep (parts : List String) :
    (parts.filter (· != "")).filter isStep = parts.filter isStep := by
  rw [List.filter_filter]
  congr 1
  funext s
  by_cases hs : s = "" <;> simp [isStep, hs]

theorem filter_segments {p : String → Bool} (hp : p "" = false) (path : String) :
    (segments path).filter p = ((path.toList.splitOn '/').map String.ofList).filter p := by
  rw [segments]
  split
  · rename_i h
    rw [String.isEmpty_iff.1 h]
    simp [hp]
  · rfl

theorem steps_eq_segments (path : String) : steps path = (segments path).filter isStep :=
  (filter_segments rfl path).symm

theorem foldl_follow_names {names : List String} (h : ".." ∉ names) (here : Location) :
    names.foldl follow here = here ++ names := by
  induction names generalizing here with
  | nil => simp
  | cons name names ih =>
    have hname : name ≠ ".." := fun hn => h (hn ▸ List.mem_cons_self)
    rw [List.foldl_cons, follow, if_neg hname, ih fun hn => h (List.mem_cons_of_mem _ hn),
      List.append_assoc, List.singleton_append]

theorem reach_append_names {names : List String} (h : ".." ∉ names) (before : List String) :
    reach (before ++ names) = reach before ++ names := by
  rw [reach, List.foldl_append, foldl_follow_names h]
  rfl

theorem reach_concat (done : List String) (step : String) :
    reach (done ++ [step]) = follow (reach done) step := by
  rw [reach, List.foldl_append]
  rfl

theorem reach_up (done : List String) : reach (done ++ [".."]) = (reach done).dropLast := by
  rw [reach_concat, follow, if_pos rfl]

theorem reach_name {name : String} (hdots : name ≠ "..") (done : List String) :
    reach (done ++ [name]) = reach done ++ [name] := by
  rw [reach_concat, follow, if_neg hdots]

/-- The steps behind a first segment: those of the others, and before them the
segment, unless it stays where it is. -/
theorem append_filter_isStep {segment : String} (hempty : segment ≠ "") (hdot : segment ≠ ".")
    (done rest : List String) :
    done ++ (segment :: rest).filter isStep = done ++ [segment] ++ rest.filter isStep := by
  rw [List.filter_cons_of_pos (by simp [isStep, hempty, hdot]), List.append_assoc,
    List.singleton_append]

theorem slash_not_mem_segments {path segment : String} (h : segment ∈ segments path) :
    '/' ∉ segment.toList := by
  rw [segments] at h
  split at h
  · cases h
  · obtain ⟨chars, hc, rfl⟩ := List.mem_map.1 h
    rw [String.toList_ofList]
    exact List.not_mem_of_mem_splitOn hc

/-- Segments are those of the path they make, but for empty ones. -/
theorem filter_segments_ofSegments {p : String → Bool} (hp : p "" = false) {parts : List String}
    (h : ∀ s ∈ parts, '/' ∉ s.toList) :
    (segments (ofSegments parts)).filter p = parts.filter p := by
  rw [filter_segments hp, ofSegments]
  split
  · -- the root has two empty segments
    rename_i hroot
    subst hroot
    rw [show ("/".toList.splitOn '/').map String.ofList = ["", ""] from rfl]
    simp [hp]
  · cases parts with
    | nil => simp [hp]
    | cons part parts =>
      have hslash : ∀ l ∈ (part :: parts).map String.toList, '/' ∉ l := by
        intro l hl
        obtain ⟨s, hs, rfl⟩ := List.mem_map.1 hl
        exact h s hs
      rw [String.toList_intercalate, show "/".toList = ['/'] from rfl,
        List.splitOn_intercalate '/' hslash (by simp), List.map_map]
      simp [Function.comp_def]

theorem steps_ofSegments {parts : List String} (h : ∀ s ∈ parts, '/' ∉ s.toList) :
    steps (ofSegments parts) = parts.filter isStep := by
  rw [steps_eq_segments, filter_segments_ofSegments rfl h]

theorem segments_ofSegments {parts : List String} (h : ∀ s ∈ parts, '/' ∉ s.toList)
    (hroot : parts ≠ [""]) : segments (ofSegments parts) = parts := by
  cases parts with
  | nil => rfl
  | cons part parts =>
    have hslash : ∀ l ∈ (part :: parts).map String.toList, '/' ∉ l := by
      intro l hl
      obtain ⟨s, hs, rfl⟩ := List.mem_map.1 hl
      exact h s hs
    have hsplit : ((ofSegments (part :: parts)).toList.splitOn '/').map String.ofList =
        part :: parts := by
      rw [ofSegments, if_neg hroot, String.toList_intercalate, show "/".toList = ['/'] from rfl,
        List.splitOn_intercalate '/' hslash (by simp), List.map_map]
      simp [Function.comp_def]
    rw [segments, hsplit]
    split
    · -- only the empty path has no segments of its own, and it is not made of one part
      rename_i hempty
      rw [String.isEmpty_iff.1 hempty] at hsplit
      exact absurd hsplit.symm hroot
    · rfl

theorem ofSegments_ne_empty {parts : List String} (h : parts ≠ []) : ofSegments parts ≠ "" := by
  rw [ofSegments]
  split
  · decide
  · rename_i hroot
    rcases parts with _ | ⟨part, _ | ⟨next, parts⟩⟩
    · exact absurd rfl h
    · rw [String.intercalate_singleton]
      rintro rfl
      exact hroot rfl
    · intro hempty
      have htext := congrArg String.toList hempty
      rw [String.toList_intercalate] at htext
      simp [List.intercalate] at htext

/-- A path that is not empty has a last segment, which is empty only behind a slash. -/
theorem segments_eq_concat {path : String} (hne : path ≠ "") : ∃ front last,
    segments path = front ++ [last] ∧ (last = "" → path.toList.getLast? = some '/') := by
  obtain ⟨parts, last, hsplit, -, hempty⟩ :=
    List.splitOn_append_of_not_mem (List.not_mem_nil (a := '/')) path.toList
  refine ⟨parts.map String.ofList, String.ofList last, ?_, fun hlast => ?_⟩
  · rw [segments, if_neg (by simpa using hne), hsplit, List.map_append, List.map_singleton]
  · rcases hempty (String.ofList_inj.1 hlast) with hpath | hslash
    · exact absurd (String.toList_inj.1 hpath) hne
    · exact hslash

theorem filter_segments_slash {p : String → Bool} (hp : p "" = false) (text more : List Char) :
    (segments (String.ofList (text ++ '/' :: more))).filter p =
      (segments (String.ofList text)).filter p ++ (segments (String.ofList more)).filter p := by
  rw [filter_segments hp, filter_segments hp, filter_segments hp, String.toList_ofList,
    String.toList_ofList, String.toList_ofList, List.splitOn_append_cons_self, List.map_append,
    List.filter_append]

/-- A path inside a directory first has the segments of the directory, but for empty
ones. -/
theorem filter_segments_join {p : String → Bool} (hp : p "" = false) {directory file : String}
    (h : file.toList.head? ≠ some '/') :
    (segments (join directory file)).filter p =
      (segments directory).filter p ++ (segments file).filter p := by
  have hnone : (segments "").filter p = [] := rfl
  rw [join]
  split
  · -- the file is not from the root, so only an empty directory puts no slash between
    rename_i hcase
    rcases hcase with hslash | hempty
    · exact absurd hslash h
    · rw [hempty, hnone, List.nil_append]
  · split
    · -- the directory ends in the slash that stands between
      rename_i hlast
      obtain ⟨front, hfront⟩ : ∃ front, directory.toList = front ++ ['/'] := by
        obtain ⟨front, hf⟩ := List.getLast?_eq_some_iff.1 hlast
        exact ⟨front, hf⟩
      have hd : directory = String.ofList (front ++ '/' :: []) := by
        rw [← hfront, String.ofList_toList]
      have hj : directory ++ file = String.ofList (front ++ '/' :: file.toList) := by
        rw [← String.toList_inj, String.toList_append, hfront, String.toList_ofList]
        simp
      rw [hj, hd, filter_segments_slash hp, filter_segments_slash hp, String.ofList_toList,
        show String.ofList [] = "" from rfl, hnone, List.append_nil]
    · -- a slash is put between
      have hj : directory ++ "/" ++ file = String.ofList (directory.toList ++ '/' :: file.toList) := by
        rw [← String.toList_inj, String.toList_append, String.toList_append, String.toList_ofList]
        simp
      rw [hj, filter_segments_slash hp, String.ofList_toList, String.ofList_toList]

/-- A path inside a directory first makes the steps of the directory. -/
theorem steps_join {directory file : String} (h : file.toList.head? ≠ some '/') :
    steps (join directory file) = steps directory ++ steps file := by
  rw [steps_eq_segments, steps_eq_segments, steps_eq_segments, filter_segments_join rfl h]

-- ---------------------------------------------------------------------------
-- Longer names
-- ---------------------------------------------------------------------------

/-- Text behind a path that does not end in a slash makes its last name
longer. -/
theorem steps_append {path name more : String} {before : List String} (hne : path ≠ "")
    (hlast : path.toList.getLast? ≠ some '/') (hmore : '/' ∉ more.toList)
    (hlong : isStep (name ++ more) = true)
    (h : (segments path).filter (· != "") = before ++ [name]) :
    steps (path ++ more) = before.filter isStep ++ [name ++ more] := by
  obtain ⟨parts, last, hsplit, hsplit', hempty⟩ := List.splitOn_append_of_not_mem hmore path.toList
  have hlast' : String.ofList last ≠ "" := by
    -- a path that does not end in a slash has a last part that is not empty
    intro he
    rcases hempty (String.ofList_inj.1 he) with hnil | hslash
    · exact hne (String.toList_inj.1 hnil)
    · exact hlast hslash
  rw [filter_segments (p := (· != "")) rfl, hsplit, List.map_append, List.filter_append,
    List.map_singleton, List.filter_cons_of_pos (by simp [hlast']), List.filter_nil] at h
  obtain ⟨hbefore, hname'⟩ := List.append_inj' h rfl
  rw [List.singleton_inj] at hname'
  have hkept : before.filter isStep = (parts.map String.ofList).filter isStep := by
    rw [← hbefore, filter_isStep]
  rw [steps, String.toList_append, hsplit', List.map_append, List.filter_append,
    List.map_singleton, String.ofList_append, hname', String.ofList_toList, hkept,
    List.filter_cons_of_pos hlong, List.filter_nil]

-- ---------------------------------------------------------------------------
-- Paths above a path
-- ---------------------------------------------------------------------------

theorem dropIdle_suffix (reversed : List String) : dropIdle reversed <:+ reversed := by
  fun_induction dropIdle reversed with
  | case1 s t rest hidle ih => exact ih.trans (List.suffix_cons s (t :: rest))
  | case2 s t rest hidle => exact List.suffix_refl _
  | case3 short hshort => exact List.suffix_refl _

theorem dropIdle_dropIdle (reversed : List String) :
    dropIdle (dropIdle reversed) = dropIdle reversed := by
  fun_induction dropIdle reversed with
  | case1 s t rest hidle ih => exact ih
  | case2 s t rest hidle => rw [dropIdle, if_neg hidle]
  | case3 short hshort =>
    unfold dropIdle
    split
    · rename_i s t rest
      exact absurd rfl (hshort s t rest)
    · rfl

theorem above?_suffix {reversed above : List String} (h : above? reversed = some above) :
    above <:+ reversed := by
  have hd := dropIdle_suffix reversed
  unfold above? at h
  split at h
  · cases h
  · cases h
  · rename_i s rest _ heq
    rw [Option.some.injEq] at h
    rw [heq] at hd
    exact h ▸ ((dropIdle_suffix rest).trans (List.suffix_cons s rest)).trans hd

theorem steps_dropIdle (reversed : List String) :
    (dropIdle reversed).reverse.filter isStep = reversed.reverse.filter isStep := by
  fun_induction dropIdle reversed with
  | case1 s t rest hidle ih =>
    have hs : isStep s = false := by
      rcases hidle with rfl | rfl <;> rfl
    rw [ih, List.reverse_cons (a := s), List.filter_append, List.filter_cons_of_neg (by simp [hs]),
      List.filter_nil, List.append_nil]
  | case2 s t rest hidle => rfl
  | case3 short hshort => rfl

/-- The path above a path has all its steps but the last. -/
theorem steps_above? {reversed above : List String} (h : above? reversed = some above) :
    ∃ last, last.length ≤ 1 ∧
      reversed.reverse.filter isStep = above.reverse.filter isStep ++ last := by
  have hd := steps_dropIdle reversed
  unfold above? at h
  split at h
  · cases h
  · cases h
  · rename_i s rest _ heq
    rw [Option.some.injEq] at h
    rw [heq, List.reverse_cons, List.filter_append] at hd
    refine ⟨[s].filter isStep, List.length_filter_le _ _, ?_⟩
    rw [← hd, ← h, steps_dropIdle]

theorem steps_of_above?_eq_none {reversed : List String} (h : above? reversed = none) :
    reversed.reverse.filter isStep = [] := by
  have hd := steps_dropIdle reversed
  unfold above? at h
  split at h
  · rename_i heq
    rw [← hd, heq]
    rfl
  · rename_i heq
    rw [← hd, heq]
    rfl
  · cases h

theorem dropIdle_cons {reversed rest : List String} {s : String}
    (h : dropIdle reversed = s :: rest) (hs : s = "") : rest = [] := by
  fun_induction dropIdle reversed with
  | case1 s' t rest' hidle ih => exact ih h
  | case2 s' t rest' hidle =>
    cases h
    exact absurd (.inl hs) hidle
  | case3 short hshort =>
    cases rest with
    | nil => rfl
    | cons t rest => exact absurd h (hshort s t rest)

/-- Segments that are all components are below those without the last. -/
theorem above?_cons {s : String} {rest : List String} (hroot : s :: rest ≠ [""])
    (hidle : dropIdle (s :: rest) = s :: rest) : above? (s :: rest) = some (dropIdle rest) := by
  rw [above?, hidle]
  split
  · rename_i hnil
    cases hnil
  · rename_i hone
    exact absurd hone hroot
  · rename_i hcons
    cases hcons
    rfl

/-- The path above a path ends before some segment that is not empty. -/
theorem above?_split {reversed above : List String} (h : above? reversed = some above) :
    ∃ behind, reversed.reverse = above.reverse ++ behind ∧ behind.filter (· != "") ≠ [] := by
  obtain ⟨front, hfront⟩ := dropIdle_suffix reversed
  unfold above? at h
  split at h
  · cases h
  · cases h
  · rename_i s rest hroot heq
    rw [Option.some.injEq] at h
    obtain ⟨front', hfront'⟩ := dropIdle_suffix rest
    -- the segment before which the path above ends is a component, or the root
    have hs : s ≠ "" := by
      rintro rfl
      exact hroot rfl (dropIdle_cons heq rfl)
    refine ⟨front'.reverse ++ s :: front.reverse, ?_, ?_⟩
    · rw [← hfront, heq, ← hfront', h]
      simp
    · simp [hs]

theorem ofSegments_segments (path : String) (h : segments path ≠ [""]) :
    ofSegments (segments path) = path := by
  rw [ofSegments, if_neg h, ← String.toList_inj, String.toList_intercalate, segments]
  split
  · rename_i hempty
    rw [String.isEmpty_iff.1 hempty]
    rfl
  · rw [List.map_map, show "/".toList = ['/'] from rfl]
    simp [Function.comp_def, List.intercalate_splitOn]

theorem segments_ne_root (path : String) : segments path ≠ [""] := by
  intro h
  rw [segments] at h
  split at h
  · cases h
  · rename_i hempty
    have hsplit : path.toList.splitOn '/' = [[]] := by
      obtain ⟨part, hpart, hnil⟩ := List.map_eq_singleton_iff.1 h
      rw [hpart, String.ofList_inj.1 hnil]
    have hpath : ['/'].intercalate (path.toList.splitOn '/') = path.toList :=
      List.intercalate_splitOn '/'
    rw [hsplit] at hpath
    exact hempty (String.isEmpty_iff.2 (String.toList_inj.1 hpath.symm))

/-- The path above begins a path. -/
theorem ofSegments_above? {reversed above : List String} (h : above? reversed = some above) :
    ∃ behind, ofSegments reversed.reverse = ofSegments above.reverse ++ behind := by
  obtain ⟨behind, hsplit, hbehind⟩ := above?_split h
  -- what is left out has a segment, so the path above is shorter
  have hne : behind ≠ [] := by
    rintro rfl
    exact hbehind rfl
  have hroot : reversed.reverse ≠ [""] := by
    intro hroot
    rw [List.reverse_eq_iff.1 hroot] at h
    cases h
  rw [hsplit] at hroot ⊢
  rw [ofSegments, if_neg hroot]
  by_cases hnil : above.reverse = []
  · rw [hnil]
    exact ⟨_, (String.empty_append).symm⟩
  · rw [String.intercalate_append_of_ne_nil hnil hne, ofSegments]
    split
    · -- above is only the root
      rename_i hone
      rw [hone]
      exact ⟨_, by rw [String.intercalate_singleton, String.empty_append]⟩
    · exact ⟨_, by rw [String.append_assoc]⟩

/-- A path begins with the path above it. -/
theorem parent?_append {path parent : String} (h : parent? path = some parent) :
    ∃ behind, path = parent ++ behind := by
  obtain ⟨above, habove, rfl⟩ := Option.map_eq_some_iff.1 h
  obtain ⟨behind, hbehind⟩ := ofSegments_above? habove
  rw [List.reverse_reverse, ofSegments_segments path (segments_ne_root path)] at hbehind
  exact ⟨behind, hbehind⟩

/-- A path above a path is made of the first of its segments. -/
theorem mem_upwards {reversed : List String} {path : String} (h : path ∈ upwards reversed) :
    ∃ above, above <:+ reversed ∧ path = ofSegments above.reverse := by
  fun_induction upwards reversed with
  | case1 => cases h
  | case2 reversed hne ih =>
    rcases List.mem_cons.1 h with rfl | h
    · exact ⟨reversed, List.suffix_refl _, rfl⟩
    · split at h
      · rename_i above habove
        obtain ⟨higher, hsuffix, rfl⟩ := ih above habove h
        exact ⟨higher, hsuffix.trans (above?_suffix habove), rfl⟩
      · cases h

theorem exists_upwards {reversed before : List String} (hs : ∀ s ∈ reversed, '/' ∉ s.toList)
    (h : before <+: reversed.reverse.filter isStep) (hne : before ≠ []) :
    ∃ path ∈ upwards reversed, steps path = before := by
  fun_induction upwards reversed with
  | case1 => exact absurd (List.prefix_nil.1 h) hne
  | case2 reversed hrev ih =>
    by_cases hall : before = reversed.reverse.filter isStep
    · -- all the steps: the path itself
      refine ⟨_, List.mem_cons_self, ?_⟩
      rw [steps_ofSegments fun s hs' => hs s (List.mem_reverse.1 hs'), hall]
    · split
      · -- fewer: among the paths above, for those lack no more than the last step
        rename_i above habove
        obtain ⟨last, hlast, hsteps⟩ := steps_above? habove
        have hshort : before.length ≤ (above.reverse.filter isStep).length := by
          have hlt : before.length ≠ (reversed.reverse.filter isStep).length :=
            fun he => hall (h.eq_of_length he)
          have hle := h.length_le
          rw [hsteps, List.length_append] at hlt hle
          omega
        have hbefore : before <+: above.reverse.filter isStep :=
          List.prefix_of_prefix_length_le (hsteps ▸ h) (List.prefix_append _ last) hshort
        obtain ⟨path, hmem, hpath⟩ := ih above habove
          (fun s hs' => hs s ((above?_suffix habove).subset hs')) hbefore
        exact ⟨path, List.mem_cons_of_mem _ hmem, hpath⟩
      · -- nothing is above a path without a step
        rename_i hnone
        rw [steps_of_above?_eq_none hnone] at h
        exact absurd (List.prefix_nil.1 h) hne

theorem steps_prefix_of_suffix {path : String} {above : List String}
    (h : above <:+ (segments path).reverse) : steps (ofSegments above.reverse) <+: steps path := by
  have hslash : ∀ s ∈ above.reverse, '/' ∉ s.toList := fun s hs =>
    slash_not_mem_segments (List.mem_reverse.1 (h.subset (List.mem_reverse.1 hs)))
  have hprefix : above.reverse <+: segments path := by
    rw [← List.reverse_reverse (segments path)]
    exact List.reverse_prefix.2 h
  rw [steps_ofSegments hslash, steps_eq_segments path]
  exact hprefix.filter _

/-- The paths above a path make the first of its steps. -/
theorem steps_prefix {path above : String} (h : above ∈ ancestors path) :
    steps above <+: steps path := by
  obtain ⟨parts, hsuffix, rfl⟩ := mem_upwards h
  exact steps_prefix_of_suffix hsuffix

theorem steps_parent_prefix {path parent : String} (h : parent? path = some parent) :
    steps parent <+: steps path := by
  obtain ⟨parts, hparts, rfl⟩ := Option.map_eq_some_iff.1 h
  exact steps_prefix_of_suffix (above?_suffix hparts)

/-- Every beginning of the steps of a path is a path above it. -/
theorem exists_ancestor {path : String} {before : List String} (h : before <+: steps path)
    (hne : before ≠ []) : ∃ above ∈ ancestors path, steps above = before := by
  refine exists_upwards (fun s hs => slash_not_mem_segments (List.mem_reverse.1 hs)) ?_ hne
  rw [List.reverse_reverse, ← steps_eq_segments]
  exact h

end Path

end Flagpost
