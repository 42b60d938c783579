import Flagpost.Hook.Validation
import Flagpost.Proofs.File.Places

/-!
# Flagpost — flag files stay below the flags directory

A flag file is accepted by looking at the pieces between slashes and
backslashes, and it ends up where its components lead. The two readings agree:
the pieces are those of the segments (`FlagFile.pieces_eq_flatMap`), so what
has no `..` among its pieces has none among its components.

* `Path.components_eq`                — the components of a path are its steps,
  behind the root if it has one.
* `FlagFile.fault?_ne_outside`        — a path that passes the checks of its
  pieces also passes the check of its components.
* `FlagFile.Accepted.components_join` — inside any directory, an accepted path
  adds names and nothing else.
-/

namespace Flagpost

namespace Path

-- ---------------------------------------------------------------------------
-- Components and steps
-- ---------------------------------------------------------------------------

/-- The component a step stands for. -/
def stepComponent (step : String) : Component := if step = ".." then .parent else .name step

theorem filterMap_inner? (parts : List String) :
    parts.filterMap inner? = (parts.filter isStep).map stepComponent := by
  induction parts with
  | nil => rfl
  | cons part parts ih =>
    -- an empty segment or a dot is no component
    by_cases hidle : part = "" ∨ part = "."
    · have hstep : isStep part = false := by rcases hidle with rfl | rfl <;> rfl
      have hinner : inner? part = none := if_pos hidle
      rw [List.filterMap_cons_none hinner, ih, List.filter_cons_of_neg (by simp [hstep])]
    · have hstep : isStep part = true := by
        simp only [not_or] at hidle
        simp [isStep, hidle]
      have hinner : inner? part = some (stepComponent part) := by
        rw [inner?, if_neg hidle, stepComponent]
        split <;> rfl
      rw [List.filterMap_cons_some hinner, ih, List.filter_cons_of_pos hstep, List.map_cons]

/-- A path begins at the root if its first segment is empty. -/
theorem head?_eq_slash_iff {first : String} {rest : List String} {path : String}
    (h : segments path = first :: rest) : path.toList.head? = some '/' ↔ first = "" := by
  rw [segments] at h
  split at h
  · cases h
  · rename_i hempty
    cases hpath : path.toList with
    | nil => exact absurd (String.toList_inj.1 hpath) (by simpa using hempty)
    | cons c text =>
      rw [hpath, List.splitOn_cons_eq_if_modifyHead] at h
      -- a slash in front leaves an empty first segment
      split at h
      · rename_i hc
        cases h
        simp [beq_iff_eq.1 hc]
      · -- another character belongs to the first segment
        rename_i hc
        obtain ⟨head, tail, hsplit⟩ := List.exists_cons_of_ne_nil (List.splitOn_ne_nil '/' text)
        rw [hsplit] at h
        cases h
        have hne : c ≠ '/' := fun he => hc (by simp [he])
        simp [hne, ← String.toList_inj]

/-- The components of a path are its steps, behind the root if it has one. Only
a dot at the beginning of a path is a component that is no step. -/
theorem components_eq (path : String) : (components path).filter (· != .current) =
    (if path.toList.head? = some '/' then [.root] else []) ++ (steps path).map stepComponent := by
  have hkept : ∀ parts : List String, ((parts.filter isStep).map stepComponent).filter
      (· != .current) = (parts.filter isStep).map stepComponent := by
    intro parts
    refine List.filter_eq_self.2 fun component hc => ?_
    obtain ⟨step, _, rfl⟩ := List.mem_map.1 hc
    rw [stepComponent]
    split <;> rfl
  rw [components, steps_eq_segments]
  cases hsegments : segments path with
  | nil =>
    have hpath := ofSegments_segments path (segments_ne_root path)
    rw [hsegments] at hpath
    subst hpath
    rfl
  | cons first rest =>
    have hroot := head?_eq_slash_iff hsegments
    simp only [List.filter_append, filterMap_inner?, hkept]
    -- the first segment is the root, a dot that is kept, or a segment like the others
    by_cases hempty : first = ""
    · rw [if_pos hempty, if_pos (hroot.2 hempty), hempty, List.filter_cons_of_pos (by decide)]
      rfl
    · rw [if_neg hempty, if_neg (fun hr => hempty (hroot.1 hr)), List.nil_append]
      by_cases hdot : first = "."
      · rw [if_pos hdot, hdot, List.filter_cons_of_neg (by decide)]
        rfl
      · have hfirst := filterMap_inner? [first]
        have hone : (inner? first).toList = [first].filterMap inner? := by
          cases h : inner? first <;> simp [h]
        rw [if_neg hdot, hone, hfirst, hkept, ← List.map_append, ← List.filter_append]
        rfl

end Path

namespace FlagFile

-- ---------------------------------------------------------------------------
-- Two readings of a path
-- ---------------------------------------------------------------------------

/-- The pieces are those between backslashes of those between slashes. -/
theorem pieces_eq_flatMap (text : List Char) :
    pieces text = (text.splitOn '/').flatMap (·.splitOn '\\') := by
  induction text with
  | nil => rfl
  | cons c text ih =>
    obtain ⟨head, tail, hsplit⟩ := List.exists_cons_of_ne_nil (List.splitOn_ne_nil '/' text)
    rw [pieces, ih, List.splitOn_cons_eq_if_modifyHead, hsplit]
    -- a slash ends a piece in both readings
    by_cases hslash : c = '/'
    · subst hslash
      rfl
    · have hslash' : ¬ (c == '/') = true := by simpa using hslash
      rw [if_neg hslash', List.modifyHead_cons, List.flatMap_cons, List.flatMap_cons,
        List.splitOn_cons_eq_if_modifyHead (a := '\\')]
      -- a backslash ends a piece that goes on to the next slash
      by_cases hback : c = '\\'
      · subst hback
        rfl
      · -- anything else gets in front of the first piece
        have hback' : ¬ (c == '\\') = true := by simpa using hback
        have hseparator : ¬ isSeparator c = true := by simp [isSeparator, hslash, hback]
        obtain ⟨piece, more, hpieces⟩ :=
          List.exists_cons_of_ne_nil (List.splitOn_ne_nil '\\' head)
        rw [if_neg hseparator, if_neg hback', hpieces]
        rfl

/-- A path without `..` among its pieces has none among its steps. -/
theorem parent_not_mem_steps {path : String} (h : ['.', '.'] ∉ pieces path.toList) :
    ".." ∉ Path.steps path := by
  intro hmem
  refine h ?_
  obtain ⟨segment, hsegment, hdots⟩ := List.mem_map.1 (List.mem_filter.1 hmem).1
  have hchars : segment = ['.', '.'] := by rw [← String.ofList_inj, hdots]
  rw [pieces_eq_flatMap]
  exact List.mem_flatMap.2 ⟨segment, hsegment, by rw [hchars]; decide⟩

theorem mem_components_of_ne {path : String} {component : Path.Component}
    (hc : component ≠ .current) : component ∈ Path.components path ↔
      component ∈ (if path.toList.head? = some '/' then [Path.Component.root] else []) ++
        (Path.steps path).map Path.stepComponent := by
  rw [← Path.components_eq, List.mem_filter]
  simp [hc]

/-- The components of a path that does not begin with a separator and has no
`..` among its pieces lead nowhere out of a directory. -/
theorem leadsOut_eq_false {path : String} (hhead : path.toList.head? ≠ some '/')
    (h : ['.', '.'] ∉ pieces path.toList) : leadsOut path = false := by
  have hdots := parent_not_mem_steps h
  rw [leadsOut, List.any_eq_false]
  intro component hmem
  simp only [Bool.or_eq_true, beq_iff_eq, not_or]
  refine ⟨?_, ?_⟩
  · -- no root, for the path begins with no slash
    rintro rfl
    rw [mem_components_of_ne (by decide), if_neg hhead, List.nil_append] at hmem
    obtain ⟨step, _, hstep⟩ := List.mem_map.1 hmem
    rw [Path.stepComponent] at hstep
    split at hstep <;> cases hstep
  · -- no step leads up
    rintro rfl
    rw [mem_components_of_ne (by decide), if_neg hhead, List.nil_append] at hmem
    obtain ⟨step, hin, hstep⟩ := List.mem_map.1 hmem
    rw [Path.stepComponent] at hstep
    split at hstep
    · rename_i he
      exact hdots (he ▸ hin)
    · cases hstep

/-- What the checks ask of a path. -/
structure Accepted (path : String) : Prop where
  control : path.toList.any isControl = false
  relative : path.toList.head? ≠ some '/'
  traversal : ['.', '.'] ∉ pieces path.toList
  named : namesSomething path = true

theorem accepted_of_fault? {path : String} (h : fault? path = none) : Accepted path := by
  -- every check has let the path through
  simp only [fault?] at h
  split at h
  · cases h
  split at h
  · cases h
  split at h
  · cases h
  split at h
  · cases h
  split at h
  · cases h
  split at h
  · cases h
  rename_i _ hcontrol hrelative htraversal _ hnamed
  simp only [Bool.or_eq_true, Bool.not_eq_true', not_or, Bool.not_eq_false] at hnamed
  refine ⟨by simpa using hcontrol, fun hhead => hrelative ?_, by simpa using htraversal, hnamed.1⟩
  rw [hhead]
  rfl

example : fault? "builds/./ci.flag" = none := by decide

/-- What the pieces of a path let through is not refused for its components. -/
theorem fault?_ne_outside (path : String) : fault? path ≠ some (.flagFileOutside path) := by
  intro h
  simp only [fault?] at h
  split at h
  · cases h
  split at h
  · cases h
  split at h
  · cases h
  split at h
  · cases h
  split at h
  · rename_i _ _ hrelative htraversal hout
    -- where the earlier checks let a path through, its components lead nowhere out
    rw [leadsOut_eq_false (fun hhead => hrelative (by rw [hhead]; rfl)) (by simpa using htraversal)]
      at hout
    cases hout
  split at h
  · cases h
  · cases h

-- ---------------------------------------------------------------------------
-- Accepted paths inside a directory
-- ---------------------------------------------------------------------------

/-- A name a file or directory can have below another, without a control
character. -/
structure IsName (name : String) : Prop where
  notEmpty : name ≠ ""
  notHere : name ≠ "."
  notAbove : name ≠ ".."
  noSlash : '/' ∉ name.toList
  noControl : name.toList.any isControl = false

theorem Accepted.isName {path name : String} (h : Accepted path) (hn : name ∈ Path.steps path) :
    IsName name := by
  obtain ⟨hmem, hstep⟩ := List.mem_filter.1 hn
  obtain ⟨chars, hchars, rfl⟩ := List.mem_map.1 hmem
  simp only [Path.isStep, Bool.and_eq_true, bne_iff_ne] at hstep
  refine ⟨hstep.1, hstep.2, fun he => parent_not_mem_steps h.traversal (he ▸ hn), ?_, ?_⟩
  · rw [String.toList_ofList]
    exact List.not_mem_of_mem_splitOn hchars
  · rw [String.toList_ofList, List.any_eq_false]
    exact fun c hc => List.any_eq_false.1 h.control c (List.mem_of_mem_splitOn hchars hc)

theorem Accepted.steps_ne_nil {path : String} (h : Accepted path) : Path.steps path ≠ [] := by
  intro hnil
  obtain ⟨component, hmem, hname⟩ := List.any_eq_true.1 h.named
  cases component with
  | name text =>
    rw [mem_components_of_ne (by simp), if_neg h.relative, hnil] at hmem
    cases hmem
  | root => cases hname
  | current => cases hname
  | parent => cases hname

/-- Inside any directory, an accepted path adds names and nothing else. -/
theorem Accepted.components_join {path : String} (h : Accepted path) (directory : String) :
    (Path.components (Path.join directory path)).filter (· != .current) =
      (Path.components directory).filter (· != .current) ++ (Path.steps path).map .name := by
  -- no step of an accepted path leads up
  have hnames : (Path.steps path).map Path.stepComponent = (Path.steps path).map .name :=
    List.map_congr_left fun step hs => if_neg (h.isName hs).notAbove
  -- and what it is put behind decides whether the whole is from the root
  have hroot : (Path.join directory path).toList.head? = some '/' ↔
      directory.toList.head? = some '/' := by
    rw [Path.join]
    split
    · rename_i hcase
      rcases hcase with hhead | hempty
      · exact absurd hhead h.relative
      · rw [hempty]
        exact ⟨fun hhead => absurd hhead h.relative, fun hhead => by cases hhead⟩
    · rename_i hne
      simp only [not_or] at hne
      have hnil : directory.toList ≠ [] := fun hnil => hne.2 (String.toList_inj.1 hnil)
      obtain ⟨c, text, hchars⟩ := List.exists_cons_of_ne_nil hnil
      split <;> simp [String.toList_append, hchars]
  rw [Path.components_eq, Path.components_eq, Path.steps_join h.relative, List.map_append, hnames,
    List.append_assoc]
  congr 1
  by_cases hd : directory.toList.head? = some '/'
  · rw [if_pos hd, if_pos (hroot.2 hd)]
  · rw [if_neg hd, if_neg fun hj => hd (hroot.1 hj)]

/-- Inside any directory, an accepted path leads to below where the directory
is. -/
theorem Accepted.locate_join {path : String} (h : Accepted path) (directory : String) :
    Path.locate (Path.join directory path) = Path.locate directory ++ Path.steps path := by
  rw [Path.locate, Path.steps_join h.relative,
    Path.reach_append_names fun hm => (h.isName hm).notAbove rfl]
  rfl

end FlagFile

end Flagpost
