import Flagpost.Proofs.Text.Blank
import Flagpost.Proofs.Text.Bytes
import Flagpost.Proofs.Text.Split
import Flagpost.Web.Route
import Mathlib.Data.List.TakeWhile

/-!
# Flagpost — which resource a path leads to

The patterns of the four resources begin with the same segments, those of the
base path, and end in segments of their own (`Resource.ending`). Their endings
exclude each other, so a path that fits the pattern of a resource leads to that
resource, whatever holes the base path has (`Routes.find?_of_match?`).

A base path without colons and stars always has routes (`Routes.ofBase?_plain`),
and below it the trigger of a hook takes its identifier from the last segment
(`Routes.find?_trigger`).
-/

namespace Flagpost

/-- A segment without a hole. -/
def Segment.plain (text : List Char) : Segment := ⟨text, none⟩

theorem Segment.ofChars?_plain {text : List Char} (hstar : '*' ∉ text) (hcolon : ':' ∉ text) :
    Segment.ofChars? text = some (.plain text) := by
  have hlead : text.takeWhile (· != ':') = text := by
    rw [List.takeWhile_eq_self_iff]
    exact fun c hc => bne_iff_ne.2 fun he => hcolon (he ▸ hc)
  simp only [Segment.ofChars?, hlead, List.drop_length]
  rw [if_neg (by simpa using hstar)]
  rfl

/-- The segments of a resource below the base path. -/
def Resource.ending : Resource → Pattern
  | .health => [.plain "health".toList]
  | .trigger => [.plain "webhook".toList, ⟨[], some "id".toList⟩]
  | .hooks => [.plain "api".toList, .plain "hooks".toList]
  | .hook => [.plain "api".toList, .plain "hooks".toList, ⟨[], some "id".toList⟩]

namespace Pattern

-- ---------------------------------------------------------------------------
-- Patterns below a base path
-- ---------------------------------------------------------------------------

/-- The segments of a base path, if they are segments of a pattern. -/
def ofBase? (base : List Char) : Option Pattern := (base.splitOn '/').mapM Segment.ofChars?

theorem location_eq (resource : Resource) : ∃ rest, resource.location.toList = '/' :: rest ∧
    (rest.splitOn '/').mapM Segment.ofChars? = some resource.ending := by
  cases resource <;> exact ⟨_, rfl, rfl⟩

/-- The pattern of a resource is that of the base path and its own ending. -/
theorem pattern?_eq (base : String) (resource : Resource) : Routes.pattern? base resource =
    ((ofBase? base.toList).map (· ++ resource.ending)).filter
      fun pattern => pattern.countP (·.hole.isSome) ≤ maxHoles := by
  obtain ⟨rest, hlocation, hrest⟩ := location_eq resource
  rw [Routes.pattern?, ofChars?, hlocation, List.splitOn_append_cons_self, List.mapM_append, hrest,
    ofBase?]
  cases (base.toList.splitOn '/').mapM Segment.ofChars? <;> rfl

theorem pattern?_some {base : String} {resource : Resource} {pattern : Pattern}
    (h : Routes.pattern? base resource = some pattern) :
    ∃ front, ofBase? base.toList = some front ∧ pattern = front ++ resource.ending := by
  rw [pattern?_eq, Option.filter_eq_some_iff] at h
  obtain ⟨front, hfront, hpattern⟩ := Option.map_eq_some_iff.1 h.1
  exact ⟨front, hfront, hpattern.symm⟩

-- ---------------------------------------------------------------------------
-- Fitting
-- ---------------------------------------------------------------------------

/-- A path that fits a pattern has a beginning as long as the beginning of the
pattern, and what is behind it fits the rest. -/
theorem match?_append {front rest : Pattern} {parts : List (List Char)} {filling : Filling}
    (h : match? (front ++ rest) parts = some filling) :
    ∃ filling', match? rest (parts.drop front.length) = some filling' := by
  induction front generalizing parts filling with
  | nil => exact ⟨filling, h⟩
  | cons segment front ih =>
    cases parts with
    | nil => cases h
    | cons part parts =>
      rw [List.cons_append, match?] at h
      split at h
      · -- a plain segment
        split at h
        · exact ih h
        · cases h
      · -- a hole
        dsimp only at h
        split at h
        · obtain ⟨filling', hfilling, _⟩ := Option.map_eq_some_iff.1 h
          exact ih hfilling
        · cases h

/-- No path fits the endings of two resources. -/
theorem ending_unique {a b : Resource} {parts : List (List Char)} {filling filling' : Filling}
    (ha : match? a.ending parts = some filling) (hb : match? b.ending parts = some filling') :
    a = b := by
  rcases parts with _ | ⟨first, _ | ⟨second, _ | ⟨third, parts⟩⟩⟩ <;> cases a <;> cases b <;>
    simp_all [match?, Resource.ending, Segment.plain]

/-- Segments without holes fit the segments they were made of. -/
theorem match?_plain (texts : List (List Char)) (rest : Pattern) (parts : List (List Char)) :
    match? (texts.map .plain ++ rest) (texts ++ parts) = match? rest parts := by
  induction texts with
  | nil => rfl
  | cons text texts ih =>
    rw [List.map_cons, List.cons_append, List.cons_append, match?]
    exact (if_pos rfl).trans ih

end Pattern

namespace Routes

-- ---------------------------------------------------------------------------
-- Finding
-- ---------------------------------------------------------------------------

theorem mapM_eq_some {α β : Type} {f : α → Option β} {l : List α} {l' : List β}
    (h : l.mapM f = some l') : l.map f = l'.map some := by
  induction l generalizing l' with
  | nil =>
    cases h
    rfl
  | cons a l ih =>
    rw [List.mapM_cons] at h
    obtain ⟨b, hb, h⟩ := Option.bind_eq_some_iff.1 h
    obtain ⟨rest, hrest, h⟩ := Option.bind_eq_some_iff.1 h
    cases h
    rw [List.map_cons, List.map_cons, hb, ih hrest]

theorem findSome?_of_unique {α β : Type} {f : α → Option β} {l : List α} {a : α} {b : β}
    (ha : a ∈ l) (hb : f a = some b) (hu : ∀ x ∈ l, ∀ y, f x = some y → x = a) :
    l.findSome? f = some b := by
  induction l with
  | nil => cases ha
  | cons x l ih =>
    rw [List.findSome?_cons]
    cases hx : f x with
    | some y =>
      rw [hu x List.mem_cons_self y hx, hb] at hx
      exact hx.symm
    | none =>
      have hne : a ≠ x := by
        rintro rfl
        rw [hb] at hx
        cases hx
      exact ih (List.mem_of_ne_of_mem hne ha) fun z hz => hu z (List.mem_cons_of_mem _ hz)

/-- The routes are one for each resource, with its pattern. -/
theorem mem_ofBase?_iff {base : String} {routes : Routes} (h : ofBase? base = some routes)
    (pattern : Pattern) (resource : Resource) : (pattern, resource) ∈ routes ↔
      pattern? (BasePath.normalize base) resource = some pattern := by
  have hroutes := mapM_eq_some h
  constructor
  · intro hmem
    have hsome := hroutes ▸ List.mem_map_of_mem (f := some) hmem
    obtain ⟨resource', _, hresource⟩ := List.mem_map.1 hsome
    obtain ⟨pattern', hpattern, heq⟩ := Option.map_eq_some_iff.1 hresource
    cases heq
    exact hpattern
  · intro hpattern
    -- every resource has been given a route
    have hall : resource ∈ Resource.all := by cases resource <;> decide
    have hmem := List.mem_map_of_mem (f := fun resource =>
      (pattern? (BasePath.normalize base) resource).map fun pattern => (pattern, resource)) hall
    rw [hroutes, hpattern] at hmem
    obtain ⟨route, hin, hroute⟩ := List.mem_map.1 hmem
    cases hroute
    exact hin

/-- A path that fits the pattern of a resource leads to that resource. -/
theorem find?_of_match? {base path : String} {routes : Routes} (h : ofBase? base = some routes)
    {resource : Resource} {pattern : Pattern} {filling : Filling}
    (hp : pattern? (BasePath.normalize base) resource = some pattern)
    (hm : Pattern.match? pattern (path.toList.splitOn '/') = some filling) :
    routes.find? path = some (resource, filling) := by
  refine findSome?_of_unique (a := (pattern, resource)) ((mem_ofBase?_iff h _ _).2 hp) ?_ ?_
  · dsimp only
    rw [hm]
    rfl
  · -- another pattern that fits has the same ending, and so is the same
    rintro ⟨pattern', resource'⟩ hmem y hy
    have hp' := (mem_ofBase?_iff h _ _).1 hmem
    obtain ⟨filling', hm', _⟩ := Option.map_eq_some_iff.1 hy
    obtain ⟨front, hfront, rfl⟩ := Pattern.pattern?_some hp
    obtain ⟨front', hfront', rfl⟩ := Pattern.pattern?_some hp'
    rw [hfront] at hfront'
    cases hfront'
    obtain ⟨_, hending⟩ := Pattern.match?_append hm
    obtain ⟨_, hending'⟩ := Pattern.match?_append hm'
    rw [Pattern.ending_unique hending' hending]

/-- And what a path leads to, it leads to by its pattern. -/
theorem match?_of_find? {base path : String} {routes : Routes} (h : ofBase? base = some routes)
    {resource : Resource} {filling : Filling} (hfind : routes.find? path = some (resource, filling)) :
    ∃ pattern, pattern? (BasePath.normalize base) resource = some pattern ∧
      Pattern.match? pattern (path.toList.splitOn '/') = some filling := by
  obtain ⟨⟨pattern, resource'⟩, hmem, hroute⟩ := List.exists_of_findSome?_eq_some hfind
  obtain ⟨filling', hmatch, heq⟩ := Option.map_eq_some_iff.1 hroute
  cases heq
  exact ⟨pattern, (mem_ofBase?_iff h pattern resource).1 hmem, hmatch⟩

-- ---------------------------------------------------------------------------
-- Plain base paths
-- ---------------------------------------------------------------------------

/-- A base path in which no hole and no star is written. -/
def IsPlain (base : String) : Prop := ':' ∉ base.toList ∧ '*' ∉ base.toList

theorem mem_dropEndWhile {p : Char → Bool} {text : List Char} {c : Char}
    (h : c ∈ Blank.dropEndWhile p text) : c ∈ text :=
  List.mem_reverse.1 ((List.dropWhile_sublist p).subset (List.mem_reverse.1 h))

/-- The form in which a base path is used has no characters of its own but
slashes. -/
theorem mem_normalize {base : String} {c : Char} (h : c ∈ (BasePath.normalize base).toList) :
    c = '/' ∨ c ∈ base.toList := by
  have hcore : ∀ c ∈ BasePath.core base.toList, c ∈ base.toList := fun c hc =>
    (List.dropWhile_sublist _).subset (mem_dropEndWhile (mem_dropEndWhile hc))
  simp only [BasePath.normalize] at h
  split at h
  · cases h
  · split at h
    · rw [String.toList_ofList] at h
      exact .inr (hcore c h)
    · rw [String.toList_ofList, List.mem_cons] at h
      exact h.imp_right (hcore c)

/-- And it loses none but slashes and white space. -/
theorem mem_normalize_of_mem {base : String} {c : Char} (h : c ∈ base.toList) (hslash : c ≠ '/')
    (hblank : isBlank c = false) : c ∈ (BasePath.normalize base).toList := by
  -- what trimming takes away is white space
  have htrim : c ∈ Blank.trim base.toList := by
    obtain ⟨front, back, hsplit, hfront, hback⟩ := Blank.trim_split base.toList
    rw [hsplit, List.mem_append, List.mem_append] at h
    rcases h with h | h | h
    · rw [hfront c h] at hblank
      cases hblank
    · exact h
    · rw [hback c h] at hblank
      cases hblank
  -- and of the rest only slashes are taken away
  have hcore : c ∈ BasePath.core base.toList := by
    have hend : BasePath.core base.toList ++ (Blank.trim base.toList).rtakeWhile (· == '/') =
        Blank.trim base.toList := List.rdropWhile_append_rtakeWhile
    rw [← hend, List.mem_append] at htrim
    exact htrim.resolve_right fun hm => hslash (by simpa using List.mem_rtakeWhile_imp hm)
  simp only [BasePath.normalize]
  split
  · rename_i hempty
    rw [List.isEmpty_iff.1 hempty] at hcore
    cases hcore
  · split <;> simp [hcore]

theorem IsPlain.normalize {base : String} (h : IsPlain base) :
    IsPlain (BasePath.normalize base) where
  left hm := (mem_normalize hm).elim (by decide) h.1
  right hm := (mem_normalize hm).elim (by decide) h.2

theorem mapM_of_forall {α β : Type} {f : α → Option β} {g : α → β} {l : List α}
    (h : ∀ a ∈ l, f a = some (g a)) : l.mapM f = some (l.map g) := by
  induction l with
  | nil => rfl
  | cons a l ih =>
    rw [List.mapM_cons, h a List.mem_cons_self, ih fun x hx => h x (List.mem_cons_of_mem a hx)]
    rfl

/-- A base path without holes makes segments without holes. -/
theorem front_plain {base : String} (h : IsPlain base) :
    Pattern.ofBase? base.toList = some ((base.toList.splitOn '/').map .plain) :=
  mapM_of_forall fun _ hpart => Segment.ofChars?_plain
    (fun hm => h.2 (List.mem_of_mem_splitOn hpart hm))
    (fun hm => h.1 (List.mem_of_mem_splitOn hpart hm))

/-- The pattern of a resource below a base path without holes. -/
theorem pattern?_plain {base : String} (h : IsPlain base) (resource : Resource) :
    pattern? base resource =
      some ((base.toList.splitOn '/').map .plain ++ resource.ending) := by
  have hfront := front_plain h
  have hholes : ((base.toList.splitOn '/').map Segment.plain).countP (·.hole.isSome) = 0 := by
    rw [List.countP_eq_zero]
    intro segment hsegment
    obtain ⟨text, _, rfl⟩ := List.mem_map.1 hsegment
    simp [Segment.plain]
  have hending : resource.ending.countP (·.hole.isSome) ≤ Pattern.maxHoles := by
    cases resource <;> decide
  rw [Pattern.pattern?_eq, hfront, Option.map_some, Option.filter_some, if_pos]
  rw [List.countP_append, hholes, Nat.zero_add]
  exact decide_eq_true hending

/-- A base path without holes and stars has routes. -/
theorem ofBase?_plain {base : String} (h : IsPlain base) : ∃ routes, ofBase? base = some routes :=
  ⟨_, mapM_of_forall fun resource _ => by
    rw [pattern?_plain h.normalize resource]
    exact Option.map_some _ _⟩

/-- Below a base path without holes, a path fits the pattern of a resource if
what follows the base path fits its ending. -/
theorem match?_below {base path : String} {resource : Resource} {rest : List Char}
    {filling : Filling} (h : IsPlain base)
    (hpath : path.toList = (BasePath.normalize base).toList ++ '/' :: rest)
    (hrest : Pattern.match? resource.ending (rest.splitOn '/') = some filling) :
    ∃ pattern, pattern? (BasePath.normalize base) resource = some pattern ∧
      Pattern.match? pattern (path.toList.splitOn '/') = some filling := by
  refine ⟨_, pattern?_plain h.normalize resource, ?_⟩
  rw [hpath, List.splitOn_append_cons_self, Pattern.match?_plain, hrest]

/-- Below a base path without holes, the trigger of a hook has its identifier in
the last segment. -/
theorem find?_trigger {base : String} {routes : Routes} (h : IsPlain base)
    (hroutes : ofBase? base = some routes) {segment : List Char} (hslash : '/' ∉ segment)
    (hne : segment ≠ []) :
    routes.find? (BasePath.normalize base ++ "/webhook/" ++ String.ofList segment) =
      some (.trigger, [("id".toList, segment)]) := by
  have hwebhook : '/' ∉ "webhook".toList := by decide
  have hpath : (BasePath.normalize base ++ "/webhook/" ++ String.ofList segment).toList =
      (BasePath.normalize base).toList ++ '/' :: ("webhook".toList ++ '/' :: segment) := by
    simp [String.toList_append]
  have hrest : Pattern.match? Resource.trigger.ending
      (("webhook".toList ++ '/' :: segment).splitOn '/') = some [("id".toList, segment)] := by
    rw [List.splitOn_append_cons_self_of_not_mem hwebhook, List.splitOn_eq_singleton hslash]
    simp [Resource.ending, Pattern.match?, Segment.plain, hne]
  obtain ⟨pattern, hpattern, hmatch⟩ := match?_below h hpath hrest
  exact find?_of_match? hroutes hpattern hmatch

end Routes

/-- What took the place of the only hole of a path is the identifier, in percent
encoding. -/
theorem Filling.identifier_of_decode? {segment : List Char} {id : String}
    (h : Utf8.decode? (Percent.decode (Utf8.encode (String.ofList segment))) = some id) :
    Filling.identifier [("id".toList, segment)] = .ok id := by
  have hdecode : Filling.decode ("id".toList, segment) = .ok id := by
    rw [Filling.decode, h]
  have hkept : [("id".toList, segment)].filter (fun entry => !Filling.isReserved entry.1) =
      [("id".toList, segment)] := by
    have hfree : (!Filling.isReserved "id".toList) = true := by decide
    refine List.filter_eq_self.2 fun entry hentry => ?_
    rw [List.mem_singleton.1 hentry]
    exact hfree
  rw [Filling.identifier, hkept, List.mapM_cons, hdecode]
  rfl

end Flagpost
