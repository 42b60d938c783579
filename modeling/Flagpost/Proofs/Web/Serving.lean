import Flagpost.Proofs.Except
import Flagpost.Proofs.Web.AdminGate
import Flagpost.Proofs.Web.TriggerRequest

/-!
# Flagpost — which base paths are served

The base path of a configuration is any text. It is put into its form when the
settings of the gateway are taken from the configuration, and once more when the
gateway makes patterns of it. A request for a trigger below the first form is
compared with a pattern that was made of the second one, so the trigger is found if the
first form fits that pattern; and since the identifier is taken from the only hole
of a path, the base path may have no holes of its own but those whose names are
reserved. These are all the conditions (`Gateway.trigger_served`).

* `Pattern.match?_append_eq`       — a path fits a pattern in two parts if its parts
  fit them.
* `Filling.identifier_append`      — a hole more leaves no identifier.
* `Routes.ofBase?_isSome_iff`      — which base paths have routes.
* `Routes.served_of_plain`         — without holes and stars, a base path is served if
  putting it into its form once more changes nothing.
-/

namespace Flagpost

-- ---------------------------------------------------------------------------
-- Two parts of a pattern
-- ---------------------------------------------------------------------------

namespace Pattern

variable {front rest : Pattern} {parts parts' : List (List Char)} {filling : Filling}

/-- What the holes of a pattern take of as many segments, if these fit and the pattern
goes on behind them. -/
def fill? : Pattern → List (List Char) → Option Filling
  | [], [] => some []
  | segment :: rest, part :: parts =>
    match segment.hole with
    | none => if part = segment.lead then fill? rest parts else none
    | some name =>
      if segment.lead.isPrefixOf part then
        (fill? rest parts).map ((name, part.drop segment.lead.length) :: ·)
      else none
  | _, _ => none

theorem length_of_match? {pattern : Pattern} (h : match? pattern parts = some filling) :
    parts.length = pattern.length := by
  fun_induction match? pattern parts generalizing filling with
  | case1 => rfl
  | case2 segment rest parts hhole ih => rw [List.length_cons, List.length_cons, ih h]
  | case3 => cases h
  | case4 =>
    rename_i ih
    obtain ⟨filling', hfilling, -⟩ := Option.map_eq_some_iff.1 h
    rw [List.length_cons, List.length_cons, ih hfilling]
  | case5 => cases h
  | case6 => cases h

/-- As many segments as the first part of a pattern has are taken by that part. -/
theorem match?_append_eq (hrest : rest ≠ []) (hlength : parts.length = front.length) :
    match? (front ++ rest) (parts ++ parts') =
      (fill? front parts).bind fun filling => (match? rest parts').map (filling ++ ·) := by
  induction front generalizing parts with
  | nil =>
    rw [List.eq_nil_of_length_eq_zero hlength]
    simp [fill?]
  | cons segment front ih =>
    cases parts with
    | nil => cases hlength
    | cons part parts =>
      have ih := ih (Nat.succ.inj hlength)
      rw [List.cons_append, List.cons_append, match?, fill?]
      cases segment.hole with
      | none =>
        -- a plain segment
        dsimp only
        split
        · exact ih
        · rfl
      | some name =>
        -- a hole, which may take nothing, for it is not at the end of the pattern
        have hmore : (front ++ rest).isEmpty = false := by simp [hrest]
        simp only [hmore, Bool.false_and, Bool.not_false, Bool.and_true]
        split
        · rw [ih]
          cases fill? front parts with
          | none => rfl
          | some filling => cases match? rest parts' <;> rfl
        · rfl

/-- The holes are filled under their names. -/
theorem names_of_fill? (h : fill? front parts = some filling) :
    filling.map Prod.fst = front.filterMap (·.hole) := by
  fun_induction fill? front parts generalizing filling with
  | case1 =>
    cases h
    rfl
  | case2 segment rest parts hhole ih => rw [List.filterMap_cons_none hhole, ih h]
  | case3 => cases h
  | case4 segment rest part parts name hhole hfits ih =>
    obtain ⟨filling', hfilling, rfl⟩ := Option.map_eq_some_iff.1 h
    rw [List.filterMap_cons_some hhole, List.map_cons, ih hfilling]
  | case5 => cases h
  | case6 => cases h

theorem length_of_fill? (h : fill? front parts = some filling) : parts.length = front.length := by
  fun_induction fill? front parts generalizing filling with
  | case1 => rfl
  | case2 segment rest parts hhole ih => rw [List.length_cons, List.length_cons, ih h]
  | case3 => cases h
  | case4 segment rest part parts name hhole hfits ih =>
    obtain ⟨filling', hfilling, -⟩ := Option.map_eq_some_iff.1 h
    rw [List.length_cons, List.length_cons, ih hfilling]
  | case5 => cases h
  | case6 => cases h

/-- Segments without holes are fitted by themselves and nothing else. -/
theorem fill?_plain (texts parts : List (List Char)) :
    (fill? (texts.map .plain) parts).isSome = true ↔ parts = texts := by
  induction texts generalizing parts with
  | nil => cases parts <;> simp [fill?]
  | cons text texts ih =>
    cases parts with
    | nil => simp [fill?]
    | cons part parts =>
      rw [List.map_cons, fill?]
      by_cases hpart : part = text
      · simp [Segment.plain, hpart, ← ih]
      · simp [Segment.plain, hpart]

end Pattern

namespace Percent

/-- Bytes without a percent sign stand for themselves. -/
theorem decode_of_not_mem {bytes : Bytes} (h : sign ∉ bytes) : decode bytes = bytes := by
  fun_induction decode bytes with
  | case1 => simp at h
  | case2 => simp at h
  | case3 a b c rest hsign ih =>
    rw [ih fun hm => h (List.mem_cons_of_mem a hm)]
  | case4 => rfl

theorem sign_not_mem {text : List Char} (h : '%' ∉ text) : sign ∉ Utf8.ofChars text := by
  rw [Utf8.ofChars, List.mem_flatMap]
  rintro ⟨c, hc, hsign⟩
  by_cases hlow : c.toNat < 0x80
  · rw [Utf8.utf8EncodeChar_of_lt hlow, List.mem_singleton] at hsign
    have hnumber : '%'.toNat = c.toNat := by
      have hbyte := congrArg UInt8.toNat hsign
      rw [UInt8.toNat_ofNat', Nat.mod_eq_of_lt (by omega)] at hbyte
      exact hbyte
    exact h (Char.toNat_inj.1 hnumber ▸ hc)
  · exact absurd (Utf8.le_of_mem_utf8EncodeChar (by omega) hsign) (by decide)

end Percent

-- ---------------------------------------------------------------------------
-- The identifier in a filling
-- ---------------------------------------------------------------------------

namespace Filling

/-- There is an identifier only in a filling with one hole whose name is not reserved. -/
theorem length_of_identifier {filling : Filling} {id : String} (h : filling.identifier = .ok id) :
    (filling.filter fun entry => !isReserved entry.1).length = 1 := by
  rw [identifier] at h
  cases hvalues : (filling.filter fun entry => !isReserved entry.1).mapM decode with
  | error e =>
    rw [hvalues] at h
    cases h
  | ok values =>
    rw [hvalues] at h
    rw [← length_of_mapM hvalues]
    rcases values with _ | ⟨value, _ | ⟨other, values⟩⟩
    · cases h
    · rfl
    · cases h

/-- Behind other holes, the identifier is found if all of them have reserved names. -/
theorem identifier_append {filling : Filling} {segment : List Char} {id : String}
    (hid : Utf8.decode? (Percent.decode (Utf8.encode (String.ofList segment))) = some id) :
    (filling ++ [("id".toList, segment)]).identifier = .ok id ↔
      ∀ entry ∈ filling, isReserved entry.1 = true := by
  have hfree : isReserved "id".toList = false := by decide
  constructor
  · -- among the holes that are not reserved there is only the one of the identifier
    intro h entry hentry
    have hlength := length_of_identifier h
    rw [List.filter_append, List.filter_cons_of_pos (by rw [hfree]; rfl), List.filter_nil,
      List.length_append, List.length_singleton, Nat.add_eq_right, List.length_eq_zero_iff,
      List.filter_eq_nil_iff] at hlength
    simpa using hlength entry hentry
  · intro h
    have hnone : filling.filter (fun entry => !isReserved entry.1) = [] := by
      rw [List.filter_eq_nil_iff]
      intro entry hentry
      rw [h entry hentry]
      decide
    have hone := identifier_of_decode? hid
    rw [identifier, List.filter_append, hnone, List.nil_append]
    rwa [identifier] at hone

end Filling

-- ---------------------------------------------------------------------------
-- Base paths
-- ---------------------------------------------------------------------------

namespace Routes

/-- The holes of a base path, by their names. -/
def holes (front : Pattern) : List (List Char) := front.filterMap (·.hole)

theorem countP_hole (front : Pattern) : front.countP (·.hole.isSome) = (holes front).length := by
  rw [holes, List.length_filterMap_eq_countP]

theorem pattern?_isSome_iff (base : String) (resource : Resource) :
    (pattern? base resource).isSome = true ↔ ∃ front, Pattern.ofBase? base.toList = some front ∧
      (holes (front ++ resource.ending)).length ≤ Pattern.maxHoles := by
  rw [Pattern.pattern?_eq]
  cases Pattern.ofBase? base.toList with
  | none => simp
  | some front =>
    rw [Option.map_some, Option.filter_some, countP_hole]
    by_cases hholes : (holes (front ++ resource.ending)).length ≤ Pattern.maxHoles
    · simp [hholes]
    · simp [hholes]

theorem isSome_mapM {α β : Type} {f : α → Option β} {l : List α} :
    (l.mapM f).isSome = true ↔ ∀ a ∈ l, (f a).isSome = true := by
  induction l with
  | nil => simp
  | cons a l ih =>
    rw [List.mapM_cons, List.forall_mem_cons, ← ih]
    cases f a with
    | none => simp
    | some b => cases l.mapM f <;> simp

theorem ending_holes (resource : Resource) :
    (holes resource.ending).length ≤ (holes Resource.trigger.ending).length := by
  cases resource <;> decide

/-- A base path has routes if it makes a pattern that has room for one hole more. -/
theorem ofBase?_isSome_iff (base : String) : (ofBase? base).isSome = true ↔
    ∃ front, Pattern.ofBase? (BasePath.normalize base).toList = some front ∧
      (holes front).length < Pattern.maxHoles := by
  have hlength : ∀ (front : Pattern) (resource : Resource),
      (holes (front ++ resource.ending)).length =
        (holes front).length + (holes resource.ending).length := by
    intro front resource
    rw [holes, List.filterMap_append, List.length_append, holes, holes]
  simp only [ofBase?, isSome_mapM, Option.isSome_map, pattern?_isSome_iff, hlength]
  constructor
  · exact fun h => h .trigger (by decide)
  · rintro ⟨front, hfront, hholes⟩ resource -
    have hone := ending_holes resource
    refine ⟨front, hfront, ?_⟩
    rw [show (holes Resource.trigger.ending).length = 1 from rfl] at hone
    omega

theorem pattern?_trigger {base : String} {front : Pattern}
    (hfront : Pattern.ofBase? base.toList = some front)
    (hholes : (holes front).length < Pattern.maxHoles) :
    pattern? base .trigger = some (front ++ Resource.trigger.ending) := by
  rw [Pattern.pattern?_eq, hfront, Option.map_some, Option.filter_some, countP_hole, holes,
    List.filterMap_append, List.length_append]
  exact if_pos (decide_eq_true hholes)

/-- A base path that is served: the gateway makes a pattern of it that it fits itself, with
no holes but those with reserved names and room for the identifier. -/
def Served (base : String) : Prop :=
  ∃ front, Pattern.ofBase? (BasePath.normalize base).toList = some front ∧
    (holes front).length < Pattern.maxHoles ∧
    (∀ name ∈ holes front, Filling.isReserved name = true) ∧
    (front.fill? (base.toList.splitOn '/')).isSome = true

theorem Served.opens {base : String} (h : Served base) : (ofBase? base).isSome = true := by
  obtain ⟨front, hfront, hholes, -⟩ := h
  exact (ofBase?_isSome_iff base).2 ⟨front, hfront, hholes⟩

/-- A base path in which no hole and no star is written is served if putting it into its
form changes nothing. -/
theorem served_of_plain {base : String} (h : IsPlain base) :
    Served base ↔ BasePath.normalize base = base := by
  have hfront := front_plain h.normalize
  have hnone : holes (((BasePath.normalize base).toList.splitOn '/').map .plain) = [] := by
    rw [holes, List.filterMap_map, List.filterMap_eq_nil_iff]
    exact fun text _ => rfl
  constructor
  · -- the pattern of a plain path is filled by that path alone
    rintro ⟨front, hfront', -, -, hfill⟩
    obtain rfl := Option.some.inj (hfront.symm.trans hfront')
    have hsplit := (Pattern.fill?_plain _ _).1 hfill
    have htext := congrArg (['/'].intercalate ·) hsplit
    simp only [List.intercalate_splitOn] at htext
    exact (String.toList_inj.1 htext).symm
  · intro hsame
    refine ⟨_, hfront, by rw [hnone]; decide, by rw [hnone]; simp, ?_⟩
    rw [hsame]
    exact (Pattern.fill?_plain _ _).2 rfl

/-- A base path with a star has no routes. -/
theorem ofBase?_of_star {base : String} (h : '*' ∈ (BasePath.normalize base).toList) :
    ofBase? base = none := by
  obtain ⟨part, hpart, hmem⟩ := List.exists_mem_splitOn h (by decide : '*' ≠ '/')
  have hnone : Segment.ofChars? part = none := by
    simp only [Segment.ofChars?]
    exact if_pos (by simpa using hmem)
  rw [← Option.not_isSome_iff_eq_none, ofBase?_isSome_iff]
  rintro ⟨front, hfront, -⟩
  have hsome := isSome_mapM.1 (Option.isSome_iff_exists.2 ⟨front, hfront⟩) part hpart
  rw [hnone] at hsome
  cases hsome

end Routes

-- ---------------------------------------------------------------------------
-- Requests below a base path
-- ---------------------------------------------------------------------------

namespace Gateway

variable {s : GatewaySettings} {now : Timestamp} {g : Gateway} {r : Request} {id : String}
  {m : Moment} {site : Site}

/-- The request is for the trigger of the hook with this identifier below a base path, as
it is documented. -/
structure AsksBelow (base : String) (r : Request) (id : String) : Prop where
  method : r.method = .post
  path : r.target.path = base ++ "/webhook/" ++ id
  named : id ≠ ""
  characters : id.toList.all Hook.isIdChar = true

/-- An identifier without percent signs stands for itself. -/
theorem AsksBelow.decode {base : String} (h : AsksBelow base r id) :
    Utf8.decode? (Percent.decode (Utf8.encode (String.ofList id.toList))) = some id := by
  have hsign : '%' ∉ id.toList := by
    intro hm
    have hchar := List.all_eq_true.1 h.characters '%' hm
    revert hchar
    decide
  rw [Utf8.encode_ofList, Percent.decode_of_not_mem (Percent.sign_not_mem hsign),
    Utf8.decode?_ofChars, String.ofList_toList]

theorem AsksBelow.slash {base : String} (h : AsksBelow base r id) : '/' ∉ id.toList := by
  intro hm
  have hchar := List.all_eq_true.1 h.characters '/' hm
  revert hchar
  decide

/-- The segments of the path that is asked for: those of the base path, and two more. -/
theorem AsksBelow.split {base : String} (h : AsksBelow base r id) :
    r.target.path.toList.splitOn '/' = base.toList.splitOn '/' ++ ["webhook".toList, id.toList] := by
  have hpath : r.target.path.toList = base.toList ++ '/' :: ("webhook".toList ++ '/' :: id.toList) := by
    rw [h.path]
    simp [String.toList_append]
  have hwebhook : '/' ∉ "webhook".toList := by decide
  rw [hpath, List.splitOn_append_cons_self, List.splitOn_append_cons_self_of_not_mem hwebhook,
    List.splitOn_eq_singleton h.slash]

theorem AsksBelow.match?_ending {base : String} (h : AsksBelow base r id) :
    Pattern.match? Resource.trigger.ending ["webhook".toList, id.toList] =
      some [("id".toList, id.toList)] := by
  have hne : id.toList ≠ [] := fun hnil => h.named (String.toList_inj.1 hnil)
  simp [Resource.ending, Pattern.match?, Segment.plain, hne]

/-- A request below a base path is led to the trigger if that path is served, and only then. -/
theorem leadsToTrigger_iff (hopen : open? s now = some g) (h : AsksBelow s.basePath r id) :
    g.LeadsToTrigger r id ↔ Routes.Served s.basePath := by
  obtain ⟨routes, hroutes, rfl⟩ := Option.map_eq_some_iff.1 hopen
  obtain ⟨front, hfront, hholes⟩ :=
    (Routes.ofBase?_isSome_iff s.basePath).1 (Option.isSome_iff_exists.2 ⟨routes, hroutes⟩)
  constructor
  · -- the path that was found is the base path's, filled from as many segments
    rintro ⟨filling, hfind, hidentifier⟩
    obtain ⟨pattern, hpattern, hmatch⟩ := Routes.match?_of_find? hroutes hfind
    obtain ⟨front', hfront', rfl⟩ := Pattern.pattern?_some hpattern
    obtain rfl := Option.some.inj (hfront.symm.trans hfront')
    rw [h.split] at hmatch
    have hlength : (s.basePath.toList.splitOn '/').length = front.length := by
      have htotal := Pattern.length_of_match? hmatch
      rw [List.length_append, List.length_append] at htotal
      exact Nat.add_right_cancel htotal
    -- so the base path takes its own segments, and the ending takes the identifier
    rw [Pattern.match?_append_eq (by decide) hlength, h.match?_ending] at hmatch
    obtain ⟨taken, hfill, hfilling⟩ := Option.bind_eq_some_iff.1 hmatch
    cases hfilling
    refine ⟨front, hfront, hholes, ?_, hfill ▸ rfl⟩
    rw [Routes.holes, ← Pattern.names_of_fill? hfill]
    exact List.forall_mem_map.2 ((Filling.identifier_append h.decode).1 hidentifier)
  · -- a base path that fills its own pattern is found again below itself
    rintro ⟨front', hfront', -, hreserved, hfill⟩
    obtain rfl := Option.some.inj (hfront.symm.trans hfront')
    obtain ⟨taken, hfill⟩ := Option.isSome_iff_exists.1 hfill
    have hmatch : Pattern.match? (front ++ Resource.trigger.ending)
        (r.target.path.toList.splitOn '/') = some (taken ++ [("id".toList, id.toList)]) := by
      rw [h.split, Pattern.match?_append_eq (by decide) (Pattern.length_of_fill? hfill), hfill,
        h.match?_ending]
      rfl
    have hpattern := Routes.pattern?_trigger hfront hholes
    refine ⟨_, Routes.find?_of_match? hroutes hpattern hmatch, ?_⟩
    rw [Filling.identifier_append h.decode]
    rw [Routes.holes, ← Pattern.names_of_fill? hfill] at hreserved
    exact List.forall_mem_map.1 hreserved

/-- **Serving a base path.** Whatever the base path of a configuration is: if it is served,
the gateway opens, and of the requests for the trigger of a hook below it, as it is
documented, each is led to the trigger with exactly the identifier in its path, and
answered by it. If it is not served, none of them is. Without holes and stars, a base path
is served if and only if putting it into its form once more changes nothing. With a star,
the gateway does not open. -/
theorem trigger_served (c : Config) (now : Timestamp) :
    let s := GatewaySettings.ofServer c.server
    (Routes.Served s.basePath → ∃ g, open? s now = some g) ∧
    (∀ g, open? s now = some g → ∀ (r : Request) (id : String), AsksBelow s.basePath r id →
      (g.LeadsToTrigger r id ↔ Routes.Served s.basePath) ∧
      (Routes.Served s.basePath → ∀ (m : Moment) (site : Site),
        (g.respond r m site).site = (triggerHook r id m site).site ∧
        (g.respond r m site).result = (triggerHook r id m site).result)) ∧
    (Routes.IsPlain s.basePath →
      (Routes.Served s.basePath ↔ BasePath.normalize s.basePath = s.basePath)) ∧
    ('*' ∈ s.basePath.toList → open? s now = none) := by
  intro s
  refine ⟨fun hserved => ?_, fun g hopen r id h => ?_, Routes.served_of_plain, fun hstar => ?_⟩
  · exact exists_open? hserved.opens now
  · have hiff := leadsToTrigger_iff hopen h
    exact ⟨hiff, fun hserved => respond_of_leadsToTrigger h.method (hiff.2 hserved)⟩
  · rw [open?, Routes.ofBase?_of_star (Routes.mem_normalize_of_mem hstar (by decide) (by decide)),
      Option.map_none]

/-- The base path `/forge` is served, and a request for the trigger of the hook `ci` below
it reaches the trigger. -/
theorem trigger_served_below_forge :
    let c : Config := { server := { basePath := "/forge/", adminToken := "secret" } }
    let s := GatewaySettings.ofServer c.server
    let r : Request := ⟨.post, ⟨"/forge/webhook/ci", none⟩, [], [], none⟩
    s.basePath = "/forge" ∧ Routes.Served s.basePath ∧ AsksBelow s.basePath r "ci" ∧
      ∃ g, open? s Timestamp.epoch = some g ∧ g.LeadsToTrigger r "ci" ∧
        ∀ (m : Moment) (site : Site),
          (g.respond r m site).site = (triggerHook r "ci" m site).site ∧
          (g.respond r m site).result = (triggerHook r "ci" m site).result := by
  intro c s r
  obtain ⟨hopens, hreaches, hplainly, -⟩ := trigger_served c Timestamp.epoch
  have hbase : s.basePath = "/forge" := by decide
  have hplain : Routes.IsPlain s.basePath := by
    rw [hbase]
    exact ⟨by decide, by decide⟩
  have hserved : Routes.Served s.basePath := (hplainly hplain).2 (by decide)
  have hasks : AsksBelow s.basePath r "ci" := by
    rw [hbase]
    exact ⟨rfl, by decide, by decide, by decide⟩
  obtain ⟨g, hopen⟩ := hopens hserved
  obtain ⟨hleads, hanswers⟩ := hreaches g hopen r "ci" hasks
  exact ⟨hbase, hserved, hasks, g, hopen, hleads.2 hserved, hanswers hserved⟩

/-- Three configurations without issues whose base path is not served: the gateway does not
open, the identifier is not the only hole of a path, or the form of the form is another. -/
theorem base_path_not_served :
    let settings (path : String) : GatewaySettings :=
      .ofServer ({ server := { basePath := path, adminToken := "secret" } } : Config).server
    let request (path : String) : Request := ⟨.post, ⟨path, none⟩, [], [], none⟩
    (∀ path, ({ server := { basePath := path, adminToken := "secret" } } : Config).issues = []) ∧
    open? (settings "/*all") Timestamp.epoch = none ∧
    (∃ g, open? (settings "/:x") Timestamp.epoch = some g ∧
      Target.ofBytes (Utf8.encode "/:x/webhook/ci") = .ok ⟨"/:x/webhook/ci", none⟩ ∧
      AsksBelow (settings "/:x").basePath (request "/:x/webhook/ci") "ci" ∧
      ¬ g.LeadsToTrigger (request "/:x/webhook/ci") "ci") ∧
    ∃ g, open? (settings "/a\u3000/") Timestamp.epoch = some g ∧
      Target.ofBytes (Utf8.encode "/a\u3000/webhook/ci") = .ok ⟨"/a\u3000/webhook/ci", none⟩ ∧
      AsksBelow (settings "/a\u3000/").basePath (request "/a\u3000/webhook/ci") "ci" ∧
      ¬ g.LeadsToTrigger (request "/a\u3000/webhook/ci") "ci" := by
  intro settings request
  have hcolon : (settings "/:x").basePath = "/:x" := by decide
  have hblank : (settings "/a\u3000/").basePath = "/a\u3000" := by decide
  refine ⟨fun path => ?_, ?_, ?_, ?_⟩
  · -- the checks leave the base path alone
    have hdefault : ({ server := { adminToken := "secret" } } : Config).issues = [] := by decide
    exact hdefault
  · have hstar : Routes.ofBase? (settings "/*all").basePath = none :=
      Routes.ofBase?_of_star (by decide)
    rw [open?, hstar, Option.map_none]
  · have hfront : Pattern.ofBase? (BasePath.normalize "/:x").toList =
        -- the hole in the base path is filled as well as that of the identifier
        some [⟨[], none⟩, ⟨[], some ['x']⟩] := by decide
    have hroutes : (Routes.ofBase? (settings "/:x").basePath).isSome = true := by
      rw [hcolon]
      exact (Routes.ofBase?_isSome_iff "/:x").2 ⟨_, hfront, by decide⟩
    obtain ⟨g, hopen⟩ := exists_open? hroutes Timestamp.epoch
    have hasks : AsksBelow (settings "/:x").basePath (request "/:x/webhook/ci") "ci" := by
      rw [hcolon]
      exact ⟨rfl, by decide, by decide, by decide⟩
    refine ⟨g, hopen, rfl, hasks, fun hleads => ?_⟩
    obtain ⟨front, hfront', -, hreserved, -⟩ := (leadsToTrigger_iff hopen hasks).1 hleads
    rw [hcolon, hfront, Option.some.injEq] at hfront'
    subst hfront'
    exact absurd (hreserved ['x'] (by decide)) (by decide)
  · -- white space before the last slash is left over by one pass
    have hplain : Routes.IsPlain (settings "/a\u3000/").basePath := by
      rw [hblank]
      exact ⟨by decide, by decide⟩
    have hopen := open?_of_plain hplain Timestamp.epoch
    have hasks : AsksBelow (settings "/a\u3000/").basePath (request "/a\u3000/webhook/ci") "ci" := by
      rw [hblank]
      exact ⟨rfl, by decide, by decide, by decide⟩
    refine ⟨_, hopen, rfl, hasks, fun hleads => ?_⟩
    have hserved := (Routes.served_of_plain hplain).1 ((leadsToTrigger_iff hopen hasks).1 hleads)
    rw [hblank] at hserved
    exact absurd hserved (by decide)

end Gateway

end Flagpost
