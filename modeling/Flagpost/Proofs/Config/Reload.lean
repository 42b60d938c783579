import Flagpost.Proofs.Config.AdminToken
import Mathlib.Data.List.Forall2

/-!
# Flagpost — a configuration after its token has been changed

A group of settings is read off the members of an object one after the other. Each
setting has a place of its own in the group, so what is stored for one of them can as well
be stored at the end (`Apart`), and to put a member into the object is to change its
setting in what was read (`Sets.storeMembers_putMember`). References are replaced member
by member, which disturbs neither the names nor their order (`Expands`).

So a document with another token describes the configuration with another token
(`Describes.withAdminToken`). That it is the only thing the new document can describe
needs no second argument: to set the same token again is no change.

* `Describes.withAdminToken`   — what the new document describes, if the old one describes
  something;
* `Describes.adminToken_eq`    — the token in whatever the new document describes;
* `load_of_setAdminToken`      — what is loaded after the token has been set.
-/

namespace Flagpost

-- ---------------------------------------------------------------------------
-- Members put where they are
-- ---------------------------------------------------------------------------

namespace Json

variable {name : String} {value : Json} {members : List (String × Json)}

/-- To put a value under a name twice is to put it there once. -/
theorem putMember_putMember (name : String) (value : Json) (members : List (String × Json)) :
    putMember name value (putMember name value members) = putMember name value members := by
  induction members with
  | nil => rw [putMember, putMember, if_pos rfl]
  | cons first members ih =>
    rw [putMember]
    split
    · rw [putMember, if_pos rfl]
    · rename_i hne
      split
      · rw [putMember, if_pos rfl]
      · rename_i hge
        rw [putMember, if_neg hne, if_neg hge, ih]

/-- In an object that has been read, to put a member where it is changes nothing. -/
theorem putMember_of_mem (hordered : Ordered members) (h : (name, value) ∈ members) :
    putMember name value members = members := by
  induction members with
  | nil => cases h
  | cons first members ih =>
    obtain ⟨hfirst, hmembers⟩ := List.pairwise_cons.1 hordered
    rcases List.mem_cons.1 h with rfl | h
    · rw [putMember, if_pos rfl]
    · have hlt : first.1 < name := hfirst _ h
      have hne : name ≠ first.1 := by
        rintro rfl
        exact String.lt_irrefl _ hlt
      rw [putMember, if_neg hne, if_neg (String.lt_asymm hlt), ih hmembers h]

end Json

-- ---------------------------------------------------------------------------
-- References, member by member
-- ---------------------------------------------------------------------------

namespace Environment

variable {env : Environment} {members out : List (String × Json)} {name : String}
  {value value' : Json}

/-- The second member is the first with the references in its value replaced. -/
def Expands (env : Environment) (m m' : String × Json) : Prop :=
  m'.1 = m.1 ∧ env.expand m.2 = .ok m'.2

theorem expandMembers_eq_ok :
    env.expandMembers members = .ok out ↔ List.Forall₂ (Expands env) members out := by
  induction members generalizing out with
  | nil =>
    rw [List.forall₂_nil_left_iff]
    constructor
    · intro h
      cases h
      rfl
    · rintro rfl
      rfl
  | cons member members ih =>
    obtain ⟨name, value⟩ := member
    rw [List.forall₂_cons_left_iff]
    constructor
    · -- the first member is expanded before the others
      intro h
      obtain ⟨value', hvalue, h⟩ := ok_of_bind h
      obtain ⟨rest, hrest, h⟩ := ok_of_bind h
      cases h
      exact ⟨(name, value'), rest, ⟨rfl, hvalue⟩, ih.1 hrest, rfl⟩
    · rintro ⟨⟨name', value'⟩, rest, ⟨rfl, hvalue⟩, hrest, rfl⟩
      rw [expandMembers, hvalue, ih.2 hrest]
      rfl

/-- The names stay as they are. -/
theorem names_of_expandMembers (h : env.expandMembers members = .ok out) :
    out.map Prod.fst = members.map Prod.fst := by
  have hall := expandMembers_eq_ok.1 h
  clear h
  induction hall with
  | nil => rfl
  | cons hfirst _ ih => rw [List.map_cons, List.map_cons, hfirst.1, ih]

theorem ordered_of_expandMembers (h : env.expandMembers members = .ok out)
    (hordered : Json.Ordered members) : Json.Ordered out := by
  have hnames : (out.map Prod.fst).Pairwise (· < ·) := by
    rw [names_of_expandMembers h, List.pairwise_map]
    exact hordered
  rwa [List.pairwise_map] at hnames

theorem mem_of_expandMembers (h : env.expandMembers members = .ok out)
    (hmem : (name, value) ∈ members) :
    ∃ value', (name, value') ∈ out ∧ env.expand value = .ok value' := by
  have hall := expandMembers_eq_ok.1 h
  clear h
  induction hall with
  | nil => cases hmem
  | @cons first first' members out hfirst _ ih =>
    rcases List.mem_cons.1 hmem with rfl | hmem
    · exact ⟨first'.2, List.mem_cons.2 (.inl (Prod.ext hfirst.1.symm rfl)), hfirst.2⟩
    · obtain ⟨value', hvalue, hexpand⟩ := ih hmem
      exact ⟨value', List.mem_cons_of_mem _ hvalue, hexpand⟩

/-- A member that is put into an object is put there with its references replaced. -/
theorem expandMembers_putMember (h : env.expandMembers members = .ok out)
    (hvalue : env.expand value = .ok value') :
    env.expandMembers (Json.putMember name value members) =
      .ok (Json.putMember name value' out) := by
  have hall := expandMembers_eq_ok.1 h
  have hnew : Expands env (name, value) (name, value') := ⟨rfl, hvalue⟩
  refine expandMembers_eq_ok.2 ?_
  clear h
  induction hall with
  | nil => exact .cons hnew .nil
  | @cons first first' members out hfirst hrest ih =>
    obtain ⟨n, v⟩ := first
    obtain ⟨n', v'⟩ := first'
    obtain rfl : n' = n := hfirst.1
    rw [Json.putMember, Json.putMember]
    -- names are not changed, so the member goes to the same place in both
    split
    · exact .cons hnew hrest
    · split
      · exact .cons hnew (.cons hfirst hrest)
      · exact .cons hfirst ih

theorem expand_object (h : env.expandMembers members = .ok out) :
    env.expand (.object members) = .ok (.object out) := by
  rw [expand, h]
  rfl

end Environment

namespace Config

-- ---------------------------------------------------------------------------
-- One setting among others
-- ---------------------------------------------------------------------------

section Group

variable {σ : Type} {settings : List (Setting σ)} {setting : Setting σ} {name : String}
  {value : Json} {set : σ → σ} {members : List (String × Json)} {group group' : σ}

/-- No setting but the one with the name has to do with the change. -/
def Apart (settings : List (Setting σ)) (name : String) (set : σ → σ) : Prop :=
  ∀ setting ∈ settings, setting.name ≠ name → ∀ {other : Json} {group group' : σ},
    setting.store other group = .ok group' → setting.store other (set group) = .ok (set group')

/-- To store the value under the name is the change, whatever has been stored there before,
and no other setting has to do with it. -/
structure Sets (settings : List (Setting σ)) (name : String) (value : Json) (set : σ → σ) :
    Prop where
  own : ∃ setting, settings.find? (·.name == name) = some setting ∧
    (∀ group, setting.store value group = .ok (set group)) ∧
    ∀ {other : Json} {group group' : σ}, setting.store other group = .ok group' →
      set group' = set group
  apart : Apart settings name set

/-- The first of some members is passed over or stored. -/
theorem storeMembers_cons_eq_ok {member : String × Json}
    (h : storeMembers settings (member :: members) group = .ok group') :
    (settings.find? (·.name == member.1) = none ∧
        storeMembers settings members group = .ok group') ∨
      ∃ setting next, settings.find? (·.name == member.1) = some setting ∧
        setting.store member.2 group = .ok next ∧
        storeMembers settings members next = .ok group' := by
  rw [storeMembers] at h
  split at h
  · rename_i hnone
    exact .inl ⟨hnone, h⟩
  · rename_i setting hfind
    obtain ⟨next, hnext, hrest⟩ := ok_of_bind h
    exact .inr ⟨setting, next, hfind, hnext, hrest⟩

theorem storeMembers_cons_of_none {member : String × Json}
    (h : settings.find? (·.name == member.1) = none) :
    storeMembers settings (member :: members) group = storeMembers settings members group := by
  rw [storeMembers, h]

/-- Where nothing is stored under the name, the change can be made first or last. -/
theorem Apart.storeMembers (hapart : Apart settings name set)
    (hnames : ∀ m ∈ members, m.1 ≠ name)
    (h : storeMembers settings members group = .ok group') :
    Config.storeMembers settings members (set group) = .ok (set group') := by
  induction members generalizing group with
  | nil =>
    cases h
    rfl
  | cons member members ih =>
    obtain ⟨hname, hnames⟩ := List.forall_mem_cons.1 hnames
    rcases storeMembers_cons_eq_ok h with ⟨hnone, h⟩ | ⟨setting, next, hfind, hnext, h⟩
    · -- a name that is no setting is passed over
      rw [storeMembers_cons_of_none hnone]
      exact ih hnames h
    · have hfound := List.find?_some hfind
      have hsame : setting.name = member.1 := beq_iff_eq.1 hfound
      rw [storeMembers_cons hfind (hapart setting (List.mem_of_find?_eq_some hfind)
        (hsame ▸ hname) hnext)]
      exact ih hnames h

/-- To put a member into an object that has been read is to make its change in what was
stored. -/
theorem Sets.storeMembers_putMember (hsets : Sets settings name value set)
    (hordered : Json.Ordered members) (h : storeMembers settings members group = .ok group') :
    storeMembers settings (Json.putMember name value members) group = .ok (set group') := by
  obtain ⟨own, hown, hstore, hreplace⟩ := hsets.own
  induction members generalizing group with
  | nil =>
    cases h
    rw [Json.putMember, storeMembers_cons hown (hstore _)]
    rfl
  | cons first members ih =>
    obtain ⟨hfirst, hmembers⟩ := List.pairwise_cons.1 hordered
    rw [Json.putMember]
    split
    · -- the member that was there is replaced, and no other has its name
      rename_i heq
      have hnames : ∀ m ∈ members, m.1 ≠ name := by
        rintro m hm rfl
        exact String.lt_irrefl _ (heq ▸ hfirst m hm)
      rcases storeMembers_cons_eq_ok h with ⟨hnone, h⟩ | ⟨setting, next, hfind, hnext, h⟩
      · rw [← heq, hown] at hnone
        cases hnone
      · rw [← heq, hown] at hfind
        cases hfind
        rw [storeMembers_cons hown (hstore group), ← hreplace hnext]
        exact hsets.apart.storeMembers hnames h
    · rename_i hne
      split
      · -- the member is a new one, before all that have greater names
        rename_i hlt
        have hnames : ∀ m ∈ first :: members, m.1 ≠ name := by
          rintro m hm rfl
          rcases List.mem_cons.1 hm with rfl | hm
          · exact hne rfl
          · exact String.lt_irrefl _ (String.lt_trans hlt (hfirst m hm))
        rw [storeMembers_cons hown (hstore group)]
        exact hsets.apart.storeMembers hnames h
      · -- the member is a later one
        rcases storeMembers_cons_eq_ok h with ⟨hnone, h⟩ | ⟨setting, next, hfind, hnext, h⟩
        · rw [storeMembers_cons_of_none hnone]
          exact ih hmembers h
        · rw [storeMembers_cons hfind hnext]
          exact ih hmembers h

/-- So the change has been made where the member is there. -/
theorem Sets.of_mem (hsets : Sets settings name value set) (hordered : Json.Ordered members)
    (hmem : (name, value) ∈ members) (h : storeMembers settings members group = .ok group') :
    set group' = group' := by
  have hput := hsets.storeMembers_putMember hordered h
  rw [Json.putMember_of_mem hordered hmem, h] at hput
  exact (Except.ok.inj hput).symm

/-- The members that are settings could be stored. -/
theorem exists_store_of_mem (hfind : settings.find? (·.name == name) = some setting)
    (hmem : (name, value) ∈ members) (h : storeMembers settings members group = .ok group') :
    ∃ before after, setting.store value before = .ok after := by
  induction members generalizing group with
  | nil => cases hmem
  | cons first members ih =>
    rcases List.mem_cons.1 hmem with rfl | hmem
    · rcases storeMembers_cons_eq_ok h with ⟨hnone, -⟩ | ⟨_, next, hfound, hnext, -⟩
      · rw [hfind] at hnone
        cases hnone
      · rw [hfind] at hfound
        cases hfound
        exact ⟨group, next, hnext⟩
    · rcases storeMembers_cons_eq_ok h with ⟨-, hrest⟩ | ⟨_, _, -, -, hrest⟩
      · exact ih hmem hrest
      · exact ih hmem hrest

end Group

-- ---------------------------------------------------------------------------
-- The token in its group
-- ---------------------------------------------------------------------------

variable {env : Environment} {fs fs' : FileSystem} {path token : String} {old new : Json}
  {members server : List (String × Json)} {c : Config} {s : ServerSettings}

theorem sets_adminToken (token : String) :
    Sets serverGroup "admin_token" (.string token) fun s => { s with adminToken := token } where
  own := by
    refine ⟨_, rfl, fun _ => rfl, fun h => ?_⟩
    obtain ⟨x, -, rfl⟩ := ok_of_map h
    rfl
  apart := by
    intro setting hmem hne other group group' h
    simp only [serverGroup, List.mem_cons, List.not_mem_nil, or_false] at hmem
    -- what the other settings store leaves the token alone
    rcases hmem with rfl | rfl | rfl | rfl | rfl
    · obtain ⟨x, hx, rfl⟩ := ok_of_map h
      exact congrArg (Except.map _) hx
    · obtain ⟨x, hx, rfl⟩ := ok_of_map h
      exact congrArg (Except.map _) hx
    · obtain ⟨x, hx, rfl⟩ := ok_of_map h
      exact congrArg (Except.map _) hx
    · exact absurd rfl hne
    · obtain ⟨x, hx, rfl⟩ := ok_of_map h
      exact congrArg (Except.map _) hx

theorem apart_server (s : ServerSettings) : Apart groups "server" fun c => { c with server := s } := by
  intro setting hmem hne other group group' h
  simp only [groups, List.mem_cons, List.not_mem_nil, or_false] at hmem
  rcases hmem with rfl | rfl | rfl
  · exact absurd rfl hne
  · obtain ⟨x, hx, rfl⟩ := ok_of_map h
    exact congrArg (Except.map _) hx
  · obtain ⟨x, hx, rfl⟩ := ok_of_map h
    exact congrArg (Except.map _) hx

theorem sets_server (h : storeMembers serverGroup server {} = .ok s) :
    Sets groups "server" (.object server) fun c => { c with server := s } where
  own := by
    refine ⟨_, rfl, fun c => ?_, fun h => ?_⟩
    · exact congrArg (Except.map fun x => { c with server := x }) h
    · obtain ⟨x, -, rfl⟩ := ok_of_map h
      rfl
  apart := apart_server s

-- ---------------------------------------------------------------------------
-- What a document describes
-- ---------------------------------------------------------------------------

/-- With its references replaced, the document is one of the configuration. -/
def Describes (env : Environment) (document : Json) (c : Config) : Prop :=
  ∃ expanded, env.expand document = .ok expanded ∧ ofJson expanded = .ok c

theorem describes_object : Describes env (.object members) c ↔
    ∃ out, env.expandMembers members = .ok out ∧ storeMembers groups out {} = .ok c := by
  constructor
  · rintro ⟨_, hexpand, hstore⟩
    rw [Environment.expand] at hexpand
    obtain ⟨out, hout, rfl⟩ := ok_of_map hexpand
    exact ⟨out, hout, hstore⟩
  · rintro ⟨out, hout, hstore⟩
    exact ⟨_, Environment.expand_object hout, hstore⟩

/-- A document describes one configuration. -/
theorem Describes.unique {c' : Config} (h : Describes env old c) (h' : Describes env old c') :
    c = c' := by
  obtain ⟨_, hexpand, hstore⟩ := h
  obtain ⟨_, hexpand', hstore'⟩ := h'
  rw [hexpand] at hexpand'
  cases hexpand'
  rw [hstore] at hstore'
  exact Except.ok.inj hstore'

theorem load_eq_ok : load env fs path = .ok c ↔
    ∃ document, readDocument fs path = .ok document ∧ Describes env document c := by
  constructor
  · intro h
    obtain ⟨document, hread, h⟩ := ok_of_bind h
    obtain ⟨expanded, hexpand, h⟩ := ok_of_bind h
    refine ⟨document, hread, expanded, hexpand, ?_⟩
    split at h
    · rename_i heq
      cases h
      exact heq
    · cases h
  · rintro ⟨document, hread, expanded, hexpand, hstore⟩
    simp only [load, hread, hexpand, hstore, bind, Except.bind]

/-- The settings of the server are those in the group of the server, or the default ones. -/
theorem exists_server {out : List (String × Json)} (hordered : Json.Ordered members)
    (hserver : (Json.member? members "server").getD (.object []) = .object server)
    (hout : env.expandMembers members = .ok out) (hstored : storeMembers groups out {} = .ok c) :
    ∃ group, env.expandMembers server = .ok group ∧
      storeMembers serverGroup group {} = .ok c.server := by
  have horderedOut := Environment.ordered_of_expandMembers hout hordered
  cases hmember : Json.member? members "server" with
  | none =>
    -- a group that is not there in the document is not there when it is expanded, and the defaults
    -- stay
    rw [hmember] at hserver
    cases hserver
    have hnames : ∀ m ∈ out, m.1 ≠ "server" := by
      rintro ⟨name, value⟩ hm rfl
      have hname : "server" ∈ members.map Prod.fst :=
        Environment.names_of_expandMembers hout ▸ List.mem_map_of_mem hm
      obtain ⟨⟨name, value⟩, hm, rfl⟩ := List.mem_map.1 hname
      exact absurd hmember (Json.member?_ne_none_of_mem hm)
    have hdefault := (apart_server {}).storeMembers hnames hstored
    have hsame : c = { c with server := {} } := Except.ok.inj (hstored.symm.trans hdefault)
    have hserver : c.server = {} := congrArg Config.server hsame
    exact ⟨[], rfl, hserver ▸ rfl⟩
  | some value =>
    rw [hmember] at hserver
    -- the group is stored, and setting the server once more to what was read from it is no change
    obtain rfl : value = .object server := hserver
    obtain ⟨value', hmem, hexpand⟩ :=
      Environment.mem_of_expandMembers hout (Json.mem_of_member? hmember)
    rw [Environment.expand] at hexpand
    obtain ⟨group, hgroup, rfl⟩ := ok_of_map hexpand
    obtain ⟨before, after, hstore⟩ := exists_store_of_mem rfl hmem hstored
    obtain ⟨s, hs, -⟩ := ok_of_map hstore
    have hsame : { c with server := s } = c := (sets_server hs).of_mem horderedOut hmem hstored
    have hserver : s = c.server := congrArg Config.server hsame
    exact ⟨group, hgroup, hserver ▸ hs⟩

/-- **The token and nothing else.** A document with another token, in which no variable is
mentioned, describes what the document described, with this token. -/
theorem Describes.withAdminToken (h : Describes env old c) (hold : old.Settled)
    (hplain : ¬ Environment.Mentions token.toList) (hnew : withAdminToken token old = .ok new) :
    Describes env new { c with server := { c.server with adminToken := token } } := by
  obtain ⟨members, server, rfl, hserver, rfl⟩ := withAdminToken_eq_ok hnew
  obtain ⟨out, hout, hstored⟩ := describes_object.1 h
  have hordered : Json.Ordered members := by
    cases hold with
    | object hordered _ => exact hordered
  obtain ⟨group, hgroup, hread⟩ := exists_server hordered hserver hout hstored
  have horderedServer : Json.Ordered server := by
    have hsettled : (Json.object server).Settled := hserver ▸ settled_server hold
    cases hsettled with
    | object hordered _ => exact hordered
  -- the token is expanded to itself
  have htoken : env.expand (.string token) = .ok (.string token) := by
    rw [Environment.expand, Environment.expandText_of_not_mentions hplain]
    rfl
  have hgroup' : env.expandMembers (Json.putMember "admin_token" (.string token) server) =
      .ok (Json.putMember "admin_token" (.string token) group) :=
    Environment.expandMembers_putMember hgroup htoken
  -- the change in the group, and below it the change in the document
  have hread' := (sets_adminToken token).storeMembers_putMember
    (Environment.ordered_of_expandMembers hgroup horderedServer) hread
  exact describes_object.2 ⟨_,
    Environment.expandMembers_putMember hout (Environment.expand_object hgroup'),
    (sets_server hread').storeMembers_putMember
      (Environment.ordered_of_expandMembers hout hordered) hstored⟩

/-- To set the same token again is no change. -/
theorem withAdminToken_again (h : Config.withAdminToken token old = .ok new) :
    Config.withAdminToken token new = .ok new := by
  obtain ⟨members, server, rfl, -, rfl⟩ := withAdminToken_eq_ok h
  rw [Config.withAdminToken, Json.member?_putMember_self, Option.getD_some]
  dsimp only
  rw [Json.putMember_putMember, Json.putMember_putMember]

/-- Whatever a document with another token describes has this token. -/
theorem Describes.adminToken_eq (h : Describes env new c) (hold : old.Settled)
    (hplain : ¬ Environment.Mentions token.toList)
    (hnew : Config.withAdminToken token old = .ok new) : c.server.adminToken = token := by
  have hagain := h.withAdminToken (settled_withAdminToken hold hnew) hplain
    (withAdminToken_again hnew)
  rw [h.unique hagain]

-- ---------------------------------------------------------------------------
-- The file
-- ---------------------------------------------------------------------------

/-- The document that a token is put into where there is no file. -/
theorem settled_defaultDocument : defaultDocument.Settled := by
  have hstorable : Storable {} :=
    ⟨by decide +kernel, by decide, by decide, by decide, by decide⟩
  have hsettled : (Config.document {}).Settled :=
    Json.settled_ofJson5 (Json.ofJson5_pretty (legible_toJson hstorable))
  have hdefault : defaultDocument = Config.document {} := rfl
  rw [hdefault]
  exact hsettled

/-- A token that has been set was put into a document. -/
theorem written_of_set {faults : Faults} {events : List Event}
    (hset : setAdminToken faults fs path token = (fs', events, .ok ())) :
    ∃ old new, old.Settled ∧ Config.withAdminToken token old = .ok new ∧
      writeDocument faults fs path new = (fs', .ok ()) := by
  rcases setAdminToken_cases hset with ⟨-, e, herror⟩ | ⟨new, hnew, hwritten⟩
  · cases herror
  · obtain ⟨old, hold, hnew⟩ := ok_of_bind hnew
    refine ⟨old, new, ?_, hnew, hwritten⟩
    split at hold
    · exact settled_readDocument hold
    · cases hold
      exact settled_defaultDocument

/-- **A token that has been set is what is loaded.** In every environment, whatever is loaded
afterwards has the token; and what was loaded before is loaded with the token in it, if the
texts in the new document can stand in a string as they are written, and otherwise nothing
is loaded. -/
theorem load_of_setAdminToken {faults : Faults} {events : List Event}
    (hplain : ¬ Environment.Mentions token.toList)
    (hset : setAdminToken faults fs path token = (fs', events, .ok ())) (env : Environment) :
    (∀ c, load env fs' path = .ok c → c.server.adminToken = token) ∧
    ∀ c, load env fs path = .ok c → ∃ old new, readDocument fs path = .ok old ∧
      Config.withAdminToken token old = .ok new ∧
      load env fs' path = if new.All Json.IsLegible
        then .ok { c with server := { c.server with adminToken := token } }
        else .error (.document path (.json5 .syntaxFault)) := by
  constructor
  · intro c hload
    obtain ⟨old, new, hold, hnew, hwritten⟩ := written_of_set hset
    obtain ⟨document, hread, hdescribes⟩ := load_eq_ok.1 hload
    rw [readDocument_of_writeDocument (settled_withAdminToken hold hnew) hwritten] at hread
    split at hread
    · -- the file is read as the new document
      cases hread
      exact hdescribes.adminToken_eq hold hplain hnew
    · -- the file is not read at all
      cases hread
  · intro c hload
    obtain ⟨old, hread, hdescribes⟩ := load_eq_ok.1 hload
    obtain ⟨new, hnew, hwritten⟩ := written_of_setAdminToken hread hset
    have hold := settled_readDocument hread
    have hafter := readDocument_of_writeDocument (settled_withAdminToken hold hnew) hwritten
    refine ⟨old, new, hread, hnew, ?_⟩
    split at hafter
    · rename_i hlegible
      rw [if_pos hlegible]
      exact load_eq_ok.2 ⟨new, hafter, hdescribes.withAdminToken hold hplain hnew⟩
    · rename_i hill
      rw [if_neg hill, load, hafter]
      rfl

end Config

end Flagpost
