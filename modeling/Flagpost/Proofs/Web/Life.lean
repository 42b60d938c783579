import Flagpost.Proofs.Hook.History
import Flagpost.Proofs.Web.Exchange
import Flagpost.Proofs.Web.TriggerRequest

/-!
# Flagpost — the records of a service

Hooks come into the registry through requests, and every request is checked. So
in a service that began with an empty store every record is in order
(`Hook.InOrder`), whatever has been asked of it since, however often its store
was opened again or could not be written, and whatever its clock showed.

No single operation sees to this. The token of a record may be copied from the
record before, and the times depend on the clock, so the statement is carried
through everything that can happen to a site:

* `Gateway.effect_inOrder` — through each effect that a request can have;
* `Gateway.sound_of_reachable` — through the life of a service, together with what
  makes the store be read back as it was written;
* `Gateway.records_inOrder` — the statement about the records.
-/

namespace Flagpost

variable {m : Moment} {site site' : Site} {id path flagsDir : String} {hook : Hook}

-- ---------------------------------------------------------------------------
-- Records
-- ---------------------------------------------------------------------------

/-- A record that is in order: kept under its own identifier, without a fault,
with a token, and not changed before it was created. -/
structure Hook.InOrder (id : String) (hook : Hook) : Prop where
  id_eq : hook.id = id
  valid : hook.fault? = none
  token_ne : hook.token ≠ ""
  times : hook.createdAt ≤ hook.updatedAt

/-- All records of a collection are in order. -/
def Collection.InOrder (c : Collection) : Prop :=
  ∀ id hook, c.find? id = some hook → hook.InOrder id

namespace Collection

variable {c : Collection}

theorem inOrder_empty : empty.InOrder := fun _ _ h => by cases h

theorem InOrder.insert (h : c.InOrder) (hhook : hook.InOrder hook.id) :
    (c.insert hook).InOrder := by
  intro id found hfound
  rw [find?_insert] at hfound
  split at hfound
  · rename_i hid
    cases hfound
    exact hid ▸ hhook
  · exact h id found hfound

theorem InOrder.erase (h : c.InOrder) (gone : String) : (c.erase gone).InOrder := by
  intro id found hfound
  rw [find?_erase] at hfound
  split at hfound
  · cases hfound
  · exact h id found hfound

end Collection

-- ---------------------------------------------------------------------------
-- Requests
-- ---------------------------------------------------------------------------

namespace Gateway

theorem created_inOrder (h : site.registry.hooks.InOrder) (hvalid : hook.fault? = none)
    (htoken : hook.token ≠ "") :
    (site.registry.create m site.files hook).registry.hooks.InOrder := by
  rcases Registry.create_cases m site.files site.registry hook with ⟨-, -, hr⟩ | ⟨-, hr⟩
  · rw [hr]
    exact h.insert ⟨rfl, hvalid, htoken, le_refl m.now⟩
  · rw [hr]
    exact h

/-- A record that replaces another has a token: its own, or that of the other,
which had one. -/
theorem updated_inOrder (h : site.registry.hooks.InOrder) (hvalid : hook.fault? = none)
    (htoken : hook.token ≠ "" ∨
      ∃ kept, site.registry.hooks.find? hook.id = some kept ∧ hook.token = kept.token) :
    (site.registry.update m site.files hook).registry.hooks.InOrder := by
  rcases Registry.update_cases m site.files site.registry hook with
    ⟨previous, time, hfind, hlater, -, hr⟩ | ⟨-, hr⟩
  · have hprevious := h hook.id previous hfind
    have hne : hook.token ≠ "" := by
      rcases htoken with hown | ⟨kept, hkept, hsame⟩
      · exact hown
      · rw [hsame]
        exact (h hook.id kept hkept).token_ne
    rw [hr]
    exact h.insert ⟨rfl, hvalid, hne, le_of_lt (lt_of_le_of_lt hprevious.times hlater)⟩
  · rw [hr]
    exact h

/-- Whatever a request does, records that are in order stay so. -/
theorem effect_inOrder (h : site.registry.hooks.InOrder) (he : Effect m site site') :
    site'.registry.hooks.InOrder := by
  cases he with
  | nothing => exact h
  | created hook hvalid htoken => exact created_inOrder h hvalid htoken
  | updated hook hvalid htoken => exact updated_inOrder h hvalid htoken
  | deleted id =>
    show (site.registry.delete m site.files id).registry.hooks.InOrder
    rcases Registry.delete_cases m site.files site.registry id with ⟨-, hr⟩ | ⟨-, hr⟩
    · rw [hr]
      exact h.erase id
    · rw [hr]
      exact h
  | raised hook => exact h

/-- A store that is not below the flags directory is read as before when a flag
has been written. -/
theorem read_raised {content : Bytes}
    (hbelow : ¬ Service.Below (Path.locate site.flagsDir) (Path.locate path))
    (hread : site.files.read path = .ok content) (m : Moment) (hook : Hook) :
    (Service.raised m site hook).1.read path = .ok content := by
  rw [Service.raised]
  split
  · exact hread
  · rename_i hfault
    have haccepted := FlagFile.accepted_of_fault? hfault
    refine FileSystem.read_of_keepsOpen (Service.writeFlag_keepsOpen m site.files _) ?_ hread
    intro number hn
    exact (file_writeFlag_iff haccepted m site.files site.flagsDir hbelow number content).2 hn

/-- Whatever a request does, the store holds what the registry holds. -/
theorem effect_holds (hbelow : ¬ Service.Below (Path.locate site.flagsDir) (Path.locate path))
    (h : site.registry.Holds path site.files) (he : Effect m site site') :
    site'.registry.Holds path site'.files := by
  cases he with
  | nothing => exact h
  | created hook _ _ => exact (Registry.create_atomic h hook).holds
  | updated hook _ _ => exact (Registry.update_atomic h hook).holds
  | deleted id => exact (Registry.delete_atomic h id).holds
  | raised hook =>
    obtain ⟨hooks, hload, -⟩ := h.loads
    obtain ⟨content, hread⟩ := Registry.read_of_load hload
    exact h.congr ((read_raised hbelow hread m hook).trans hread.symm)

theorem effect_flagsDir (he : Effect m site site') : site'.flagsDir = site.flagsDir := by
  cases he <;> rfl

-- ---------------------------------------------------------------------------
-- The life of a service
-- ---------------------------------------------------------------------------

/-- The sites that the life of a service can lead to. It begins when a store
without hooks is opened. Then requests are answered, through any gateway and at
any moment, so with any clock and any failures of the medium; the store is
opened again; and others do what they like with the files, as long as the store
reads the same. -/
inductive Reachable (path flagsDir : String) : Site → Prop
  | opened {faults : Faults} {fs fs' : FileSystem} {events : List Event} {registry : Registry}
      (hopen : Registry.openAt faults fs path = (fs', events, .ok registry))
      (hempty : registry.hooks = Collection.empty) :
      Reachable path flagsDir ⟨fs', registry, flagsDir⟩
  | request {site : Site} (h : Reachable path flagsDir site) (g : Gateway) (m : Moment)
      (r : Request) : Reachable path flagsDir (g.answer m site r).site
  | reopened {site : Site} (h : Reachable path flagsDir site) (m : Moment) :
      Reachable path flagsDir
        (site.changed (Registry.Operation.reopen.run m path site.files site.registry))
  | others {site : Site} (h : Reachable path flagsDir site) (files : FileSystem)
      (hread : files.read path = site.files.read path) :
      Reachable path flagsDir { site with files := files }

/-- What is so throughout the life of a service. -/
structure Sound (path flagsDir : String) (site : Site) : Prop where
  flagsDir_eq : site.flagsDir = flagsDir
  holds : site.registry.Holds path site.files
  inOrder : site.registry.hooks.InOrder

theorem effect_sound (hbelow : ¬ Service.Below (Path.locate flagsDir) (Path.locate path))
    (h : Sound path flagsDir site) (he : Effect m site site') : Sound path flagsDir site' where
  flagsDir_eq := (effect_flagsDir he).trans h.flagsDir_eq
  holds := effect_holds (h.flagsDir_eq ▸ hbelow) h.holds he
  inOrder := effect_inOrder h.inOrder he

theorem sound_of_reachable (hbelow : ¬ Service.Below (Path.locate flagsDir) (Path.locate path))
    (h : Reachable path flagsDir site) : Sound path flagsDir site := by
  induction h with
  | opened hopen hempty =>
    exact ⟨rfl, Registry.holds_of_openAt hopen, hempty ▸ Collection.inOrder_empty⟩
  | request _ g m r ih => exact effect_sound hbelow ih (answer_effect g m _ r)
  | reopened _ m ih =>
    refine ⟨ih.flagsDir_eq, (Registry.run_atomic ih.holds .reopen m).holds, ?_⟩
    rw [Site.changed_registry, ih.holds.reopen_registry]
    exact ih.inOrder
  | others _ files hread ih => exact ⟨ih.flagsDir_eq, ih.holds.congr hread, ih.inOrder⟩

/-- **The records of a service.** In a service that began with an empty store,
which is kept outside the flags directory, every record is in order at any
time: the one found for an identifier is its own, and every one that is listed
is found. -/
theorem records_inOrder (hbelow : ¬ Service.Below (Path.locate flagsDir) (Path.locate path))
    (h : Reachable path flagsDir site) :
    (∀ id hook, site.registry.hooks.find? id = some hook → hook.InOrder id) ∧
      ∀ hook ∈ site.registry.hooks.hooks,
        site.registry.hooks.find? hook.id = some hook ∧ hook.InOrder hook.id := by
  have hsound := sound_of_reachable hbelow h
  refine ⟨hsound.inOrder, fun hook hmem => ?_⟩
  have hfind := Collection.find?_of_mem hmem
  exact ⟨hfind, hsound.inOrder hook.id hook hfind⟩

/-- A hook is added late on a day. After the clock was set back, its replacement
fails while the disk is full, succeeds, and is read again from the store. -/
theorem records_inOrder_set_back :
    let late : Timestamp := ⟨Date.epoch, 86399, 999999999, by decide, by decide, by decide⟩
    let evening : Moment := ⟨late, 0, none, {}⟩
    let full : Moment := ⟨Timestamp.epoch, 0, none, { write := some .noSpace }⟩
    let before : Moment := ⟨Timestamp.epoch, 0, none, {}⟩
    let g : Gateway := ⟨(Routes.ofBase? "").getD [], "adm", 1024, Timestamp.epoch⟩
    let header : Header := [⟨"authorization", Utf8.encode "Bearer adm"⟩]
    let body := Utf8.encode "\x7b\"id\":\"ci\",\"name\":\"CI\",\"flag_file\":\"ci.flag\"\x7d"
    let add : Request := ⟨.post, ⟨"/api/hooks", none⟩, header, body, none⟩
    let replace : Request := ⟨.put, ⟨"/api/hooks/ci", none⟩, header, body, none⟩
    let fs := (Registry.openAt {} FileSystem.empty "hooks.json").1
    let begun : Site := ⟨fs, ⟨Collection.empty, some "hooks.json"⟩, "flags"⟩
    let added := g.answer evening begun add
    let failed := g.answer full added.site replace
    let replaced := g.answer before failed.site replace
    let again := replaced.site.changed
      (Registry.Operation.reopen.run before "hooks.json" replaced.site.files replaced.site.registry)
    added.reply.status = .created ∧ failed.reply.status = .internalError ∧
      replaced.reply.status = .ok ∧
      ∃ hook, again.registry.hooks.find? "ci" = some hook ∧ hook.InOrder "ci" := by
  intro late evening full before g header body add replace fs begun added failed replaced again
  -- the store is beside the directory of the flags, not in it
  have hbelow : ¬ Service.Below (Path.locate "flags") (Path.locate "hooks.json") := by
    rintro ⟨names, -, hnames⟩
    have hflags : Path.locate "flags" = ["flags"] := by decide
    have hstore : Path.locate "hooks.json" = ["hooks.json"] := by decide
    rw [hflags, hstore] at hnames
    simp at hnames
  have hopen : Registry.openAt {} FileSystem.empty "hooks.json" =
      (fs, [], .ok begun.registry) := rfl
  have hreplaced : Reachable "hooks.json" "flags" replaced.site :=
    .request (.request (.request (.opened hopen rfl) g evening add) g full replace) g before replace
  have hagain : again = replaced.site.changed (Registry.Operation.reopen.run before "hooks.json"
      replaced.site.files replaced.site.registry) := rfl
  have hholds := (sound_of_reachable hbelow hreplaced).holds
  have hsame := hholds.reopen_registry before
  have hthere : (replaced.site.registry.hooks.find? "ci").isSome = true := by decide +kernel
  obtain ⟨hook, hfind⟩ := Option.isSome_iff_exists.1 hthere
  have hkept : again.registry.hooks.find? "ci" = some hook := by
    rw [hagain, Site.changed_registry, hsame, hfind]
  refine ⟨by decide +kernel, by decide +kernel, by decide +kernel, hook, hkept, ?_⟩
  rw [hagain] at hkept
  exact (records_inOrder hbelow (.reopened hreplaced before)).1 "ci" hook hkept

end Gateway

end Flagpost
