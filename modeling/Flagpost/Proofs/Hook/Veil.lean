import Flagpost.Proofs.File.Outline
import Flagpost.Proofs.File.Replacement
import Flagpost.Proofs.Hook.Change

/-!
# Flagpost — hooks without their tokens

The **veil** leaves of a token whether there is one. Two registries are alike if
their hooks are the same behind the veil and are kept at the same path. Changes of
registries that are alike, in trees of one outline, succeed together or fail for
the same reason, and leave registries that are alike in trees of one outline: the
store has the tokens in it, but nothing looks at it again except when it is opened.

* `Collection.find?_of_veiled`, `insert_veiled`, `erase_veiled` — collections;
* `Registry.create_alike`, `update_alike`, `delete_alike` — changes;
* `Registry.openAt_alike` — the opening of two stores whose hooks are the same
  behind the veil.
-/

namespace Flagpost

-- ---------------------------------------------------------------------------
-- Hooks
-- ---------------------------------------------------------------------------

/-- What is left of a token: whether there is one. -/
def veil (token : String) : String := if token.isEmpty then "" else "*"

theorem isEmpty_veil (token : String) : (veil token).isEmpty = token.isEmpty := by
  rw [veil]
  split
  · rename_i h
    rw [h]
    rfl
  · rename_i h
    rw [Bool.eq_false_iff.2 h]
    rfl

theorem veil_of_ne {token : String} (h : token ≠ "") : veil token = "*" :=
  if_neg (by simpa using h)

theorem isEmpty_of_veil {token token' : String} (h : veil token = veil token') :
    token.isEmpty = token'.isEmpty := by
  rw [← isEmpty_veil, h, isEmpty_veil]

namespace Hook

variable {hook hook' : Hook}

/-- The hook without the value of its token. -/
def veiled (hook : Hook) : Hook := { hook with token := veil hook.token }

theorem id_of_veiled (h : hook.veiled = hook'.veiled) : hook.id = hook'.id :=
  (congrArg (fun x : Hook => x.id) h :)

theorem token_of_veiled (h : hook.veiled = hook'.veiled) : veil hook.token = veil hook'.token :=
  (congrArg (fun x : Hook => x.token) h :)

theorem enabled_of_veiled (h : hook.veiled = hook'.veiled) : hook.enabled = hook'.enabled :=
  (congrArg (fun x : Hook => x.enabled) h :)

theorem flagFile_of_veiled (h : hook.veiled = hook'.veiled) : hook.flagFile = hook'.flagFile :=
  (congrArg (fun x : Hook => x.flagFile) h :)

theorem fault?_of_veiled (h : hook.veiled = hook'.veiled) : hook.fault? = hook'.fault? :=
  (congrArg Hook.fault? h :)

theorem stamped_veiled (h : hook.veiled = hook'.veiled) (created changed : Timestamp) :
    (hook.stamped created changed).veiled = (hook'.stamped created changed).veiled :=
  congrArg (fun x : Hook => x.stamped created changed) h

theorem withToken_veiled (h : hook.veiled = hook'.veiled) {token token' : String}
    (ht : veil token = veil token') :
    ({ hook with token := token } : Hook).veiled = ({ hook' with token := token' } : Hook).veiled := by
  have hsame := congrArg (fun x : Hook => { x with token := veil token }) h
  rw [veiled, veiled, ← ht]
  exact hsame

end Hook

namespace Collection

variable {c c' : Collection} {hook hook' : Hook}

/-- The collection without the values of tokens. -/
def veiled (c : Collection) : Collection where
  hooks := c.hooks.map Hook.veiled
  ascending := List.pairwise_map.2 c.ascending

theorem find?_veiled (c : Collection) (id : String) :
    c.veiled.find? id = (c.find? id).map Hook.veiled := by
  rw [find?, find?, veiled, List.find?_map]
  rfl

/-- Collections that differ in tokens alone have hooks that differ in tokens alone. -/
theorem find?_of_veiled (h : c.veiled = c'.veiled) (id : String) :
    (c.find? id = none ∧ c'.find? id = none) ∨
      ∃ a b, c.find? id = some a ∧ c'.find? id = some b ∧ a.veiled = b.veiled := by
  have hfind : (c.find? id).map Hook.veiled = (c'.find? id).map Hook.veiled := by
    rw [← find?_veiled, h, find?_veiled]
  cases ha : c.find? id with
  | none =>
    rw [ha, Option.map_none, eq_comm, Option.map_eq_none_iff] at hfind
    exact .inl ⟨rfl, hfind⟩
  | some a =>
    rw [ha, Option.map_some, eq_comm, Option.map_eq_some_iff] at hfind
    obtain ⟨b, hb, hveiled⟩ := hfind
    exact .inr ⟨a, b, rfl, hb, hveiled.symm⟩

theorem insert_veiled (h : c.veiled = c'.veiled) (hhook : hook.veiled = hook'.veiled) :
    (c.insert hook).veiled = (c'.insert hook').veiled := by
  refine ext_find? fun id => ?_
  have hfind : (c.find? id).map Hook.veiled = (c'.find? id).map Hook.veiled := by
    rw [← find?_veiled, h, find?_veiled]
  rw [find?_veiled, find?_veiled, find?_insert, find?_insert, Hook.id_of_veiled hhook]
  split
  · rw [Option.map_some, Option.map_some, hhook]
  · exact hfind

theorem erase_veiled (h : c.veiled = c'.veiled) (gone : String) :
    (c.erase gone).veiled = (c'.erase gone).veiled := by
  refine ext_find? fun id => ?_
  have hfind : (c.find? id).map Hook.veiled = (c'.find? id).map Hook.veiled := by
    rw [← find?_veiled, h, find?_veiled]
  rw [find?_veiled, find?_veiled, find?_erase, find?_erase]
  split
  · rfl
  · exact hfind

theorem foldl_insert_veiled {hooks hooks' : List Hook} (h : c.veiled = c'.veiled)
    (hhooks : hooks.map Hook.veiled = hooks'.map Hook.veiled) :
    (hooks.foldl insert c).veiled = (hooks'.foldl insert c').veiled := by
  induction hooks generalizing hooks' c c' with
  | nil =>
    rw [List.map_nil, eq_comm, List.map_eq_nil_iff] at hhooks
    rw [hhooks]
    exact h
  | cons hook hooks ih =>
    rw [List.map_cons, eq_comm, List.map_eq_cons_iff] at hhooks
    obtain ⟨hook', rest, rfl, hhook, hrest⟩ := hhooks
    rw [List.foldl_cons, List.foldl_cons]
    exact ih (insert_veiled h hhook.symm) hrest.symm

theorem repeated_veiled (seen : List String) (hooks : List Hook) :
    repeated seen (hooks.map Hook.veiled) = repeated seen hooks := by
  induction hooks generalizing seen with
  | nil => rfl
  | cons hook hooks ih =>
    rw [List.map_cons, repeated, repeated, ih, ih]
    rfl

theorem size_of_veiled (h : c.veiled = c'.veiled) : c.size = c'.size := by
  have hsize : ∀ c : Collection, c.veiled.size = c.size := fun c => List.length_map Hook.veiled
  rw [← hsize, h, hsize]

end Collection

-- ---------------------------------------------------------------------------
-- Results
-- ---------------------------------------------------------------------------

/-- Both succeed, with answers that are related, or both fail for the same reason. -/
inductive Agree {α : Type} (R : α → α → Prop) : Except HookError α → Except HookError α → Prop
  | ok {a b : α} : R a b → Agree R (.ok a) (.ok b)
  | error (e : HookError) : Agree R (.error e) (.error e)

/-- Hooks that differ in nothing but the values of their tokens. -/
def SameButToken (hook hook' : Hook) : Prop := hook.veiled = hook'.veiled

-- ---------------------------------------------------------------------------
-- The registry
-- ---------------------------------------------------------------------------

/-- The same clock, the same failures of the medium, and random bytes for both or for
neither; what tokens are made of may differ. -/
structure Moment.Alike (m m' : Moment) : Prop where
  now : m.now = m'.now
  random : m.random.isSome = m'.random.isSome
  faults : m.faults = m'.faults

/-- The same hooks, but for the values of tokens, kept at the same path. -/
structure Registry.Alike (r r' : Registry) : Prop where
  hooks : r.hooks.veiled = r'.hooks.veiled
  storage : r.storage = r'.storage

namespace Registry

variable {α : Type} {faults : Faults} {m m' : Moment} {fs fs' : FileSystem} {r r' : Registry}
variable {hook hook' : Hook} {id path : String} {R : α → α → Prop}

/-- Changes that leave registries that are alike and agree in their answers. -/
structure Change.Alike (R : α → α → Prop) (c c' : Change α) : Prop where
  files : c.files.outline = c'.files.outline
  registry : c.registry.Alike c'.registry
  result : Agree R c.result c'.result

theorem persist_alike (r r' : Registry) (faults : Faults) (hfs : fs.outline = fs'.outline)
    (h : r.storage = r'.storage) :
    (r.persist faults fs).1.outline = (r'.persist faults fs').1.outline ∧
      (r.persist faults fs).2 = (r'.persist faults fs').2 := by
  rw [persist, persist, ← h]
  cases r.storage with
  | none => exact ⟨hfs, rfl⟩
  | some path =>
    dsimp only
    have hreplace := FileSystem.replace_outline faults fs path
      (Utf8.encode (Hook.listText r.hooks.hooks))
    have hreplace' := FileSystem.replace_outline faults fs' path
      (Utf8.encode (Hook.listText r'.hooks.hooks))
    -- the bytes of the two stores differ, but not whether they could be written
    rw [hfs, hreplace'] at hreplace
    obtain ⟨houtline, hresult⟩ := Prod.mk.inj hreplace
    generalize fs.replace faults path (Utf8.encode (Hook.listText r.hooks.hooks)) = x at *
    generalize fs'.replace faults path (Utf8.encode (Hook.listText r'.hooks.hooks)) = y at *
    obtain ⟨written, result⟩ := x
    obtain ⟨written', result'⟩ := y
    cases hresult
    cases result with
    | error e => exact ⟨houtline.symm, rfl⟩
    | ok _ => exact ⟨houtline.symm, rfl⟩

theorem refuse_alike (hfs : fs.outline = fs'.outline) (h : r.Alike r') (e : HookError) :
    Change.Alike R (refuse fs r e) (refuse fs' r' e) := ⟨hfs, h, .error e⟩

/-- A change that is carried out, or taken back, on both sides. -/
theorem commit_alike {c c' : Collection} {undo undo' : Collection → Collection} {answer answer' : α}
    (hfs : fs.outline = fs'.outline) (h : r.Alike r') (hc : c.veiled = c'.veiled)
    (hundo : (undo c).veiled = (undo' c').veiled) (hanswer : R answer answer') :
    Change.Alike R (r.commit faults fs c undo answer) (r'.commit faults fs' c' undo' answer') := by
  have hpersist := persist_alike { r with hooks := c } { r' with hooks := c' } faults hfs h.storage
  obtain ⟨houtline, hresult⟩ := hpersist
  rw [commit, commit]
  generalize persist faults fs { r with hooks := c } = x at *
  generalize persist faults fs' { r' with hooks := c' } = y at *
  obtain ⟨written, result⟩ := x
  obtain ⟨written', result'⟩ := y
  cases hresult
  cases result with
  | error e => exact ⟨houtline, ⟨hundo, h.storage⟩, .error e⟩
  | ok _ => exact ⟨houtline, ⟨hc, h.storage⟩, .ok hanswer⟩

theorem create_alike (hm : m.Alike m') (hfs : fs.outline = fs'.outline) (h : r.Alike r')
    (hhook : hook.veiled = hook'.veiled) :
    Change.Alike SameButToken (r.create m fs hook) (r'.create m' fs' hook') := by
  have hid := Hook.id_of_veiled hhook
  rcases Collection.find?_of_veiled h.hooks hook.id with ⟨hnone, hnone'⟩ | ⟨a, b, ha, hb, -⟩
  · rw [create_of_none hnone, create_of_none (hid ▸ hnone'), ← hm.now, ← hm.faults]
    have hstamped := Hook.stamped_veiled hhook m.now m.now
    have hinsert := Collection.insert_veiled h.hooks hstamped
    refine commit_alike hfs h hinsert ?_ hstamped
    rw [← hid]
    exact Collection.erase_veiled hinsert hook.id
  · rw [create_of_some ha, create_of_some (hid ▸ hb), ← hid]
    exact refuse_alike hfs h _

theorem update_alike (hm : m.Alike m') (hfs : fs.outline = fs'.outline) (h : r.Alike r')
    (hhook : hook.veiled = hook'.veiled) :
    Change.Alike SameButToken (r.update m fs hook) (r'.update m' fs' hook') := by
  have hid := Hook.id_of_veiled hhook
  rcases Collection.find?_of_veiled h.hooks hook.id with ⟨hnone, hnone'⟩ | ⟨a, b, ha, hb, hab⟩
  · rw [update_of_none hnone, update_of_none (hid ▸ hnone'), ← hid]
    exact refuse_alike hfs h _
  · -- the times of a record are no secret, so both records get the same new time
    have hcreated : a.createdAt = b.createdAt := (congrArg (fun x : Hook => x.createdAt) hab :)
    have hupdated : a.updatedAt = b.updatedAt := (congrArg (fun x : Hook => x.updatedAt) hab :)
    cases ht : nextChange? m.now a.updatedAt with
    | none =>
      have ht' : nextChange? m'.now b.updatedAt = none := by rw [← hm.now, ← hupdated, ht]
      rw [update_of_endOfTime ha ht, update_of_endOfTime (hid ▸ hb) ht', ← hid]
      exact refuse_alike hfs h _
    | some time =>
      have ht' : nextChange? m'.now b.updatedAt = some time := by rw [← hm.now, ← hupdated, ht]
      have hstamped := Hook.stamped_veiled hhook a.createdAt time
      have hinsert := Collection.insert_veiled h.hooks hstamped
      rw [update_of_some ha ht, update_of_some (hid ▸ hb) ht', ← hcreated, ← hm.faults]
      exact commit_alike hfs h hinsert (Collection.insert_veiled hinsert hab) hstamped

theorem delete_alike (hm : m.Alike m') (hfs : fs.outline = fs'.outline) (h : r.Alike r')
    (id : String) : Change.Alike (· = ·) (r.delete m fs id) (r'.delete m' fs' id) := by
  rcases Collection.find?_of_veiled h.hooks id with ⟨hnone, hnone'⟩ | ⟨a, b, ha, hb, hab⟩
  · rw [delete_of_none hnone, delete_of_none hnone']
    exact refuse_alike hfs h _
  · have herase := Collection.erase_veiled h.hooks id
    rw [delete_of_some ha, delete_of_some hb, ← hm.faults]
    exact commit_alike hfs h herase (Collection.insert_veiled herase hab) rfl

theorem find_alike (h : r.Alike r') (id : String) :
    Agree SameButToken (r.find id) (r'.find id) := by
  rw [find, find]
  rcases Collection.find?_of_veiled h.hooks id with ⟨hnone, hnone'⟩ | ⟨a, b, ha, hb, hab⟩
  · rw [hnone, hnone']
    exact .error _
  · rw [ha, hb]
    exact .ok hab

theorem loadEvents_of_veiled (path : String) {hooks hooks' : List Hook}
    (h : hooks.map Hook.veiled = hooks'.map Hook.veiled) :
    loadEvents path hooks = loadEvents path hooks' := by
  have hrepeated : Collection.repeated [] hooks = Collection.repeated [] hooks' := by
    rw [← Collection.repeated_veiled, h, Collection.repeated_veiled]
  have hsize := Collection.size_of_veiled (Collection.foldl_insert_veiled (c := .empty) rfl h)
  rw [loadEvents, loadEvents, hrepeated, Collection.ofList, Collection.ofList, hsize]

/-- The file that a path leads to holds these hooks. -/
def Stored (fs : FileSystem) (path : String) (hooks : List Hook) : Prop :=
  ∃ number content text, fs.node? (Path.locate path) = some (.file number content) ∧
    Utf8.decode? content = some text ∧ hooksOfText text = .ok hooks

theorem stored_of_load {hooks : List Hook} (h : load fs path = .ok hooks) :
    Stored fs path hooks := by
  rw [load, FileSystem.readText] at h
  cases hread : fs.read path with
  | error e =>
    rw [hread] at h
    cases h
  | ok content =>
    obtain ⟨directory, name, number, hresolve, hnode⟩ := FileSystem.read_eq_ok_iff.1 hread
    -- what is read is at the place that the path leads to
    have hlocation : directory ++ [name] = Path.locate path := FileSystem.resolve_location hresolve
    rw [hlocation] at hnode
    rw [hread] at h
    cases hdecode : Utf8.decode? content with
    | none => simp [hdecode] at h
    | some text =>
      simp only [hdecode] at h
      exact ⟨number, content, text, hnode, hdecode, h⟩

/-- No file appears where directories are made: what is loaded behind them was stored
before. -/
theorem stored_of_made {made : FileSystem} {hooks : List Hook}
    (hparent : fs.makeParent faults path = (made, .ok ())) (hload : load made path = .ok hooks) :
    Stored fs path hooks := by
  have hbuilds := FileSystem.makeParent_builds faults fs path
  rw [hparent] at hbuilds
  obtain ⟨number, content, text, hnode, hrest⟩ := stored_of_load hload
  exact ⟨number, content, text, hbuilds.file hnode, hrest⟩

/-- The opening of stores whose hooks differ in tokens alone is reported alike and
leads to registries that are alike. -/
theorem openAt_alike {fs₁ fs₁' : FileSystem} {events events' : List Event}
    (hfs : fs.outline = fs'.outline)
    (hstored : ∀ hooks hooks', Stored fs path hooks → Stored fs' path hooks' →
      hooks.map Hook.veiled = hooks'.map Hook.veiled)
    (hopen : openAt faults fs path = (fs₁, events, .ok r))
    (hopen' : openAt faults fs' path = (fs₁', events', .ok r')) :
    events = events' ∧ fs₁.outline = fs₁'.outline ∧ r.Alike r' := by
  -- the directories are made alike, so that the store is there for both or for neither
  have hmade : ∀ {made made' : FileSystem}, fs.makeParent faults path = (made, .ok ()) →
      fs'.makeParent faults path = (made', .ok ()) →
      made.outline = made'.outline ∧ made.hasPath path = made'.hasPath path := by
    intro made made' hparent hparent'
    have houtlines := FileSystem.makeParent_outline faults fs path
    rw [hfs, FileSystem.makeParent_outline, hparent, hparent'] at houtlines
    have hsame := (Prod.mk.inj houtlines).1.symm
    refine ⟨hsame, ?_⟩
    rw [← FileSystem.hasPath_outline, hsame, FileSystem.hasPath_outline]
  cases openAt_eq_iff.1 hopen with
  | loaded hparent hthere hload =>
    cases openAt_eq_iff.1 hopen' with
    | loaded hparent' hthere' hload' =>
      have hhooks := hstored _ _ (stored_of_made hparent hload) (stored_of_made hparent' hload')
      have hveiled := Collection.foldl_insert_veiled (c := .empty) rfl hhooks
      exact ⟨loadEvents_of_veiled path hhooks, (hmade hparent hparent').1, hveiled, rfl⟩
    | founded hparent' hnew' hpersist' =>
      exact absurd ((hthere.symm.trans (hmade hparent hparent').2).trans hnew') (by decide)
  | founded hparent hnew hpersist =>
    cases openAt_eq_iff.1 hopen' with
    | loaded hparent' hthere' hload' =>
      exact absurd ((hthere'.symm.trans (hmade hparent hparent').2.symm).trans hnew) (by decide)
    | founded hparent' hnew' hpersist' =>
      -- both stores are written with no hooks in them
      have hwritten := (persist_alike ⟨Collection.empty, some path⟩ ⟨Collection.empty, some path⟩
        faults (hmade hparent hparent').1 rfl).1
      rw [hpersist, hpersist'] at hwritten
      exact ⟨rfl, hwritten, rfl, rfl⟩

end Registry

end Flagpost
