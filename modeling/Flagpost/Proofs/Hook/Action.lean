import Flagpost.Hook.Service

/-!
# Flagpost — what actions leave and answer

One lemma for each way to put actions together says what the whole leaves of the site,
and one what it answers. What is reported has no part in either.

A change of the registry leaves the site `Site.changed`, whatever is reported about it
(`Action.reported_site`, `Action.reported_result`).
-/

namespace Flagpost

/-- The site after a change of its registry. -/
def Site.changed {α : Type} (site : Site) (c : Registry.Change α) : Site :=
  { site with files := c.files, registry := c.registry }

@[simp] theorem Site.changed_registry {α : Type} (site : Site) (c : Registry.Change α) :
    (site.changed c).registry = c.registry := rfl

@[simp] theorem Site.changed_files {α : Type} (site : Site) (c : Registry.Change α) :
    (site.changed c).files = c.files := rfl

@[simp] theorem Site.changed_flagsDir {α : Type} (site : Site) (c : Registry.Change α) :
    (site.changed c).flagsDir = site.flagsDir := rfl

namespace Action

variable {α β : Type} {m : Moment} {site : Site}

theorem bind_site (first : Action α) (second : α → Action β) (m : Moment) (site : Site) :
    ((first >>= second) m site).site =
      match (first m site).result with
      | .ok a => (second a m (first m site).site).site
      | .error _ => (first m site).site := by
  show (andThen first second m site).site = _
  rw [andThen]
  split <;> rename_i h <;> rw [h]

theorem bind_result (first : Action α) (second : α → Action β) (m : Moment) (site : Site) :
    ((first >>= second) m site).result =
      match (first m site).result with
      | .ok a => (second a m (first m site).site).result
      | .error e => .error e := by
  show (andThen first second m site).result = _
  rw [andThen]
  split <;> rename_i h <;> rw [h]

@[simp] theorem pure_site (a : α) : ((pure a : Action α) m site).site = site := rfl

@[simp] theorem pure_result (a : α) : ((pure a : Action α) m site).result = .ok a := rfl

@[simp] theorem fail_site (e : HookError) : ((fail e : Action α) m site).site = site := rfl

@[simp] theorem fail_result (e : HookError) : ((fail e : Action α) m site).result = .error e := rfl

@[simp] theorem report_site (event : Event) : (report event m site).site = site := rfl

@[simp] theorem report_result (event : Event) : (report event m site).result = .ok () := rfl

@[simp] theorem reportFailure_site (event? : HookError → Option Event) (action : Action α) :
    (reportFailure event? action m site).site = (action m site).site := by
  rw [reportFailure]
  split <;> rename_i h <;> rw [h]

@[simp] theorem reportFailure_result (event? : HookError → Option Event) (action : Action α) :
    (reportFailure event? action m site).result = (action m site).result := by
  rw [reportFailure]
  split <;> rename_i h <;> rw [h]

/-- An action whose answer is only put into other words. -/
theorem bind_pure_site (action : Action α) (word : α → β) :
    ((action >>= fun a => pure (word a)) m site).site = (action m site).site := by
  rw [bind_site]
  split <;> rfl

theorem bind_pure_result (action : Action α) (word : α → β) :
    ((action >>= fun a => pure (word a)) m site).result = (action m site).result.map word := by
  rw [bind_result]
  cases (action m site).result <;> rfl

theorem bind_pure_events (action : Action α) (word : α → β) :
    ((action >>= fun a => pure (word a)) m site).events = (action m site).events := by
  show (andThen action _ m site).events = _
  rw [andThen]
  split
  · rename_i h
    rw [h]
  · rename_i h
    rw [h]
    exact List.append_nil _

theorem ofChange_site (change : Moment → FileSystem → Registry → Registry.Change α) :
    (ofChange change m site).site = site.changed (change m site.files site.registry) := rfl

theorem ofChange_result (change : Moment → FileSystem → Registry → Registry.Change α) :
    (ofChange change m site).result = (change m site.files site.registry).result := rfl

/-- A change whose failure or success is reported. -/
theorem reported_site {change : Moment → FileSystem → Registry → Registry.Change α}
    {event? : HookError → Option Event} {event : α → Event} :
    (((do
      let a ← reportFailure event? (ofChange change)
      report (event a)
      pure a) : Action α) m site).site = site.changed (change m site.files site.registry) := by
  rw [bind_site, reportFailure_site, ofChange_site]
  split
  · rw [bind_site]
    rfl
  · rfl

theorem reported_result {change : Moment → FileSystem → Registry → Registry.Change α}
    {event? : HookError → Option Event} {event : α → Event} :
    (((do
      let a ← reportFailure event? (ofChange change)
      report (event a)
      pure a) : Action α) m site).result = (change m site.files site.registry).result := by
  rw [bind_result, reportFailure_result, ofChange_result]
  cases (change m site.files site.registry).result with
  | error e => rfl
  | ok a =>
    dsimp only
    rw [bind_result]
    rfl

end Action

end Flagpost
