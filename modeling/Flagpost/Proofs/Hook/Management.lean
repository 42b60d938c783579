import Flagpost.Proofs.Hook.Action
import Flagpost.Proofs.Hook.Change

/-!
# Flagpost — what managing hooks does

Adding and replacing a hook is the check of the hook and then the change of the
registry; removing one is the change alone. One lemma for each operation says
what it leaves of the site and one what it answers, so that nothing later looks
into the operations: a hook with a fault is refused before the registry is
looked at, and what is reported has no part in either.
-/

namespace Flagpost

namespace Service

variable {m : Moment} {site : Site}

theorem check_site (hook : Hook) : (check hook m site).site = site := by
  rw [check, Action.reportFailure_site]
  cases hook.fault? <;> rfl

theorem check_result (hook : Hook) : (check hook m site).result =
    match hook.fault? with
    | some fault => .error (.invalid fault)
    | none => .ok () := by
  rw [check, Action.reportFailure_result]
  cases hook.fault? <;> rfl

theorem createHook_site (hook : Hook) : (createHook hook m site).site =
    match hook.fault? with
    | some _ => site
    | none => site.changed (site.registry.create m site.files hook) := by
  rw [createHook, Action.bind_site, check_result, check_site]
  cases hook.fault? with
  | some fault => rfl
  | none => exact Action.reported_site

theorem createHook_result (hook : Hook) : (createHook hook m site).result =
    match hook.fault? with
    | some fault => .error (.invalid fault)
    | none => (site.registry.create m site.files hook).result := by
  rw [createHook, Action.bind_result, check_result, check_site]
  cases hook.fault? with
  | some fault => rfl
  | none => exact Action.reported_result

theorem updateHook_site (hook : Hook) : (updateHook hook m site).site =
    match hook.fault? with
    | some _ => site
    | none => site.changed (site.registry.update m site.files hook) := by
  rw [updateHook, Action.bind_site, check_result, check_site]
  cases hook.fault? with
  | some fault => rfl
  | none => exact Action.reported_site

theorem updateHook_result (hook : Hook) : (updateHook hook m site).result =
    match hook.fault? with
    | some fault => .error (.invalid fault)
    | none => (site.registry.update m site.files hook).result := by
  rw [updateHook, Action.bind_result, check_result, check_site]
  cases hook.fault? with
  | some fault => rfl
  | none => exact Action.reported_result

theorem deleteHook_site (id : String) : (deleteHook id m site).site =
    site.changed (site.registry.delete m site.files id) := by
  rw [deleteHook, Action.bind_site, Action.reportFailure_site, Action.ofChange_site]
  split <;> rfl

theorem deleteHook_result (id : String) : (deleteHook id m site).result =
    (site.registry.delete m site.files id).result := by
  rw [deleteHook, Action.bind_result, Action.reportFailure_result, Action.ofChange_result]
  cases (site.registry.delete m site.files id).result <;> rfl

end Service

end Flagpost
