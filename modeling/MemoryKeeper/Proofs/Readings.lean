import MemoryKeeper.Proofs.Rollback

/-!
# Commands that only read

Listings and views of memories answer from the files and leave the world as it
is. The other commands that only read ask git to print something, so they leave
whatever git leaves when it is asked that.
-/

namespace MemoryKeeper

open MemoryKeeper.Path (Location)

namespace Session

variable {session : Session} {region : Location → Prop} {holder : Holder} {world : World}
  {command : Command} {entry : MemoryEntry}

theorem perform_list (asked : Option Symbol) :
    (session.execute (.list asked)).perform holder world =
      (.ok (.list asked ((session.storage.list world.files asked).map MemoryEntry.listed)),
        world) := by
  rw [execute, list, Task.perform_observe]

theorem perform_view_of_some {reference : String}
    (resolved : session.storage.resolve? world.files reference = some entry) :
    (session.execute (.view reference)).perform holder world =
      (((session.storage.textOf world.files entry).map
        (.view reference (some entry.relativePath))).mapError .store, world) := by
  rw [execute, view, Task.perform_bind, resolve?, Task.perform_observe]
  simp only [resolved]
  rw [Task.perform_bind, perform_read]
  cases session.storage.textOf world.files entry with
  | error failure => rfl
  | ok text => simp only [Except.mapError_ok, Task.perform_pure, Except.map]

theorem spares_log (depth : Depth) (options : List String) (path : String) :
    (session.log depth options path).Spares session.isPassive region := by
  rw [log]
  apply spares_head.bind
  intro found
  cases found with
  | none => exact Task.spares_pure _
  | some identifier =>
      apply (spares_git (isPassive_invocation (by decide) (by decide)) [0]).bind
      intro printed
      exact Task.spares_pure _

theorem spares_rejectOptionLike (revision : String) :
    (liftM (rejectOptionLike revision) : Task ExecutionError Unit).Spares
      session.isPassive region := by
  apply Task.spares_of_unchanged
  intro _ _
  rw [Task.perform_liftM]

theorem spares_resolve? (reference : String) :
    (session.resolve? reference).Spares session.isPassive region := by
  apply Task.spares_of_unchanged
  intro _ _
  rw [resolve?, Task.perform_observe]

/-- A command that only reads calls git for no change of a memory. -/
theorem spares_of_reads (reads : ¬command.operation.isMutating) :
    (session.execute command).Spares session.isPassive region := by
  cases command with
  | search query depth =>
      rw [execute, search]
      apply (spares_git (isPassive_invocation (by decide) (by decide)) _).bind
      intro found
      apply (spares_log _ _ _).bind
      intro commits
      exact Task.spares_pure _
  | view reference =>
      rw [execute, view]
      apply (spares_resolve? reference).bind
      intro named
      cases named with
      | some entry =>
          apply Task.Spares.bind
          · apply Task.spares_of_unchanged
            intro _ _
            rw [perform_read]
          · intro text
            exact Task.spares_pure _
      | none =>
          apply (spares_rejectOptionLike reference).bind
          intro _
          apply (spares_git (isPassive_invocation (by decide) (by decide)) _).bind
          intro shown
          exact Task.spares_pure _
  | history path depth =>
      rw [execute, history]
      apply (spares_resolve? path).bind
      intro entry
      apply (spares_log _ _ _).bind
      intro commits
      exact Task.spares_pure _
  | diff older newer =>
      rw [execute, diff]
      apply (spares_rejectOptionLike older).bind
      intro _
      apply (spares_rejectOptionLike newer).bind
      intro _
      apply (spares_git (isPassive_invocation (by decide) (by decide)) _).bind
      intro printed
      exact Task.spares_pure _
  | list asked =>
      apply Task.spares_of_unchanged
      intro _ _
      rw [perform_list]
  | create symbol slug content => exact absurd rfl reads
  | update reference content => exact absurd rfl reads
  | delete reference => exact absurd rfl reads

end Session

end MemoryKeeper
