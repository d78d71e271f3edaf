import Yori.Store.Backend

namespace Yori
open MutationCore

variable {σ : Type} {limits : ValidationConfig} {store : StateStore σ} {content : σ → StoreState}

/-- A store that keeps a log of the writes asked of it, with its answers. -/
def recording (store : StateStore σ) : StateStore (σ × List (StateMutation × StateStoreWriteResult)) where
  load backend :=
    let (loaded, after) := store.load backend.1
    (loaded, after, backend.2)
  apply backend mutation :=
    let (written, after) := store.apply backend.1 mutation
    (written, after, backend.2 ++ [(mutation, written)])

/-- A store that notes whether every read and write asked of it has succeeded so
far. -/
def noting (store : StateStore σ) : StateStore (σ × Bool) where
  load backend :=
    let (loaded, after) := store.load backend.1
    (loaded, after, backend.2 && loaded.isOk)
  apply backend mutation :=
    let (written, after) := store.apply backend.1 mutation
    (written, after, backend.2 && written.code.isNone)

theorem noting_faithful (faithful : Faithful limits store content) :
    Faithful limits (noting store) (fun backend => content backend.1) where
  load_content backend := faithful.load_content backend.1
  load_snapshot backend := faithful.load_snapshot backend.1
  apply_accepted backend := faithful.apply_accepted backend.1
  apply_revision backend := faithful.apply_revision backend.1
  apply_refused backend := faithful.apply_refused backend.1

end Yori
