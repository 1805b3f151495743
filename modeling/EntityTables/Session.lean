/-
# EntityTables.Session — a registry together with a storage

The state that the typed operations and the operations by identifier work on. A session is itself a
gateway: what is asked of it goes to its storage.
-/
import EntityTables.Registry

namespace EntityTables

set_option autoImplicit false

/-- A registry and a storage. -/
structure Session (σ : Type) where
  registry : Registry
  storage : σ

namespace Session

variable {σ α : Type}

/-- A step on the registry. -/
def onRegistry (action : Action Registry α) : Action (Session σ) α :=
  action.within Session.registry fun session registry => { session with registry := registry }

/-- A step on the storage. -/
def onStorage (action : Action σ α) : Action (Session σ) α :=
  action.within Session.storage fun session storage => { session with storage := storage }

end Session

instance {σ : Type} [Gateway σ] : Gateway (Session σ) where
  execute text := Session.onStorage (Gateway.execute text)
  insertRow table values := Session.onStorage (Gateway.insertRow table values)
  updateRows table values predicate :=
    Session.onStorage (Gateway.updateRows table values predicate)
  deleteRows table predicate := Session.onStorage (Gateway.deleteRows table predicate)
  queryRows table columns predicate order? :=
    Session.onStorage (Gateway.queryRows table columns predicate order?)
  rawQuery text args := Session.onStorage (Gateway.rawQuery text args)
  openTransaction := Session.onStorage Gateway.openTransaction
  commit := Session.onStorage Gateway.commit
  rollback := Session.onStorage Gateway.rollback

end EntityTables
