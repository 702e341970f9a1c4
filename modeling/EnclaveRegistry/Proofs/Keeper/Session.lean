import EnclaveRegistry.Keeper.Basic
import EnclaveRegistry.Proofs.Store.Memory

/-! # What a trace tells

Everything that happens in a session is an event of its trace, so that the store after a
transaction is the store before it with the entries written that its events tell of.
-/
namespace EnclaveRegistry

variable {σ α β : Type}

namespace Transaction

section

variable {ε τ : Type}

theorem run_pure (a : α) (state : τ) :
    (pure a : ExceptT ε (StateM τ) α).run state = (.ok a, state) := rfl

theorem run_ofExcept {x result : Except ε α} (h : x = result) (state : τ) :
    (ofExcept x : ExceptT ε (StateM τ) α).run state = (result, state) := by
  subst h
  cases x <;> rfl

theorem run_bind_ok {t : ExceptT ε (StateM τ) α} {f : α → ExceptT ε (StateM τ) β} {state mid : τ}
    {a : α} (h : t.run state = (.ok a, mid)) : (t >>= f).run state = (f a).run mid := by
  change ExceptT.bindCont f (t.run state).1 (t.run state).2 = _
  rw [h]
  rfl

theorem run_bind_error {t : ExceptT ε (StateM τ) α} {f : α → ExceptT ε (StateM τ) β}
    {state mid : τ} {error : ε} (h : t.run state = (.error error, mid)) :
    (t >>= f).run state = (.error error, mid) := by
  change ExceptT.bindCont f (t.run state).1 (t.run state).2 = _
  rw [h]
  rfl

theorem run_map {t : ExceptT ε (StateM τ) α} {f : α → β} {state mid : τ} {result : Except ε α}
    (h : t.run state = (result, mid)) : (f <$> t).run state = (result.map f, mid) := by
  rw [← bind_pure_comp]
  cases result with
  | ok a => rw [run_bind_ok h, run_pure, Except.map]
  | error error => rw [run_bind_error h, Except.map]

theorem run_adapt {ε' : Type} {t : ExceptT ε (StateM τ) α} (f : ε → ε') {state mid : τ}
    {result : Except ε α} (h : t.run state = (result, mid)) :
    (ExceptT.adapt f t).run state = (result.mapError f, mid) := by
  change (Except.mapError f (t.run state).1, (t.run state).2) = _
  rw [h]

end

theorem run_refuse (error : KeeperError) (session : Session σ) :
    (refuse error : Transaction σ α).run session = (.error error, session) := rfl

theorem run_store (session : Session σ) : store.run session = (.ok session.store, session) := rfl

theorem run_discard {t : Transaction σ α} {session mid : Session σ} {a : α}
    (h : t.run session = (.ok a, mid)) : (discard t).run session = (.ok (), mid) :=
  run_map (f := fun _ => ()) h

end Transaction

def Event.entry? : Event → Option Entry
  | wrote key value => some (key, value)
  | noticed _ => none
  | called _ => none

def Event.entries (events : List Event) : List Entry := events.filterMap Event.entry?

@[simp] theorem Event.entries_nil : entries [] = [] := rfl

@[simp] theorem Event.entries_wrote (key value : Bytes) (events : List Event) :
    entries (wrote key value :: events) = (key, value) :: entries events := rfl

@[simp] theorem Event.entries_noticed (n : Notice) (events : List Event) :
    entries (noticed n :: events) = entries events := rfl

@[simp] theorem Event.entries_called (c : EnclaveCall) (events : List Event) :
    entries (called c :: events) = entries events := rfl

@[simp] theorem Event.entries_append (a b : List Event) :
    entries (a ++ b) = entries a ++ entries b := List.filterMap_append

variable [KeyValueStore σ]

/-- A store after entries have been written to it one after the other. -/
def writeAll (store : σ) (entries : List Entry) : σ :=
  entries.foldl (fun store entry => KeyValueStore.set store entry.1 entry.2) store

@[simp] theorem writeAll_nil (store : σ) : writeAll store [] = store := rfl

@[simp] theorem writeAll_cons (store : σ) (entry : Entry) (entries : List Entry) :
    writeAll store (entry :: entries) =
      writeAll (KeyValueStore.set store entry.1 entry.2) entries := rfl

@[simp] theorem writeAll_append (store : σ) (a b : List Entry) :
    writeAll store (a ++ b) = writeAll (writeAll store a) b := List.foldl_append

namespace MemoryStore

theorem get?_writeAll_congr {a b : MemoryStore} {key : Bytes}
    (h : KeyValueStore.get? a key = KeyValueStore.get? b key) (entries : List Entry) :
    KeyValueStore.get? (writeAll a entries) key = KeyValueStore.get? (writeAll b entries) key := by
  induction entries generalizing a b with
  | nil => exact h
  | cons entry rest ih =>
    refine ih ?_
    rw [get?_set, get?_set, h]

theorem get?_writeAll_of_forall_ne {entries : List Entry} {key : Bytes}
    (h : ∀ entry ∈ entries, entry.1 ≠ key) (store : MemoryStore) :
    KeyValueStore.get? (writeAll store entries) key = KeyValueStore.get? store key := by
  induction entries generalizing store with
  | nil => rfl
  | cons entry rest ih =>
    have hhead : key ≠ entry.1 := (h entry List.mem_cons_self).symm
    have hrest := ih fun other hother => h other (List.mem_cons_of_mem entry hother)
    rw [writeAll_cons, hrest, get?_set_of_ne store entry.2 hhead]

/-- Of the entries under one key the last one counts. -/
theorem get?_writeAll_last (store : MemoryStore) (before : List Entry) {after : List Entry}
    {key value : Bytes} (h : ∀ entry ∈ after, entry.1 ≠ key) :
    KeyValueStore.get? (writeAll store (before ++ (key, value) :: after)) key = some value := by
  rw [writeAll_append, writeAll_cons, get?_writeAll_of_forall_ne h, get?_set_self]

/-- Nothing is ever removed. -/
theorem isSome_get?_writeAll {store : MemoryStore} {key : Bytes}
    (h : (KeyValueStore.get? store key).isSome) (entries : List Entry) :
    (KeyValueStore.get? (writeAll store entries) key).isSome := by
  induction entries generalizing store with
  | nil => exact h
  | cons entry rest ih =>
    refine ih ?_
    rw [get?_set]
    split
    · rfl
    · exact h

theorem isSome_get?_writeAll_of_mem {entries : List Entry} {entry : Entry}
    (h : entry ∈ entries) (store : MemoryStore) :
    (KeyValueStore.get? (writeAll store entries) entry.1).isSome := by
  obtain ⟨before, after, rfl⟩ := List.append_of_mem h
  rw [writeAll_append, writeAll_cons]
  refine isSome_get?_writeAll ?_ after
  rw [get?_set_self]
  rfl

end MemoryStore

namespace Session

def after (session : Session σ) (events : List Event) : Session σ :=
  ⟨writeAll session.store (Event.entries events), session.trace ++ events⟩

@[simp] theorem after_nil (session : Session σ) : session.after [] = session := by
  simp [after]

@[simp] theorem after_after (session : Session σ) (a b : List Event) :
    (session.after a).after b = session.after (a ++ b) := by
  simp [after]

theorem after_store_of_entries_eq_nil (session : Session σ) {events : List Event}
    (h : Event.entries events = []) : (session.after events).store = session.store := by
  rw [after, h]
  rfl

end Session

namespace Transaction

theorem run_notice (n : Notice) (session : Session σ) :
    (notice n).run session = (.ok (), session.after [.noticed n]) := rfl

theorem run_write (key value : Bytes) (session : Session σ) :
    (write key value).run session = (.ok (), session.after [.wrote key value]) := rfl

theorem run_call_ok (c : EnclaveCall) (a : α) (session : Session σ) :
    (call c (.ok a)).run session = (.ok a, session.after [.called c]) := rfl

theorem run_call_error (c : EnclaveCall) (error : EnclaveError) (session : Session σ) :
    (call c (.error error) : Transaction σ α).run session =
      (.error (.enclave error), session.after [.called c]) := rfl

end Transaction
end EnclaveRegistry
