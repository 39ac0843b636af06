import OpenPool.Library.Table

/-! # Leases

A history of leases on items, the latest event first. Whoever acquired an item last holds it,
until it is released. -/

namespace Lease

inductive Event (Id Worker Handle : Type*) where
  | acquired (id : Id) (worker : Worker) (handle : Handle)
  | released (id : Id)
  deriving DecidableEq

variable {Id Worker Handle Row : Type*}

def Event.id : Event Id Worker Handle → Id
  | acquired id _ _ => id
  | released id => id

variable [DecidableEq Id] {id : Id} {worker : Worker} {handle : Handle}
  {event : Event Id Worker Handle} {history : List (Event Id Worker Handle)}

/-- Who holds the item, with the handle of the acquisition. -/
def holder (id : Id) : List (Event Id Worker Handle) → Option (Worker × Handle)
  | [] => none
  | .acquired other worker handle :: history =>
      if other = id then some (worker, handle) else holder id history
  | .released other :: history => if other = id then none else holder id history

/-- The handle of the worker's latest acquisition of the item. -/
def latestHandle [DecidableEq Worker] (id : Id) (worker : Worker) :
    List (Event Id Worker Handle) → Option Handle
  | [] => none
  | .acquired other owner handle :: history =>
      if other = id ∧ owner = worker then some handle else latestHandle id worker history
  | .released _ :: history => latestHandle id worker history

@[simp] theorem holder_acquired :
    holder id (.acquired id worker handle :: history) = some (worker, handle) :=
  if_pos rfl

@[simp] theorem holder_released :
    holder id (.released id :: history : List (Event Id Worker Handle)) = none :=
  if_pos rfl

theorem holder_cons_of_ne (h : event.id ≠ id) : holder id (event :: history) = holder id history := by
  cases event with
  | acquired other worker handle => exact if_neg h
  | released other => exact if_neg h

theorem holder_of_fresh (h : ∀ event ∈ history, event.id ≠ id) : holder id history = none := by
  induction history with
  | nil => rfl
  | cons event history ih =>
      rw [holder_cons_of_ne (h event (List.mem_cons_self ..))]
      exact ih fun other hmem => h other (List.mem_cons_of_mem _ hmem)

/-- The holder acquired the item, and nothing has happened to the item since. -/
theorem holder_eq_some_iff : holder id history = some (worker, handle) ↔
    ∃ later earlier, history = later ++ .acquired id worker handle :: earlier ∧
      ∀ event ∈ later, event.id ≠ id := by
  constructor
  · intro h
    induction history with
    | nil => cases h
    | cons event history ih =>
        by_cases hid : event.id = id
        · cases event with
          | acquired other owner given =>
              obtain rfl : other = id := hid
              rw [holder_acquired] at h
              cases h
              exact ⟨[], history, rfl, by simp⟩
          | released other =>
              obtain rfl : other = id := hid
              rw [holder_released] at h
              cases h
        · rw [holder_cons_of_ne hid] at h
          obtain ⟨later, earlier, rfl, hlater⟩ := ih h
          exact ⟨event :: later, earlier, rfl, by simpa using ⟨hid, hlater⟩⟩
  · rintro ⟨later, earlier, rfl, hlater⟩
    induction later with
    | nil => exact holder_acquired
    | cons event later ih =>
        rw [List.cons_append, holder_cons_of_ne (hlater event (List.mem_cons_self ..))]
        exact ih fun other hmem => hlater other (List.mem_cons_of_mem _ hmem)

theorem exists_event_of_holder (h : holder id history = some (worker, handle)) :
    ∃ event ∈ history, event.id = id := by
  obtain ⟨later, earlier, rfl, -⟩ := holder_eq_some_iff.mp h
  exact ⟨.acquired id worker handle, by simp, rfl⟩

/-- The holder's latest handle is the one it holds the item by. -/
theorem latestHandle_of_holder [DecidableEq Worker] (h : holder id history = some (worker, handle)) :
    latestHandle id worker history = some handle := by
  induction history with
  | nil => cases h
  | cons event history ih =>
      cases event with
      | acquired other owner given =>
          by_cases hid : other = id
          · rw [holder, if_pos hid] at h
            cases h
            exact if_pos ⟨hid, rfl⟩
          · rw [holder, if_neg hid] at h
            rw [latestHandle, if_neg fun hboth => hid hboth.1]
            exact ih h
      | released other =>
          by_cases hid : other = id
          · rw [holder, if_pos hid] at h
            cases h
          · rw [holder, if_neg hid] at h
            exact ih h

/-! ## Rows that record the leases -/

/-- Each row shows the lease its item is under, and every event is about a row. -/
structure Recorded (key : Row → Id) (lease : Row → Option (Worker × Handle)) (rows : List Row)
    (history : List (Event Id Worker Handle)) : Prop where
  lease_eq : ∀ row ∈ rows, holder (key row) history = lease row
  known : ∀ event ∈ history, ∃ row ∈ rows, key row = event.id

variable {key : Row → Id} {lease : Row → Option (Worker × Handle)} {rows rows' : List Row}
  {old new : Row}

/-- An item that nobody has leased is added. -/
theorem Recorded.add (h : Recorded key lease rows history)
    (hrows : ∀ row, row ∈ rows' ↔ row ∈ rows ∨ row = new)
    (hnew : ∀ row ∈ rows, key row ≠ key new) (hlease : lease new = none) :
    Recorded key lease rows' history where
  lease_eq row hmem := by
    rcases (hrows row).mp hmem with hold | rfl
    · exact h.lease_eq row hold
    · rw [hlease]
      apply holder_of_fresh
      intro event hevent heq
      obtain ⟨other, hother, hkey⟩ := h.known event hevent
      exact hnew other hother (hkey.trans heq)
  known event hevent := by
    obtain ⟨row, hmem, hkey⟩ := h.known event hevent
    exact ⟨row, (hrows row).mpr (.inl hmem), hkey⟩

/-- A row changes and its lease stays. -/
theorem Recorded.keep (h : Recorded key lease rows history)
    (hreplaces : Table.Replaces key rows rows' old new) (hlease : lease new = lease old) :
    Recorded key lease rows' history where
  lease_eq row hmem := by
    rcases (hreplaces.mem_iff row).mp hmem with rfl | ⟨hold, -⟩
    · rw [hreplaces.key_eq, hlease]
      exact h.lease_eq old hreplaces.old_mem
    · exact h.lease_eq row hold
  known event hevent := by
    obtain ⟨row, hmem, hkey⟩ := h.known event hevent
    obtain ⟨row', hmem', hkey'⟩ := hreplaces.key_mem hmem
    exact ⟨row', hmem', hkey'.trans hkey⟩

/-- A row changes with an event about its item. -/
theorem Recorded.record (h : Recorded key lease rows history)
    (hreplaces : Table.Replaces key rows rows' old new) (hid : event.id = key old)
    (hlease : holder (key old) (event :: history) = lease new) :
    Recorded key lease rows' (event :: history) where
  lease_eq row hmem := by
    rcases (hreplaces.mem_iff row).mp hmem with rfl | ⟨hold, hne⟩
    · rw [hreplaces.key_eq, hlease]
    · rw [holder_cons_of_ne fun heq => hne (heq.symm.trans hid)]
      exact h.lease_eq row hold
  known other hother := by
    rcases List.mem_cons.mp hother with rfl | hother
    · exact ⟨new, hreplaces.new_mem, hreplaces.key_eq.trans hid.symm⟩
    · obtain ⟨row, hmem, hkey⟩ := h.known other hother
      obtain ⟨row', hmem', hkey'⟩ := hreplaces.key_mem hmem
      exact ⟨row', hmem', hkey'.trans hkey⟩

/-- The holder of an item is the owner its row shows, with the handle that reads as the row. -/
theorem Recorded.holder_iff {owner : Row → Option Worker} {given : Row → Handle}
    (h : Recorded key (fun row => (owner row).map fun worker => (worker, given row)) rows history) :
    holder id history = some (worker, handle) ↔
      ∃ row ∈ rows, key row = id ∧ owner row = some worker ∧ handle = given row := by
  constructor
  · intro hholder
    obtain ⟨event, hevent, rfl⟩ := exists_event_of_holder hholder
    obtain ⟨row, hmem, hkey⟩ := h.known event hevent
    have hlease := h.lease_eq row hmem
    rw [hkey, hholder] at hlease
    obtain ⟨other, howner, hpair⟩ := Option.map_eq_some_iff.mp hlease.symm
    cases hpair
    exact ⟨row, hmem, hkey, howner, rfl⟩
  · rintro ⟨row, hmem, rfl, howner, rfl⟩
    rw [h.lease_eq row hmem, howner]
    rfl

end Lease
