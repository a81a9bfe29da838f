import MockProxy.QueryCache.Consistency

/-!
# Readers of an entry

`get` takes a reference to the entry it finds under the lock of the table, copies the value without
the lock and gives the reference back with an atomic decrement. `set` replaces an entry, and
`purge_some` frees entries, under the lock. The steps below are these lock sections; the loop of
`purge_some` is one step an entry, so that references can be given back while it runs.

The current entry of a key has one reference more than readers (`References.current`). A replaced
one does not: with one reader its count is 1, which `purge_some` takes for unused.
-/

namespace MockProxy.QueryCache

open DataStream Machine

/-- A `purge_some` that holds the lock of a table, at an index of its second loop. -/
structure Purging where
  sweep : Sweep
  index : Nat
  purged : Purged

structure World where
  cache : Cache
  -- for each `get` between its lookup and the end of its copy, the entry it looked up
  readers : List Nat
  purging : TableId → Option Purging

/-- A step that is not possible now, or that uses freed memory. -/
inductive Stop where
  | waits
  | faults (f : Fault)

inductive Action where
  | set (key : Nat) (value : List Byte) (createMs curtimeMs expireMs : Nat) (deprecateEof : Bool)
  | lookup (key : Nat)
  | copy (reader : Nat) (r : Request)
  | giveBack (reader : Nat)
  | startPurge (i : TableId) (s : Sweep)
  | examine (i : TableId)
  | endPurge (i : TableId)

namespace World

def start : World := ⟨.start, [], fun _ => none⟩

def locked {α : Type} (w : World) (i : TableId) (body : Except Fault α) : Except Stop α :=
  match w.purging i with
  | some _ => .error .waits
  | none => body.mapError .faults

def reading {α : Type} (w : World) (reader : Nat) (use : Nat → Except Fault α) : Except Stop α :=
  match w.readers[reader]? with
  | none => .error .waits
  | some id => (use id).mapError .faults

def sweeping {α : Type} (w : World) (i : TableId) (next : Purging → Except Stop α) :
    Except Stop α :=
  match w.purging i with
  | none => .error .waits
  | some p => next p

/-- The next iteration of the second loop of `purge_some`. -/
def examine (w : World) (i : TableId) (p : Purging) : Except Stop World := do
  let examined ← (w.cache.examine p.sweep i p.index).mapError Stop.faults
  let next : Purging := match examined.1 with
    | some length =>
      { p with purged := ⟨p.purged.removedEntries + 1, p.purged.freedMemory + length⟩ }
    | none => { p with index := p.index + 1 }
  return { w with cache := examined.2, purging := Function.update w.purging i (some next) }

/-- The lock is released and the counters are updated. -/
def endPurge (w : World) (i : TableId) (p : Purging) : Except Stop World :=
  if p.index < (w.cache.tables i).ptrArray.length then .error .waits
  else return { w with
    cache := { w.cache with
      numEntries := w.cache.numEntries - p.purged.removedEntries
      sizeValues := w.cache.sizeValues - p.purged.freedMemory }
    purging := Function.update w.purging i none }

/-- The first loop of `purge_some` only reads, so whatever it found is taken as the input of the
second one. -/
def step (w : World) : Action → Except Stop World
  | .set key value createMs curtimeMs expireMs deprecateEof => do
    let c ← w.locked (tableOf key)
      (w.cache.set key value createMs curtimeMs expireMs deprecateEof)
    return { w with cache := c }
  | .lookup key => do
    let found ← w.locked (tableOf key) (w.cache.lookup key)
    return { w with cache := found.2, readers := w.readers ++ found.1.toList }
  | .copy reader r => do
    let copied ← w.reading reader fun id => w.cache.copy id r
    return { w with cache := copied.2 }
  | .giveBack reader => do
    let c ← w.reading reader w.cache.giveBack
    return { w with cache := c, readers := w.readers.eraseIdx reader }
  | .startPurge i s => do
    let _ ← w.locked i (.ok ())
    return { w with purging := Function.update w.purging i (some ⟨s, 0, ⟨0, 0⟩⟩) }
  | .examine i => w.sweeping i (w.examine i)
  | .endPurge i => w.sweeping i (w.endPurge i)

/-- An entry that a purge looks at while one `get` reads it is the current one of its key. -/
def Meets (w : World) : Action → Prop
  | .examine i => ∀ p id e, w.purging i = some p →
      (w.cache.tables i).ptrArray[p.index]? = some id → w.cache.heap id = some e →
      w.readers.count id = 1 → (w.cache.tables i).btMap.lookup e.key = some id
  | _ => True

/-! ### The reference counts -/

structure References (c : Cache) (readers : List Nat) : Prop where
  sound : c.Sound
  current : ∀ i key id e, (c.tables i).btMap.lookup key = some id → c.heap id = some e →
    e.refCount = 1 + readers.count id
  enough : ∀ id e, c.heap id = some e → readers.count id ≤ e.refCount
  alive : ∀ id ∈ readers, ∃ e, c.heap id = some e

namespace References

open Cache

variable {c c' : Cache} {readers readers' : List Nat} {id key : Nat} {e : QcEntry} {i : TableId}

section

variable (refs : References c readers)

include refs

theorem put {old : QcEntry} (found : c.heap id = some old)
    (rewrites : Rewrites old e) (others : ∀ id', id' ≠ id → readers'.count id' = readers.count id')
    (current : ∀ i key, (c.tables i).btMap.lookup key = some id →
      e.refCount = 1 + readers'.count id)
    (enough : readers'.count id ≤ e.refCount) : References (c.put id e) readers' := by
  constructor
  · exact Sound.put c id old e refs.sound found rewrites
  · intro i key id' e' mapped found'
    by_cases same : id' = id
    · subst same
      rw [heap_put_self] at found'
      cases found'
      exact current i key mapped
    · rw [heap_put_of_ne c same] at found'
      rw [others id' same]
      exact refs.current i key id' e' mapped found'
  · intro id' e' found'
    by_cases same : id' = id
    · subst same
      rw [heap_put_self] at found'
      cases found'
      exact enough
    · rw [heap_put_of_ne c same] at found'
      rw [others id' same]
      exact refs.enough id' e' found'
  · intro id' reader
    by_cases same : id' = id
    · subst same
      exact ⟨e, heap_put_self c id' e⟩
    · rw [heap_put_of_ne c same]
      apply refs.alive
      rwa [← List.count_pos_iff, ← others id' same, List.count_pos_iff]

theorem add (keyed : e.key = key) : References (c.add key e) readers := by
  have unread : readers.count c.fresh = 0 := by
    apply List.count_eq_zero.mpr
    intro reader
    obtain ⟨e', found⟩ := refs.alive c.fresh reader
    exact (refs.sound.lt_fresh found).false
  have new : (c.add key e).heap c.fresh = some { e with refCount := 1 } := Function.update_self ..
  have old {id : Nat} (other : id ≠ c.fresh) : (c.add key e).heap id = c.heap id :=
    Function.update_of_ne other ..
  constructor
  · exact refs.sound.add keyed
  · intro i k id e' mapped found
    rw [lookup_add] at mapped
    split at mapped
    · cases mapped
      cases Option.some.inj (new.symm.trans found)
      rw [unread]
    · obtain ⟨-, e'', there, -⟩ := refs.sound.mapped i k id mapped
      rw [old (refs.sound.lt_fresh there).ne] at found
      exact refs.current i k id e' mapped found
  · intro id e' found
    by_cases same : id = c.fresh
    · rw [same, unread]
      exact Nat.zero_le _
    · rw [old same] at found
      exact refs.enough id e' found
  · intro id reader
    obtain ⟨e', found⟩ := refs.alive id reader
    exact ⟨e', refs.sound.heap_add_of_some found⟩

/-- The replaced entry loses the reference of the map, which does not lead to it any more. -/
theorem replace (keyed : e.key = key)
    (done : c.replace key e = .ok c') : References c' readers := by
  have added := refs.add keyed
  unfold Cache.replace at done
  split at done
  · cases done
    exact added
  next old mapped =>
    obtain ⟨e', found, rfl⟩ := modify_eq_ok.mp done
    obtain ⟨-, e'', before, named⟩ := refs.sound.mapped _ key old mapped
    obtain rfl : e' = e'' := by
      have still : (c.add key e).heap old = some e'' := refs.sound.heap_add_of_some before
      exact Option.some.inj (found.symm.trans still)
    have count := refs.current _ key old e' mapped before
    apply added.put found
    · exact ⟨rfl, rfl, .inr rfl⟩
    · intro id _
      rfl
    · intro i k again
      rw [lookup_add] at again
      split at again
      · cases again
        exact absurd rfl (refs.sound.lt_fresh before).ne
      next other =>
        obtain ⟨member', e'', before', named'⟩ := refs.sound.mapped i k old again
        cases Option.some.inj (before.symm.trans before')
        have here := refs.sound.home member' before
        rw [named] at here named'
        exact absurd ⟨here.symm, named'.symm⟩ other
    · change readers.count old ≤ e'.refCount - 1
      omega

theorem lookup {found : Option Nat}
    (done : c.lookup key = .ok (found, c')) : References c' (readers ++ found.toList) := by
  unfold Cache.lookup at done
  split at done
  · cases done
    rwa [Option.toList_none, List.append_nil]
  next id mapped =>
    obtain ⟨next, modified, ⟨⟩⟩ := return_eq_ok.mp done
    obtain ⟨e, there, rfl⟩ := modify_eq_ok.mp modified
    have count := refs.current _ key id e mapped there
    have more : (readers ++ [id]).count id = readers.count id + 1 := by simp
    apply refs.put there
    · exact ⟨rfl, rfl, .inl rfl⟩
    · intro id' other
      simp [Ne.symm other]
    · intro i k _
      change e.refCount + 1 = 1 + (readers ++ [id]).count id
      omega
    · change (readers ++ [id]).count id ≤ e.refCount + 1
      omega

theorem copy {r : Request} {result : Option (Block × Nat)}
    (done : c.copy id r = .ok (result, c')) : References c' readers := by
  obtain ⟨e, e', found, served, rfl⟩ := copy_eq_ok.mp done
  obtain ⟨rewrites, same⟩ := serve_rewrites served
  apply refs.put found rewrites
  · intro id' _
    rfl
  · intro i key mapped
    rw [same]
    exact refs.current i key id e mapped found
  · rw [same]
    exact refs.enough id e found

theorem giveBack {reader : Nat} (reads : readers[reader]? = some id)
    (done : c.giveBack id = .ok c') : References c' (readers.eraseIdx reader) := by
  obtain ⟨bound, rfl⟩ := List.getElem?_eq_some_iff.mp reads
  obtain ⟨e, found, rfl⟩ := modify_eq_ok.mp done
  -- one reader fewer
  have counts (id : Nat) := (List.getElem_cons_eraseIdx_perm bound).count_eq id
  have fewer := counts readers[reader]
  rw [List.count_cons_self] at fewer
  have enough := refs.enough _ e found
  apply refs.put found
  · exact ⟨rfl, rfl, .inl rfl⟩
  · intro id' other
    rw [← counts id', List.count_cons_of_ne other.symm]
  · intro i key mapped
    have current := refs.current i key _ e mapped found
    change e.refCount - 1 = _
    omega
  · change _ ≤ e.refCount - 1
    omega

theorem release {index : Nat}
    (there : (c.tables i).ptrArray[index]? = some id) (found : c.heap id = some e)
    (unread : id ∉ readers) : References (c.release i index id e.key) readers := by
  constructor
  · exact refs.sound.release there found
  · intro j key id' e' mapped found'
    rw [lookup_release] at mapped
    split at mapped
    · cases mapped
    · exact refs.current j key id' e' mapped (heap_of_release c found').2
  · intro id' e' found'
    exact refs.enough id' e' (heap_of_release c found').2
  · intro id' reader
    have other : id' ≠ id := fun same => unread (same ▸ reader)
    rw [heap_release_of_ne c i other]
    exact refs.alive id' reader

/-- A purge frees what has no reader: two readers are too many references, and one reader of the
current entry as well. -/
theorem unread_of_drops {s : Sweep} (found : c.heap id = some e) (drops : s.drops e)
    (meets : readers.count id = 1 → (c.tables i).btMap.lookup e.key = some id) : id ∉ readers := by
  have unused : e.refCount ≤ 1 := (of_decide_eq_true drops).1
  have enough := refs.enough id e found
  apply List.count_eq_zero.mp
  by_contra read
  have current := refs.current i e.key id e (meets (by omega)) found
  omega

theorem examine {s : Sweep} {index : Nat} {freed : Option Nat}
    (done : c.examine s i index = .ok (freed, c'))
    (meets : ∀ id e, (c.tables i).ptrArray[index]? = some id → c.heap id = some e →
      readers.count id = 1 → (c.tables i).btMap.lookup e.key = some id) :
    References c' readers := by
  obtain ⟨id, e, there, found, ⟨drops, -, rfl⟩ | ⟨-, -, rfl⟩⟩ := examine_eq_ok.mp done
  · exact refs.release there found (refs.unread_of_drops found drops (meets id e there found))
  · exact refs

end

end References

/-! ### Every interleaving -/

variable {w w' : World} {α : Type} {a : α} {i : TableId}

theorem mapError_eq_ok {e : Except Fault α} : e.mapError Stop.faults = .ok a ↔ e = .ok a := by
  cases e with
  | error f => simp [Except.mapError]
  | ok b => simp [Except.mapError]

theorem of_locked {body : Except Fault α} (done : w.locked i body = .ok a) : body = .ok a := by
  unfold locked at done
  split at done
  · cases done
  · exact mapError_eq_ok.mp done

theorem of_reading {reader : Nat} {use : Nat → Except Fault α}
    (done : w.reading reader use = .ok a) :
    ∃ id, w.readers[reader]? = some id ∧ use id = .ok a := by
  unfold reading at done
  split at done
  · cases done
  next id reads =>
    exact ⟨id, reads, mapError_eq_ok.mp done⟩

theorem of_sweeping {next : Purging → Except Stop α} (done : w.sweeping i next = .ok a) :
    ∃ p, w.purging i = some p ∧ next p = .ok a := by
  unfold sweeping at done
  split at done
  · cases done
  next p purging =>
    exact ⟨p, purging, done⟩

theorem step_references {a : Action} (refs : References w.cache w.readers) (meets : w.Meets a)
    (stepped : w.step a = .ok w') : References w'.cache w'.readers := by
  cases a with
  | set key value createMs curtimeMs expireMs deprecateEof =>
    obtain ⟨c, done, rfl⟩ := return_eq_ok.mp stepped
    obtain ⟨e, made, replaced⟩ := bind_eq_ok.mp (of_locked done)
    exact refs.replace (Cache.newEntry_key made) replaced
  | lookup key =>
    obtain ⟨found, done, rfl⟩ := return_eq_ok.mp stepped
    exact refs.lookup (of_locked done)
  | copy reader r =>
    obtain ⟨copied, done, rfl⟩ := return_eq_ok.mp stepped
    obtain ⟨id, -, copying⟩ := of_reading done
    exact refs.copy copying
  | giveBack reader =>
    obtain ⟨c, done, rfl⟩ := return_eq_ok.mp stepped
    obtain ⟨id, reads, given⟩ := of_reading done
    exact refs.giveBack reads given
  | startPurge i s =>
    obtain ⟨-, -, rfl⟩ := return_eq_ok.mp stepped
    exact refs
  | examine i =>
    obtain ⟨p, purging, done⟩ := of_sweeping stepped
    obtain ⟨examined, examining, rfl⟩ := return_eq_ok.mp done
    exact refs.examine (mapError_eq_ok.mp examining) fun id e => meets p id e purging
  | endPurge i =>
    obtain ⟨p, purging, done⟩ := of_sweeping stepped
    unfold endPurge at done
    split at done
    · cases done
    · cases done
      obtain ⟨⟨unused, listed, distinct, mapped⟩, current, enough, alive⟩ := refs
      exact ⟨⟨unused, listed, distinct, mapped⟩, current, enough, alive⟩

/-- No entry is freed between the lookup of a `get` and the end of its copy, in every interleaving
in which a purge never looks at a replaced entry that one `get` reads. -/
theorem readers_alive (run : Run step Meets start w) :
    ∀ id ∈ w.readers, ∃ e, w.cache.heap id = some e := by
  have refs : References w.cache w.readers := by
    apply run.invariant fun w => References w.cache w.readers
    · constructor
      · exact Cache.sound_start
      · intro i key id e _ never
        cases never
      · intro id e never
        cases never
      · intro id never
        cases never
    · intro w a w' refs meets stepped
      exact step_references refs meets stepped
  exact refs.alive

/-- The current entry is read while its table is purged. -/
theorem readers_alive_current :
    ∃ w, Run step Meets start w ∧ w.readers = [0] ∧
      ∀ id ∈ w.readers, ∃ e, w.cache.heap id = some e := by
  have set : Run step Meets start _ :=
    .step .start (i := .set 0 oneColumn 1 1 5 true) trivial rfl
  have looked := set.step (i := .lookup 0) (by exact trivial) rfl
  have locked := looked.step (i := .startPurge 0 ⟨10, false, 0⟩) (by exact trivial) rfl
  have examined := locked.step (i := .examine 0) (by
    intro p id e purging there found _
    cases purging
    cases there
    cases found
    rfl) rfl
  exact ⟨_, examined, rfl, readers_alive examined⟩

/-- Replaced while it is read, an entry is freed under its reader. -/
theorem replaced_entry_freed :
    ∃ w, Run step (fun _ _ => True) start w ∧ 0 ∈ w.readers ∧ w.cache.heap 0 = none := by
  have ran : [Action.set 0 oneColumn 1 1 1000 true, .lookup 0, .set 0 oneColumn 2 2 1000 true,
      .startPurge 0 ⟨10, false, 0⟩, .examine 0].foldlM step start = .ok _ := rfl
  exact ⟨_, run_of_foldlM ran, List.mem_singleton_self 0, rfl⟩

end World

end MockProxy.QueryCache
