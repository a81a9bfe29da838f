import MockProxy.QueryCache.Table

/-!
# What every operation keeps

The operations change the cache by a few elementary updates: an entry is written, added or freed, or
the map of a table is cleared. A property that the updates keep is kept by the operations
(`get_keeps`, `replace_keeps`, `sweep_keeps`, `flush_keeps`); `Sound` is the property all others
rest on.
-/

namespace MockProxy.QueryCache.Cache

open DataStream Machine Function

variable {c c' : Cache}

theorem deref_eq_ok {id : Nat} {e : QcEntry} : c.deref id = .ok e ↔ c.heap id = some e := by
  unfold deref
  split
  next found =>
    simp [found]
  next absent =>
    simp [absent]

theorem modify_eq_ok {id : Nat} {f : QcEntry → QcEntry} :
    c.modify id f = .ok c' ↔ ∃ e, c.heap id = some e ∧ c.put id (f e) = c' := by
  unfold modify
  rw [bind_eq_ok]
  constructor
  · rintro ⟨e, read, written⟩
    exact ⟨e, deref_eq_ok.mp read, Except.ok.inj written⟩
  · rintro ⟨e, found, rfl⟩
    exact ⟨e, deref_eq_ok.mpr found, rfl⟩

/-- What the code writes to an entry: neither its key nor its value, and it expires as before or is
to be dropped. -/
structure Rewrites (old e : QcEntry) : Prop where
  key : e.key = old.key
  value : e.value = old.value
  expireMs : e.expireMs = old.expireMs ∨ e.expireMs = expireDropit

def WriteClosed (P : Cache → Prop) : Prop :=
  ∀ c id old e, P c → c.heap id = some old → Rewrites old e → P (c.put id e)

section Keeps

variable {P : Cache → Prop}

theorem modify_keeps (closed : WriteClosed P) {id : Nat} {f : QcEntry → QcEntry}
    (rewrites : ∀ e, Rewrites e (f e)) (holds : P c) (done : c.modify id f = .ok c') : P c' := by
  obtain ⟨e, found, rfl⟩ := modify_eq_ok.mp done
  exact closed c id e (f e) holds found (rewrites e)

variable {key index : Nat} {e : QcEntry} {r : Request} {result : Option (Block × Nat)} {i : TableId}

theorem replace_keeps (closed : WriteClosed P) (added : P (c.add key e))
    (done : c.replace key e = .ok c') : P c' := by
  unfold replace at done
  split at done
  · cases done
    exact added
  · apply modify_keeps closed _ added done
    intro e
    exact ⟨rfl, rfl, .inr rfl⟩

theorem serve_rewrites {e' : QcEntry} (served : e.serve r = .ok (result, e')) :
    Rewrites e e' ∧ e'.refCount = e.refCount := by
  unfold QcEntry.serve at served
  split at served
  · split at served
    · cases served
      exact ⟨⟨rfl, rfl, .inl rfl⟩, rfl⟩
    · obtain ⟨answer, -, ⟨⟩⟩ := return_eq_ok.mp served
      split
      · exact ⟨⟨rfl, rfl, .inl rfl⟩, rfl⟩
      · exact ⟨⟨rfl, rfl, .inl rfl⟩, rfl⟩
  · cases served
    exact ⟨⟨rfl, rfl, .inl rfl⟩, rfl⟩

theorem copy_eq_ok {id : Nat} : c.copy id r = .ok (result, c') ↔
      ∃ e e', c.heap id = some e ∧ e.serve r = .ok (result, e') ∧ c.put id e' = c' := by
  constructor
  · intro done
    obtain ⟨e, read, done⟩ := bind_eq_ok.mp done
    obtain ⟨served, serve, ⟨⟩⟩ := return_eq_ok.mp done
    exact ⟨e, served.2, deref_eq_ok.mp read, serve, rfl⟩
  · rintro ⟨e, e', found, serve, rfl⟩
    exact bind_eq_ok.mpr ⟨e, deref_eq_ok.mpr found, bind_eq_ok.mpr ⟨(result, e'), serve, rfl⟩⟩

section

variable (closed : WriteClosed P) (holds : P c)

include closed holds

theorem lookup_keeps {found : Option Nat} (done : c.lookup key = .ok (found, c')) : P c' := by
  unfold lookup at done
  split at done
  · cases done
    exact holds
  · obtain ⟨next, modified, ⟨⟩⟩ := return_eq_ok.mp done
    apply modify_keeps closed _ holds modified
    intro e
    exact ⟨rfl, rfl, .inl rfl⟩

theorem get_keeps (done : c.get key r = .ok (result, c')) : P c' := by
  obtain ⟨⟨found, looked⟩, lookedUp, done⟩ := bind_eq_ok.mp done
  have afterLookup : P looked := lookup_keeps closed holds lookedUp
  cases found with
  | none =>
    cases done
    exact afterLookup
  | some id =>
    obtain ⟨⟨copied, between⟩, copying, done⟩ := bind_eq_ok.mp done
    obtain ⟨last, given, ⟨⟩⟩ := return_eq_ok.mp done
    obtain ⟨e, e', there, served, rfl⟩ := copy_eq_ok.mp copying
    have afterCopy := closed looked id e e' afterLookup there (serve_rewrites served).1
    apply modify_keeps closed _ afterCopy given
    intro e
    exact ⟨rfl, rfl, .inl rfl⟩

theorem drop_keeps {ids : List Nat}
    (done : ids.foldlM (fun c id => c.modify id fun e => { e with expireMs := expireDropit }) c =
      .ok c') :
    P c' ∧ c'.tables = c.tables ∧
      ∀ id, (id ∈ ids ∨ ∃ e, c.heap id = some e ∧ e.expireMs = expireDropit) →
        ∃ e, c'.heap id = some e ∧ e.expireMs = expireDropit := by
  induction ids generalizing c with
  | nil =>
    cases done
    refine ⟨holds, rfl, ?_⟩
    rintro id (member | dropped)
    · cases member
    · exact dropped
  | cons first ids ih =>
    obtain ⟨next, modified, done⟩ := bind_eq_ok.mp done
    obtain ⟨e, found, rfl⟩ := modify_eq_ok.mp modified
    have written := closed c first e { e with expireMs := expireDropit } holds found
      ⟨rfl, rfl, .inr rfl⟩
    obtain ⟨kept, tables, dropped⟩ := ih written done
    refine ⟨kept, tables, ?_⟩
    intro id either
    apply dropped
    by_cases same : id = first
    · right
      subst same
      exact ⟨_, update_self .., rfl⟩
    · rcases either with member | ⟨e, there, expired⟩
      · exact .inl ((List.mem_cons.mp member).resolve_left same)
      · exact .inr ⟨e, (update_of_ne same ..).trans there, expired⟩

end

def clear (c : Cache) (i : TableId) : Cache :=
  { c with tables := update c.tables i { c.tables i with btMap := ∅ } }

/-- Kept when the map of a table is cleared all of whose current entries are to be dropped. -/
def ClearClosed (P : Cache → Prop) : Prop :=
  ∀ c i, P c → (∀ key id, (c.tables i).btMap.lookup key = some id →
    ∃ e, c.heap id = some e ∧ e.expireMs = expireDropit) → P (c.clear i)

theorem empty_keeps (closed : WriteClosed P) (clears : ClearClosed P) (holds : P c)
    (done : c.empty i = .ok c') : P c' := by
  obtain ⟨marked, dropping, rfl⟩ := return_eq_ok.mp done
  obtain ⟨kept, tables, dropped⟩ := drop_keeps closed holds dropping
  apply clears marked i kept
  intro key id current
  rw [tables] at current
  apply dropped
  left
  exact List.mem_map.mpr ⟨⟨key, id⟩, AList.mem_lookup_iff.mp current, rfl⟩

theorem flush_keeps (closed : WriteClosed P) (clears : ClearClosed P) {count : Nat} (holds : P c)
    (done : c.flush = .ok (count, c')) : P c' := by
  refine foldlM_invariant done (fun result => P result.2) holds ?_
  rintro i - _ _ holds first
  obtain ⟨emptied, emptying, rfl⟩ := return_eq_ok.mp first
  exact empty_keeps closed clears holds emptying

theorem examine_eq_ok {s : Sweep} {freed : Option Nat} : c.examine s i index = .ok (freed, c') ↔
      ∃ id e, (c.tables i).ptrArray[index]? = some id ∧ c.heap id = some e ∧
        ((s.drops e ∧ freed = some e.value.length ∧ c' = c.release i index id e.key) ∨
          (s.drops e = false ∧ freed = none ∧ c' = c)) := by
  unfold examine
  split
  next absent =>
    simp [absent]
  next id there =>
    rw [bind_eq_ok]
    constructor
    · rintro ⟨e, read, done⟩
      refine ⟨id, e, there, deref_eq_ok.mp read, ?_⟩
      split at done
      next drops =>
        cases done
        exact .inl ⟨drops, rfl, rfl⟩
      next stays =>
        cases done
        exact .inr ⟨by simpa using stays, rfl, rfl⟩
    · rintro ⟨id', e, there', found, outcome⟩
      obtain rfl : id = id' := Option.some.inj (there.symm.trans there')
      refine ⟨e, deref_eq_ok.mpr found, ?_⟩
      rcases outcome with ⟨drops, rfl, rfl⟩ | ⟨stays, rfl, rfl⟩
      · rw [if_pos drops]
        rfl
      · rw [if_neg (by simp [stays])]
        rfl

theorem sweep_keeps (Inv : Cache → Purged → Prop) {s : Sweep}
    (release : ∀ c p index id e, Inv c p → (c.tables i).ptrArray[index]? = some id →
      c.heap id = some e → s.drops e →
        Inv (c.release i index id e.key) ⟨p.removedEntries + 1, p.freedMemory + e.value.length⟩)
    {fuel : Nat} {p p' : Purged} (holds : Inv c p)
    (done : sweep s i fuel index c p = .ok (c', p')) : Inv c' p' := by
  induction fuel generalizing index c p with
  | zero =>
    cases done
    exact holds
  | succ fuel ih =>
    unfold sweep at done
    split at done
    · obtain ⟨⟨freed, next⟩, examined, rest⟩ := bind_eq_ok.mp done
      obtain ⟨id, e, there, found, ⟨drops, rfl, rfl⟩ | ⟨-, rfl, rfl⟩⟩ := examine_eq_ok.mp examined
      · exact ih (release c p index id e holds there found drops) rest
      · exact ih holds rest
    · cases done
      exact holds

/-- `purge_some` does nothing, or goes through its second loop and subtracts what that freed. -/
theorem purgeSome_cases {d : Doubles} {now : Nat} {aggressive : Bool}
    (done : c.purgeSome d i now aggressive = .ok c') :
    c' = c ∨ ∃ s swept p, sweep s i (c.tables i).ptrArray.length 0 c ⟨0, 0⟩ = .ok (swept, p) ∧
      c' = { swept with
        numEntries := swept.numEntries - p.removedEntries
        sizeValues := swept.sizeValues - p.freedMemory } := by
  obtain ⟨s, -, done⟩ := bind_eq_ok.mp done
  split at done
  · obtain ⟨⟨swept, p⟩, sweeping, rfl⟩ := return_eq_ok.mp done
    exact .inr ⟨_, swept, p, sweeping, rfl⟩
  · cases done
    exact .inl rfl

theorem newEntry_key {value : List Byte} {createMs curtimeMs expireMs : Nat} {deprecateEof : Bool}
    (made : newEntry key value createMs curtimeMs expireMs deprecateEof = .ok e) : e.key = key := by
  obtain ⟨offsets, -, made⟩ := bind_eq_ok.mp made
  obtain ⟨stored, -, rfl⟩ := return_eq_ok.mp made
  rfl

end Keeps

/-! ### The updates, field by field -/

section Updates

variable (c : Cache)

theorem heap_put_self (id : Nat) (e : QcEntry) : (c.put id e).heap id = some e :=
  update_self ..

theorem heap_put_of_ne {id id' : Nat} (other : id' ≠ id) (e : QcEntry) :
    (c.put id e).heap id' = c.heap id' :=
  update_of_ne other ..

theorem ptrArray_add (key : Nat) (e : QcEntry) (i : TableId) : ((c.add key e).tables i).ptrArray =
      (c.tables i).ptrArray ++ if i = tableOf key then [c.fresh] else [] := by
  unfold add
  by_cases same : i = tableOf key
  · simp [same]
  · simp [same]

theorem lookup_add (key : Nat) (e : QcEntry) (i : TableId) (k : Nat) :
    ((c.add key e).tables i).btMap.lookup k =
      if i = tableOf key ∧ k = key then some c.fresh else (c.tables i).btMap.lookup k := by
  unfold add
  by_cases same : i = tableOf key
  · by_cases newest : k = key
    · subst newest
      simp [same]
    · simp [same, newest]
  · simp [same]

theorem heap_release_of_ne (i : TableId) {index id key id' : Nat} (other : id' ≠ id) :
    (c.release i index id key).heap id' = c.heap id' :=
  update_of_ne other ..

theorem heap_of_release {i : TableId} {index id key id' : Nat} {e : QcEntry}
    (found : (c.release i index id key).heap id' = some e) : id' ≠ id ∧ c.heap id' = some e := by
  by_cases same : id' = id
  · subst same
    cases (update_self ..).symm.trans found
  · exact ⟨same, heap_release_of_ne c i same ▸ found⟩

theorem ptrArray_release (i : TableId) (index id key : Nat) (j : TableId) :
    ((c.release i index id key).tables j).ptrArray =
      if j = i then PtrArray.removeIndexFast index (c.tables i).ptrArray
      else (c.tables j).ptrArray := by
  unfold release
  by_cases same : j = i
  · simp [same]
  · simp [same]

theorem lookup_release (i : TableId) (index id key : Nat) (j : TableId) (k : Nat) :
    ((c.release i index id key).tables j).btMap.lookup k =
      if j = i ∧ k = key then none else (c.tables j).btMap.lookup k := by
  unfold release
  by_cases same : j = i
  · by_cases freed : k = key
    · subst freed
      simp [same]
    · simp [same, freed]
  · simp [same]

theorem ptrArray_clear (i j : TableId) :
    ((c.clear i).tables j).ptrArray = (c.tables j).ptrArray := by
  unfold clear
  by_cases same : j = i
  · subst same
    simp
  · simp [same]

theorem lookup_clear (i j : TableId) (k : Nat) : ((c.clear i).tables j).btMap.lookup k =
      if j = i then none else (c.tables j).btMap.lookup k := by
  unfold clear
  by_cases same : j = i
  · simp [same]
  · simp [same]

end Updates

/-! ### The arrays, the maps and the heap -/

structure Sound (c : Cache) : Prop where
  unused : ∀ id, c.fresh ≤ id → c.heap id = none
  listed : ∀ i, ∀ id ∈ (c.tables i).ptrArray, ∃ e, c.heap id = some e ∧ tableOf e.key = i
  distinct : ∀ i, (c.tables i).ptrArray.Nodup
  -- the current entry of a key has that key
  mapped : ∀ i key id, (c.tables i).btMap.lookup key = some id →
    id ∈ (c.tables i).ptrArray ∧ ∃ e, c.heap id = some e ∧ e.key = key

theorem sound_start : Sound start where
  unused := fun _ _ => rfl
  listed := fun _ _ member => absurd member List.not_mem_nil
  distinct := fun _ => List.nodup_nil
  mapped := fun _ _ _ found => by simp [start] at found

namespace Sound

variable {id index key : Nat} {e : QcEntry} {i : TableId}

theorem lt_fresh (sound : Sound c) (found : c.heap id = some e) : id < c.fresh := by
  by_contra beyond
  rw [sound.unused id (by omega)] at found
  cases found

theorem home (sound : Sound c) (member : id ∈ (c.tables i).ptrArray) (found : c.heap id = some e) :
    tableOf e.key = i := by
  obtain ⟨e', found', home⟩ := sound.listed i id member
  cases Option.some.inj (found.symm.trans found')
  exact home

theorem put : WriteClosed Sound := by
  intro c id old e sound found rewrites
  -- where an entry was, there is one with the same key
  have still {id' : Nat} {e' : QcEntry} (there : c.heap id' = some e') :
      ∃ e'', (c.put id e).heap id' = some e'' ∧ e''.key = e'.key := by
    by_cases same : id' = id
    · subst same
      cases Option.some.inj (found.symm.trans there)
      exact ⟨e, heap_put_self c id' e, rewrites.key⟩
    · exact ⟨e', (heap_put_of_ne c same e).trans there, rfl⟩
  constructor
  · intro id' unused
    have before : id < id' := (sound.lt_fresh found).trans_le unused
    exact (heap_put_of_ne c before.ne' e).trans (sound.unused id' unused)
  · intro i id' member
    obtain ⟨e', there, home⟩ := sound.listed i id' member
    obtain ⟨e'', now, key⟩ := still there
    exact ⟨e'', now, key ▸ home⟩
  · exact sound.distinct
  · intro i key id' current
    obtain ⟨member, e', there, rfl⟩ := sound.mapped i key id' current
    exact ⟨member, still there⟩

theorem heap_add_of_some (sound : Sound c) {e' : QcEntry} (there : c.heap id = some e') :
    (c.add key e).heap id = some e' := by
  have differ : id ≠ c.fresh := (sound.lt_fresh there).ne
  exact (update_of_ne differ ..).trans there

theorem add (sound : Sound c) (keyed : e.key = key) : Sound (c.add key e) := by
  have new : (c.add key e).heap c.fresh = some { e with refCount := 1 } := update_self ..
  constructor
  · intro id unused
    have beyond : c.fresh < id := unused
    exact (update_of_ne beyond.ne' ..).trans (sound.unused id beyond.le)
  · intro i id member
    rw [ptrArray_add, List.mem_append] at member
    rcases member with old | added
    · obtain ⟨e', there, home⟩ := sound.listed i id old
      exact ⟨e', sound.heap_add_of_some there, home⟩
    · split at added
      next same =>
        obtain rfl := List.mem_singleton.mp added
        exact ⟨_, new, by rw [same, ← keyed]⟩
      · cases added
  · intro i
    rw [ptrArray_add]
    apply List.Nodup.append (sound.distinct i)
    · split <;> simp
    · intro id old added
      obtain ⟨e', there, -⟩ := sound.listed i id old
      have before := sound.lt_fresh there
      split at added
      · exact before.ne (List.mem_singleton.mp added)
      · cases added
  · intro i k id current
    rw [lookup_add] at current
    rw [ptrArray_add]
    split at current
    next newest =>
      cases current
      refine ⟨?_, _, new, keyed.trans newest.2.symm⟩
      simp [newest.1]
    · obtain ⟨member, e', there, named⟩ := sound.mapped i k id current
      exact ⟨List.mem_append_left _ member, e', sound.heap_add_of_some there, named⟩

theorem clear : ClearClosed Sound := by
  intro c i sound _
  constructor
  · exact sound.unused
  · intro j id member
    rw [ptrArray_clear] at member
    exact sound.listed j id member
  · intro j
    rw [ptrArray_clear]
    exact sound.distinct j
  · intro j key id current
    rw [lookup_clear] at current
    rw [ptrArray_clear]
    split at current
    · cases current
    · exact sound.mapped j key id current

variable (sound : Sound c) (there : (c.tables i).ptrArray[index]? = some id)
    (found : c.heap id = some e)

include sound there found

theorem ne_of_mem_release {j : TableId} {id' : Nat}
    (member : id' ∈ ((c.release i index id e.key).tables j).ptrArray) :
    id' ≠ id ∧ id' ∈ (c.tables j).ptrArray := by
  rw [ptrArray_release] at member
  split at member
  next same =>
    subst same
    have gone := (PtrArray.nodup_removeIndexFast there (sound.distinct j)).2
    exact ⟨fun freed => gone (freed ▸ member), PtrArray.mem_of_mem_removeIndexFast there member⟩
  next differ =>
    refine ⟨?_, member⟩
    rintro rfl
    have here := sound.home (List.mem_of_getElem? there) found
    exact differ ((sound.home member found).symm.trans here)

theorem release : Sound (c.release i index id e.key) := by
  constructor
  · intro id' unused
    have before : id < id' := (sound.lt_fresh found).trans_le unused
    rw [heap_release_of_ne c i before.ne']
    exact sound.unused id' unused
  · intro j id' member
    obtain ⟨other, member⟩ := sound.ne_of_mem_release there found member
    rw [heap_release_of_ne c i other]
    exact sound.listed j id' member
  · intro j
    rw [ptrArray_release]
    split
    · exact (PtrArray.nodup_removeIndexFast there (sound.distinct i)).1
    · exact sound.distinct j
  · intro j key id' current
    rw [lookup_release] at current
    split at current
    · cases current
    next kept =>
      obtain ⟨member, e', found', named⟩ := sound.mapped j key id' current
      -- it was found under another key than the freed entry's, or in another table
      have other : id' ≠ id := by
        rintro rfl
        cases Option.some.inj (found.symm.trans found')
        have here := sound.home (List.mem_of_getElem? there) found
        exact kept ⟨(sound.home member found).symm.trans here, named.symm⟩
      rw [heap_release_of_ne c i other, ptrArray_release]
      refine ⟨?_, e', found', named⟩
      split
      next same =>
        subst same
        exact PtrArray.mem_removeIndexFast_of_ne there member other
      · exact member

end Sound

end MockProxy.QueryCache.Cache
