import MockProxy.QueryCache.Consistency

/-!
# The latest entry of a key

The last entry that was set for a key is the one `get` finds, as long as it is neither freed nor
expired. There is one exception: `purge_some` takes the key of an entry that it frees out of the map
even if the map has a newer entry for that key. A purge is safe where no entry that it may free has
been replaced (`Unreplaced`).
-/

namespace MockProxy.QueryCache

open DataStream Machine Function

/-- The cache, and the entry that was set last for each key. -/
structure Logged where
  cache : Cache
  latest : Nat → Option Nat

namespace Logged

def start : Logged := ⟨.start, fun _ => none⟩

/-- `set` allocates its entry at the next address. -/
def note (s : Logged) : Op → Nat → Option Nat
  | .set key _ _ _ _ _ => update s.latest key (some s.cache.fresh)
  | _ => s.latest

def step (d : Doubles) (s : Logged) (op : Op) : Except Fault Logged := do
  let c ← s.cache.step d op
  return ⟨c, s.note op⟩

end Logged

namespace Cache

variable {c c' : Cache} {latest : Nat → Option Nat}

/-- An entry of the table that is not in use is the current one of its key, or its key has none. -/
def Unreplaced (c : Cache) (i : TableId) : Prop :=
  ∀ id ∈ (c.tables i).ptrArray, ∀ e, c.heap id = some e → e.refCount ≤ 1 →
    ∀ current, (c.tables i).btMap.lookup e.key = some current → current = id

structure Reaches (latest : Nat → Option Nat) (c : Cache) : Prop where
  sound : Sound c
  old : ∀ key id, latest key = some id → id < c.fresh
  reach : ∀ key id e, latest key = some id → c.heap id = some e → e.expireMs ≠ expireDropit →
    (c.tables (tableOf key)).btMap.lookup key = some id

namespace Reaches

theorem put (latest : Nat → Option Nat) : WriteClosed (Reaches latest) := by
  intro c id old e reaches found rewrites
  constructor
  · exact Sound.put c id old e reaches.sound found rewrites
  · exact reaches.old
  · intro key id' e' set found' unexpired
    by_cases written : id' = id
    · subst written
      rw [heap_put_self] at found'
      cases found'
      rcases rewrites.expireMs with same | dropped
      · exact reaches.reach key id' old set found (same ▸ unexpired)
      · exact absurd dropped unexpired
    · rw [heap_put_of_ne c written] at found'
      exact reaches.reach key id' e' set found' unexpired

theorem clear (latest : Nat → Option Nat) : ClearClosed (Reaches latest) := by
  intro c i reaches dropped
  constructor
  · exact Sound.clear c i reaches.sound dropped
  · exact reaches.old
  · intro key id e set found unexpired
    have current := reaches.reach key id e set found unexpired
    rw [lookup_clear]
    split
    · -- the entries the cleared map had have expired
      rename_i same
      rw [same] at current
      obtain ⟨e', found', expired⟩ := dropped key id current
      cases Option.some.inj (found'.symm.trans found)
      exact absurd expired unexpired
    · exact current

theorem add (reaches : Reaches latest c) {key : Nat} {e : QcEntry} (keyed : e.key = key) :
    Reaches (update latest key (some c.fresh)) (c.add key e) := by
  constructor
  · exact reaches.sound.add keyed
  · intro k id set
    change id < c.fresh + 1
    by_cases same : k = key
    · subst same
      rw [update_self] at set
      cases set
      omega
    · rw [update_of_ne same] at set
      have := reaches.old k id set
      omega
  · intro k id e' set found unexpired
    rw [lookup_add]
    by_cases same : k = key
    · subst same
      rw [update_self] at set
      rw [if_pos ⟨rfl, rfl⟩, set]
    · rw [update_of_ne same] at set
      have differ : id ≠ c.fresh := (reaches.old k id set).ne
      have found : c.heap id = some e' := (update_of_ne differ ..).symm.trans found
      rw [if_neg fun both => same both.2]
      exact reaches.reach k id e' set found unexpired

theorem release (reaches : Reaches latest c) {i : TableId} (unreplaced : c.Unreplaced i)
    {index id : Nat} {e : QcEntry} (there : (c.tables i).ptrArray[index]? = some id)
    (found : c.heap id = some e) (unused : e.refCount ≤ 1) :
    Reaches latest (c.release i index id e.key) := by
  constructor
  · exact reaches.sound.release there found
  · exact reaches.old
  · intro key id' e' set found' unexpired
    obtain ⟨other, found'⟩ := heap_of_release c found'
    have current := reaches.reach key id' e' set found' unexpired
    rw [lookup_release]
    split
    next both =>
      rw [both.1, both.2] at current
      exact absurd (unreplaced id (List.mem_of_getElem? there) e found unused id' current) other
    · exact current

end Reaches

theorem Unreplaced.release {i : TableId} (unreplaced : c.Unreplaced i) (sound : Sound c)
    {index id : Nat} {e : QcEntry} (there : (c.tables i).ptrArray[index]? = some id)
    (found : c.heap id = some e) : (c.release i index id e.key).Unreplaced i := by
  intro id' member e' found' unused current mapped
  obtain ⟨other, member⟩ := sound.ne_of_mem_release there found member
  rw [heap_release_of_ne c i other] at found'
  rw [lookup_release] at mapped
  split at mapped
  · cases mapped
  · exact unreplaced id' member e' found' unused current mapped

theorem Reaches.purgeSome {d : Doubles} (reaches : Reaches latest c) {i : TableId} {now : Nat}
    {aggressive : Bool} (unreplaced : c.Unreplaced i)
    (done : c.purgeSome d i now aggressive = .ok c') : Reaches latest c' := by
  rcases purgeSome_cases done with rfl | ⟨s, swept, p, sweeping, rfl⟩
  · exact reaches
  · have after : Reaches latest swept ∧ swept.Unreplaced i := by
      apply sweep_keeps (fun c _ => Reaches latest c ∧ c.Unreplaced i) _
        ⟨reaches, unreplaced⟩ sweeping
      rintro c p index id e ⟨reaches, unreplaced⟩ there found drops
      have unused : e.refCount ≤ 1 := (of_decide_eq_true drops).1
      exact ⟨reaches.release unreplaced there found unused,
        unreplaced.release reaches.sound there found⟩
    obtain ⟨⟨sound, old, reach⟩, -⟩ := after
    exact ⟨{ __ := sound }, old, reach⟩

end Cache

namespace Logged

open Cache

variable {s s' : Logged} {d : Doubles}

def Meets (s : Logged) : Op → Prop
  | .purgeSome i _ _ => s.cache.Unreplaced i
  | _ => True

theorem step_reaches {op : Op} (reaches : Reaches s.latest s.cache) (meets : s.Meets op)
    (stepped : s.step d op = .ok s') : Reaches s'.latest s'.cache := by
  obtain ⟨c, changed, rfl⟩ := return_eq_ok.mp stepped
  cases op with
  | set key value createMs curtimeMs expireMs deprecateEof =>
    obtain ⟨e, made, replaced⟩ := bind_eq_ok.mp changed
    exact replace_keeps (Reaches.put _) (reaches.add (newEntry_key made)) replaced
  | get key r =>
    obtain ⟨⟨result, c'⟩, got, rfl⟩ := map_eq_ok.mp changed
    exact get_keeps (Reaches.put _) reaches got
  | purgeSome i now aggressive => exact reaches.purgeSome meets changed
  | flush =>
    obtain ⟨⟨count, c'⟩, flushed, rfl⟩ := map_eq_ok.mp changed
    exact flush_keeps (Reaches.put _) (Reaches.clear _) reaches flushed

theorem run_reaches (run : Run (step d) Meets start s) : Reaches s.latest s.cache := by
  apply run.invariant fun s => Reaches s.latest s.cache
  · constructor
    · exact sound_start
    · intro key id never
      cases never
    · intro key id e never
      cases never
  · intro s op s' reaches meets stepped
    exact step_reaches reaches meets stepped

/-- The entry that was set last for a key is found until it is freed or expires, if replaced
entries are never purged while their key has a newer entry. -/
theorem latest_found (d : Doubles) (run : Run (step d) Meets start s) (key id now : Nat)
    {e : QcEntry} (set : s.latest key = some id) (kept : s.cache.heap id = some e)
    (unexpired : e.expired now = false) : ∃ c, s.cache.lookup key = .ok (some id, c) := by
  have alive : e.expireMs ≠ expireDropit := by
    intro dropped
    simp [QcEntry.expired, dropped] at unexpired
  have current := (run_reaches run).reach key id e set kept alive
  unfold Cache.lookup
  rw [current]
  exact ⟨_, bind_eq_ok.mpr ⟨_, modify_eq_ok.mpr ⟨e, kept, rfl⟩, rfl⟩⟩

/-- An entry is set, and its table is purged. -/
theorem latest_found_purged :
    ∃ s e, Run (step .exact) Meets start s ∧ s.latest 0 = some 0 ∧ s.cache.heap 0 = some e ∧
      e.expired 20 = false ∧ ∃ c, s.cache.lookup 0 = .ok (some 0, c) := by
  have set : Run (step .exact) Meets start _ :=
    .step .start (i := .set 0 oneColumn 1 1 1000 true) trivial rfl
  have purged := set.step (i := .purgeSome 0 10 true) (by
    intro id member e found _ current mapped
    obtain rfl : id = 0 := List.mem_singleton.mp member
    cases found
    have zero : some 0 = some current := mapped
    exact (Option.some.inj zero).symm) rfl
  exact ⟨_, _, purged, rfl, rfl, rfl, latest_found .exact purged 0 0 20 rfl rfl rfl⟩

/-- Once the older of two entries is purged, the newer one is not found. -/
theorem purge_hides_latest :
    ∃ s e, Run (step .exact) (fun _ _ => True) start s ∧ s.latest 0 = some 1 ∧
      s.cache.heap 1 = some e ∧ e.expired 10 = false ∧ s.cache.lookup 0 = .ok (none, s.cache) := by
  have ran : [Op.set 0 oneColumn 1 1 1000 true, .set 0 oneColumn 2 2 1000 true,
      .purgeSome 0 10 false].foldlM (step .exact) start = .ok _ := rfl
  exact ⟨_, _, run_of_foldlM ran, rfl, rfl, rfl, rfl⟩

end Logged

end MockProxy.QueryCache
