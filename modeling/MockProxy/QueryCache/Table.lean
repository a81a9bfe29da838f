import MockProxy.Lib.MapMerge
import MockProxy.QueryCache.Resultset

/-!
# The tables of the query cache

The cache has 32 tables. A table (`KV_BtreeArray`) holds each of its entries in an array, and finds
the current entry of a key through a map. An entry that is replaced by a newer one leaves the map at
once but stays in the array, marked as to be dropped, until `purge_some` frees it.

Entries are named by their addresses. The heap has the entries that were allocated and not freed;
using any other address is a fault.
-/

namespace MockProxy.QueryCache

open DataStream MapMerge

/-- `SHARED_QUERY_CACHE_HASH_TABLES` is 32. -/
abbrev TableId := Fin 32

/-- `hk%SHARED_QUERY_CACHE_HASH_TABLES` -/
def tableOf (key : Nat) : TableId := Fin.ofNat 32 key

/-- `KV_BtreeArray` -/
structure Table where
  btMap : Map Nat Nat
  ptrArray : List Nat

/-- `Query_Cache` with its global counters. A counter that is kept per thread is added to the global
one as soon as it reaches 1, so only the global ones are kept here. -/
structure Cache where
  tables : TableId → Table
  heap : Nat → Option QcEntry
  -- the address `malloc` gives next
  fresh : Nat
  -- `Glo_num_entries`
  numEntries : Nat
  -- `Glo_size_values`
  sizeValues : Nat

def expireDropit : Nat := 0

namespace Cache

def start : Cache where
  tables := fun _ => ⟨∅, []⟩
  heap := fun _ => none
  fresh := 0
  numEntries := 0
  sizeValues := 0

variable (c : Cache)

def deref (id : Nat) : Except Fault QcEntry :=
  match c.heap id with
  | some e => .ok e
  | none => .error .useAfterFree

def put (id : Nat) (e : QcEntry) : Cache :=
  { c with heap := Function.update c.heap id (some e) }

def modify (id : Nat) (f : QcEntry → QcEntry) : Except Fault Cache := do
  let e ← c.deref id
  return c.put id (f e)

/-- The new entry is in the array, and in the map in the place of an older one. -/
def add (key : Nat) (e : QcEntry) : Cache :=
  let t := c.tables (tableOf key)
  { tables := Function.update c.tables (tableOf key)
      ⟨t.btMap.insert key c.fresh, t.ptrArray ++ [c.fresh]⟩
    heap := Function.update c.heap c.fresh (some { e with refCount := 1 })
    fresh := c.fresh + 1
    numEntries := c.numEntries + 1
    sizeValues := c.sizeValues + e.value.length }

def replace (key : Nat) (e : QcEntry) : Except Fault Cache :=
  match (c.tables (tableOf key)).btMap.lookup key with
  | none => .ok (c.add key e)
  | some old =>
    (c.add key e).modify old fun e =>
      { e with expireMs := expireDropit, refCount := e.refCount - 1 }

/-- `Query_Cache::set`; the key is the hash of the user and the query. -/
def set (c : Cache) (key : Nat) (value : List Byte) (createMs curtimeMs expireMs : Nat)
    (deprecateEof : Bool) : Except Fault Cache := do
  let e ← newEntry key value createMs curtimeMs expireMs deprecateEof
  c.replace key e

def lookup (key : Nat) : Except Fault (Option Nat × Cache) :=
  match (c.tables (tableOf key)).btMap.lookup key with
  | none => .ok (none, c)
  | some id => do
    let c ← c.modify id fun e => { e with refCount := e.refCount + 1 }
    return (some id, c)

end Cache

/-- The arguments of `Query_Cache::get` besides the key, and the thread's
`query_cache_soft_ttl_pct`. -/
structure Request where
  curtimeMs : Nat
  cacheTtl : Nat
  softTtlPct : Nat
  deprecateEof : Bool
  deriving DecidableEq

/-- The result `get` copies, and the entry afterwards. -/
def QcEntry.serve (e : QcEntry) (r : Request) : Except Fault (Option (Block × Nat) × QcEntry) :=
  if e.expireMs > r.curtimeMs ∧ e.createMs + r.cacheTtl > r.curtimeMs then
    if r.softTtlPct ≠ 0 ∧ ¬ e.refreshing ∧
        e.createMs + r.cacheTtl * r.softTtlPct / 100 ≤ r.curtimeMs then
      -- this one query goes to the backend and refreshes the entry
      .ok (none, { e with refreshing := true })
    else do
      let result ← e.answer r.deprecateEof
      return (some result, if r.curtimeMs > e.accessMs then
        { e with accessMs := r.curtimeMs } else e)
  else .ok (none, e)

/-- The expression `sizeof(QC_entry_t)+sizeof(QC_entry_t *)*2+sizeof(uint64_t)*2`: 88 bytes with the
padding, and four words. -/
def entryOverhead : Nat := 88 + 8 * 2 + 8 * 2

/-- The two places of `purge_some` that compute in floating point. -/
structure Doubles where
  -- `total_freeable_memory > get_data_size()*0.01`
  worthPurging : Nat → Nat → Bool
  -- `access_ms_min+(access_ms_max-access_ms_min)*0.1`
  lowerMark : Nat → Nat → Nat

def Doubles.exact : Doubles where
  worthPurging := fun freeable size => size < 100 * freeable
  lowerMark := fun least greatest => least + (greatest - least) / 10

def QcEntry.expired (e : QcEntry) (now : Nat) : Bool :=
  e.expireMs = expireDropit ∨ e.expireMs < now

/-- What the first loop of `purge_some` collects. -/
structure Survey where
  accessMsMin : Nat
  accessMsMax : Nat
  ret : Nat
  size : Nat

def Survey.visit (now : Nat) (aggressive : Bool) (s : Survey) (e : QcEntry) : Survey :=
  if aggressive then
    { s with
      accessMsMin :=
        if s.accessMsMin = 0 ∨ s.accessMsMin > e.accessMs then e.accessMs else s.accessMsMin
      accessMsMax :=
        if s.accessMsMax = 0 ∨ s.accessMsMax < e.accessMs then e.accessMs else s.accessMsMax }
  else if e.expired now then { s with ret := s.ret + 1, size := s.size + e.value.length }
  else s

/-- What the second loop of `purge_some` looks at. -/
structure Sweep where
  now : Nat
  aggressive : Bool
  accessMsLowerMark : Nat

/-- `drop_entry` -/
def Sweep.drops (s : Sweep) (e : QcEntry) : Bool :=
  e.refCount ≤ 1 ∧ (e.expired s.now ∨ (s.aggressive ∧ e.accessMs < s.accessMsLowerMark))

structure Purged where
  removedEntries : Nat
  freedMemory : Nat

namespace Cache

variable (c : Cache)

/-- The middle of `Query_Cache::get`, for the entry that was looked up. -/
def copy (id : Nat) (r : Request) : Except Fault (Option (Block × Nat) × Cache) := do
  let e ← c.deref id
  let served ← e.serve r
  return (served.1, c.put id served.2)

/-- `__sync_fetch_and_sub(&entry->ref_count,1)` -/
def giveBack (id : Nat) : Except Fault Cache :=
  c.modify id fun e => { e with refCount := e.refCount - 1 }

def get (key : Nat) (r : Request) : Except Fault (Option (Block × Nat) × Cache) := do
  let found ← c.lookup key
  match found.1 with
  | none => return (none, found.2)
  | some id =>
    let copied ← found.2.copy id r
    let c ← copied.2.giveBack id
    return (copied.1, c)

/-- `KV_BtreeArray::get_data_size`; it is the same for all tables. -/
def getDataSize : Nat := c.numEntries * entryOverhead

def getDataSizeTotal : Nat :=
  (List.finRange 32).foldl (fun r _ => r + c.getDataSize) 0 + c.sizeValues

def survey (i : TableId) (now : Nat) (aggressive : Bool) : Except Fault Survey :=
  (c.tables i).ptrArray.foldlM (fun s id => do
    let e ← c.deref id
    return s.visit now aggressive e) ⟨0, 0, 0, 0⟩

/-- The entry at an index of the array is freed. The map loses whatever it has for the key. -/
def release (i : TableId) (index id key : Nat) : Cache :=
  { c with
    tables := Function.update c.tables i
      ⟨(c.tables i).btMap.erase key, PtrArray.removeIndexFast index (c.tables i).ptrArray⟩
    heap := Function.update c.heap id none }

/-- One iteration of the second loop: the size of the entry it freed, if it did. -/
def examine (s : Sweep) (c : Cache) (i : TableId) (index : Nat) :
    Except Fault (Option Nat × Cache) :=
  match (c.tables i).ptrArray[index]? with
  | none => .error .outOfBounds
  | some id => do
    let e ← c.deref id
    if s.drops e then return (some e.value.length, c.release i index id e.key)
    else return (none, c)

/-- The second loop. An iteration shortens the array or goes to the next index, so the length of the
array is enough fuel. -/
def sweep (s : Sweep) (i : TableId) :
    (fuel index : Nat) → Cache → Purged → Except Fault (Cache × Purged)
  | 0, _, c, p => .ok (c, p)
  | fuel + 1, index, c, p =>
    if index < (c.tables i).ptrArray.length then do
      let examined ← c.examine s i index
      match examined.1 with
      | some length =>
        sweep s i fuel index examined.2 ⟨p.removedEntries + 1, p.freedMemory + length⟩
      | none => sweep s i fuel (index + 1) examined.2 p
    else .ok (c, p)

def purgeSome (d : Doubles) (c : Cache) (i : TableId) (now : Nat) (aggressive : Bool) :
    Except Fault Cache := do
  let s ← c.survey i now aggressive
  if aggressive ∨ d.worthPurging (s.size + s.ret * entryOverhead) c.getDataSize then
    let mark := if aggressive then d.lowerMark s.accessMsMin s.accessMsMax else 0
    let swept ← sweep ⟨now, aggressive, mark⟩ i (c.tables i).ptrArray.length 0 c ⟨0, 0⟩
    return { swept.1 with
      numEntries := swept.1.numEntries - swept.2.removedEntries
      sizeValues := swept.1.sizeValues - swept.2.freedMemory }
  else return c

def empty (i : TableId) : Except Fault Cache := do
  let c ← ((c.tables i).btMap.entries.map Sigma.snd).foldlM
    (fun c id => c.modify id fun e => { e with expireMs := expireDropit }) c
  return { c with tables := Function.update c.tables i { c.tables i with btMap := ∅ } }

/-- `Query_Cache::flush`; it returns how many keys there were. -/
def flush (c : Cache) : Except Fault (Nat × Cache) :=
  (List.finRange 32).foldlM (fun s i => do
    let c ← s.2.empty i
    return (s.1 + (s.2.tables i).btMap.entries.length, c)) (0, c)

end Cache

/-- The operations on the cache. -/
inductive Op where
  | set (key : Nat) (value : List Byte) (createMs curtimeMs expireMs : Nat) (deprecateEof : Bool)
  | get (key : Nat) (r : Request)
  | purgeSome (i : TableId) (now : Nat) (aggressive : Bool)
  | flush

def Cache.step (d : Doubles) (c : Cache) : Op → Except Fault Cache
  | .set key value createMs curtimeMs expireMs deprecateEof =>
    c.set key value createMs curtimeMs expireMs deprecateEof
  | .get key r => (c.get key r).map Prod.snd
  | .purgeSome i now aggressive => c.purgeSome d i now aggressive
  | .flush => c.flush.map Prod.snd

def oneColumn : List Byte :=
  [1, 0, 0, 1, 1, 0, 0, 0, 2, 7, 0, 0, 3, 0xfe, 0, 0, 2, 0, 0, 0]

end MockProxy.QueryCache
