import MockProxy.LionRouter.Regions
import MockProxy.Lib.LastWrite
import MockProxy.Lib.SortedMap

/-!
# Stores and their addresses

`UpdateTikv2Store` goes through the stores of a response and writes each of them to three
containers: the store of an address, the address of a store, and the set of all stores. Nothing is
ever taken out of them. An exception ends the loop, and what was written before it stays.

So the containers hold, for every key, what was written last in the whole history of responses.
After a complete response they describe it exactly if and only if no store and no address from
before is missing in it, and no two of its stores share an address (`updateTikv2Store_exact_iff`).
-/

namespace MockProxy.LionRouter

open LastWrite List Json

/-! ### `UpdateTikv2Store` -/

/-- The operations that `UpdateTikv2Store` uses in addition -/
structure StoresLib (J : Type) extends JsonLib J where
  -- subscript with a key of a value that can be changed: a missing member is added as `null`
  subscript : J → String → Except Stop J
  -- conversion to `std::string`
  toText : J → Except Stop String

/-- The members of `LionRouter` that hold the stores -/
structure Stores where
  tikv2storeID : String → Option Int
  storeID2tikv : Int → Option String
  -- `store_ids_`, in the order in which it is iterated
  storeIds : SortedMap Int Unit

namespace Stores

def start : Stores := ⟨fun _ => none, fun _ => none, .empty⟩

/-- A store and its address are written to the containers. -/
def put (s : Stores) (store : Int × String) : Stores where
  tikv2storeID := Function.update s.tikv2storeID store.2 (some store.1)
  storeID2tikv := Function.update s.storeID2tikv store.1 (some store.2)
  storeIds := s.storeIds.insert store.1 ()

def getAllStoreIds (s : Stores) : List Int := s.storeIds.keys

end Stores

/-- `address.substr(0, address.find(':'))` -/
def ipOf (address : String) : String := String.ofList (address.toList.takeWhile (· ≠ ':'))

section

variable {J : Type} (lib : StoresLib J)

/-- The id and the address of a store in a response -/
def readStore (store : J) : Except Stop (Int × String) := do
  let inner ← lib.member store "store"
  let storeId ← lib.intMember inner "id"
  let address ← lib.member inner "address"
  let text ← lib.toText address
  return (storeId, ipOf text)

/-- The loop over the stores, with what ended it early -/
def readStores : (s : Stores) → List J → Stores × Option Stop
  | s, [] => (s, none)
  | s, store :: rest =>
    match readStore lib store with
    | .error stop => (s, some stop)
    | .ok written => readStores (s.put written) rest

/-- `LionRouter::UpdateTikv2Store`; every exception is caught, an abort ends the process. -/
def updateTikv2Store (s : Stores) (response : String) : Except Unit Stores :=
  match lib.parse response with
  | none => .ok s
  | some data =>
    match lib.subscript data "stores" with
    | .error .exception => .ok s
    | .error .abort => .error ()
    | .ok stores =>
      match readStores lib s (lib.elements stores) with
      | (s, none) => .ok s
      | (s, some .exception) => .ok s
      | (_, some .abort) => .error ()

/-! ### What a response reports -/

/-- The stores before the first that cannot be read, and why it cannot -/
def reported : List J → List (Int × String) × Option Stop
  | [] => ([], none)
  | store :: rest =>
    match readStore lib store with
    | .error stop => ([], some stop)
    | .ok written => (written :: (reported rest).1, (reported rest).2)

/-- The stores that a response writes, and what ended the update early -/
def storesOf (response : String) : List (Int × String) × Option Stop :=
  match lib.parse response with
  | none => ([], some .exception)
  | some data =>
    match lib.subscript data "stores" with
    | .error stop => ([], some stop)
    | .ok stores => reported lib (lib.elements stores)

theorem readStores_eq (s : Stores) (stores : List J) :
    readStores lib s stores = ((reported lib stores).1.foldl Stores.put s,
      (reported lib stores).2) := by
  induction stores generalizing s with
  | nil => rfl
  | cons store rest ih =>
    rw [readStores, reported]
    cases readStore lib store with
    | error stop => rfl
    | ok written => exact ih (s.put written)

theorem updateTikv2Store_eq {s s' : Stores} {response : String}
    (ran : updateTikv2Store lib s response = .ok s') :
    s' = (storesOf lib response).1.foldl Stores.put s := by
  unfold updateTikv2Store at ran
  unfold storesOf
  cases parsed : lib.parse response with
  | none =>
    simp only [parsed] at ran
    cases ran
    rfl
  | some data =>
    simp only [parsed] at ran ⊢
    cases found : lib.subscript data "stores" with
    | error stop =>
      cases stop with
      | exception =>
        simp only [found] at ran
        cases ran
        rfl
      | abort =>
        simp only [found] at ran
        cases ran
    | ok stores =>
      simp only [found, readStores_eq] at ran ⊢
      split at ran
      next same =>
        cases ran
        exact (congrArg Prod.fst same).symm
      next same =>
        cases ran
        exact (congrArg Prod.fst same).symm
      · cases ran

/-- All that was written in the course of some responses, also by those that failed halfway -/
def written (responses : List String) : List (Int × String) :=
  responses.flatMap fun response => (storesOf lib response).1

theorem foldlM_updateTikv2Store {responses : List String} {s s' : Stores}
    (ran : responses.foldlM (updateTikv2Store lib) s = .ok s') :
    s' = (written lib responses).foldl Stores.put s := by
  induction responses generalizing s with
  | nil =>
    cases ran
    rfl
  | cons response rest ih =>
    obtain ⟨s₁, first, later⟩ := Machine.bind_eq_ok.mp ran
    rw [ih later, updateTikv2Store_eq lib first, ← foldl_append]
    rfl

end

/-! ### The containers after some writes -/

section Containers

variable (writes : List (Int × String))

theorem tikv2storeID_putAll (s : Stores) (tikvIp : String) :
    (writes.foldl Stores.put s).tikv2storeID tikvIp =
      ((last Prod.snd writes tikvIp).map Prod.fst).or (s.tikv2storeID tikvIp) := by
  refine lookup_foldl (fun s : Stores => s.tikv2storeID tikvIp) (fun s store => ?_) writes s
  simp [Stores.put, Function.update_apply, eq_comm]

theorem storeID2tikv_putAll (s : Stores) (storeId : Int) :
    (writes.foldl Stores.put s).storeID2tikv storeId =
      ((last Prod.fst writes storeId).map Prod.snd).or (s.storeID2tikv storeId) := by
  refine lookup_foldl (fun s : Stores => s.storeID2tikv storeId) (fun s store => ?_) writes s
  simp [Stores.put, Function.update_apply, eq_comm]

theorem mem_getAllStoreIds_putAll (s : Stores) (storeId : Int) :
    storeId ∈ (writes.foldl Stores.put s).getAllStoreIds ↔
      storeId ∈ s.getAllStoreIds ∨ storeId ∈ writes.map Prod.fst := by
  induction writes generalizing s with
  | nil => simp
  | cons store rest ih =>
    have inserted : storeId ∈ (s.put store).getAllStoreIds ↔
        storeId = store.1 ∨ storeId ∈ s.getAllStoreIds := SortedMap.mem_keys_insert
    rw [foldl_cons, ih, map_cons, mem_cons]
    tauto

end Containers

/-! ### Exact containers -/

/-- The maps are inverse to each other, and the stores are those of a response. -/
structure Stores.Exact (s : Stores) (stores : List (Int × String)) : Prop where
  inverse : ∀ tikvIp storeId, s.tikv2storeID tikvIp = some storeId ↔
    s.storeID2tikv storeId = some tikvIp
  storeIds : ∀ storeId, storeId ∈ s.getAllStoreIds ↔ storeId ∈ stores.map Prod.fst

section Exact

variable {earlier stores : List (Int × String)}

/-- Nothing from before is missing in the response, and its stores have addresses of their own. -/
def Keeps (earlier stores : List (Int × String)) : Prop :=
  (stores.map Prod.snd).Nodup ∧
    ∀ store ∈ earlier, store.1 ∈ stores.map Prod.fst ∧ store.2 ∈ stores.map Prod.snd

/-- A key that the response writes, and that it writes once, is looked up in the response. -/
theorem last_iff {κ : Type} [DecidableEq κ] {key : Int × String → κ}
    (nodup : (stores.map key).Nodup) (kept : ∀ store ∈ earlier, key store ∈ stores.map key)
    (store : Int × String) :
    last key (earlier ++ stores) (key store) = some store ↔ store ∈ stores := by
  constructor
  · intro found
    apply mem_later_of_last found
    rcases mem_append.mp (mem_of_last found).1 with before | here
    · exact kept store before
    · exact mem_map_of_mem here
  · exact fun member => last_append_of_mem nodup member

variable {writes : List (Int × String)}

theorem tikv2storeID_iff (tikvIp : String) (storeId : Int) :
    (writes.foldl Stores.put .start).tikv2storeID tikvIp = some storeId ↔
      last Prod.snd writes tikvIp = some (storeId, tikvIp) := by
  rw [tikv2storeID_putAll, show Stores.start.tikv2storeID tikvIp = none from rfl, Option.or_none,
    Option.map_eq_some_iff]
  constructor
  · rintro ⟨store, found, rfl⟩
    rw [found, ← (mem_of_last found).2]
  · exact fun found => ⟨_, found, rfl⟩

theorem storeID2tikv_iff (storeId : Int) (tikvIp : String) :
    (writes.foldl Stores.put .start).storeID2tikv storeId = some tikvIp ↔
      last Prod.fst writes storeId = some (storeId, tikvIp) := by
  rw [storeID2tikv_putAll, show Stores.start.storeID2tikv storeId = none from rfl, Option.or_none,
    Option.map_eq_some_iff]
  constructor
  · rintro ⟨store, found, rfl⟩
    rw [found, ← (mem_of_last found).2]
  · exact fun found => ⟨_, found, rfl⟩

theorem mem_getAllStoreIds_iff (storeId : Int) :
    storeId ∈ (writes.foldl Stores.put .start).getAllStoreIds ↔ storeId ∈ writes.map Prod.fst := by
  rw [mem_getAllStoreIds_putAll, show Stores.start.getAllStoreIds = [] from rfl]
  simp

theorem Keeps.exact (ids : (stores.map Prod.fst).Nodup) (keeps : Keeps earlier stores) :
    ((earlier ++ stores).foldl Stores.put .start).Exact stores := by
  obtain ⟨ips, kept⟩ := keeps
  constructor
  · -- both say that the response has this pair
    intro tikvIp storeId
    rw [tikv2storeID_iff, storeID2tikv_iff]
    have byIp := last_iff ips (fun store before => (kept store before).2) (storeId, tikvIp)
    have byId := last_iff ids (fun store before => (kept store before).1) (storeId, tikvIp)
    exact byIp.trans byId.symm
  · intro storeId
    rw [mem_getAllStoreIds_iff, map_append, mem_append]
    constructor
    · rintro (before | here)
      · obtain ⟨store, member, rfl⟩ := mem_map.mp before
        exact (kept store member).1
      · exact here
    · exact .inr

theorem Stores.Exact.keeps (ids : (stores.map Prod.fst).Nodup)
    (exact : ((earlier ++ stores).foldl Stores.put .start).Exact stores) : Keeps
      earlier stores := by
  have ids_kept : ∀ store ∈ earlier, store.1 ∈ stores.map Prod.fst := by
    intro store before
    rw [← exact.storeIds, mem_getAllStoreIds_iff]
    exact mem_map_of_mem (mem_append_left _ before)
  -- the address of a store of the response is the one it has there
  have address : ∀ store ∈ stores,
      ((earlier ++ stores).foldl Stores.put .start).tikv2storeID store.2 = some store.1 := by
    intro store member
    rw [exact.inverse, storeID2tikv_iff]
    exact last_append_of_mem ids member
  refine ⟨?_, fun store before => ⟨ids_kept store before, ?_⟩⟩
  · have distinct : stores.Nodup := ids.of_map _
    apply distinct.map_on
    intro store member other member' same
    have first := address store member
    rw [same, address other member'] at first
    exact Prod.ext (Option.some.inj first).symm same
  · -- the address still has a store, whose address is this one, so it is in the response
    have written : store ∈ earlier ++ stores := mem_append_left _ before
    obtain ⟨holder, found⟩ : ∃ w, last Prod.snd _ _ = some w := exists_last written
    have held : holder = (holder.1, store.2) := Prod.ext rfl (mem_of_last found).2
    rw [held, ← tikv2storeID_iff, exact.inverse, storeID2tikv_iff] at found
    have listed : holder.1 ∈ stores.map Prod.fst := by
      rw [← exact.storeIds, mem_getAllStoreIds_iff]
      exact mem_map.mpr ⟨_, (mem_of_last found).1, rfl⟩
    exact mem_map.mpr ⟨_, mem_later_of_last found listed, rfl⟩

end Exact

/-- After a complete response, which lists each store once, the containers describe it exactly if
and only if nothing that was written before is missing in it and no two of its stores share an
address. -/
theorem updateTikv2Store_exact_iff {J : Type} (lib : StoresLib J) {responses : List String}
    {s s' : Stores} (ran : responses.foldlM (updateTikv2Store lib) Stores.start = .ok s)
    {response : String} (updated : updateTikv2Store lib s response = .ok s')
    {stores : List (Int × String)} (complete : storesOf lib response = (stores, none))
    (ids : (stores.map Prod.fst).Nodup) :
    s'.Exact stores ↔ Keeps (written lib responses) stores := by
  have all : s' = (written lib responses ++ stores).foldl Stores.put .start := by
    rw [updateTikv2Store_eq lib updated, complete, foldlM_updateTikv2Store lib ran, foldl_append]
  rw [all]
  exact ⟨fun exact => exact.keeps ids, fun keeps => keeps.exact ids⟩

/-! ### Some responses -/

/-- The operations on JSON values, over a parser -/
def Json.storesLib (parse : String → Option Json) : StoresLib Json where
  toJsonLib := lib parse
  subscript
    | .null, _ => .ok .null
    | .obj members, key => .ok ((members.lookup key).getD .null)
    | _, _ => .error .exception
  toText
    | .str text => .ok text
    | _ => .error .exception

def Json.store (id : Int) (address : String) : Json :=
  .obj [("store", .obj [("address", .str address), ("id", .int id)])]

def Json.twoStores : String :=
  "\x7b\"stores\":[\x7b\"store\":\x7b\"address\":\"a:20160\",\"id\":1\x7d\x7d," ++
    "\x7b\"store\":\x7b\"address\":\"b:20160\",\"id\":2\x7d\x7d]\x7d"

def Json.threeStores : String :=
  "\x7b\"stores\":[\x7b\"store\":\x7b\"address\":\"a:20160\",\"id\":1\x7d\x7d," ++
    "\x7b\"store\":\x7b\"address\":\"b:20160\",\"id\":2\x7d\x7d," ++
    "\x7b\"store\":\x7b\"address\":\"c:20160\",\"id\":3\x7d\x7d]\x7d"

/-- Store 3 has the address that store 1 had. -/
def Json.replacedStore : String :=
  "\x7b\"stores\":[\x7b\"store\":\x7b\"address\":\"a:20160\",\"id\":3\x7d\x7d," ++
    "\x7b\"store\":\x7b\"address\":\"b:20160\",\"id\":2\x7d\x7d]\x7d"

/-- The second store is no object. -/
def Json.brokenStores : String :=
  "\x7b\"stores\":[\x7b\"store\":\x7b\"address\":\"c:20160\",\"id\":3\x7d\x7d,null]\x7d"

def Json.stores (stores : List Json) : Json := .obj [("stores", .arr stores)]

/-- A parser that knows these responses -/
def Json.sampleStores (text : String) : Option Json :=
  if text = twoStores then some (stores [.store 1 "a:20160", .store 2 "b:20160"])
  else if text = threeStores then
    some (stores [.store 1 "a:20160", .store 2 "b:20160", .store 3 "c:20160"])
  else if text = replacedStore then some (stores [.store 3 "a:20160", .store 2 "b:20160"])
  else if text = brokenStores then some (stores [.store 3 "c:20160", .null])
  else none

/-- A store appears, after a response that fails behind it. -/
theorem updateTikv2Store_exact_appearing : ∃ s s' : Stores,
    [twoStores, brokenStores].foldlM (updateTikv2Store (storesLib sampleStores))
      Stores.start = .ok s ∧
    updateTikv2Store (storesLib sampleStores) s threeStores = .ok s' ∧
    s'.Exact [(1, "a"), (2, "b"), (3, "c")] ∧ s'.getAllStoreIds = [1, 2, 3] := by
  have ran : [twoStores, brokenStores].foldlM
    (updateTikv2Store (storesLib sampleStores)) Stores.start =
      .ok _ := rfl
  refine ⟨_, _, ran, rfl, ?_, rfl⟩
  have complete : storesOf (storesLib sampleStores) threeStores =
      ([(1, "a"), (2, "b"), (3, "c")], none) := by decide +kernel
  rw [updateTikv2Store_exact_iff (storesLib sampleStores) ran rfl complete (by decide)]
  unfold Keeps
  decide +kernel

/-- A store is replaced by another one at the same address: the old one stays among the stores, with
the address that now leads to the new one. -/
theorem updateTikv2Store_not_exact : ∃ s s' : Stores,
    [twoStores].foldlM (updateTikv2Store (storesLib sampleStores)) Stores.start = .ok s ∧
    updateTikv2Store (storesLib sampleStores) s replacedStore = .ok s' ∧
    storesOf (storesLib sampleStores) replacedStore = ([(3, "a"), (2, "b")], none) ∧
    s'.tikv2storeID "a" = some 3 ∧ s'.storeID2tikv 3 = some "a" ∧ s'.storeID2tikv 1 = some "a" ∧
    s'.getAllStoreIds = [1, 2, 3] ∧ ¬ s'.Exact [(3, "a"), (2, "b")] := by
  refine ⟨_, _, rfl, rfl, by decide +kernel, by decide +kernel,
    by decide +kernel, by decide +kernel, rfl, ?_⟩
  intro exact
  have gone := (exact.storeIds 1).mp (by decide +kernel)
  exact absurd gone (by decide)

end MockProxy.LionRouter
