import MockProxy.Lib.Machine

/-!
# Regions and their stores

`LionRouter` keeps two copies of the region metadata. `UpdateRegion2Store` clears and fills the copy
that is not read, and publishes it by counting up `version_`; the getters read the copy `version_ %
2`. An exception leaves a half-filled copy behind, but not a published one. A member that is missing
is no exception: the subscript operator for constant values asserts that it is there, and the
process ends. `updateRegion2Store_publishes_iff` says which responses do that.
-/

namespace MockProxy.LionRouter

open Function

/-! ### The JSON library -/

/-- How an access to a JSON value can end other than with a value. -/
inductive Stop
  -- a `std::exception`, such as `json::type_error`
  | exception
  -- the assertion of the `const` subscript operator on a missing key
  | abort
  deriving DecidableEq

/-- The operations of `nlohmann::json` that `UpdateRegion2Store` uses. -/
structure JsonLib (J : Type) where
  -- `json::parse`; nothing if it throws
  parse : String → Option J
  -- `find`; nothing if it returns `end()`
  find : J → String → Option J
  size : J → Nat
  -- subscript with an index; nothing if it throws
  item : J → Nat → Option J
  -- subscript of a constant value with a key
  member : J → String → Except Stop J
  -- conversion to `int`; nothing if it throws
  toInt : J → Option Int
  -- what a range-based loop goes over
  elements : J → List J
  -- `operator!=`
  differs : J → J → Bool

/-! ### The two buffers -/

structure MetaInfo where
  virtualRegionIdMap : Int → Option Int := fun _ => none
  regionPrimaryStoreId : Int → Option Int := fun _ => none
  regionSecondaryStoreId : Int → Option (Finset Int) := fun _ => none

/-- The members of `LionRouter` that hold the regions -/
structure Router where
  metaInfo : Fin 2 → MetaInfo
  version : Nat

/-- `version % 2` -/
def parity (version : Nat) : Fin 2 := ⟨version % 2, Nat.mod_lt _ (by decide)⟩

def Router.current (s : Router) : MetaInfo := s.metaInfo (parity s.version)

def Router.start : Router := ⟨fun _ => {}, 0⟩

/-- A `size_t` as a key of type `int` -/
def toKey (virtualId : Nat) : Int := Int.bmod virtualId (2 ^ 32)

def MetaInfo.setVirtual (m : MetaInfo) (virtualId : Nat) (actualId : Int) : MetaInfo :=
  { m with virtualRegionIdMap := update m.virtualRegionIdMap (toKey virtualId) (some actualId) }

def MetaInfo.setPrimary (m : MetaInfo) (actualId storeId : Int) : MetaInfo :=
  { m with regionPrimaryStoreId := update m.regionPrimaryStoreId actualId (some storeId) }

def MetaInfo.setSecondary (m : MetaInfo) (actualId : Int) (storeIds : Finset Int) : MetaInfo :=
  { m with
    regionSecondaryStoreId := update m.regionSecondaryStoreId actualId (some storeIds) }

/-! ### `UpdateRegion2Store` -/

section

variable {J : Type} (lib : JsonLib J)

def orThrow {α : Type} : Option α → Except Stop α
  | some a => .ok a
  | none => .error .exception

/-- A member of type `int` -/
def JsonLib.intMember (j : J) (key : String) : Except Stop Int := do
  let value ← lib.member j key
  orThrow (lib.toInt value)

/-- One round of the loop over the peers of a region -/
def addPeer (leader : J) (storeIds : Finset Int) (peer : J) : Except Stop (Finset Int) := do
  let peerId ← lib.member peer "id"
  let leaderId ← lib.member leader "id"
  if lib.differs peerId leaderId then
    let storeId ← lib.intMember peer "store_id"
    return insert storeId storeIds
  else return storeIds

def secondaryStoreIds (leader peers : J) : Except Stop (Finset Int) :=
  (lib.elements peers).foldlM (addPeer lib leader) ∅

abbrev Fill := ExceptT Stop (StateM MetaInfo)

/-- One round of the loop over the regions -/
def fillRegion (regions : J) (virtualId : Nat) : Fill Unit := do
  let region ← orThrow (lib.item regions virtualId)
  let actualId ← lib.intMember region "region_id"
  modify (·.setVirtual virtualId actualId)
  let leader ← lib.member region "leader"
  let peers ← lib.member region "peers"
  let primary ← lib.intMember leader "store_id"
  modify (·.setPrimary actualId primary)
  let secondary ← secondaryStoreIds lib leader peers
  modify (·.setSecondary actualId secondary)

def fillRegions (regions : J) (virtualIds : List Nat) : Fill Unit :=
  virtualIds.forM (fillRegion lib regions)

/-- `LionRouter::UpdateRegion2Store`; every exception is caught, an abort ends the process. -/
def updateRegion2Store (s : Router) (response : String) : Except Unit Router :=
  match lib.parse response with
  | none => .ok s
  | some data =>
    match lib.find data "record_regions" with
    | none => .ok s
    | some regions =>
      -- the buffer is cleared before it is filled
      let filled := (fillRegions lib regions (List.range (lib.size regions))).run.run {}
      let metaInfo := update s.metaInfo (parity (s.version + 1)) filled.2
      match filled.1 with
      | .ok () => .ok ⟨metaInfo, (s.version + 1) % 10⟩
      | .error .exception => .ok ⟨metaInfo, s.version⟩
      | .error .abort => .error ()

end

/-! ### The getters -/

/-- `LionRouter::GetRegionPrimaryStoreId` on a buffer -/
def MetaInfo.primaryStoreId (m : MetaInfo) (virtualRegionId : Int) : Except String Int :=
  match m.virtualRegionIdMap virtualRegionId with
  | none => .error ("虚拟 region_id " ++ toString virtualRegionId ++ " 不存在")
  | some actualRegionId =>
    match m.regionPrimaryStoreId actualRegionId with
    | none => .error ("实际 region_id " ++ toString actualRegionId ++ " 没有主节点信息")
    | some storeId => .ok storeId

/-- `LionRouter::GetRegionSecondaryStoreId` on a buffer -/
def MetaInfo.secondaryStoreId (m : MetaInfo) (virtualRegionId : Int) : Except String (Finset Int) :=
  match m.virtualRegionIdMap virtualRegionId with
  | none => .error ("虚拟 region_id " ++ toString virtualRegionId ++ " 不存在")
  | some actualRegionId =>
    match m.regionSecondaryStoreId actualRegionId with
    | none => .error ("实际 region_id " ++ toString actualRegionId ++ " 没有从节点信息")
    | some storeIds => .ok storeIds

def Router.getRegionPrimaryStoreId (s : Router) (virtualRegionId : Int) : Except String Int :=
  s.current.primaryStoreId virtualRegionId

def Router.getRegionSecondaryStoreId (s : Router) (virtualRegionId : Int) :
    Except String (Finset Int) :=
  s.current.secondaryStoreId virtualRegionId

/-! ### The map of a response -/

/-- What a response says about one region. -/
structure Region where
  actualId : Int
  primary : Int
  secondary : Finset Int

section

variable {J : Type} (lib : JsonLib J)

def decodeRegion (regions : J) (virtualId : Nat) : Except Stop Region := do
  let region ← orThrow (lib.item regions virtualId)
  let actualId ← lib.intMember region "region_id"
  let leader ← lib.member region "leader"
  let peers ← lib.member region "peers"
  let primary ← lib.intMember leader "store_id"
  let secondary ← secondaryStoreIds lib leader peers
  return ⟨actualId, primary, secondary⟩

/-- The regions of a response that can be processed completely. -/
def decode (response : String) : Option (List Region) :=
  match lib.parse response with
  | none => none
  | some data =>
    match lib.find data "record_regions" with
    | none => none
    | some regions => ((List.range (lib.size regions)).mapM (decodeRegion lib regions)).toOption

end

/-! ### Missing members -/

section

variable {J : Type} (lib : JsonLib J)

def JsonLib.Lacks (j : J) (key : String) : Prop := lib.member j key = .error .abort

/-- A peer that lacks a member the loop looks at. -/
def PeerLacks (leader peer : J) : Prop :=
  lib.Lacks peer "id" ∨ ∃ peerId, lib.member peer "id" = .ok peerId ∧
    (lib.Lacks leader "id" ∨ ∃ leaderId, lib.member leader "id" = .ok leaderId ∧
      lib.differs peerId leaderId ∧ lib.Lacks peer "store_id")

/-- A peer the loop gets over. -/
def PeerRead (leader peer : J) : Prop :=
  ∃ peerId leaderId, lib.member peer "id" = .ok peerId ∧ lib.member leader "id" = .ok leaderId ∧
    (lib.differs peerId leaderId → ∃ storeId, lib.intMember peer "store_id" = .ok storeId)

/-- The loop over the peers comes to one that lacks a member. -/
def PeersLack (leader peers : J) : Prop :=
  ∃ before peer behind, lib.elements peers = before ++ peer :: behind ∧
    (∀ earlier ∈ before, PeerRead lib leader earlier) ∧ PeerLacks lib leader peer

/-- A region lacks a member, or its leader or a peer does, and what is looked at before is there. -/
def RegionLacks (region : J) : Prop :=
  lib.Lacks region "region_id" ∨ (∃ actualId, lib.intMember region "region_id" = .ok actualId) ∧
    (lib.Lacks region "leader" ∨ ∃ leader, lib.member region "leader" = .ok leader ∧
      (lib.Lacks region "peers" ∨ ∃ peers, lib.member region "peers" = .ok peers ∧
        (lib.Lacks leader "store_id" ∨ (∃ primary, lib.intMember leader "store_id" = .ok primary) ∧
          PeersLack lib leader peers)))

/-- A response with a region that lacks a member, where the regions before it are complete. -/
def ResponseLacks (response : String) : Prop :=
  ∃ data regions, lib.parse response = some data ∧ lib.find data "record_regions" = some regions ∧
    ∃ virtualId < lib.size regions, (∃ region, lib.item regions virtualId = some region ∧
      RegionLacks lib region) ∧
      ∀ earlier < virtualId, ∃ region, decodeRegion lib regions earlier = .ok region

end

def MetaInfo.put (m : MetaInfo) (virtualId : Nat) (r : Region) : MetaInfo :=
  ((m.setVirtual virtualId r.actualId).setPrimary r.actualId r.primary).setSecondary r.actualId
    r.secondary

/-- The map of the regions from the `n`-th on, added to `m`. -/
def MetaInfo.putAll (m : MetaInfo) : Nat → List Region → MetaInfo
  | _, [] => m
  | n, r :: regions => (m.put n r).putAll (n + 1) regions

def MetaInfo.ofRegions (regions : List Region) : MetaInfo := MetaInfo.putAll {} 0 regions

/-! ### Filling a buffer -/

/-- What filling a buffer comes to: what is decoded is put in, or both stop. -/
def Fills {α : Type} (filled : Except Stop Unit × MetaInfo) (decoded : Except Stop α)
    (put : α → MetaInfo) : Prop :=
  (∀ a, decoded = .ok a → filled = (.ok (), put a)) ∧
    ∀ stop, decoded = .error stop → filled.1 = .error stop

section

variable {α β : Type} {m : MetaInfo} {put : α → MetaInfo} {put' : β → MetaInfo} {d : Except Stop α}

theorem fills_ok {a : α} (same : m = put a) : Fills (.ok (), m) (.ok a) put := by
  constructor
  · rintro _ ⟨rfl⟩
    rw [same]
  · rintro stop ⟨⟩

theorem Fills.lift {e : Except Stop α} {k : α → Fill Unit} {d : α → Except Stop β}
    {put : β → MetaInfo} (next : ∀ a, Fills ((k a).run.run m) (d a) put) :
    Fills ((liftM e >>= k : Fill Unit).run.run m) (e >>= d) put := by
  cases e with
  | ok a => exact next a
  | error stop =>
    constructor
    · rintro a ⟨⟩
    · rintro _ ⟨rfl⟩
      rfl

theorem Fills.andThen {first second : Fill Unit} {d' : α → Except Stop β}
    (fills : Fills (first.run.run m) d put)
    (next : ∀ a, Fills (second.run.run (put a)) (d' a) put') :
    Fills ((first >>= fun _ => second).run.run m) (d >>= d') put' := by
  have run : (first >>= fun _ => second).run.run m =
      match first.run.run m with
      | (.ok (), m') => second.run.run m'
      | (.error stop, m') => (.error stop, m') := by
    simp only [ExceptT.run_bind, StateT.run_bind]
    rcases first.run.run m with ⟨result | stop, m'⟩ <;> rfl
  cases d with
  | ok a =>
    rw [run, fills.1 a rfl]
    exact next a
  | error stop =>
    have stopped := fills.2 stop rfl
    constructor
    · rintro a ⟨⟩
    · rintro _ ⟨rfl⟩
      rw [run]
      generalize first.run.run m = filled at stopped
      rcases filled with ⟨result, m'⟩
      cases stopped
      rfl

theorem Fills.map {filled : Except Stop Unit × MetaInfo} (fills : Fills filled d put) {f : α → β}
    (same : ∀ a, put a = put' (f a)) : Fills filled (d >>= fun a => pure (f a)) put' := by
  cases d with
  | ok a =>
    rw [fills.1 a rfl]
    exact fills_ok (same a)
  | error stop =>
    constructor
    · rintro b ⟨⟩
    · rintro _ ⟨rfl⟩
      exact fills.2 stop rfl

end

section

variable {J : Type} (lib : JsonLib J)

theorem fills_fillRegion (regions : J) (virtualId : Nat) (m : MetaInfo) :
    Fills ((fillRegion lib regions virtualId).run.run m) (decodeRegion lib regions virtualId)
      (m.put virtualId) := by
  refine Fills.lift fun region => Fills.lift fun actualId => ?_
  refine Fills.lift fun leader => Fills.lift fun peers => Fills.lift fun primary => ?_
  exact Fills.lift fun secondary => fills_ok rfl

theorem fills_fillRegions (regions : J) (start count : Nat) (m : MetaInfo) :
    Fills ((fillRegions lib regions (List.range' start count)).run.run m)
      ((List.range' start count).mapM (decodeRegion lib regions)) (m.putAll start) := by
  induction count generalizing start m with
  | zero => exact fills_ok rfl
  | succ count ih =>
    rw [List.range'_succ, List.mapM_cons]
    refine (fills_fillRegion lib regions start m).andThen fun r => ?_
    exact (ih (start + 1) (m.put start r)).map fun rs => rfl

/-! ### Updates -/

@[simp] theorem parity_wrapped (version : Nat) :
    parity ((version + 1) % 10) = parity (version + 1) := by
  apply Fin.ext
  simp only [parity]
  omega

theorem parity_succ_ne (version : Nat) : parity (version + 1) ≠ parity version := by
  intro same
  have values : (version + 1) % 2 = version % 2 := congrArg Fin.val same
  omega

theorem current_of_unpublished (s : Router) (m : MetaInfo) :
    Router.current ⟨update s.metaInfo (parity (s.version + 1)) m, s.version⟩ = s.current := by
  exact update_of_ne (parity_succ_ne s.version).symm _ _

theorem current_of_published (s : Router) (m : MetaInfo) :
    Router.current ⟨update s.metaInfo (parity (s.version + 1)) m, (s.version + 1) % 10⟩ = m := by
  simp only [Router.current, parity_wrapped]
  exact update_self _ _ _

/-- A call that returns publishes the map of a response it has processed completely, and nothing
else. -/
theorem updateRegion2Store_current {s s' : Router} {response : String}
    (ran : updateRegion2Store lib s response = .ok s') :
    s'.current = ((decode lib response).map MetaInfo.ofRegions).getD s.current := by
  unfold updateRegion2Store at ran
  unfold decode
  cases parsed : lib.parse response with
  | none =>
    simp only [parsed] at ran
    cases ran
    rfl
  | some data =>
    simp only [parsed] at ran ⊢
    cases found : lib.find data "record_regions" with
    | none =>
      simp only [found] at ran
      cases ran
      rfl
    | some regions =>
      simp only [found] at ran ⊢
      have fills := fills_fillRegions lib regions 0 (lib.size regions) {}
      rw [← List.range_eq_range'] at fills
      cases decoded : (List.range (lib.size regions)).mapM (decodeRegion lib regions) with
      | ok rs =>
        rw [fills.1 rs decoded] at ran
        cases ran
        exact current_of_published s _
      | error stop =>
        rw [fills.2 stop decoded] at ran
        cases stop with
        | exception =>
          cases ran
          exact current_of_unpublished s _
        | abort => cases ran

theorem intMember_abort {j : J} {key : String} :
    lib.intMember j key = .error .abort ↔ lib.Lacks j key := by
  rw [JsonLib.intMember, Machine.bind_eq_error]
  refine or_iff_left ?_
  rintro ⟨value, -, stopped⟩
  cases read : lib.toInt value <;> simp [read, orThrow] at stopped

theorem addPeer_abort {leader peer : J} {storeIds : Finset Int} :
    addPeer lib leader storeIds peer = .error .abort ↔ PeerLacks lib leader peer := by
  simp only [addPeer, PeerLacks, Machine.bind_eq_error, JsonLib.Lacks]
  refine or_congr_right (exists_congr fun peerId => and_congr_right fun _ => or_congr_right
    (exists_congr fun leaderId => and_congr_right fun _ => ?_))
  split_ifs with differs
  · rw [Machine.bind_eq_error, intMember_abort]
    simp [differs, JsonLib.Lacks]
  · simp [differs]

theorem addPeer_ok {leader peer : J} (storeIds : Finset Int) :
    (∃ more, addPeer lib leader storeIds peer = .ok more) ↔ PeerRead lib leader peer := by
  constructor
  · rintro ⟨more, added⟩
    obtain ⟨peerId, ofPeer, added⟩ := Machine.bind_eq_ok.mp added
    obtain ⟨leaderId, ofLeader, added⟩ := Machine.bind_eq_ok.mp added
    refine ⟨peerId, leaderId, ofPeer, ofLeader, fun differs => ?_⟩
    rw [if_pos differs] at added
    obtain ⟨storeId, read, -⟩ := Machine.bind_eq_ok.mp added
    exact ⟨storeId, read⟩
  · rintro ⟨peerId, leaderId, ofPeer, ofLeader, read⟩
    simp only [addPeer, ofPeer, ofLeader, Machine.ok_bind]
    split_ifs with differs
    · obtain ⟨storeId, read⟩ := read differs
      rw [read]
      exact ⟨_, rfl⟩
    · exact ⟨_, rfl⟩

theorem foldlM_addPeer_abort {leader : J} (peers : List J) (storeIds : Finset Int) :
    peers.foldlM (addPeer lib leader) storeIds = .error .abort ↔
      ∃ before peer behind, peers = before ++ peer :: behind ∧
        (∀ earlier ∈ before, PeerRead lib leader earlier) ∧ PeerLacks lib leader peer := by
  induction peers generalizing storeIds with
  | nil => simp
  | cons first rest ih =>
    rw [List.foldlM_cons, Machine.bind_eq_error, addPeer_abort]
    constructor
    · rintro (lacks | ⟨more, added, later⟩)
      · exact ⟨[], first, rest, rfl, by simp, lacks⟩
      · obtain ⟨before, peer, behind, rfl, read, lacks⟩ := (ih more).mp later
        exact ⟨first :: before, peer, behind, rfl,
          List.forall_mem_cons.mpr ⟨(addPeer_ok lib _).mp ⟨more, added⟩, read⟩, lacks⟩
    · rintro ⟨_ | ⟨earlier, before⟩, peer, behind, same, read, lacks⟩
      · obtain ⟨rfl, rfl⟩ := List.cons.inj same
        exact .inl lacks
      · obtain ⟨rfl, rfl⟩ := List.cons.inj same
        rw [List.forall_mem_cons] at read
        obtain ⟨more, added⟩ := (addPeer_ok lib storeIds).mpr read.1
        exact .inr ⟨more, added, (ih more).mpr ⟨before, peer, behind, rfl, read.2, lacks⟩⟩

theorem decodeRegion_abort {regions : J} {virtualId : Nat} :
    decodeRegion lib regions virtualId = .error .abort ↔
      ∃ region, lib.item regions virtualId = some region ∧ RegionLacks lib region := by
  cases found : lib.item regions virtualId with
  | none => simp [decodeRegion, found, orThrow, bind, Except.bind]
  | some region =>
    simp only [decodeRegion, found, orThrow, Machine.ok_bind, Machine.bind_eq_error,
      intMember_abort, secondaryStoreIds, foldlM_addPeer_abort, RegionLacks, PeersLack,
      JsonLib.Lacks, Option.some.injEq, exists_eq_left', exists_and_right, pure, Except.pure,
      reduceCtorEq, and_false, exists_false, or_false]

theorem mapM_range_error {α ε : Type} (f : Nat → Except ε α) (n : Nat) (e : ε) :
    (List.range n).mapM f = .error e ↔
      ∃ i < n, f i = .error e ∧ ∀ k < i, ∃ a, f k = .ok a := by
  have all (n : Nat) : (∃ as, (List.range n).mapM f = .ok as) ↔ ∀ k < n, ∃ a, f k = .ok a := by
    induction n with
    | zero => simp [pure, Except.pure]
    | succ n ih =>
      rw [Nat.forall_lt_succ_right, ← ih, List.range_succ, List.mapM_append]
      simp only [Machine.bind_eq_ok, List.mapM_cons, List.mapM_nil]
      constructor
      · rintro ⟨_, as, first, _, ⟨a, last, -⟩, -⟩
        exact ⟨⟨as, first⟩, a, last⟩
      · rintro ⟨⟨as, first⟩, a, last⟩
        exact ⟨_, as, first, _, ⟨a, last, _, rfl, rfl⟩, rfl⟩
  induction n with
  | zero => simp [pure, Except.pure]
  | succ n ih =>
    rw [List.range_succ, List.mapM_append, Machine.bind_eq_error]
    refine (or_congr_left ih).trans ⟨?_, ?_⟩
    · rintro (⟨i, small, stopped, before⟩ | ⟨as, first, last⟩)
      · exact ⟨i, by omega, stopped, before⟩
      · refine ⟨n, by omega, ?_, (all n).mp ⟨as, first⟩⟩
        cases read : f n with
        | error e' => simpa [read, bind, Except.bind] using last
        | ok a => simp [read, bind, Except.bind, pure, Except.pure] at last
    · rintro ⟨i, small, stopped, before⟩
      rcases Nat.lt_succ_iff_lt_or_eq.mp small with earlier | rfl
      · exact .inl ⟨i, earlier, stopped, before⟩
      · obtain ⟨as, first⟩ := (all i).mpr before
        exact .inr ⟨as, first, by simp [stopped, bind, Except.bind]⟩

/-- A call ends the process exactly with a response that lacks a member. -/
theorem updateRegion2Store_returns (s : Router) (response : String) :
    (∃ s', updateRegion2Store lib s response = .ok s') ↔ ¬ ResponseLacks lib response := by
  cases parsed : lib.parse response with
  | none => simp [updateRegion2Store, ResponseLacks, parsed]
  | some data =>
    cases found : lib.find data "record_regions" with
    | none => simp [updateRegion2Store, ResponseLacks, parsed, found]
    | some regions =>
      have lacks : ResponseLacks lib response ↔
          (List.range (lib.size regions)).mapM (decodeRegion lib regions) = .error .abort := by
        simp only [mapM_range_error, decodeRegion_abort, ResponseLacks, parsed, found,
          Option.some.injEq, exists_and_left, exists_eq_left']
      have fills := fills_fillRegions lib regions 0 (lib.size regions) {}
      rw [← List.range_eq_range'] at fills
      rw [lacks]
      simp only [updateRegion2Store, parsed, found]
      cases decoded : (List.range (lib.size regions)).mapM (decodeRegion lib regions) with
      | ok rs => simp [fills.1 rs decoded]
      | error stop =>
        rw [fills.2 stop decoded]
        cases stop <;> simp

/-- The regions of the last response that was processed completely; none before the first. -/
def lastComplete (responses : List String) : List Region :=
  (responses.filterMap (decode lib)).getLast?.getD []

theorem lastComplete_append (responses : List String) (response : String) :
    lastComplete lib (responses ++ [response]) =
      (decode lib response).getD (lastComplete lib responses) := by
  unfold lastComplete
  cases decoded : decode lib response with
  | none => simp [decoded]
  | some rs => simp [decoded]

theorem current_of_foldlM {responses : List String} {s : Router}
    (ran : responses.foldlM (updateRegion2Store lib) Router.start = .ok s) :
    s.current = MetaInfo.ofRegions (lastComplete lib responses) := by
  induction responses using List.reverseRecOn generalizing s with
  | nil =>
    cases ran
    rfl
  | append_singleton responses response ih =>
    rw [List.foldlM_append] at ran
    obtain ⟨mid, before, last⟩ := Machine.bind_eq_ok.mp ran
    obtain ⟨s₁, updated, same⟩ := Machine.bind_eq_ok.mp last
    cases same
    rw [updateRegion2Store_current lib updated, ih before, lastComplete_append]
    cases decode lib response <;> rfl

theorem foldlM_returns (responses : List String) (s : Router) :
    (∃ s', responses.foldlM (updateRegion2Store lib) s = .ok s') ↔
      ∀ response ∈ responses, ¬ ResponseLacks lib response := by
  induction responses generalizing s with
  | nil => exact iff_of_true ⟨s, rfl⟩ (by simp)
  | cons response rest ih =>
    rw [List.foldlM_cons, List.forall_mem_cons, ← updateRegion2Store_returns lib s response]
    constructor
    · rintro ⟨s', ran⟩
      obtain ⟨mid, first, later⟩ := Machine.bind_eq_ok.mp ran
      exact ⟨⟨mid, first⟩, (ih mid).mp ⟨s', later⟩⟩
    · rintro ⟨⟨mid, first⟩, later⟩
      rw [first]
      exact (ih mid).mpr later

/-- The call with a response that follows some others returns. The getters then read the map of the
last response that was processed completely: one that fails leaves their answers as they are, and
one that succeeds leaves nothing of an older one. -/
def Publishes (responses : List String) (response : String) : Prop :=
  ∃ s s', responses.foldlM (updateRegion2Store lib) Router.start = .ok s ∧
    updateRegion2Store lib s response = .ok s' ∧
    s'.current = MetaInfo.ofRegions (lastComplete lib (responses ++ [response])) ∧
    (decode lib response = none → ∀ virtualRegionId,
      s'.getRegionPrimaryStoreId virtualRegionId = s.getRegionPrimaryStoreId virtualRegionId ∧
      s'.getRegionSecondaryStoreId virtualRegionId = s.getRegionSecondaryStoreId virtualRegionId) ∧
    ∀ regions, decode lib response = some regions → s'.current = MetaInfo.ofRegions regions

end

/-! ### JSON values -/

/-- JSON values without floats and booleans, which the region metadata does not have -/
inductive Json
  | null
  | int (n : Int)
  | str (text : String)
  | arr (items : List Json)
  -- in the order of the keys
  | obj (members : List (String × Json))

mutual

/-- `operator==` -/
def Json.same : Json → Json → Bool
  | .null, .null => true
  | .int n, .int k => n = k
  | .str s, .str t => s = t
  | .arr items, .arr others => sameItems items others
  | .obj members, .obj others => sameMembers members others
  | _, _ => false

def Json.sameItems : List Json → List Json → Bool
  | [], [] => true
  | j :: items, k :: others => j.same k && sameItems items others
  | _, _ => false

def Json.sameMembers : List (String × Json) → List (String × Json) → Bool
  | [], [] => true
  | (key, j) :: members, (key', k) :: others => key = key' && j.same k && sameMembers members others
  | _, _ => false

end

/-- The operations on JSON values, over a parser. -/
def Json.lib (parse : String → Option Json) : JsonLib Json where
  parse := parse
  find
    | .obj members, key => members.lookup key
    | _, _ => none
  size
    | .null => 0
    | .arr items => items.length
    | .obj members => members.length
    | _ => 1
  item
    | .arr items, i => some (items[i]?.getD .null)
    | _, _ => none
  member
    | .obj members, key => (members.lookup key).elim (.error .abort) .ok
    | _, _ => .error .exception
  toInt
    | .int n => some (Int.bmod n (2 ^ 32))
    | _ => none
  elements
    | .null => []
    | .arr items => items
    | .obj members => members.map (·.2)
    | j => [j]
  differs j k := !j.same k

/-- A response with some regions. -/
def Json.regions (regions : List Json) : Json := .obj [("record_regions", .arr regions)]

/-- A region with its leader on `primary` and followers on `secondary`. -/
def Json.region (id primary : Int) (secondary : List Int) : Json :=
  .obj [("leader", .obj [("id", .int 1), ("store_id", .int primary)]),
    ("peers", .arr (secondary.map fun storeId =>
    .obj [("id", .int 2), ("store_id", .int storeId)])), ("region_id", .int id)]

/-- A region that consists of its number. -/
def Json.bareText : String := "\x7b\"record_regions\":[\x7b\"region_id\":7\x7d]\x7d"

def Json.parseBare (text : String) : Option Json :=
  if text = bareText then some (.regions [.obj [("region_id", .int 7)]]) else none

end MockProxy.LionRouter
