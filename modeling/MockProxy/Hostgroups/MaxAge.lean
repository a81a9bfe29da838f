import MockProxy.Hostgroups.Ownership
import MockProxy.Lib.PtrScans

/-!
# Connections that are too old

`drop_all_idle_connections` first drops free connections that are too many, from the front of the
array, and then goes over the rest by index and compares ages. For each connection that is too old
it takes the first one out of the array, as in the loops before.

So a younger connection in front is deleted in place of the one that is too old. Exactly the old
ones are deleted if and only if they come to the front before all others
(`dropAllIdleConnections_by_age_iff`).
-/

namespace MockProxy.Hostgroups.Manager

open Function Machine PtrArray List
open scoped List

variable {hash : String → Nat} {m m' : Manager hash}

def aged (m : Manager hash) (pool : PoolEnv) (c : ConnId) : Bool :=
  match m.conns c with
  | some conn => pool.monotonicTime > conn.creationTime + pool.connectionMaxAgeMs * 1000
  | none => false

/-- How many free connections a server may have by its status, its `max_connections` and the
percentage of free ones -/
def allowedFree (m : Manager hash) (pool : PoolEnv) (id : SrvId) : Nat :=
  if (m.srv id).status = .online then
    min ((m.srv id).maxConnections - (m.srv id).connectionsUsed.length).toNat
      (m.expectedFree pool id).toNat
  else 0

def trimmedFree (m : Manager hash) (pool : PoolEnv) (id : SrvId) : List ConnId :=
  shrink (m.allowedFree pool id) (m.srv id).connectionsFree

/-! ### Free connections of one server -/

/-- Some free connections of a server are deleted, those `left` are still in its array, and all else
is as it was. -/
structure Freed (m m' : Manager hash) (id : SrvId) (left : List ConnId) : Prop where
  owned : Owned m' none
  subset : left ⊆ (m.srv id).connectionsFree
  here : m'.srv id = { m.srv id with connectionsFree := left }
  others : ∀ id', id' ≠ id → m'.srv id' = m.srv id'
  groups : m'.servers.hostgroup = m.servers.hostgroup
  conns : ∀ c, c ∉ (m.srv id).connectionsFree ∨ c ∈ left → m'.conns c = m.conns c

namespace Freed

variable {id : SrvId} {left : List ConnId}

theorem refl (owned : Owned m none) (id : SrvId) : Freed m m id (m.srv id).connectionsFree where
  owned := owned
  subset := List.Subset.refl _
  here := rfl
  others _ _ := rfl
  groups := rfl
  conns _ _ := rfl

theorem free (freed : Freed m m' id left) : (m'.srv id).connectionsFree = left := by
  rw [freed.here]

theorem trans {m'' : Manager hash} {left' : List ConnId} (first : Freed m m' id left)
    (second : Freed m' m'' id left') : Freed m m'' id left' := by
  have fewer : left' ⊆ left := first.free ▸ second.subset
  constructor
  · exact second.owned
  · exact List.Subset.trans fewer first.subset
  · rw [second.here, first.here]
  · intro id' other
    rw [second.others id' other, first.others id' other]
  · rw [second.groups, first.groups]
  · intro c spared
    have now : m''.conns c = m'.conns c := by
      apply second.conns
      rw [first.free]
      exact spared.imp_left fun absent inside => absent (first.subset inside)
    rw [now]
    exact first.conns c (spared.imp_right fun inside => fewer inside)

theorem expectedFree (freed : Freed m m' id left) (pool : PoolEnv) :
    m'.expectedFree pool id = m.expectedFree pool id := by
  unfold Manager.expectedFree Manager.freeConnectionsPct Manager.myhgc
  rw [freed.groups, freed.here]

theorem aged (freed : Freed m m' id left) (pool : PoolEnv) {c : ConnId} (kept : c ∈ left) :
    m'.aged pool c = m.aged pool c := by
  unfold Manager.aged
  rw [freed.conns c (.inr kept)]

end Freed

namespace Owned

variable {c : ConnId} {id : SrvId} (owned : Owned m none)

include owned

theorem alive (member : c ∈ (m.srv id).connectionsFree) :
    ∃ conn, m.conns c = some conn ∧ conn.parent = id := by
  have there : 0 < m.times id c := Nat.add_pos_right _ (count_pos_iff.mpr member)
  exact Option.map_eq_some_iff.mp (owned.parentOf_eq there).1

theorem nodup_free (id : SrvId) : (m.srv id).connectionsFree.Nodup := by
  rw [nodup_iff_count_le_one]
  intro c
  have once := owned.placed id c
  unfold times at once
  split at once <;> omega

theorem disjoint {id' : SrvId} (other : id' ≠ id) (member : c ∈ (m.srv id').connectionsFree) :
    c ∉ (m.srv id).connectionsFree := by
  intro also
  obtain ⟨conn, found, parent⟩ := owned.alive member
  obtain ⟨conn', found', parent'⟩ := owned.alive also
  rw [found] at found'
  cases found'
  exact other (parent.symm.trans parent')

/-- Where only free connections have gone, one that was free is deleted if and only if it is not in
the array any more. -/
theorem deleted_iff (after : Owned m' none)
    (fewer : ∀ id, (m'.srv id).connectionsUsed = (m.srv id).connectionsUsed ∧
      (m'.srv id).connectionsFree ⊆ (m.srv id).connectionsFree)
      (member : c ∈ (m.srv id).connectionsFree) :
    m'.conns c = none ↔ c ∉ (m'.srv id).connectionsFree := by
  constructor
  · intro deleted kept
    obtain ⟨conn, found, -⟩ := after.alive kept
    rw [found] at deleted
    cases deleted
  · intro gone
    by_contra alive
    obtain ⟨conn, found⟩ := Option.ne_none_iff_exists'.mp alive
    -- it would be in an array of its server, and it was in that array before
    have there : 0 < m'.times conn.parent c := by
      rw [after.placed, parentOf, found, if_pos ⟨rfl, (Option.some_ne_none c).symm⟩]
      exact Nat.one_pos
    have before : m.parentOf c = some id :=
      (owned.parentOf_eq (Nat.add_pos_right _ (count_pos_iff.mpr member))).1
    have once := owned.placed id c
    rw [if_pos ⟨before, (Option.some_ne_none c).symm⟩] at once
    have free := count_pos_iff.mpr member
    unfold times at there once
    rw [(fewer _).1] at there
    rcases Nat.add_pos_iff_pos_or_pos.mp there with inUse | inFree
    · have also := owned.parentOf_eq (Nat.add_pos_left inUse _)
      rw [before] at also
      cases also.1
      omega
    · have still := count_pos_iff.mp inFree
      have also := owned.parentOf_eq (Nat.add_pos_right _ (count_pos_iff.mpr ((fewer _).2 still)))
      rw [before] at also
      cases also.1
      exact gone still

end Owned

/-! ### The loops -/

variable {id : SrvId} {reason : MySrvC → Bool} {pool : PoolEnv}

theorem dropFree_freed (owned : Owned m none) {c : ConnId} {rest : List ConnId}
    (free : (m.srv id).connectionsFree = c :: rest) :
    ∃ m', m.dropFree id = .ok m' ∧ Freed m m' id (closeUp rest) := by
  have member : c ∈ (m.srv id).connectionsFree := free ▸ mem_cons_self
  obtain ⟨conn, found, -⟩ := owned.alive member
  have distinct : c ∉ rest := (nodup_cons.mp (free ▸ owned.nodup_free id)).1
  have moved := closeUp_perm rest
  have done : m.dropFree id = .ok { m.setFree id (closeUp rest) with
      conns := update m.conns c none } := by
    unfold dropFree takeFree
    rw [free]
    rw [removeIndexFast_zero]
    change (Manager.delete _ c) = _
    unfold Manager.delete
    rw [conn_eq_ok.mpr (show (m.setFree id (closeUp rest)).conns c = some conn from found)]
    rfl
  refine ⟨_, done, ?_⟩
  constructor
  · exact owned.dropFree done
  · rw [free]
    exact fun d inside => mem_cons_of_mem c (moved.subset inside)
  · exact m.srv_setFree_self id _
  · exact fun id' other => m.srv_setFree_of_ne other _
  · rfl
  · intro d spared
    have other : d ≠ c := by
      rintro rfl
      rcases spared with absent | inside
      · exact absent member
      · exact distinct (moved.subset inside)
    exact update_of_ne other ..

theorem dropFreeWhile_freed {n fuel : Nat} (owned : Owned m none)
    (bound : ∀ free, reason { m.srv id with connectionsFree := free } = decide (n < free.length))
    (enough : (m.srv id).connectionsFree.length < fuel) :
    ∃ m', dropFreeWhile reason id fuel m = .ok m' ∧
      Freed m m' id (shrink n (m.srv id).connectionsFree) := by
  induction fuel generalizing m with
  | zero => exact absurd enough (Nat.not_lt_zero _)
  | succ fuel ih =>
    have now : reason (m.srv id) = decide (n < (m.srv id).connectionsFree.length) := bound _
    unfold dropFreeWhile
    rw [now]
    by_cases many : n < (m.srv id).connectionsFree.length
    · rw [if_pos (decide_eq_true many)]
      obtain ⟨c, rest, free⟩ : ∃ c rest, (m.srv id).connectionsFree = c :: rest :=
        exists_cons_of_length_pos (Nat.zero_lt_of_lt many)
      obtain ⟨next, dropped, freed⟩ := dropFree_freed owned free
      rw [free, length_cons] at enough
      have same : ∀ free, reason { next.srv id with connectionsFree := free } =
          decide (n < free.length) := by
        intro free
        rw [freed.here]
        exact bound free
      obtain ⟨m', done, rest'⟩ := ih freed.owned same
        (by rw [freed.free, length_closeUp]; omega)
      rw [freed.free] at rest'
      refine ⟨m', ?_, ?_⟩
      · rw [dropped]
        exact done
      · rw [free, shrink_of_lt (free ▸ many)]
        exact freed.trans rest'
    · rw [if_neg fun more => many (of_decide_eq_true more), shrink_of_length_le (not_lt.mp many)]
      exact ⟨m, rfl, .refl owned id⟩

theorem dropAged_freed (pool : PoolEnv) (id : SrvId) (owned : Owned m none) (fuel i : Nat) :
    ∃ m', dropAged pool.monotonicTime (pool.connectionMaxAgeMs * 1000) id fuel i m = .ok m' ∧
      Freed m m' id (removeFirstFor (m.aged pool) fuel i (m.srv id).connectionsFree) := by
  induction fuel generalizing m i with
  | zero => exact ⟨m, rfl, .refl owned id⟩
  | succ fuel ih =>
    unfold dropAged removeFirstFor
    cases found : (m.srv id).connectionsFree[i]? with
    | none => exact ⟨m, rfl, .refl owned id⟩
    | some c =>
      obtain ⟨conn, alive, -⟩ := owned.alive (mem_of_getElem? found)
      have age : m.aged pool c = decide
          (pool.monotonicTime > conn.creationTime + pool.connectionMaxAgeMs * 1000) := by
        unfold aged
        rw [alive]
      dsimp only
      rw [conn_eq_ok.mpr alive, age]
      dsimp only [ok_bind]
      by_cases old : pool.monotonicTime > conn.creationTime + pool.connectionMaxAgeMs * 1000
      · rw [if_pos old, if_pos (decide_eq_true old)]
        obtain ⟨first, rest, free⟩ : ∃ first rest, (m.srv id).connectionsFree = first :: rest := by
          apply exists_cons_of_length_pos
          exact Nat.zero_lt_of_lt (List.getElem?_eq_some_iff.mp found).1
        obtain ⟨next, dropped, freed⟩ := dropFree_freed owned free
        obtain ⟨m', done, rest'⟩ := ih freed.owned i
        rw [freed.free, removeFirstFor_congr fun c kept => freed.aged pool kept] at rest'
        refine ⟨m', ?_, ?_⟩
        · rw [dropped]
          exact done
        · rw [free, removeIndexFast_zero]
          exact freed.trans rest'
      · rw [if_neg old, if_neg fun isOld => old (of_decide_eq_true isOld)]
        exact ih owned (i + 1)

theorem dropAllWhile_freed {n : Nat} (owned : Owned m none)
    (bound : ∀ free, reason { m.srv id with connectionsFree := free } = decide (n < free.length)) :
    ∃ m', m.dropAllWhile id reason = .ok m' ∧
      Freed m m' id (shrink n (m.srv id).connectionsFree) :=
  dropFreeWhile_freed owned bound (lt_add_one _)

theorem beyondMax_eq (v : MySrvC) (free : List ConnId) :
    beyondMax { v with connectionsFree := free } =
      decide ((v.maxConnections - v.connectionsUsed.length).toNat < free.length) := by
  unfold beyondMax
  rw [decide_eq_decide, ← length_pos_iff]
  dsimp only
  omega

theorem dropOffline_freed (owned : Owned m none) (id : SrvId) :
    ∃ m', m.dropOffline id = .ok m' ∧ Freed m m' id
      (if (m.srv id).status = .online then (m.srv id).connectionsFree
      else shrink 0 (m.srv id).connectionsFree) := by
  unfold dropOffline
  by_cases online : (m.srv id).status = .online
  · rw [if_neg (not_not.mpr online), if_pos online]
    exact ⟨m, rfl, .refl owned id⟩
  · rw [if_pos online, if_neg online]
    apply dropAllWhile_freed owned
    intro free
    rw [decide_eq_decide, ← length_pos_iff]

def keptFree (m : Manager hash) (pool : PoolEnv) (id : SrvId) : List ConnId :=
  removeFirstFor (m.aged pool) (m.trimmedFree pool id).length 0 (m.trimmedFree pool id)

theorem dropIdleConnections_freed (aging : pool.connectionMaxAgeMs ≠ 0) (owned : Owned m none)
    (limit : 0 ≤ m.expectedFree pool id) :
    ∃ m', m.dropIdleConnections pool id = .ok m' ∧ Freed m m' id (m.keptFree pool id) := by
  obtain ⟨first, offline, freed₁⟩ := dropOffline_freed owned id
  obtain ⟨second, beyond, freed₂⟩ := dropAllWhile_freed freed₁.owned (beyondMax_eq (first.srv id))
  have few : ∀ free : List ConnId, decide ((free.length : Int) > second.expectedFree pool id) =
      decide ((second.expectedFree pool id).toNat < free.length) := by
    intro free
    rw [(freed₁.trans freed₂).expectedFree, decide_eq_decide]
    omega
  obtain ⟨third, percentage, freed₃⟩ : ∃ third,
      (second.dropAllWhile id fun v =>
        (v.connectionsFree.length : Int) > second.expectedFree pool id) =
        .ok third ∧
      Freed second third id (shrink (second.expectedFree pool id).toNat
        (second.srv id).connectionsFree) := dropAllWhile_freed freed₂.owned few
  have trimmed : Freed m third id (m.trimmedFree pool id) := by
    have all := (freed₁.trans freed₂).trans freed₃
    rw [(freed₁.trans freed₂).expectedFree, freed₂.free, freed₁.here] at all
    unfold trimmedFree allowedFree
    split_ifs at all ⊢
    · rwa [shrink_shrink] at all
    · rwa [shrink_shrink, shrink_shrink] at all
  obtain ⟨m', ages, freed₄⟩ := dropAged_freed pool id trimmed.owned
    (third.srv id).connectionsFree.length 0
  refine ⟨m', ?_, ?_⟩
  · simp only [dropIdleConnections, offline, ok_bind, beyond, percentage, if_pos aging]
    exact ages
  · rw [trimmed.free, removeFirstFor_congr fun c kept => trimmed.aged pool kept] at freed₄
    exact trimmed.trans freed₄

/-! ### All servers -/

theorem keptFree_subperm (m : Manager hash) (pool : PoolEnv) (id : SrvId) :
    m.keptFree pool id <+~ m.trimmedFree pool id :=
  removeFirstFor_subperm ..

theorem trimmedFree_subperm (m : Manager hash) (pool : PoolEnv) (id : SrvId) :
    m.trimmedFree pool id <+~ (m.srv id).connectionsFree :=
  shrink_subperm ..

theorem Freed.keptFree {id' : SrvId} {left : List ConnId} (freed : Freed m m' id left)
    (owned : Owned m none) (other : id' ≠ id) (pool : PoolEnv) :
    m'.expectedFree pool id' = m.expectedFree pool id' ∧
      m'.keptFree pool id' = m.keptFree pool id' := by
  have same := freed.others id' other
  have limit : m'.expectedFree pool id' = m.expectedFree pool id' := by
    unfold Manager.expectedFree Manager.freeConnectionsPct Manager.myhgc
    rw [freed.groups, same]
  have trimmed : m'.trimmedFree pool id' = m.trimmedFree pool id' := by
    unfold trimmedFree allowedFree
    rw [same, limit]
  refine ⟨limit, ?_⟩
  unfold Manager.keptFree
  rw [trimmed]
  apply removeFirstFor_congr
  intro c member
  unfold Manager.aged
  rw [freed.conns c (.inl (owned.disjoint other ((m.trimmedFree_subperm pool id').subset member)))]

/-- The free connections of some servers are trimmed and looked at for their age, and all else is as
it was. -/
structure Swept (pool : PoolEnv) (ids : List SrvId) (m m' : Manager hash) : Prop where
  owned : Owned m' none
  visited : ∀ id ∈ ids, m'.srv id = { m.srv id with connectionsFree := m.keptFree pool id }
  others : ∀ id, id ∉ ids → m'.srv id = m.srv id

theorem dropEach_swept (aging : pool.connectionMaxAgeMs ≠ 0) {ids : List SrvId}
    (distinct : ids.Nodup) (owned : Owned m none)
    (limits : ∀ id ∈ ids, 0 ≤ m.expectedFree pool id) :
    ∃ m', ids.foldlM (fun m id => m.dropIdleConnections pool id) m = .ok m' ∧
      Swept pool ids m m' := by
  induction ids generalizing m with
  | nil => exact ⟨m, rfl, owned, fun id never => absurd never not_mem_nil, fun _ _ => rfl⟩
  | cons first ids ih =>
    rw [nodup_cons] at distinct
    rw [forall_mem_cons] at limits
    obtain ⟨next, dropped, freed⟩ := dropIdleConnections_freed aging owned limits.1
    have apart : ∀ id ∈ ids, id ≠ first := by
      rintro id member rfl
      exact distinct.1 member
    have frame := fun id member => freed.keptFree owned (apart id member) pool
    obtain ⟨m', rest, swept⟩ := ih distinct.2 freed.owned fun id member =>
      (frame id member).1 ▸ limits.2 id member
    refine ⟨m', ?_, swept.owned, ?_, ?_⟩
    · rw [foldlM_cons, dropped]
      exact rest
    · rw [forall_mem_cons]
      constructor
      · rw [swept.others first distinct.1, freed.here]
      · intro id member
        rw [swept.visited id member, freed.others id (apart id member), (frame id member).2]
    · intro id outside
      rw [mem_cons, not_or] at outside
      rw [swept.others id outside.2, freed.others id outside.1]

/-- With a maximum age, `drop_all_idle_connections` deletes, besides the free connections that are
too many, exactly those whose age exceeds the maximum, if and only if these come to the front before
all others: in the order first, last, last but one, and so on to the second, no younger connection
is before one that is too old. -/
theorem dropAllIdleConnections_by_age_iff {pool : PoolEnv} (aging : pool.connectionMaxAgeMs ≠ 0)
    (owned : Owned m none) (distinct : (m.serversOf m.servers.hids).Nodup)
    (limits : ∀ id ∈ m.serversOf m.servers.hids, 0 ≤ m.expectedFree pool id) :
    ∃ m', m.dropAllIdleConnections pool = .ok m' ∧ ∀ id ∈ m.serversOf m.servers.hids,
      (∀ c ∈ (m.srv id).connectionsFree, c ∉ m.trimmedFree pool id → m'.conns c = none) ∧
      ((∀ c ∈ m.trimmedFree pool id, m'.conns c = none ↔ m.aged pool c = true) ↔
        (comingOrder (m.trimmedFree pool id)).Pairwise
          fun c d => m.aged pool d = true → m.aged pool c = true) := by
  obtain ⟨m', done, swept⟩ := dropEach_swept aging distinct owned limits
  have fewer : ∀ id, (m'.srv id).connectionsUsed = (m.srv id).connectionsUsed ∧
      (m'.srv id).connectionsFree ⊆ (m.srv id).connectionsFree := by
    intro id
    by_cases member : id ∈ m.serversOf m.servers.hids
    · rw [swept.visited id member]
      exact ⟨rfl, ((m.keptFree_subperm pool id).trans (m.trimmedFree_subperm pool id)).subset⟩
    · rw [swept.others id member]
      exact ⟨rfl, List.Subset.refl _⟩
  refine ⟨m', done, ?_⟩
  intro id member
  have kept : (m'.srv id).connectionsFree = m.keptFree pool id := by
    rw [swept.visited id member]
  have deleted : ∀ c ∈ (m.srv id).connectionsFree, m'.conns c = none ↔ c ∉ m.keptFree pool id := by
    intro c free
    rw [← kept]
    exact owned.deleted_iff swept.owned fewer free
  constructor
  · intro c free gone
    exact (deleted c free).mpr fun inside => gone ((m.keptFree_subperm pool id).subset inside)
  · have trimmed := m.trimmedFree_subperm pool id
    have once := nodup_of_subperm trimmed (owned.nodup_free id)
    rw [← removeFirstFor_perm_filter_iff (m.aged pool) (m.trimmedFree pool id) _ (Nat.le_refl _)]
    refine Iff.trans ?_ (perm_filter_iff once (m.keptFree_subperm pool id)).symm
    apply forall₂_congr
    intro c member
    rw [deleted c (trimmed.subset member)]

/-! ### Two free connections -/

def createdAt (creationTime : Nat) : Conn hash :=
    { Conn.create 0 true with creationTime := creationTime }

/-- A server with two free connections -/
def twoFree (first second : Nat) : Manager hash where
  servers :=
    { srv
        | 0 => { Servers.shunnedFull with
            status := .online, maxConnections := 100, connectionsUsed := [], connectionsFree :=
            [0, 1] }
        | _ => { Servers.shunnedFull with connectionsUsed := [] }
      hids := [1]
      hostgroup := fun _ => { MyHGC.create with mysrvs := [0] } }
  conns
    | 0 => some (createdAt first)
    | 1 => some (createdAt second)
    | _ => none
  fresh := 2
  queue := []

theorem owned_twoFree (first second : Nat) : Owned (twoFree first second : Manager hash) none where
  unused
    | 0, small => absurd small (show ¬ 2 ≤ 0 by decide)
    | 1, small => absurd small (show ¬ 2 ≤ 1 by decide)
    | _ + 2, _ => rfl
  placed
    | 0, 0 => rfl
    | 0, 1 => rfl
    | 0, _ + 2 => rfl
    | _ + 1, 0 => rfl
    | _ + 1, 1 => rfl
    | _ + 1, _ + 2 => rfl

def agingPool : PoolEnv := { PoolEnv.default with connectionMaxAgeMs := 1, monotonicTime := 5000 }

/-- The connection that is too old is the first one. -/
theorem dropAllIdleConnections_oldFirst :
    ∃ m', (twoFree 0 4500 : Manager fun _ => 0).dropAllIdleConnections agingPool = .ok m' ∧
      m'.conns 0 = none ∧ m'.conns 1 ≠ none := by
  have trimmed : (twoFree 0 4500 : Manager fun _ => 0).trimmedFree agingPool 0 = [0, 1] := rfl
  have old : (twoFree 0 4500 : Manager fun _ => 0).aged agingPool 0 = true := by decide +kernel
  have young : (twoFree 0 4500 : Manager fun _ => 0).aged agingPool 1 = false := by decide +kernel
  have owned : Owned (twoFree 0 4500 : Manager fun _ => 0) none := owned_twoFree 0 4500
  have aging : agingPool.connectionMaxAgeMs ≠ 0 := by decide
  obtain ⟨m', done, each⟩ := dropAllIdleConnections_by_age_iff aging owned (by decide) (by decide)
  have exactly := (each 0 (by decide)).2
  rw [trimmed] at exactly
  have deleted := exactly.mpr (by simp [comingOrder, old])
  refine ⟨m', done, (deleted 0 (by decide)).mpr old, fun gone => ?_⟩
  rw [(deleted 1 (by decide)).mp gone] at young
  cases young

/-- The connection that is too old is the second one: the younger one is deleted in its place. -/
theorem young_connection_deleted :
    (twoFree 4500 0 : Manager fun _ => 0).trimmedFree agingPool 0 = [0, 1] ∧
    (twoFree 4500 0 : Manager fun _ => 0).aged agingPool 0 = false ∧
    (twoFree 4500 0 : Manager fun _ => 0).aged agingPool 1 = true ∧
    ((twoFree 4500 0 : Manager fun _ => 0).dropAllIdleConnections agingPool).map (fun m' =>
      ((m'.conns 0).isNone, (m'.conns 1).isNone)) = .ok (true, false) :=
  ⟨rfl, by decide +kernel, by decide +kernel, by decide +kernel⟩

end MockProxy.Hostgroups.Manager
