import MockProxy.Hostgroups.Manager

/-!
# The free connection that suits a client best

`get_random_MyConn` goes over the free connections from a random position on and keeps the best one
it has seen: its index, its quality level and, once there is one that needs no change of user, how
many session variables match. A perfect connection ends the search.

The result does not depend on the start but for the choice among connections that are equally good
(`search_finds_best`). While the search goes on, a connection that must not be reset is taken as the
best one for a moment and given up in the same round.
-/

namespace MockProxy.Hostgroups

open Machine List
open scoped List

variable {hash : String → Nat}

def PoolEnv.resetsAllowed (env : PoolEnv) (h : HandlerVars) : Bool :=
  ¬ (env.resetConnectionAlgorithm = 1 ∧ h.connpollResetQueueLength = 0)

/-- The quality level a connection offers a client -/
def Conn.level (conn : Conn hash) (client : Tracked hash) (resetsAllowed : Bool) : Nat :=
  if conn.tracked.matchTrackedOptions client then
    if conn.tracked.vars.requiresChangeUser client.vars then
      if resetsAllowed then 1 else 0
    else if (conn.countMatches client).2 = 0 then 3 else 2
  else 0

theorem Conn.level_le_three (conn : Conn hash) (client : Tracked hash) (resetsAllowed : Bool) :
    conn.level client resetsAllowed ≤ 3 := by
  unfold Conn.level
  split_ifs <;> omega

/-! ### One connection -/

/-- What the search has found among the positions it has seen, where a position offers a level and a
number of matches. -/
structure Search.Found (level matching : Nat → Nat) (seen : List Nat) (s : Search) : Prop where
  best : ∀ k ∈ seen, level k ≤ s.quality ∧ (s.quality = 2 → level k = 2 → matching k ≤ s.matching)
  attained : s.quality ≠ 0 → ∃ k ∈ seen, s.connFoundIdx = some k ∧ level k = s.quality ∧
    (2 ≤ s.quality → matching k = s.matching)
  unset : s.quality < 2 → s.matching = 0

namespace Search

variable {level matching : Nat → Nat} {seen : List Nat} {s : Search} {k : Nat}

theorem found_start (level matching : Nat → Nat) : Found level matching [] ⟨none, 0, 0⟩ where
  best _ never := absurd never not_mem_nil
  attained none := absurd rfl none
  unset _ := rfl

namespace Found

section

variable (found : Found level matching seen s)

include found

theorem attained_append (some : s.quality ≠ 0) (others : List Nat) :
    ∃ k ∈ seen ++ others, s.connFoundIdx = Option.some k ∧ level k = s.quality ∧
      (2 ≤ s.quality → matching k = s.matching) := by
  obtain ⟨x, member, rest⟩ := found.attained some
  exact ⟨x, mem_append_left _ member, rest⟩

theorem skip (low : level k ≤ s.quality)
    (few : s.quality = 2 → level k = 2 → matching k ≤ s.matching) :
    Found level matching (seen ++ [k]) s where
  best := by
    rw [forall_mem_append, forall_mem_singleton]
    exact ⟨found.best, low, few⟩
  attained some := found.attained_append some [k]
  unset := found.unset

/-- A position on a higher level, or with more matches, takes the place of what was found. -/
theorem take (better : s.quality < level k ∨ s.quality = level k ∧ s.matching ≤ matching k)
    (n : Nat)
    (counted : 2 ≤ level k → n = matching k) (unset : level k < 2 → n = 0) :
    Found level matching (seen ++ [k]) ⟨some k, level k, n⟩ where
  best := by
    rw [forall_mem_append, forall_mem_singleton]
    refine ⟨fun x old => ?_, le_rfl, fun usable _ => (counted usable.ge).ge⟩
    have before := found.best x old
    refine ⟨by dsimp only; omega, fun usable same => ?_⟩
    dsimp only at usable ⊢
    omega
  attained _ := ⟨k, mem_append_right _ mem_cons_self, rfl, rfl, fun usable => (counted usable).symm⟩
  unset := unset

/-- A position that offers nothing may be remembered as long as nothing has been found. -/
theorem giveUp (nothing : s.quality = 0) (worthless : level k = 0)
    (idx : Option Nat) : Found level matching (seen ++ [k]) ⟨idx, 0, 0⟩ where
  best := by
    rw [forall_mem_append, forall_mem_singleton]
    exact ⟨fun x old => ⟨nothing ▸ (found.best x old).1, nofun⟩, worthless.le, nofun⟩
  attained some := absurd rfl some
  unset _ := rfl

/-- A perfect connection is best, whatever else there is. -/
theorem perfect (perfect : s.quality = 3) (levels : ∀ x, level x ≤ 3)
    (others : List Nat) : Found level matching (seen ++ others) s where
  best x _ := ⟨perfect ▸ levels x, by omega⟩
  attained some := found.attained_append some others
  unset low := by omega

theorem perm {seen' : List Nat} (same : seen ~ seen') : Found level matching seen' s where
  best x member := found.best x (same.mem_iff.mpr member)
  attained some := by
    obtain ⟨x, member, rest⟩ := found.attained some
    exact ⟨x, same.mem_iff.mp member, rest⟩
  unset := found.unset

theorem le {s' : Search} (found' : Found level matching seen s') :
    s.quality ≤ s'.quality ∧ (s.quality = 2 → s'.quality = 2 → s.matching ≤ s'.matching) := by
  by_cases none : s.quality = 0
  · omega
  · obtain ⟨x, member, -, same, counted⟩ := found.attained none
    have best := found'.best x member
    omega

theorem unique {s' : Search} (found' : Found level matching seen s') :
    s.quality = s'.quality ∧ (s'.quality = 2 → s.matching = s'.matching) := by
  have upper := found.le found'
  have lower := found'.le found
  omega

end

end Found

/-! ### One round of the search -/

section

variable {env : PoolEnv} {h : HandlerVars} {conn : Conn hash} {client : Tracked hash}

theorem visit_of_unmatched (unmatched : ¬ conn.tracked.matchTrackedOptions client) :
    s.visit env conn client k = .ok (s, false) :=
  if_neg unmatched

/-- The connection needs no change of user: with the first ones, the level is raised twice. -/
theorem visit_of_usable (options : conn.tracked.matchTrackedOptions client)
    (usable : conn.tracked.vars.requiresChangeUser client.vars = false) :
    s.visit env conn client k = .ok (if (conn.countMatches client).2 = 0 then
        (⟨some k, 3, (conn.countMatches client).1⟩, true) else if s.quality ≤ 1 then
        (⟨some k, 2, max s.matching (conn.countMatches client).1⟩, false)
      else if (conn.countMatches client).1 > s.matching then
        ({ s with matching := (conn.countMatches client).1, connFoundIdx := some k }, false)
      else (s, false)) := by
  obtain ⟨connFoundIdx, quality, matching⟩ := s
  unfold visit Search.usable
  rw [if_pos options, if_pos usable]
  match quality with
  | 0 | 1 =>
    by_cases more : (conn.countMatches client).1 > matching
    · simp [more, Nat.max_eq_right more.le]
    · simp [more, Nat.max_eq_left (not_lt.mp more)]
  | n + 2 => simp

/-- The connection needs a change of user: it is kept if there is nothing better and it may be
reset. -/
theorem visit_of_reset (handler : env.gloMTH = some h)
    (options : conn.tracked.matchTrackedOptions client)
    (reset : conn.tracked.vars.requiresChangeUser client.vars) :
    s.visit env conn client k = .ok (if s.quality ≤ 1 then
        ⟨if s.quality = 0 then some k else s.connFoundIdx,
        if env.resetsAllowed h then 1 else 0, s.matching⟩
      else s, false) := by
  have ready : env.handler = .ok h := by
    unfold PoolEnv.handler
    rw [handler]
  have needed : ¬ conn.tracked.vars.requiresChangeUser client.vars = false := by simp [reset]
  obtain ⟨connFoundIdx, quality, matching⟩ := s
  unfold visit
  rw [if_pos options]
  rw [if_neg needed, ready]
  match quality with
  | 0 | 1 =>
    -- the level is 1 when the variables are looked at
    by_cases algorithm : env.resetConnectionAlgorithm = 1
    · by_cases queue : h.connpollResetQueueLength = 0
      · simp [PoolEnv.resetsAllowed, algorithm, queue]
      · simp [PoolEnv.resetsAllowed, algorithm, queue]
    · simp [PoolEnv.resetsAllowed, algorithm]
  | n + 2 => simp

end

/-- A round ends with what is best among the positions seen. The search is over exactly if that is
perfect. -/
def Rounds (level matching : Nat → Nat) (seen : List Nat) (round : Except Fault (Search × Bool)) :
    Prop :=
  ∃ s ended, round = .ok (s, ended) ∧ Found level matching seen s ∧
    (ended = true ∧ s.quality = 3 ∨ ended = false ∧ s.quality ≤ 2)

section

variable {env : PoolEnv} {h : HandlerVars} {conn : Conn hash} {client : Tracked hash}
  (found : Found level matching seen s) (going : s.quality ≤ 2)

include found going

theorem rounds_of_reset (handler : env.gloMTH = some h)
    (options : conn.tracked.matchTrackedOptions client)
    (reset : conn.tracked.vars.requiresChangeUser client.vars)
    (resets : ∀ x ∈ seen, level x = 1 → env.resetsAllowed h)
    (offered : level k = if env.resetsAllowed h then 1 else 0) :
    Rounds level matching (seen ++ [k]) (s.visit env conn client k) := by
  rw [visit_of_reset handler options reset]
  by_cases low : s.quality ≤ 1
  · rw [if_pos low]
    have none := found.unset (by omega)
    have small : (if env.resetsAllowed h then 1 else 0) ≤ 2 := by split <;> omega
    refine ⟨_, false, rfl, ?_, .inr ⟨rfl, small⟩⟩
    by_cases first : s.quality = 0
    · rw [if_pos first, ← offered, none]
      by_cases worthless : level k = 0
      · rw [worthless]
        exact found.giveUp first worthless (some k)
      · exact found.take (.inl (by omega)) 0 (fun usable => by split at offered <;> omega)
          (fun _ => rfl)
    · -- the one that was found before stays, as resets are allowed
      have one : s.quality = 1 := by omega
      obtain ⟨x, member, -, same, -⟩ := found.attained first
      have allowed := resets x member (same.trans one)
      rw [allowed, if_pos rfl] at offered
      rw [if_neg first, allowed, ← one]
      exact found.skip (by omega) (by omega)
  · rw [if_neg low]
    have small : level k ≤ 1 := by
      rw [offered]
      split <;> omega
    exact ⟨s, false, rfl, found.skip (by omega) (by omega), .inr ⟨rfl, going⟩⟩

theorem rounds_of_usable (options : conn.tracked.matchTrackedOptions client)
    (usable : conn.tracked.vars.requiresChangeUser client.vars = false)
    (offered : level k = if (conn.countMatches client).2 = 0 then 3 else 2)
    (counted : matching k = (conn.countMatches client).1) :
    Rounds level matching (seen ++ [k]) (s.visit env conn client k) := by
  rw [visit_of_usable options usable, ← counted]
  by_cases perfect : (conn.countMatches client).2 = 0
  · rw [if_pos perfect] at offered ⊢
    rw [← offered]
    exact ⟨_, true, rfl, found.take (.inl (by omega)) _ (fun _ => rfl) (by omega),
      .inl ⟨rfl, offered⟩⟩
  · rw [if_neg perfect] at offered ⊢
    by_cases low : s.quality ≤ 1
    · rw [if_pos low, found.unset (by omega), ← offered]
      exact ⟨_, false, rfl, found.take (.inl (by omega)) _ (fun _ => rfl) (by omega),
        .inr ⟨rfl, offered.le⟩⟩
    · rw [if_neg low]
      have partly : s.quality = 2 := by omega
      by_cases more : matching k > s.matching
      · rw [if_pos more, partly, ← offered]
        have better := found.take (.inr ⟨partly.trans offered.symm, more.le⟩) _
          (fun _ => rfl) (by omega)
        exact ⟨_, false, rfl, better, .inr ⟨rfl, offered.le⟩⟩
      · rw [if_neg more]
        exact ⟨s, false, rfl, found.skip (by omega) (by omega), .inr ⟨rfl, going⟩⟩

theorem rounds_visit (handler : env.gloMTH = some h)
    (resets : ∀ x ∈ seen, level x = 1 → env.resetsAllowed h)
    (offered : level k = conn.level client (env.resetsAllowed h))
    (counted : matching k = (conn.countMatches client).1) :
    Rounds level matching (seen ++ [k]) (s.visit env conn client k) := by
  unfold Conn.level at offered
  by_cases options : conn.tracked.matchTrackedOptions client
  · rw [if_pos options] at offered
    cases change : conn.tracked.vars.requiresChangeUser client.vars with
    | true =>
      rw [change] at offered
      exact rounds_of_reset found going handler options change resets offered
    | false =>
      rw [change] at offered
      exact rounds_of_usable found going options change offered counted
  · rw [if_neg options] at offered
    rw [visit_of_unmatched options]
    exact ⟨s, false, rfl, found.skip (by omega) (by omega), .inr ⟨rfl, going⟩⟩

end

end Search

/-! ### The search -/

namespace Manager

variable {m : Manager hash} {env : PoolEnv} {h : HandlerVars} {free : List ConnId}
    {client : Tracked hash}

/-- The quality level that the connection at a position offers the client -/
def levelAt (m : Manager hash) (env : PoolEnv) (h : HandlerVars) (free : List ConnId)
    (client : Tracked hash)
    (k : Nat) : Nat :=
  match (free[k]?).bind m.conns with
  | some conn => conn.level client (env.resetsAllowed h)
  | none => 0

/-- The number of session variables, and the schema, in which the connection at a position matches
the client -/
def matchingAt (m : Manager hash) (free : List ConnId) (client : Tracked hash) (k : Nat) : Nat :=
  match (free[k]?).bind m.conns with
  | some conn => (conn.countMatches client).1
  | none => 0

theorem resetsAllowed_of_levelAt {k : Nat} (one : m.levelAt env h free client k = 1) :
    env.resetsAllowed h := by
  unfold levelAt Conn.level at one
  split at one
  · split_ifs at one with options change allowed
    · exact allowed
    · cases one
    · cases one
  · cases one

theorem levelAt_le_three (k : Nat) : m.levelAt env h free client k ≤ 3 := by
  unfold levelAt
  split
  · exact Conn.level_le_three ..
  · exact Nat.zero_le 3

section

variable (handler : env.gloMTH = some h) (alive : ∀ c ∈ free, m.conns c ≠ none)

include handler alive

theorem innerSearch_found {seen : List Nat} {s : Search}
    (found : s.Found (m.levelAt env h free client) (m.matchingAt free client) seen)
    (going : s.quality ≤ 2) {ks : List Nat} (inside : ∀ k ∈ ks, k < free.length) :
    ∃ s', m.innerSearch env free client ks s = .ok s' ∧ s'.quality ≤ 3 ∧
      s'.Found (m.levelAt env h free client) (m.matchingAt free client) (seen ++ ks) := by
  induction ks generalizing seen s with
  | nil =>
    rw [append_nil]
    exact ⟨s, rfl, by omega, found⟩
  | cons k ks ih =>
    rw [forall_mem_cons] at inside
    have there : free[k]? = some free[k] := getElem?_eq_getElem inside.1
    obtain ⟨conn, lives⟩ := Option.ne_none_iff_exists'.mp (alive _ (getElem_mem inside.1))
    have here : (free[k]?).bind m.conns = some conn := by
      rw [there, Option.bind_some, lives]
    have offered : m.levelAt env h free client k = conn.level client (env.resetsAllowed h) := by
      unfold levelAt
      rw [here]
    have counted : m.matchingAt free client k = (conn.countMatches client).1 := by
      unfold matchingAt
      rw [here]
    obtain ⟨s', ended, round, found', fate⟩ := Search.rounds_visit found going handler
      (fun x _ one => resetsAllowed_of_levelAt one) offered counted
    unfold innerSearch
    rw [there]
    dsimp only
    rw [conn_eq_ok.mpr lives]
    dsimp only [bind, Except.bind]
    rw [round]
    rcases fate with ⟨rfl, perfect⟩ | ⟨rfl, less⟩
    · have all := found'.perfect perfect levelAt_le_three ks
      rw [append_assoc] at all
      exact ⟨s', rfl, perfect.le, all⟩
    · obtain ⟨last, done, bound, all⟩ := ih found' less inside.2
      rw [append_assoc] at all
      exact ⟨last, done, bound, all⟩

theorem search_found (client : Tracked hash) {start : Nat} (inside : start < free.length) :
    ∃ s, m.search env free client start = .ok s ∧
      s.Found (m.levelAt env h free client) (m.matchingAt free client) (range free.length) := by
  have behind : ∀ k ∈ range' start (free.length - start), k < free.length := by
    intro k member
    obtain ⟨i, small, rfl⟩ := mem_range'.mp member
    omega
  have before : ∀ k ∈ range start, k < free.length := by
    intro k member
    exact (mem_range.mp member).trans inside
  have all : range' start (free.length - start) ++ range start ~ range free.length := by
    rw [range_eq_range', range_eq_range']
    have joined : range' 0 start ++ range' (0 + start) (free.length - start) =
        range' 0 (start + (free.length - start)) := range'_append_1
    rw [Nat.zero_add, Nat.add_sub_of_le inside.le] at joined
    exact perm_append_comm.trans (.of_eq joined)
  obtain ⟨first, searched, bound, found⟩ := innerSearch_found handler alive
    (Search.found_start (m.levelAt env h free client) (m.matchingAt free client))
      (Nat.zero_le 2) behind
  unfold search
  rw [searched]
  dsimp only [ok_bind]
  by_cases perfect : first.quality = 3
  · rw [if_neg (not_not.mpr perfect)]
    exact ⟨first, rfl, (found.perfect perfect levelAt_le_three _).perm all⟩
  · rw [if_pos perfect]
    obtain ⟨s, done, -, best⟩ := innerSearch_found handler alive found (by omega) before
    exact ⟨s, done, best.perm all⟩

end

/-- From every start the search ends, with the highest level that a free connection offers the
client and a position that offers it. Among partial matches none has more session variables that
match. Two starts differ only in the choice among positions that are equally good. -/
theorem search_finds_best (handler : env.gloMTH = some h) (alive : ∀ c ∈ free, m.conns c ≠ none)
    (client : Tracked hash) {start : Nat} (inside : start < free.length) :
    ∃ s, m.search env free client start = .ok s ∧
      (∀ k < free.length, m.levelAt env h free client k ≤ s.quality) ∧
      (s.quality = 1 → env.resetsAllowed h = true) ∧
      (s.quality ≠ 0 → ∃ k < free.length, s.connFoundIdx = some k ∧
        m.levelAt env h free client k = s.quality ∧
        (s.quality = 2 → m.matchingAt free client k = s.matching ∧ ∀ k' < free.length,
          m.levelAt env h free client k' = 2 → m.matchingAt free client k' ≤ s.matching)) ∧
      ∀ start' < free.length, ∃ s', m.search env free client start' = .ok s' ∧
        s'.quality = s.quality ∧
        (s.quality = 2 → s'.matching = s.matching) := by
  obtain ⟨s, done, found⟩ := search_found handler alive client inside
  refine ⟨s, done, ?_, ?_, ?_, ?_⟩
  · intro k small
    exact (found.best k (mem_range.mpr small)).1
  · intro one
    obtain ⟨k, -, -, level, -⟩ := found.attained (by omega)
    exact resetsAllowed_of_levelAt (level.trans one)
  · intro some
    obtain ⟨k, member, idx, level, counted⟩ := found.attained some
    refine ⟨k, mem_range.mp member, idx, level, fun partly => ⟨counted partly.ge, ?_⟩⟩
    intro k' small
    exact (found.best k' (mem_range.mpr small)).2 partly
  · intro start' inside'
    obtain ⟨s', done', found'⟩ := search_found handler alive client inside'
    exact ⟨s', done', found'.unique found⟩

/-! ### Two free connections -/

def plainClient (username : String) : Tracked hash := ⟨0, .create ⟨username, "db", 0⟩⟩

def ofUser (username : String) : Conn hash :=
  { (Conn.create 0 true : Conn hash) with tracked := plainClient username }

def twoUsers : Manager hash where
  servers := .alone Servers.shunnedFull
  conns
    | 0 => some (ofUser "alice")
    | 1 => some (ofUser "bob")
    | _ => none
  fresh := 2
  queue := []

theorem search_finds_best_twoUsers : ∃ s,
    (twoUsers : Manager fun _ => 0).search .default [0, 1] (plainClient "bob") 0 = .ok s ∧
      s.quality = 3 ∧ s.connFoundIdx = some 1 := by
  have handler : PoolEnv.default.gloMTH = some ⟨524288, 20, 50⟩ := rfl
  have alive : ∀ c ∈ [0, 1], (twoUsers : Manager fun _ => 0).conns c ≠ none := by
    simp [twoUsers]
  have small : 0 < [0, 1].length := by decide
  obtain ⟨s, done, highest, -, attained, -⟩ :=
    search_finds_best handler alive (plainClient "bob") small
  have second : (twoUsers : Manager fun _ => 0).levelAt .default ⟨524288, 20, 50⟩ [0, 1]
      (plainClient "bob") 1 = 3 := by
    decide +kernel
  have first : (twoUsers : Manager fun _ => 0).levelAt .default ⟨524288, 20, 50⟩ [0, 1]
      (plainClient "bob") 0 = 1 := by
    decide +kernel
  have perfect := highest 1 (by decide)
  obtain ⟨k, inside, idx, level, -⟩ := attained (by omega)
  have position : k = 1 := by
    match k with
    | 0 => omega
    | 1 => rfl
    | n + 2 => exact absurd inside (by simp)
  subst position
  exact ⟨s, done, level.symm.trans second, idx⟩

end Manager

end MockProxy.Hostgroups
