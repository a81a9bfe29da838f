import MockProxy.QueryProcessor.Rules

/-!
# Where a mirrored query goes

A mirror session that was created without a `flagOUT` takes its mirror hostgroup as destination and
jumps over the rules. The routing step behind the rules is not skipped, though: `qr` is still null
there, and a hostgroup that the fast routing table or LionRouter has for the query takes the place
of the mirror hostgroup.
-/

namespace MockProxy.QueryProcessor

def FastRouting.entry (table : FastRouting) (randDel u s : String) (flagIN : Int) : Option Int :=
  let anyUser := randDel ++ s ++ "---" ++ toString flagIN
  (table (u ++ anyUser)).or (table anyUser)

theorem searchRulesFastRoutingDestHg_eq (table : FastRouting) (randDel u s : String)
    (flagIN : Int) :
    searchRulesFastRoutingDestHg table randDel u s flagIN =
      (table.entry randDel u s flagIN).getD (-1) := by
  simp only [searchRulesFastRoutingDestHg, FastRouting.entry]
  split
  next found => rw [found, Option.some_or, Option.getD_some]
  next missing => rw [missing, Option.none_or]

variable (tables : Tables)

/-- The hostgroup that the routing data have for a query: the one of the thread's table, or else of
the shared table, or else LionRouter's. -/
def Tables.hostgroup (env : Env) (flagIN : Int) : Option Int :=
  match tables.threadLocal.or tables.shared with
  | some table => table.entry tables.randDel env.sess.username env.sess.schemaname flagIN
  | none => (tables.lion.parseYcsbKey env.query.text).bind fun keys =>
      if keys.isEmpty then none else tables.lion.evaluateHost keys

theorem route_eq (env : Env) (flagIN : Int) :
    route tables env flagIN = (tables.hostgroup env flagIN).getD (-1) := by
  unfold route Tables.hostgroup
  cases tables.threadLocal with
  | some table => exact searchRulesFastRoutingDestHg_eq ..
  | none =>
    cases tables.shared with
    | some table => exact searchRulesFastRoutingDestHg_eq ..
    | none =>
      rcases tables.lion.parseYcsbKey env.query.text with _ | _ | ⟨key, keys⟩ <;> simp

/-- The `flagIN` that a query starts with. -/
def Session.startFlagIN (sess : Session) : Int :=
  if 0 ≤ sess.nextQueryFlagIN then sess.nextQueryFlagIN else 0

def Tables.LeaveMirror (env : Env) : Prop :=
  ∀ hg ∈ tables.hostgroup env env.sess.startFlagIN, hg = -1 ∨ hg = env.sess.mirrorHostgroup

/-- A mirror session without a `flagOUT` comes to the routing step with its mirror hostgroup. -/
theorem walkRules_mirror {env : Env} (mirror : env.sess.mirror)
    (noFlagOUT : env.sess.mirrorFlagOUT = -1) (rules : List Rule) (iterations : Nat) :
    walkRules env rules iterations =
      { flagIN := env.sess.startFlagIN
        out := { settings := { destinationHostgroup := env.sess.mirrorHostgroup } } } := by
  simp [walkRules, mirror, noFlagOUT, Session.startFlagIN]

/-- The destination behind the routing step, if the walk left no rule with `apply`. -/
theorem routed_destination {w : Walk} (routes : w.routes) (tables : Tables) (env : Env) :
    (w.routed tables env).out.settings.destinationHostgroup =
      if route tables env w.flagIN = -1 then w.out.settings.destinationHostgroup
      else route tables env w.flagIN := by
  rw [Walk.routed, if_pos routes]
  by_cases unset : route tables env w.flagIN = -1
  · rw [if_neg (not_not.mpr unset), if_pos unset]
  · rw [if_pos unset, if_neg unset]

/-- A mirrored query goes to the mirror hostgroup exactly if the routing data have no other one. -/
theorem mirror_destination_iff (env : Env) (rules : List Rule) (iterations : Nat) (tables : Tables)
    (mirror : env.sess.mirror = true) (noFlagOUT : env.sess.mirrorFlagOUT = -1) :
    (processMysqlQuery env rules iterations tables).settings.destinationHostgroup =
        env.sess.mirrorHostgroup ↔
      tables.LeaveMirror env := by
  rw [processMysqlQuery, walkRules_mirror mirror noFlagOUT, routed_destination rfl, route_eq]
  unfold Tables.LeaveMirror
  cases tables.hostgroup env env.sess.startFlagIN with
  | none => simp
  | some hg =>
    simp only [Option.getD_some]
    split_ifs with unset
    · simp [unset]
    · simp [unset]

def noRegex : RegexEngine where
  partialMatch _ _ _ := false
  replace _ _ _ text := text

def mirrorEnv : Env where
  re := noRegex
  sess := { mirror := true, mirrorHostgroup := 7, username := "app", schemaname := "shop" }
  query := { text := "SELECT 1", parserArgs := none }
  random _ := 0

/-- Routing data with one row, for the user and schema of the query. -/
def rowTables (hg : Int) : Tables where
  threadLocal := none
  shared := some fun key => if key = "app---a---shop---0" then some hg else none
  randDel := "---a---"
  lion := { parseYcsbKey := fun _ => none, evaluateHost := fun _ => none }

theorem mirror_destination_same_row :
    mirrorEnv.sess.mirror = true ∧ mirrorEnv.sess.mirrorFlagOUT = -1 ∧
      ((processMysqlQuery mirrorEnv [] 0 (rowTables 7)).settings.destinationHostgroup = 7 ↔
        (rowTables 7).LeaveMirror mirrorEnv) :=
  ⟨rfl, rfl, mirror_destination_iff mirrorEnv [] 0 (rowTables 7) rfl rfl⟩

/-- A row of the fast routing table sends a mirrored query to its own hostgroup. -/
theorem fast_routing_replaces_mirror :
    mirrorEnv.sess.mirror = true ∧ mirrorEnv.sess.mirrorFlagOUT = -1 ∧
      (processMysqlQuery mirrorEnv [] 0 (rowTables 3)).settings.destinationHostgroup = 3 ∧
      mirrorEnv.sess.mirrorHostgroup = 7 := by
  decide +kernel

end MockProxy.QueryProcessor
