import Mathlib.Data.Set.Card

/-!
# Programs over a scratch buffer

A program reads and writes the cells of one buffer, whose cells hold something before it starts.
`Prog.Safe` says that a program stays inside the buffer and reads only cells it may rely on; it
then ends, and neither its result nor the cells it may rely on depend on what the other cells held
or on how much larger the buffer is (`Prog.Safe.run`).
-/

namespace Scratch

/-- How a program can go wrong: a cell outside the buffer, a place outside the input, or a loop
that does not end within its bound. -/
inductive Fault where
  | outOfBuffer
  | outOfInput
  | endless
  deriving DecidableEq, Repr

/-- A program over cells with contents `β`, as the tree of what it does next. -/
inductive Prog (β α : Type) : Type where
  | done (a : α)
  | fail (f : Fault)
  | read (i : Int) (next : β → Prog β α)
  | write (i : Int) (b : β) (next : Prog β α)

/-- What a loop body answers: go on with a state, or leave the loop with it. -/
inductive Next (σ : Type) where
  | again (s : σ)
  | leave (s : σ)

variable {β α γ σ : Type}

def Next.Either (Again Leave : σ → Set Int → (Int → β) → Prop) :
    Next σ → Set Int → (Int → β) → Prop
  | .again s => Again s
  | .leave s => Leave s

def put (cells : Int → β) (i : Int) (b : β) : Int → β :=
  fun j => if j = i then b else cells j

theorem put_same (cells : Int → β) (i : Int) (b : β) : put cells i b i = b := by
  simp [put]

theorem put_other {cells : Int → β} {i j : Int} {b : β} (other : j ≠ i) :
    put cells i b j = cells j := by
  simp [put, other]

namespace Prog

def bind : Prog β α → (α → Prog β γ) → Prog β γ
  | done a, rest => rest a
  | fail f, _ => fail f
  | read i next, rest => read i fun b => (next b).bind rest
  | write i b next, rest => write i b (next.bind rest)

instance : Monad (Prog β) where
  pure := done
  bind := bind

def get (i : Int) : Prog β β := read i done

def set (i : Int) (b : β) : Prog β Unit := write i b (done ())

/-- `first && second`, where the second operand is evaluated only if the first holds. -/
def andThen (first : Bool) (second : Prog β Bool) : Prog β Bool :=
  if first then second else pure false

instance : LawfulMonad (Prog β) := by
  refine LawfulMonad.mk' (Prog β) ?_ (fun _ _ => rfl) ?_
  · intro α p
    show p.bind done = p
    induction p with
    | done a => rfl
    | fail f => rfl
    | read i next ih => exact congrArg (read i) (funext ih)
    | write i b next ih => exact congrArg (write i b) ih
  · intro α γ δ p f g
    show (p.bind f).bind g = p.bind fun a => (f a).bind g
    induction p with
    | done a => rfl
    | fail e => rfl
    | read i next ih => exact congrArg (read i) (funext ih)
    | write i b next ih => exact congrArg (write i b) ih

/-- A loop, given up after `fuel` rounds. -/
def repeated (body : σ → Prog β (Next σ)) : Nat → σ → Prog β σ
  | 0, _ => fail .endless
  | fuel + 1, s => do
    match ← body s with
    | .again s => repeated body fuel s
    | .leave s => return s

/-- The run of a program on a buffer with the cells `0 .. last`. -/
def run (last : Int) : Prog β α → (Int → β) → Except Fault (α × (Int → β))
  | done a, cells => .ok (a, cells)
  | fail f, _ => .error f
  | read i next, cells =>
    if 0 ≤ i ∧ i ≤ last then (next (cells i)).run last cells else .error .outOfBuffer
  | write i b next, cells =>
    if 0 ≤ i ∧ i ≤ last then next.run last (put cells i b) else .error .outOfBuffer

/-- The program stays inside the cells `0 .. last`, reads only cells of `known`, to which its own
writes are added, and ends with a result for which `Post` holds. -/
def Safe (last : Int) : Prog β α → Set Int → (Int → β) →
    (α → Set Int → (Int → β) → Prop) → Prop
  | done a, known, cells, Post => Post a known cells
  | fail _, _, _, _ => False
  | read i next, known, cells, Post =>
    (0 ≤ i ∧ i ≤ last) ∧ i ∈ known ∧ (next (cells i)).Safe last known cells Post
  | write i b next, known, cells, Post =>
    (0 ≤ i ∧ i ≤ last) ∧ next.Safe last (insert i known) (put cells i b) Post

/-- The program only reads, and only cells from `0` up to `last`; `Post` holds for its answer. -/
def Reads (last : Int) (cells : Int → β) : Prog β α → (α → Prop) → Prop
  | done a, Post => Post a
  | read i next, Post => (0 ≤ i ∧ i ≤ last) ∧ (next (cells i)).Reads last cells Post
  | _, _ => False

section Rules

variable {last : Int} {known : Set Int} {cells : Int → β} {Post : α → Set Int → (Int → β) → Prop}
  {p : Prog β α} {rest : α → Prog β γ} {second : Prog β Bool} {i textEnd : Int} {P : α → Prop}
  {first : Bool}

@[simp] theorem safe_pure {a : α} :
    (pure a : Prog β α).Safe last known cells Post ↔ Post a known cells := .rfl

@[simp] theorem safe_get {Post : β → Set Int → (Int → β) → Prop} :
    (get i).Safe last known cells Post ↔
      (0 ≤ i ∧ i ≤ last) ∧ i ∈ known ∧ Post (cells i) known cells := .rfl

@[simp] theorem safe_set {b : β} {Post : Unit → Set Int → (Int → β) → Prop} :
    (set i b).Safe last known cells Post ↔
      (0 ≤ i ∧ i ≤ last) ∧ Post () (insert i known) (put cells i b) := .rfl

@[simp] theorem safe_bind {Post : γ → Set Int → (Int → β) → Prop} :
    (p >>= rest).Safe last known cells Post ↔
      p.Safe last known cells fun a known cells => (rest a).Safe last known cells Post := by
  induction p generalizing known cells with
  | done a => rfl
  | fail f => rfl
  | read i next ih => exact and_congr_right fun _ => and_congr_right fun _ => ih _
  | write i b next ih => exact and_congr_right fun _ => ih

@[simp] theorem safe_ite {c : Prop} [Decidable c] {r : Prog β α} :
    (if c then p else r).Safe last known cells Post ↔
      (c → p.Safe last known cells Post) ∧ (¬ c → r.Safe last known cells Post) := by
  by_cases holds : c <;> simp [holds]

@[simp] theorem safe_andThen {Post : Bool → Set Int → (Int → β) → Prop} :
    (andThen first second).Safe last known cells Post ↔
      (first → second.Safe last known cells Post) ∧
        (first = false → Post false known cells) := by
  cases first <;> simp [andThen]

theorem Safe.imp {Post' : α → Set Int → (Int → β) → Prop} (safe : p.Safe last known cells Post)
    (weaker : ∀ a known cells, Post a known cells → Post' a known cells) :
    p.Safe last known cells Post' := by
  induction p generalizing known cells with
  | done a => exact weaker _ _ _ safe
  | fail f => exact safe
  | read i next ih => exact ⟨safe.1, safe.2.1, ih _ safe.2.2⟩
  | write i b next ih => exact ⟨safe.1, ih safe.2⟩

theorem Safe.grows (safe : p.Safe last known cells Post) :
    p.Safe last known cells fun a known' cells' => known ⊆ known' ∧ Post a known' cells' := by
  induction p generalizing known cells with
  | done a => exact ⟨fun _ => id, safe⟩
  | fail f => exact safe
  | read i next ih => exact ⟨safe.1, safe.2.1, ih _ safe.2.2⟩
  | write i b next ih =>
    refine ⟨safe.1, (ih safe.2).imp ?_⟩
    intro a known' cells' ended
    exact ⟨fun j mem => ended.1 (Set.mem_insert_of_mem _ mem), ended.2⟩

@[simp] theorem reads_pure {a : α} {Post : α → Prop} :
    (pure a : Prog β α).Reads last cells Post ↔ Post a := .rfl

@[simp] theorem reads_get {Post : β → Prop} :
    (get i).Reads last cells Post ↔ (0 ≤ i ∧ i ≤ last) ∧ Post (cells i) := .rfl

@[simp] theorem reads_bind {Post : γ → Prop} : (p >>= rest).Reads last cells Post ↔
      p.Reads last cells fun a => (rest a).Reads last cells Post := by
  induction p with
  | done a => rfl
  | fail f => rfl
  | read i next ih => exact and_congr_right fun _ => ih _
  | write i b next => rfl

@[simp] theorem reads_andThen {Post : Bool → Prop} : (andThen first second).Reads last cells Post ↔
      (first → second.Reads last cells Post) ∧ (first = false → Post false) := by
  cases first <;> simp [andThen]

theorem Reads.imp {Post Post' : α → Prop} (reads : p.Reads last cells Post)
    (weaker : ∀ a, Post a → Post' a) : p.Reads last cells Post' := by
  induction p with
  | done a => exact weaker a reads
  | fail f => exact reads
  | read i next ih => exact ⟨reads.1, ih _ reads.2⟩
  | write i b next => exact reads

/-- What only reads cells that may be relied on leaves everything as it is. -/
theorem Reads.safe (reads : p.Reads textEnd cells P) (room : textEnd ≤ last)
    (readable : ∀ i, 0 ≤ i → i ≤ textEnd → i ∈ known) (post : ∀ a, P a → Post a known cells) :
    p.Safe last known cells Post := by
  induction p with
  | done a => exact post a reads
  | fail f => exact reads
  | read i next ih =>
    exact ⟨⟨reads.1.1, reads.1.2.trans room⟩, readable i reads.1.1 reads.1.2, ih _ reads.2⟩
  | write i b next => exact reads.elim

/-- The rule for loops: every round keeps an invariant and decreases a measure, or leaves with
the postcondition. -/
theorem safe_repeated {body : σ → Prog β (Next σ)} {Post : σ → Set Int → (Int → β) → Prop}
    (Inv : σ → Set Int → (Int → β) → Prop) (measure : σ → Nat)
    (round : ∀ s known cells, Inv s known cells → (body s).Safe last known cells
      (Next.Either (fun s' known cells => Inv s' known cells ∧ measure s' < measure s) Post))
    {fuel : Nat} {s : σ} (first : Inv s known cells) (enough : measure s < fuel) :
    (repeated body fuel s).Safe last known cells Post := by
  induction fuel generalizing s known cells with
  | zero => omega
  | succ fuel ih =>
    simp only [repeated, safe_bind]
    refine (round s known cells first).imp ?_
    intro r known cells ended
    cases r with
    | again s' => exact ih ended.1 (by have := ended.2; omega)
    | leave s' => exact ended

/-- A safe program ends on every buffer that is at least as large and agrees on the cells it may
rely on, with one result; the cells it may then rely on are determined as well. -/
theorem Safe.run (safe : p.Safe last known cells Post) : ∃ a known' cells', Post a known' cells' ∧
      ∀ last' ≥ last, ∀ buf, (∀ i ∈ known, buf i = cells i) →
        ∃ buf', p.run last' buf = .ok (a, buf') ∧ ∀ i ∈ known', buf' i = cells' i := by
  induction p generalizing known cells with
  | done a => exact ⟨a, known, cells, safe, fun _ _ buf agree => ⟨buf, rfl, agree⟩⟩
  | fail f => exact safe.elim
  | read i next ih =>
    obtain ⟨within, mem, rest⟩ := safe
    obtain ⟨a, known', cells', post, runs⟩ := ih _ rest
    refine ⟨a, known', cells', post, ?_⟩
    intro last' larger buf agree
    rw [Prog.run, if_pos ⟨within.1, by omega⟩, agree i mem]
    exact runs last' larger buf agree
  | write i b next ih =>
    obtain ⟨within, rest⟩ := safe
    obtain ⟨a, known', cells', post, runs⟩ := ih rest
    refine ⟨a, known', cells', post, ?_⟩
    intro last' larger buf agree
    rw [Prog.run, if_pos ⟨within.1, by omega⟩]
    refine runs last' larger _ ?_
    intro j mem
    by_cases same : j = i
    · rw [same, put_same, put_same]
    · rw [put_other same, put_other same]
      exact agree j (Set.mem_of_mem_insert_of_ne mem same)

end Rules

end Prog

end Scratch
