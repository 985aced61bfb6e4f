import Mathlib.Data.List.TakeWhile
import SemanticQuery.Proofs.Dictionary.Registration

/-!
# Shared snapshots

Users of an index share the snapshots in its memory. A change of the served snapshot is made in
place, or in a copy if someone holds it. Who holds a snapshot sees the generation that was current
when it was taken. The terms of that never change; until the next change look-ups register tenants
in it.
-/

namespace SemanticQuery.Dictionary

/-- What the users of an index do. -/
inductive Action where
  | step (op : Op)
  /-- Someone takes the served snapshot. -/
  | hold
  /-- The holder with a number lets the snapshot go. -/
  | release (holder : ℕ)

namespace Action

/-- The step of the index that is done. -/
def op? : Action → Option Op
  | .step op => some op
  | .hold | .release _ => none

/-- The steps of the index among actions. -/
def ops (actions : List Action) : List Op := actions.filterMap op?

lemma run_ops_cons (i : Index) (action : Action) (actions : List Action) :
    i.run (ops (action :: actions)) = (action.op?.elim i i.step).run (ops actions) := by
  cases action <;> rfl

end Action

/-- The snapshots of an index by their addresses. -/
structure Memory where
  searchSize : ℕ
  cells : ℕ → Snapshot
  /-- The first address without a snapshot. -/
  fresh : ℕ
  /-- The address of the snapshot that is served. -/
  served : ℕ
  /-- The addresses of the snapshots that were taken, in turn; none for those that were let go. -/
  holders : List (Option ℕ)

namespace Memory

/-- The memory of an index without terms. -/
def empty (searchSize : ℕ) : Memory := ⟨searchSize, fun _ => .empty, 1, 0, []⟩

/-- The snapshot that is served. -/
def current (m : Memory) : Snapshot := m.cells m.served

/-- The snapshot that a holder has. -/
def held? (m : Memory) (holder : ℕ) : Option Snapshot := m.holders[holder]?.join.map m.cells

/-- The served snapshot has another state, also for those who hold it. -/
def overwrite (m : Memory) (s : Snapshot) : Memory :=
  { m with cells := Function.update m.cells m.served s }

/-- Another snapshot is served. -/
def publish (m : Memory) (s : Snapshot) : Memory :=
  { m with cells := Function.update m.cells m.fresh s, fresh := m.fresh + 1, served := m.fresh }

/-- The served snapshot has another state, but not for those who hold it. -/
def write (m : Memory) (s : Snapshot) : Memory :=
  if some m.served ∈ m.holders then m.publish s else m.overwrite s

/-- The memory after an action. -/
def step (m : Memory) : Action → Memory
  | .step (.insert term tenant tags) => m.write (m.current.insert term tenant tags)
  | .step (.insertSuffix reversedTerm tags) => m.write (m.current.insertSuffix reversedTerm tags)
  | .step (.remove term retained) => m.write (m.current.remove term retained)
  | .step .clear => m.publish .empty
  | .step (.rebuild additions) => m.publish (additions.foldl Builder.give .empty).build
  | .step (.reload text) =>
    match Entries.load text with
    | .ok es => m.publish (.ofEntries es)
    | .error _ => m
  | .step (.lookupPrefix tenant text limit scope) =>
    m.overwrite (m.current.lookupPrefix m.searchSize tenant text limit scope).2
  | .step (.lookupSuffix ..) => m
  | .hold => { m with holders := m.holders ++ [some m.served] }
  | .release holder => { m with holders := m.holders.set holder none }

/-- The memory after actions. -/
def run (m : Memory) (actions : List Action) : Memory := actions.foldl step m

/-! ### The served snapshot -/

/-- The current generation of an index is served. -/
structure Serves (m : Memory) (i : Index) : Prop where
  searchSize : m.searchSize = i.searchSize
  current : m.current = i.current
  lt_fresh : m.served < m.fresh

/-- An address holds a generation of an index. -/
structure Sees (m : Memory) (i : Index) (address generation : ℕ) : Prop extends m.Serves i where
  generation? : i.generation? generation = some (m.cells address)
  le_generation : generation ≤ i.generation
  served_iff : address = m.served ↔ generation = i.generation
  address_lt : address < m.fresh

variable {m : Memory} {i : Index} {address generation holder : ℕ}

lemma overwrite_current (m : Memory) : m.overwrite m.current = m := by
  rw [overwrite, current, Function.update_eq_self]

lemma cells_overwrite_served (m : Memory) (s : Snapshot) : (m.overwrite s).cells m.served = s :=
  Function.update_self ..

lemma cells_overwrite_of_ne (s : Snapshot) (h : address ≠ m.served) :
    (m.overwrite s).cells address = m.cells address :=
  Function.update_of_ne h _ _

lemma cells_publish_of_lt (s : Snapshot) (h : address < m.fresh) :
    (m.publish s).cells address = m.cells address :=
  Function.update_of_ne h.ne _ _

@[simp] lemma holders_write (m : Memory) (s : Snapshot) : (m.write s).holders = m.holders := by
  rw [write]
  split_ifs <;> rfl

namespace Serves

lemma overwrite (h : m.Serves i) (s : Snapshot) :
    (m.overwrite s).Serves { i with current := s } where
  searchSize := h.searchSize
  current := Function.update_self ..
  lt_fresh := h.lt_fresh

lemma publish (h : m.Serves i) (s : Snapshot) : (m.publish s).Serves (i.publish s) where
  searchSize := h.searchSize
  current := Function.update_self ..
  lt_fresh := Nat.lt_succ_self m.fresh

lemma write (h : m.Serves i) (s : Snapshot) : (m.write s).Serves (i.publish s) := by
  rw [Memory.write]
  split_ifs
  · exact h.publish s
  · exact { h.overwrite s with }

/-- A step changes the memory as it changes the index. -/
lemma step_cases (h : m.Serves i) (op : Op) :
    (∃ s, i.step op = i.publish s ∧
      (m.step (.step op) = m.publish s ∨ m.step (.step op) = m.write s)) ∨
    ∃ s, i.step op = { i with current := s } ∧ m.step (.step op) = m.overwrite s := by
  cases op with
  | insert term tenant tags =>
    refine .inl ⟨i.current.insert term tenant tags, rfl, .inr ?_⟩
    rw [← h.current]; rfl
  | insertSuffix reversedTerm tags =>
    refine .inl ⟨i.current.insertSuffix reversedTerm tags, rfl, .inr ?_⟩
    rw [← h.current]; rfl
  | remove term retained =>
    refine .inl ⟨i.current.remove term retained, rfl, .inr ?_⟩
    rw [← h.current]; rfl
  | clear => exact .inl ⟨.empty, rfl, .inl rfl⟩
  | rebuild additions => exact .inl ⟨_, rfl, .inl rfl⟩
  | reload text =>
    rw [Index.step, Index.reload, Memory.step]
    cases Entries.load text with
    | error _ => exact .inr ⟨i.current, rfl, by rw [← h.current, overwrite_current]⟩
    | ok es => exact .inl ⟨.ofEntries es, rfl, .inl rfl⟩
  | lookupPrefix tenant text limit scope =>
    refine .inr ⟨_, rfl, ?_⟩
    rw [Memory.step, h.current, h.searchSize]
    rfl
  | lookupSuffix text limit scope =>
    exact .inr ⟨i.current, rfl, by rw [← h.current, overwrite_current]; rfl⟩

lemma step (h : m.Serves i) (action : Action) :
    (m.step action).Serves (action.op?.elim i i.step) := by
  cases action with
  | step op =>
    rw [Action.op?, Option.elim_some]
    rcases h.step_cases op with ⟨s, hi, hm | hm⟩ | ⟨s, hi, hm⟩
    · rw [hi, hm]; exact h.publish s
    · rw [hi, hm]; exact h.write s
    · rw [hi, hm]; exact h.overwrite s
  | hold => exact ⟨h.searchSize, h.current, h.lt_fresh⟩
  | release holder => exact ⟨h.searchSize, h.current, h.lt_fresh⟩

lemma run (h : m.Serves i) (actions : List Action) :
    (m.run actions).Serves (i.run (Action.ops actions)) := by
  induction actions generalizing m i with
  | nil => exact h
  | cons action actions ih =>
    rw [Action.run_ops_cons]
    exact ih (h.step action)

/-- Who takes the served snapshot sees the current generation. -/
lemma hold (h : m.Serves i) : (m.step .hold).Sees i m.served i.generation where
  searchSize := h.searchSize
  current := h.current
  lt_fresh := h.lt_fresh
  generation? := i.generation?_generation.trans (congrArg some h.current.symm)
  le_generation := le_rfl
  served_iff := iff_of_true rfl rfl
  address_lt := h.lt_fresh

end Serves

/-! ### Snapshots that are held -/

namespace Sees

lemma overwrite (h : m.Sees i address generation) (s : Snapshot) :
    (m.overwrite s).Sees { i with current := s } address generation where
  toServes := h.toServes.overwrite s
  generation? := by
    by_cases hserved : address = m.served
    · -- who holds the served snapshot sees the change, and has the current generation still
      rw [h.served_iff.mp hserved, hserved, cells_overwrite_served]
      exact Index.generation?_generation { i with current := s }
    · have hlt : generation < i.generation :=
        lt_of_le_of_ne h.le_generation (mt h.served_iff.mpr hserved)
      have hlt' : generation < { i with current := s }.generation := hlt
      rw [cells_overwrite_of_ne s hserved, ← h.generation?, Index.generation?_of_lt hlt',
        Index.generation?_of_lt hlt]
  le_generation := h.le_generation
  served_iff := h.served_iff
  address_lt := h.address_lt

lemma lt_generation_publish (h : m.Sees i address generation) (s : Snapshot) :
    generation < (i.publish s).generation := by
  simpa [Index.publish, Index.generation] using Nat.lt_succ_of_le h.le_generation

lemma publish (h : m.Sees i address generation) (s : Snapshot) :
    (m.publish s).Sees (i.publish s) address generation where
  toServes := h.toServes.publish s
  generation? := by
    rw [Index.generation?_publish s h.le_generation, h.generation?,
      cells_publish_of_lt s h.address_lt]
  le_generation := (h.lt_generation_publish s).le
  served_iff := iff_of_false h.address_lt.ne (h.lt_generation_publish s).ne
  address_lt := Nat.lt_succ_of_lt h.address_lt

/-- A change leaves what is held as it is. -/
lemma write (h : m.Sees i address generation) (hheld : some address ∈ m.holders) (s : Snapshot) :
    (m.write s).Sees (i.publish s) address generation := by
  rw [Memory.write]
  split_ifs with hshared
  · exact h.publish s
  · -- nobody holds what is served, so the write in place goes to another snapshot
    have hne : address ≠ m.served := by
      rintro rfl
      exact hshared hheld
    exact {
      toServes := { h.toServes.overwrite s with }
      generation? := by
        rw [Index.generation?_publish s h.le_generation, h.generation?,
          cells_overwrite_of_ne s hne]
      le_generation := (h.lt_generation_publish s).le
      served_iff := iff_of_false hne (h.lt_generation_publish s).ne
      address_lt := h.address_lt }

/-- What a holder has is the same generation after an action, unless the holder lets it go. -/
lemma step (h : m.Sees i address generation) (hheld : m.holders[holder]? = some (some address))
    {action : Action} (haction : action ≠ .release holder) :
    (m.step action).Sees (action.op?.elim i i.step) address generation ∧
      (m.step action).holders[holder]? = some (some address) := by
  cases action with
  | step op =>
    rw [Action.op?, Option.elim_some]
    rcases h.toServes.step_cases op with ⟨s, hi, hm | hm⟩ | ⟨s, hi, hm⟩
    · rw [hi, hm]
      exact ⟨h.publish s, hheld⟩
    · rw [hi, hm, holders_write]
      exact ⟨h.write (List.mem_of_getElem? hheld) s, hheld⟩
    · rw [hi, hm]
      exact ⟨h.overwrite s, hheld⟩
  | hold =>
    have hlt : holder < m.holders.length := (List.getElem?_eq_some_iff.mp hheld).1
    exact ⟨{ h with }, (List.getElem?_append_left hlt).trans hheld⟩
  | release other =>
    have hne : other ≠ holder := fun heq => haction (heq ▸ rfl)
    exact ⟨{ h with }, (List.getElem?_set_ne hne).trans hheld⟩

lemma run (h : m.Sees i address generation) (hheld : m.holders[holder]? = some (some address))
    {actions : List Action} (hactions : .release holder ∉ actions) :
    (m.run actions).Sees (i.run (Action.ops actions)) address generation ∧
      (m.run actions).holders[holder]? = some (some address) := by
  induction actions generalizing m i with
  | nil => exact ⟨h, hheld⟩
  | cons action actions ih =>
    obtain ⟨haction, hactions⟩ := not_or.mp (mt List.mem_cons.mpr hactions)
    obtain ⟨hstep, hheld⟩ := h.step hheld (Ne.symm haction)
    rw [Action.run_ops_cons]
    exact ih hstep hheld hactions

end Sees

/-! ### Runs -/

lemma serves_empty (size : ℕ) : (empty size).Serves (.ofSnapshot size .empty) :=
  ⟨rfl, rfl, Nat.zero_lt_one⟩

/-- Whatever is done before and behind, who takes the served snapshot and keeps it has the
generation that is current then: the same tries, in which those tenants are registered in addition
that look up what everyone has not before the next change. A document that does not load changes
nothing. -/
theorem held_run (size : ℕ) (before after : List Action)
    (hkept : .release ((empty size).run before).holders.length ∉ after) :
    let m := (empty size).run before
    let later := (m.step .hold).run after
    let i := (Index.ofSnapshot size .empty).run (Action.ops before)
    later.current = (i.run (Action.ops after)).current ∧
    (∃ s, later.held? m.holders.length = some s ∧
      (i.run (Action.ops after)).generation? i.generation = some s ∧
      m.current.Registers s fun id =>
        ∃ op ∈ (Action.ops after).takeWhile fun op => !op.writes, op.Misses m.current id) ∧
    ∀ text f, Entries.load text = .error f → later.step (.step (.reload text)) = later := by
  intro m later i
  have hserves : m.Serves i := (serves_empty size).run before
  have htaken : (m.step .hold).holders[m.holders.length]? = some (some m.served) := by
    simp [step]
  obtain ⟨hsees, hheld⟩ := hserves.hold.run htaken hkept
  refine ⟨hsees.current, ⟨later.cells m.served, ?_, hsees.generation?, ?_⟩, fun text f hload => ?_⟩
  · rw [held?, hheld]
    rfl
  · have hsorted : SortedMap.IsSorted i.current.tenants :=
      (Index.represents_run_empty size (Action.ops before)).sorted
    -- what was taken is what the index comes to before its next generation
    have hsame : (i.run ((Action.ops after).takeWhile fun op => !op.writes)).current =
        later.cells m.served :=
      Option.some.inj ((i.generation?_run (Action.ops after)).symm.trans hsees.generation?)
    rw [← hsame, hserves.current]
    refine (Index.registers_run (.refl hsorted) fun op hop => ?_).congr
      fun id => (false_or _).to_iff
    simpa using List.mem_takeWhile_imp hop
  · rw [step, hload]

/-- The second of two holders keeps what it took through a change that stores nothing, the release
of the first, and a clearing. -/
theorem held_run_second :
    let before : List Action := [.step (.insert "ab" none ["_1"]), .hold]
    let after : List Action :=
      [.step (.lookupPrefix 5 "x" 3 .all), .step (.insert "cd" (some (-1)) ["_1"]),
        .step (.lookupPrefix 9 "x" 3 .all), .release 0, .step .clear]
    let m := (empty 10).run before
    let later := (m.step .hold).run after
    .release m.holders.length ∉ after ∧
      ∃ s, later.held? 1 = some s ∧ s.forward = m.current.forward ∧ s.hasTenant 5 = true ∧
        s.hasTenant 9 = false := by
  intro before after m later
  have hkept : .release m.holders.length ∉ after := by simp [m, after, before, run, step]
  obtain ⟨-, ⟨s, (hs : later.held? 1 = some s), -, hregisters⟩, -⟩ :=
    held_run 10 before after hkept
  refine ⟨hkept, s, hs, hregisters.forward, ?_, ?_⟩
  · exact (hregisters.hasTenant 5).mpr
      (.inr ⟨.lookupPrefix 5 "x" 3 .all, List.mem_singleton_self _, rfl, by decide, by decide +kernel⟩)
  · have hlater : (later.held? 1).map (·.hasTenant 9) = some false := by decide +kernel
    rw [hs] at hlater
    exact Option.some.inj hlater

end Memory

end SemanticQuery.Dictionary
