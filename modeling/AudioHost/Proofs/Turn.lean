import AudioHost.Proofs.Anatomy

/-!
# Turns

A run seen turn by turn: each operation together with the manager that it finds and
the answers that it gets. Laws about the order of things in a run speak about splits
of its list of turns.
-/

set_option autoImplicit false

namespace AudioHost

/-- One operation of a run and what it meets. -/
structure Turn where
  manager : Manager
  answers : Collaborators
  operation : Operation

def Turn.outcome (turn : Turn) : Outcome Manager Reply :=
  turn.manager.perform turn.answers turn.operation

namespace Manager

/-- The turns of a run. -/
def turns (manager : Manager) : List (Collaborators × Operation) → List Turn
  | [] => []
  | (answers, operation) :: rest =>
      ⟨manager, answers, operation⟩ :: (manager.perform answers operation).state.turns rest

variable {manager : Manager} {steps : List (Collaborators × Operation)}

theorem state_run_append (manager : Manager) (front back : List (Collaborators × Operation)) :
    (manager.run (front ++ back)).state = ((manager.run front).state.run back).state := by
  induction front generalizing manager with
  | nil => rfl
  | cons step rest ih => exact ih (manager.perform step.1 step.2).state

theorem turns_append (manager : Manager) (front back : List (Collaborators × Operation)) :
    manager.turns (front ++ back) =
      manager.turns front ++ (manager.run front).state.turns back := by
  induction front generalizing manager with
  | nil => rfl
  | cons step rest ih => exact congrArg (_ :: ·) (ih (manager.perform step.1 step.2).state)

theorem effects_run_cons (manager : Manager) (answers : Collaborators) (operation : Operation)
    (rest : List (Collaborators × Operation)) :
    (manager.run ((answers, operation) :: rest)).effects =
      (manager.perform answers operation).effects ++
        ((manager.perform answers operation).state.run rest).effects := by
  rw [run, Outcome.effects_andThen, Outcome.effects_map]

theorem effects_run_append (manager : Manager)
    (front back : List (Collaborators × Operation)) :
    (manager.run (front ++ back)).effects =
      (manager.run front).effects ++ ((manager.run front).state.run back).effects := by
  induction front generalizing manager with
  | nil => rfl
  | cons step rest ih =>
      obtain ⟨answers, operation⟩ := step
      rw [List.cons_append, effects_run_cons, effects_run_cons, ih, List.append_assoc]
      rfl

theorem journal_run (manager : Manager) (steps : List (Collaborators × Operation)) :
    (manager.run steps).journal =
      (manager.turns steps).flatMap fun turn => turn.outcome.journal := by
  induction steps generalizing manager with
  | nil => rfl
  | cons step rest ih =>
      simp only [run, turns, Outcome.journal_andThen, Outcome.journal_map, ih,
        List.flatMap_cons]
      rfl

theorem journal_run_append (manager : Manager) (front back : List (Collaborators × Operation)) :
    (manager.run (front ++ back)).journal =
      (manager.run front).journal ++ ((manager.run front).state.run back).journal := by
  simp only [journal_run, turns_append, List.flatMap_append]

theorem mem_steps_of_mem_turns {turn : Turn} (member : turn ∈ manager.turns steps) :
    (turn.answers, turn.operation) ∈ steps := by
  induction steps generalizing manager with
  | nil => cases member
  | cons step rest ih =>
      rcases List.mem_cons.mp member with rfl | later
      · exact List.mem_cons_self
      · exact List.mem_cons_of_mem step (ih later)

theorem isRouted_of_mem_turns (routed : ∀ step ∈ steps, step.2.isRouted = true) {turn : Turn}
    (member : turn ∈ manager.turns steps) : turn.operation.isRouted = true :=
  routed _ (mem_steps_of_mem_turns member)

/-- What a turn of a run leaves is what the rest of the run starts from. -/
theorem turns_eq_append_cons {front back : List Turn} {turn : Turn}
    (split : manager.turns steps = front ++ turn :: back) :
    ∃ rest, back = turn.outcome.state.turns rest ∧ ∀ step ∈ rest, step ∈ steps := by
  induction front generalizing manager steps with
  | nil =>
      cases steps with
      | nil => cases split
      | cons step rest =>
          simp only [turns, List.nil_append, List.cons.injEq] at split
          obtain ⟨rfl, rfl⟩ := split
          exact ⟨rest, rfl, fun other member => List.mem_cons_of_mem step member⟩
  | cons first others ih =>
      cases steps with
      | nil => cases split
      | cons step rest =>
          simp only [turns, List.cons_append, List.cons.injEq] at split
          obtain ⟨after, same, included⟩ := ih split.2
          exact ⟨after, same, fun other member => List.mem_cons_of_mem step (included other member)⟩

/-- The turns before a turn are a run of their own, and the turn finds what that run leaves. -/
theorem exists_run_before {front back : List Turn} {turn : Turn}
    (split : manager.turns steps = front ++ turn :: back) :
    ∃ earlier, front = manager.turns earlier ∧ turn.manager = (manager.run earlier).state ∧
      ∀ step ∈ earlier, step ∈ steps := by
  induction front generalizing manager steps with
  | nil =>
      cases steps with
      | nil => cases split
      | cons step rest =>
          simp only [turns, List.nil_append, List.cons.injEq] at split
          exact ⟨[], rfl, by rw [← split.1]; rfl, by simp⟩
  | cons first others ih =>
      cases steps with
      | nil => cases split
      | cons step rest =>
          simp only [turns, List.cons_append, List.cons.injEq] at split
          obtain ⟨rfl, restSplit⟩ := split
          obtain ⟨earlier, rfl, found, included⟩ := ih restSplit
          refine ⟨step :: earlier, rfl, found, List.forall_mem_cons.mpr ⟨List.mem_cons_self, ?_⟩⟩
          exact fun other member => List.mem_cons_of_mem step (included other member)

/-- What every turn up to a later one keeps, the later one still finds. -/
theorem holds_at_turn (Holds : Manager → Prop) {between back : List Turn} {later : Turn}
    (split : manager.turns steps = between ++ later :: back)
    (kept : ∀ turn ∈ between, Holds turn.manager → Holds turn.outcome.state)
    (start : Holds manager) : Holds later.manager := by
  induction between generalizing manager steps with
  | nil =>
      cases steps with
      | nil => cases split
      | cons step rest =>
          simp only [turns, List.nil_append, List.cons.injEq] at split
          exact split.1 ▸ start
  | cons first others ih =>
      cases steps with
      | nil => cases split
      | cons step rest =>
          simp only [turns, List.cons_append, List.cons.injEq] at split
          obtain ⟨rfl, restSplit⟩ := split
          refine ih restSplit (fun turn member => kept turn (List.mem_cons_of_mem _ member)) ?_
          exact kept _ List.mem_cons_self start

end Manager

end AudioHost
