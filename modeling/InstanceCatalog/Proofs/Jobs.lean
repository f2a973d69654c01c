import InstanceCatalog.Proofs.World
import Mathlib.Data.List.Forall2

/-!
Jobs that share a world. A job goes on step by step, and between two of its steps the others may
take theirs; what a pool of jobs comes to holds of every order when each step keeps an invariant.
-/

namespace InstanceCatalog

/-- What is left of a job. -/
inductive Job (ω α : Type) where
  | done (result : α)
  /-- A step changes the world; how the job goes on depends on the world it met. -/
  | step (change : ω → ω) (next : ω → Job ω α)

variable {ω α β : Type}

namespace Job

def bind : Job ω α → (α → Job ω β) → Job ω β
  | done a, f => f a
  | step change next, f => step change fun world => (next world).bind f

instance : Monad (Job ω) where
  pure := done
  bind := bind

/-- A program that no other job gets between. -/
def atomic (program : StateM ω α) : Job ω α :=
  step (fun world => (program world).2) fun world => done (program world).1

def run : Job ω α → StateM ω α
  | done a => pure a
  | step change next => fun world => (next world).run (change world)

@[simp]
theorem run_atomic (program : StateM ω α) : (atomic program).run = program := rfl

@[simp]
theorem run_bind (job : Job ω α) (f : α → Job ω β) :
    (job >>= f).run = job.run >>= fun a => (f a).run := by
  induction job with
  | done a => rfl
  | step change next ih =>
    funext world
    exact congrFun (ih world) (change world)

end Job

/-- Some order of their steps takes all jobs of a pool to these results, and the world to its
last state. -/
inductive Interleaves : List (Job ω α) → ω → List α → ω → Prop
  | done {results world} : Interleaves (results.map .done) world results world
  | step {before change next after world results final} :
    Interleaves (before ++ next world :: after) (change world) results final →
    Interleaves (before ++ .step change next :: after) world results final

namespace Interleaves

/-- One job after the other is an order. -/
theorem sequential (pool : List (Job ω α)) (world : ω) :
    Interleaves pool world (pool.mapM Job.run world).1 (pool.mapM Job.run world).2 := by
  -- jobs that are done already may stand before the pool
  suffices h : ∀ (finished : List α) (world : ω),
      Interleaves (finished.map .done ++ pool) world (finished ++ (pool.mapM Job.run world).1)
        (pool.mapM Job.run world).2 from h [] world
  induction pool with
  | nil =>
    intro finished world
    simp only [List.mapM_nil, World.pure_apply, List.append_nil]
    exact .done
  | cons job rest ih =>
    intro finished world
    rw [List.mapM_cons]
    induction job generalizing world with
    | done a =>
      have h := ih (finished ++ [a]) world
      rwa [List.map_append, List.append_assoc, List.append_assoc] at h
    | step change next ihj => exact .step (ihj world (change world))

/-- What every step of every job keeps holds at the end of every order. -/
theorem of_invariant (holds : List (Job ω α) → ω → Prop)
    (hs : ∀ before change next after world, holds (before ++ .step change next :: after) world →
      holds (before ++ next world :: after) (change world))
    {pool : List (Job ω α)} {world final : ω} {results : List α}
    (h : Interleaves pool world results final) (hp : holds pool world) :
    holds (results.map .done) final := by
  induction h with
  | done => exact hp
  | step _ ih => exact ih (hs _ _ _ _ _ hp)

end Interleaves

/-- What is told of all members of a list and their parts stays so when one part gives way to
another and what was told of the rest carries over. -/
theorem forall₂_replace {γ δ : Type} {told : γ → δ → Prop} {members : List γ}
    {before after : List δ} {part : δ} (h : List.Forall₂ told members (before ++ part :: after)) :
    ∃ owner ∈ members, told owner part ∧ ∀ (told' : γ → δ → Prop) (part' : δ),
      (∀ other ∈ members, ∀ d, told other d → told' other d) → told' owner part' →
      List.Forall₂ told' members (before ++ part' :: after) := by
  have hm := (List.forall₂_and_left members _).mpr ⟨fun _ hm => hm, h⟩
  have hf := List.forall₂_take_append members before _ hm
  obtain ⟨owner, rest, ⟨ho, hp⟩, hr, hs⟩ :=
    List.forall₂_cons_right_iff.mp (List.forall₂_drop_append members before _ hm)
  refine ⟨owner, ho, hp, fun told' part' hk hp' => ?_⟩
  have hk' : ∀ other d, other ∈ members ∧ told other d → told' other d :=
    fun other d ⟨hm, ht⟩ => hk other hm d ht
  rw [← List.take_append_drop before.length members, hs]
  exact List.rel_append (hf.imp hk') (.cons hp' (hr.imp hk'))

end InstanceCatalog
