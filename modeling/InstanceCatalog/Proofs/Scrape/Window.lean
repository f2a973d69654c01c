import InstanceCatalog.Scrape.Window
import InstanceCatalog.Proofs.World
import Mathlib.Algebra.Ring.Nat

namespace InstanceCatalog

variable {ω σ ε : Type} {paths : List Text} {answer : Text → Option Text}
  {fetch : Text → StateM ω (Option Text)} {use : σ → Option Text → StateM ω (Except ε σ)}

namespace Fetch

structure Sound (paths : List Text) (answer : Text → Option Text) (f : Fetch) : Prop where
  mem : f.path ∈ paths
  answered : ∀ a, f.answer = some a → a = answer f.path

theorem sound_start {path : Text} (h : path ∈ paths) : (start path).Sound paths answer :=
  ⟨h, fun _ ha => nomatch ha⟩

def stepsLeft (f : Fetch) : Nat := if f.isRunning then 2 else 1

theorem complete_eq {world : ω} (hf : ∀ path ∈ paths, fetch path world = (answer path, world))
    {begun : List Fetch} (hs : ∀ f ∈ begun, f.Sound paths answer) {place : Nat}
    (hp : place < begun.countP isRunning) :
    ∃ next, complete fetch place begun world = (next, world) ∧
      next.map Fetch.path = begun.map Fetch.path ∧ (∀ f ∈ next, f.Sound paths answer) ∧
      (next.map stepsLeft).sum + 1 = (begun.map stepsLeft).sum := by
  induction begun generalizing place with
  | nil => simp at hp
  | cons f rest ih =>
    have hs' : ∀ g ∈ rest, g.Sound paths answer := fun g hg => hs g (List.mem_cons_of_mem _ hg)
    have hsf := hs f List.mem_cons_self
    by_cases hr : f.isRunning = true
    · cases place with
      | zero =>
        refine ⟨{ f with answer := some (answer f.path) } :: rest, ?_, rfl, ?_, ?_⟩
        · simp [complete, hr, hf f.path hsf.mem]
        · intro g hg
          rcases List.mem_cons.mp hg with rfl | hg
          · exact ⟨hsf.mem, fun a ha => (Option.some.inj ha).symm⟩
          · exact hs' g hg
        · have hd : stepsLeft { f with answer := some (answer f.path) } = 1 := rfl
          have hb : stepsLeft f = 2 := by rw [stepsLeft, if_pos hr]
          simp only [List.map_cons, List.sum_cons, hd, hb]
          omega
      | succ place =>
        rw [List.countP_cons_of_pos hr] at hp
        obtain ⟨next, he, hm, hn, hl⟩ := ih hs' (Nat.lt_of_succ_lt_succ hp)
        refine ⟨f :: next, ?_, by rw [List.map_cons, hm, List.map_cons], ?_, ?_⟩
        · simp [complete, hr, he]
        · exact List.forall_mem_cons.mpr ⟨hsf, hn⟩
        · simp only [List.map_cons, List.sum_cons]
          omega
    · rw [List.countP_cons_of_neg hr] at hp
      obtain ⟨next, he, hm, hn, hl⟩ := ih hs' hp
      refine ⟨f :: next, ?_, by rw [List.map_cons, hm, List.map_cons], ?_, ?_⟩
      · simp [complete, hr, he]
      · exact List.forall_mem_cons.mpr ⟨hsf, hn⟩
      · simp only [List.map_cons, List.sum_cons]
        omega

end Fetch

namespace Window

def pending (w : Window) : List Text := w.begun.map Fetch.path ++ w.waiting

def stepsLeft (w : Window) : Nat := 2 * w.waiting.length + (w.begun.map Fetch.stepsLeft).sum

/-- Uses answers one after the other; the first failure ends the run. -/
def useInOrder {m : Type → Type} [Monad m] (use : σ → Option Text → m (Except ε σ)) :
    List (Option Text) → σ → m (Except ε σ)
  | [], state => return .ok state
  | a :: rest, state => do
    match ← use state a with
    | .error e => return .error e
    | .ok state => useInOrder use rest state

theorem pending_fill (limit : Nat) (w : Window) : (w.fill limit).pending = w.pending := by
  have hp : Fetch.path ∘ Fetch.start = id := rfl
  simp [fill, pending, hp]

theorem stepsLeft_fill (limit : Nat) (w : Window) : (w.fill limit).stepsLeft = w.stepsLeft := by
  have hs : Fetch.stepsLeft ∘ Fetch.start = fun _ => 2 := rfl
  simp only [fill, stepsLeft, List.map_append, List.map_map, hs, List.sum_append,
    List.map_const', List.sum_replicate_nat, List.length_drop, List.length_take]
  omega

theorem sound_fill {limit : Nat} {w : Window} (hs : ∀ f ∈ w.begun, f.Sound paths answer)
    (hw : ∀ path ∈ w.waiting, path ∈ paths) :
    ∀ f ∈ (w.fill limit).begun, f.Sound paths answer := by
  intro f hf
  rcases List.mem_append.mp hf with hf | hf
  · exact hs f hf
  · obtain ⟨path, hp, rfl⟩ := List.mem_map.mp hf
    exact Fetch.sound_start (hw path (List.mem_of_mem_take hp))

theorem pending_eq_nil_of_fill {limit : Nat} (hl : 0 < limit) {w : Window}
    (h : (w.fill limit).begun = []) : w.pending = [] := by
  obtain ⟨hb, hw⟩ := List.append_eq_nil_iff.mp h
  rw [List.map_eq_nil_iff, hb, List.length_nil, Nat.sub_zero, List.take_eq_nil_iff] at hw
  rw [pending, hb, hw.resolve_left (by omega)]
  rfl

/-- While a fetch is under way, whichever ends next leaves the same documents pending and one step
less. -/
theorem exists_complete {world : ω} (hf : ∀ path ∈ paths, fetch path world = (answer path, world))
    {w : Window} (hs : ∀ f ∈ w.begun, f.Sound paths answer) (hr : 0 < w.running) (place : Nat) :
    ∃ next, Fetch.complete fetch (place % w.running) w.begun world = (next, world) ∧
      pending ⟨w.waiting, next⟩ = w.pending ∧ (∀ f ∈ next, f.Sound paths answer) ∧
      stepsLeft ⟨w.waiting, next⟩ + 1 = w.stepsLeft := by
  obtain ⟨next, hc, hm, hn, ht⟩ := Fetch.complete_eq hf hs (Nat.mod_lt place hr)
  refine ⟨next, hc, ?_, hn, ?_⟩
  · simp only [pending, hm]
  · simp only [stepsLeft]
    omega

/-- Enough steps use all pending documents in order. `Holds` is kept by every use that goes well,
and where it holds fetching gives the answers and changes nothing. -/
theorem drainWithin_eq {Holds : σ → ω → Prop}
    (hf : ∀ state world, Holds state world → ∀ path ∈ paths,
      fetch path world = (answer path, world))
    (hu : ∀ state world, Holds state world → ∀ a next after,
      use state a world = (.ok next, after) → Holds next after)
    {limit : Nat} (hl : 0 < limit) (schedule : Schedule) (steps : Nat) (w : Window) (state : σ)
    (world : ω) (hw : Holds state world) (hs : ∀ f ∈ w.begun, f.Sound paths answer)
    (hp : ∀ path ∈ w.waiting, path ∈ paths) (hn : w.stepsLeft < steps) :
    drainWithin fetch limit schedule use steps w state world =
      useInOrder use (w.pending.map answer) state world := by
  induction steps generalizing w state world with
  | zero => omega
  | succ steps ih =>
    rw [← stepsLeft_fill limit] at hn
    have hs' : ∀ f ∈ (w.fill limit).begun, f.Sound paths answer := sound_fill hs hp
    have hp' : ∀ path ∈ (w.fill limit).waiting, path ∈ paths := fun path hm =>
      hp path (List.mem_of_mem_drop hm)
    have he := pending_eq_nil_of_fill hl (w := w)
    rw [← pending_fill limit w] at he ⊢
    rw [drainWithin]
    -- filling is only seen through the pending documents and the steps left
    generalize w.fill limit = v at *
    obtain ⟨waiting, begun⟩ := v
    match begun with
    | [] =>
      rw [he rfl]
      rfl
    | ⟨path, some a⟩ :: rest =>
      have ha : a = answer path := (hs' _ List.mem_cons_self).answered a rfl
      have hc : pending ⟨waiting, ⟨path, some a⟩ :: rest⟩ = path :: pending ⟨waiting, rest⟩ := rfl
      have hh := hu state world hw a
      simp only [World.bind_apply, hc, List.map_cons, useInOrder, ← ha]
      cases hr : use state a world with
      | mk result after =>
        cases result with
        | error e => rfl
        | ok next =>
          apply ih ⟨waiting, rest⟩ next after (hh next after hr)
          · exact fun f hm => hs' f (List.mem_cons_of_mem _ hm)
          · exact hp'
          · have ho : Fetch.stepsLeft ⟨path, some a⟩ = 1 := rfl
            simp only [stepsLeft, List.map_cons, List.sum_cons, ho] at hn ⊢
            omega
    | ⟨path, none⟩ :: rest =>
      have hr : 0 < running ⟨waiting, ⟨path, none⟩ :: rest⟩ := by
        rw [running, List.countP_cons_of_pos rfl]
        omega
      obtain ⟨next, hc, hd, hn', ht⟩ :=
        exists_complete (hf state world hw) (w := ⟨waiting, ⟨path, none⟩ :: rest⟩) hs' hr
          (schedule steps)
      simp only [World.bind_apply]
      rw [hc, ← hd]
      rw [← ht] at hn
      exact ih ⟨waiting, next⟩ state world hw hn' hp' (Nat.lt_of_succ_lt_succ hn)

/-- All documents are used in order, whatever the limit and the schedule are. -/
theorem drain_eq {Holds : σ → ω → Prop}
    (hf : ∀ state world, Holds state world → ∀ path ∈ paths,
      fetch path world = (answer path, world))
    (hu : ∀ state world, Holds state world → ∀ a next after,
      use state a world = (.ok next, after) → Holds next after)
    (limit : Nat) (schedule : Schedule) {state : σ} {world : ω} (hw : Holds state world) :
    drain fetch limit schedule use paths state world =
      useInOrder use (paths.map answer) state world := by
  apply drainWithin_eq hf hu (by omega) schedule _ ⟨paths, []⟩ state world hw
  · simp
  · simp
  · simp [stepsLeft]

end Window
end InstanceCatalog
