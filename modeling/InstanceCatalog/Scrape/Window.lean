import InstanceCatalog.Text.Basic

/-!
Fetching a list of documents, several at once. A window holds the fetches that have begun, oldest
first; a schedule says which of those under way ends next, and answers are used in the order of the
documents whatever the schedule.
-/

namespace InstanceCatalog

/-- Which of the fetches under way ends at each step, counted around from the oldest. -/
abbrev Schedule := Nat → Nat

def Schedule.oldestFirst : Schedule := fun _ => 0

/-- A fetch that has begun, with its answer once it has ended. -/
structure Fetch where
  path : Text
  answer : Option (Option Text)
deriving DecidableEq, Repr

namespace Fetch

def start (path : Text) : Fetch := ⟨path, none⟩

def isRunning (f : Fetch) : Bool := f.answer.isNone

def complete [Monad m] (fetch : Text → m (Option Text)) (place : Nat) :
    List Fetch → m (List Fetch)
  | [] => return []
  | f :: rest =>
    if f.isRunning then
      match place with
      | 0 => return { f with answer := some (← fetch f.path) } :: rest
      | place + 1 => return f :: (← complete fetch place rest)
    else return f :: (← complete fetch place rest)

end Fetch

structure Window where
  /-- The documents whose fetch has not begun. -/
  waiting : List Text
  begun : List Fetch
deriving DecidableEq, Repr

namespace Window

/-- Begins fetches until as many are held as the limit allows. -/
def fill (limit : Nat) (w : Window) : Window :=
  let room := limit - w.begun.length
  ⟨w.waiting.drop room, w.begun ++ (w.waiting.take room).map Fetch.start⟩

def running (w : Window) : Nat := w.begun.countP Fetch.isRunning

/-- Runs a window to its end. An answer is used as soon as all before it have been; the first
failure ends the run. -/
def drainWithin [Monad m] (fetch : Text → m (Option Text)) (limit : Nat) (schedule : Schedule)
    (use : σ → Option Text → m (Except ε σ)) : Nat → Window → σ → m (Except ε σ)
  | 0, _, state => return .ok state
  | steps + 1, w, state => do
    let w := w.fill limit
    match w.begun with
    | [] => return .ok state
    | ⟨_, some answer⟩ :: rest =>
      match ← use state answer with
      | .error e => return .error e
      | .ok state => drainWithin fetch limit schedule use steps ⟨w.waiting, rest⟩ state
    | ⟨_, none⟩ :: _ =>
      let begun ← Fetch.complete fetch (schedule steps % w.running) w.begun
      drainWithin fetch limit schedule use steps ⟨w.waiting, begun⟩ state

/-- Fetches all documents, at most `limit` at once but always one, and uses their answers in
order. Each document takes one step to end and one to be used. -/
def drain [Monad m] (fetch : Text → m (Option Text)) (limit : Nat) (schedule : Schedule)
    (use : σ → Option Text → m (Except ε σ)) (paths : List Text) (state : σ) :
    m (Except ε σ) :=
  drainWithin fetch (max limit 1) schedule use (2 * paths.length + 1) ⟨paths, []⟩ state

end Window
end InstanceCatalog
