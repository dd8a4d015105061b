import FrameGraph.Drive
import FrameGraph.Process

/-!
# One process alone

A process with the queues around it, which others fill and empty between its runs.

* `Solo.start`: a node at the beginning of its run, unless it panics there.
* `Solo.run`: the process goes on until it has nothing to do.
* `Solo.feed`: hands it messages one after the other, each when it has done with the one before.
* `Solo.complete`: brings the process to its end.
-/

namespace FrameGraph
set_option autoImplicit false

/-- The time that one step takes, in nanoseconds. -/
def stepNanos : Nat := 1000

structure Solo where
  process : Process
  store : QueueStore Message
  /-- Cleared when the process is told to stop. -/
  running : Bool := true
  now : Nat := 0

namespace Solo

def start (body : Body) (context : Context) (store : QueueStore Message) : Except Panic Solo :=
  (Process.start body context 0).map fun process => { process, store }

def step (s : Solo) : Deed × Solo :=
  match s.process.step s.now s.running s.store with
  | (deed, process, store) => (deed, { s with process, store, now := s.now + stepNanos })

def drive : Drive Solo where
  round s := let (deed, s) := s.step; (deed.isEffect, s)
  patience s := s.process.patience
  skip s := (s.process.due?.filter fun due => s.now < due).map fun due => { s with now := due }

def run (s : Solo) : Solo :=
  drive.settle s

def hand (s : Solo) (queue : QueueId) (m : Message) : Solo :=
  { s with store := (s.store.offer queue m).2 }

def feed (s : Solo) (messages : List (QueueId × Message)) : Solo :=
  messages.foldl (fun s (queue, m) => (s.hand queue m).run) s.run

/-- Runs until a queue holds so many items. -/
def runUntil (s : Solo) (queue : QueueId) (count : Nat) : Solo :=
  (drive.waitFor (fun s =>
    (if (s.store.get? queue).any (fun q => decide (count ≤ q.buffer.length)) then some () else none, s))
    s).2

def runToEnd (s : Solo) : Solo :=
  (drive.waitFor (fun s => (s.process.result.map fun _ => (), s)) s).2

/-- Work that ends by itself is waited for; all other work is told to stop. -/
def complete (s : Solo) : Solo :=
  match s.process.work with
  | .producer _ => s.runToEnd
  | _ => { s.run with running := false }.runToEnd

end Solo

end FrameGraph
