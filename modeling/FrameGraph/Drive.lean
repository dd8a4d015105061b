/-!
# Driving a system

A system in which several parties act is driven round by round, and in each round everybody may act once.
The number of rounds is bounded, because a system need not ever come to rest.

* `Drive.settle`: drives a system until nobody does anything any more.
* `Drive.waitFor`: drives it until an attempt succeeds, and moves the clock on where that is needed.
-/

namespace FrameGraph
set_option autoImplicit false

structure Drive (σ : Type) where
  /-- Lets everybody act once, and answers whether somebody did something. -/
  round : σ → Bool × σ
  /-- Rounds in which nobody does anything before it is sure that nobody can. -/
  patience : σ → Nat
  /-- Moves on to the next time at which something is due. -/
  skip : σ → Option σ

namespace Drive
variable {σ β : Type}

/-- Whether a system came to rest, and its state then. -/
structure Settled (σ : Type) where
  atRest : Bool
  state : σ

/-- At most `rounds` more rounds, after `calm` ones in which nobody did anything. -/
def settleFrom (d : Drive σ) : (rounds calm : Nat) → σ → Settled σ
  | 0, _, s => ⟨false, s⟩
  | rounds + 1, calm, s =>
    match d.round s with
    | (true, s) => d.settleFrom rounds 0 s
    | (false, s) => if d.patience s ≤ calm then ⟨true, s⟩ else d.settleFrom rounds (calm + 1) s

/-- Rounds that a system is given to come to rest. -/
def longestRun : Nat := 20000

def settle (d : Drive σ) (s : σ) : σ :=
  (d.settleFrom longestRun 0 s).state

/-- Rests and moves of the clock while one attempt waits. -/
def longestWait : Nat := 10000

/-- Tries again each time that the system has gone on for a while, at most so many times. -/
def retry (d : Drive σ) (attempt : σ → Option β × σ) : (times : Nat) → σ → Option β × σ
  | 0, s => (none, s)
  | times + 1, s =>
    match attempt s with
    | (some b, s) => (some b, s)
    | (none, s) =>
      let settled := d.settleFrom longestRun 0 s
      match attempt settled.state with
      | (some b, s) => (some b, s)
      | (none, s) =>
        if settled.atRest then match d.skip s with
          | none => (none, s)
          | some s => d.retry attempt times s
        else d.retry attempt times s

/-- None if the attempt still fails when the system is at rest and nothing is due any more. -/
def waitFor (d : Drive σ) (attempt : σ → Option β × σ) (s : σ) : Option β × σ :=
  d.retry attempt longestWait s

end Drive

end FrameGraph
